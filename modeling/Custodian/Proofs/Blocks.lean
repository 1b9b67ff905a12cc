import Custodian.Proofs.RoundTrip

/-!
# The frames of an upload

* `FileChunk.used` : how many fields of a chunk are in use; `used_ofPiece` : one, if there is anything in the piece;
* `Upload.Block` : the frames of one file; `block_fileFrames` : the frames that a file is sent in are such;
* `received_of_run_ok` : of an upload that succeeds the other side has the metadata and then a block for each file.
-/

namespace Custodian

set_option autoImplicit false

/-! ## Chunks on their way -/

/-- How many fields of a chunk are in use. -/
def FileChunk.used (c : FileChunk) : Nat :=
  (if c.fileName = "" then 0 else 1) + (if c.content = .empty then 0 else 1) + (if c.checksum = "" then 0 else 1)

theorem FileChunk.used_ofPiece {p : Piece} (h : p.Filled) : (ofPiece p).used = 1 := by
  cases p with
  | name s => simp [ofPiece, used, show s ≠ "" from h]
  | content b => simp [ofPiece, used, show b ≠ .empty from h]
  | checksum s => simp [ofPiece, used, show s ≠ "" from h]

/-- The content that a frame carries. -/
def BackupFrame.content? (x : BackupFrame) : Option ByteArray :=
  match x.body with
  | some (.file _ chunk) => if chunk.content = .empty then none else some chunk.content
  | _ => none

namespace Upload

/-- The frames of a file: its name, which is the last piece of its path, its content in the chunks that it is read in up
to its end, and the digest of all of it. -/
structure Block (source : Source) (role : FileRole) (path : String) (fs : List BackupFrame) : Prop where
  frames : ∃ name chunks, Path.fileName? path = some name ∧ source path = .ok ⟨chunks, .complete⟩ ∧
    fs = .ofPiece role (.name name) :: chunks.map (fun b => .ofPiece role (.content b)) ++
      [.ofPiece role (.checksum (Digest.of (source.content path)))]
  content : (fs.filterMap BackupFrame.content?).foldl (· ++ ·) .empty = source.content path
  single : ∀ x ∈ fs, ∃ chunk, x = ⟨role.dataType, some (.file role chunk)⟩ ∧ chunk.used = 1

theorem filterMap_content?_fileFrames (role : FileRole) (path : String) {chunks : List ByteArray}
    (h : ∀ b ∈ chunks, b ≠ .empty) : (fileFrames role path chunks).filterMap BackupFrame.content? = chunks := by
  have hname (s : String) : (BackupFrame.ofPiece role (.name s)).content? = none := rfl
  have hchecksum (s : String) : (BackupFrame.ofPiece role (.checksum s)).content? = none := rfl
  have hchunks : (chunks.map fun b => BackupFrame.ofPiece role (.content b)).filterMap BackupFrame.content? =
      chunks := by
    rw [List.filterMap_map]
    refine Eq.trans (List.filterMap_congr fun b hb => ?_) List.filterMap_some
    exact if_neg (h b hb)
  simp [fileFrames, hname, hchecksum, hchunks]

theorem block_fileFrames {source : Source} {path : String} (role : FileRole) (hn : (Path.fileName? path).isSome)
    (hc : source.Complete path) (hb : ∀ b ∈ source.chunks path, b ≠ .empty) :
    Block source role path (fileFrames role path (source.chunks path)) where
  frames := by
    obtain ⟨name, hname⟩ := Option.isSome_iff_exists.1 hn
    obtain ⟨⟨chunks, ending⟩, hr, rfl⟩ := hc
    have hchunks : source.chunks path = chunks := by simp [Source.chunks, hr]
    refine ⟨name, chunks, hname, hr, ?_⟩
    simp [fileFrames, sentName, hname, hchunks, Source.content]
  content := by rw [filterMap_content?_fileFrames role path hb, Source.content]
  single := by
    obtain ⟨name, hname⟩ := Option.isSome_iff_exists.1 hn
    rw [fileFrames_eq_map, List.forall_mem_map]
    exact fun p hp => ⟨.ofPiece p, rfl, FileChunk.used_ofPiece (filled_filePieces hname hb p hp)⟩

/-! ## A whole upload -/

theorem length_fileFrames (role : FileRole) (path : String) (chunks : List ByteArray) :
    (fileFrames role path chunks).length = chunks.length + 2 := by
  simp [fileFrames]

theorem length_expectedFrames (f : BackupFragment) (agentId backupName : String) (chunks : String → List ByteArray) :
    (expectedFrames f agentId backupName chunks).length =
      1 + (f.files.map fun e => (chunks e.2).length + 2).sum := by
  simp only [expectedFrames, List.length_cons, List.length_flatMap, length_fileFrames]
  omega

/-- **What the other side has of an upload that succeeds.** Whatever digest an earlier upload left, and however the
files are cut into chunks, none of them empty: if the other side reads until the end, it has the metadata of the
fragment, then the block of the main file, and then, if there is a path for it and only then, the block of the custom
metadata file. For the files of a tree the content of a block is that of the file. -/
theorem received_of_run_ok (supply : Supply) (f : BackupFragment) (agentId backupName : String) (plan : CallPlan)
    (d : Digest) (hnames : ∀ e ∈ f.files, (Path.fileName? e.2).isSome)
    (hchunks : ∀ e ∈ f.files, ∀ b ∈ supply.source.chunks e.2, b ≠ .empty)
    (hplan : ∀ n, plan.stopAfter = some n →
      1 + (f.files.map fun e => (supply.source.chunks e.2).length + 2).sum ≤ n)
    (hok : (run supply f agentId backupName plan d).1 = .ok ()) :
    (∃ main custom : List BackupFrame,
      (run supply f agentId backupName plan d).2.call.received.toList =
        ⟨metadataType, some (.metadata ⟨agentId, some f.fragment, backupName⟩)⟩ :: main ++ custom ∧
      Block supply.source .main f.path main ∧
      (∀ path, f.customPath = some path → path ≠ "" ∧ Block supply.source .custom path custom) ∧
      (f.customPath = none → custom = [])) ∧
      ∀ (t : Tree) (size : Nat), supply.source = t.source size →
        ∀ e ∈ f.files, t.readFile e.2 = .ok (supply.source.content e.2) := by
  obtain ⟨hcomplete, -, -, hreceived, -⟩ := run_ok hok
  have hreads : plan.reads (expectedFrames f agentId backupName supply.source.chunks) =
      expectedFrames f agentId backupName supply.source.chunks := by
    unfold CallPlan.reads
    cases hs : plan.stopAfter with
    | none => rfl
    | some n => exact List.take_of_length_le ((length_expectedFrames f _ _ _).le.trans (hplan n hs))
  have hblock : ∀ e ∈ f.files,
      Block supply.source e.1 e.2 (fileFrames e.1 e.2 (supply.source.chunks e.2)) := fun e he =>
    block_fileFrames e.1 (hnames e he) (hcomplete e he) (hchunks e he)
  rw [hreads] at hreceived
  have hmain : (FileRole.main, f.path) ∈ f.files := List.mem_cons_self
  refine ⟨⟨fileFrames .main f.path (supply.source.chunks f.path),
    f.customPath.toList.flatMap fun path => fileFrames .custom path (supply.source.chunks path),
    ?_, hblock _ hmain, ?_, ?_⟩, ?_⟩
  · rw [hreceived]
    cases hp : f.customPath <;> simp [expectedFrames, metadataFrame, BackupFragment.files, hp]
  · intro path hp
    have hcustom : (FileRole.custom, path) ∈ f.files := by simp [BackupFragment.files, hp]
    refine ⟨?_, ?_⟩
    · -- the empty path has no last piece
      rintro rfl
      exact absurd (hnames _ hcustom) (by decide +kernel)
    · simpa [hp] using hblock _ hcustom
  · intro hp
    simp [hp]
  · rintro t size hsource e he
    have hc := hcomplete e he
    rw [hsource] at hc ⊢
    exact (Tree.source_complete hc).1

/-- Two files of a tree, the second of them empty; an earlier upload has left a digest, and the other side stops right
after the last frame. -/
theorem received_of_run_ok_two_files :
    let t : Tree := ⟨[(.ofNames ["x", "a"], .file ⟨#[1, 2, 3]⟩), (.ofNames ["y"], .file .empty),
      (.ofNames ["a"], .dir)], .root⟩
    let supply : Supply := ⟨t.source 2, true⟩
    let f : BackupFragment := { fragment := { id := "f", sizeInBytes := "3" }, path := "a/x", customPath := some "y" }
    let plan : CallPlan := { stopAfter := some 7 }
    let left := Digest.empty.update ⟨#[9]⟩
    ∃ main custom : List BackupFrame,
      (run supply f "agent" "nightly" plan left).2.call.received.toList = 
        ⟨metadataType, some (.metadata ⟨"agent", some f.fragment, "nightly"⟩)⟩ :: main ++ custom ∧
      Block supply.source .main "a/x" main ∧ Block supply.source .custom "y" custom ∧
      t.readFile "a/x" = .ok (supply.source.content "a/x") := by
  intro t supply f plan left
  have hnames : ∀ e ∈ f.files, (Path.fileName? e.2).isSome := by decide +kernel
  have hchunks : ∀ e ∈ f.files, ∀ b ∈ supply.source.chunks e.2, b ≠ .empty := by decide +kernel
  have hsum : 1 + (f.files.map fun e => (supply.source.chunks e.2).length + 2).sum = 7 := by decide +kernel
  have hok : (run supply f "agent" "nightly" plan left).1 = .ok () := by decide +kernel
  obtain ⟨⟨main, custom, hreceived, hmain, hcustom, -⟩, hcontent⟩ :=
    received_of_run_ok supply f "agent" "nightly" plan left hnames hchunks
      (fun n hn => hsum.trans_le (Option.some.inj hn).le) hok
  exact ⟨main, custom, hreceived, hmain, (hcustom "y" rfl).2, hcontent t 2 rfl (.main, "a/x") List.mem_cons_self⟩

end Upload

end Custodian
