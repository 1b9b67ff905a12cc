import Custodian.Orchestrator
import Custodian.Proofs.Path
import Custodian.Proofs.Restore
import Custodian.Proofs.Upload

/-!
# What is backed up can be restored

* `Upload.filePieces` : the pieces of one file; `fileFrames_eq_map` : the frames of a file are these pieces;
* `Job.pieces_handedBack` : handed back, the frames of a fragment yield the pieces of its files;
* `Download.segments_filePieces` : these pieces are one segment for each file, closed by its own digest;
* `Download.runAll_spec` : several downloads into one directory;
* `restored_of_uploaded` : fragments that were uploaded and are downloaded again are there as they were.
-/

namespace Custodian

set_option autoImplicit false

/-! ## Pieces of a file -/

/-- Whether there is anything in a piece. -/
def Piece.Filled : Piece → Prop
  | .name s => s ≠ ""
  | .content b => b ≠ .empty
  | .checksum s => s ≠ ""

theorem RestoreFrame.piece?_ofPiece {p : Piece} (role : FileRole) (h : p.Filled) :
    (ofPiece role p).piece? = some (role, p) := by
  have hp : (FileChunk.ofPiece p).piece? = some p := by
    cases p with
    | name s => simp [FileChunk.ofPiece, FileChunk.piece?, show s ≠ "" from h]
    | content b =>
      have hb : b.size ≠ 0 := fun hb => h (ByteArray.size_eq_zero_iff.1 hb)
      simp [FileChunk.ofPiece, FileChunk.piece?, hb]
    | checksum s => simp [FileChunk.ofPiece, FileChunk.piece?, show s ≠ "" from h]
  simp [RestoreFrame.piece?, ofPiece, hp]

namespace Upload

/-- The pieces of one file. -/
def filePieces (path : String) (chunks : List ByteArray) : List Piece :=
  .name (sentName path) :: chunks.map .content ++ [.checksum (Digest.of (chunks.foldl (· ++ ·) .empty))]

theorem fileFrames_eq_map (role : FileRole) (path : String) (chunks : List ByteArray) :
    fileFrames role path chunks = (filePieces path chunks).map (.ofPiece role) := by
  simp [fileFrames, filePieces]

theorem filled_filePieces {path name : String} {chunks : List ByteArray} (hn : Path.fileName? path = some name)
    (hc : ∀ c ∈ chunks, c ≠ .empty) : ∀ p ∈ filePieces path chunks, p.Filled := by
  intro p hp
  simp only [filePieces, sentName, hn, Option.getD_some, List.cons_append, List.mem_cons, List.mem_append,
    List.mem_map, List.not_mem_nil, or_false] at hp
  rcases hp with rfl | ⟨c, hc', rfl⟩ | rfl
  · exact (Path.isPiece_of_fileName? hn).isName.1
  · exact hc c hc'
  · exact Digest.text_ne_empty _

end Upload

/-! ## Replay -/

namespace Orchestrator

theorem replayFrames_ofPiece (id : String) (role : FileRole) (ps : List Piece) (fs : List BackupFrame) :
    replayFrames id true (ps.map (.ofPiece role) ++ fs) =
      ps.map (.ofPiece role) ++ replayFrames id true fs := by
  induction ps with
  | nil => rfl
  | cons p ps ih => exact congrArg (RestoreFrame.ofPiece role p :: ·) ih

/-- All files of a fragment are handed back, and nothing else. -/
theorem replayFrames_expectedFrames (f : BackupFragment) (agentId backupName : String)
    (chunks : String → List ByteArray) :
    replayFrames f.fragment.id false (Upload.expectedFrames f agentId backupName chunks) =
      f.files.flatMap fun e => (Upload.filePieces e.2 (chunks e.2)).map (.ofPiece e.1) := by
  have hfiles (files : List (FileRole × String)) :
      replayFrames f.fragment.id true (files.flatMap fun e => Upload.fileFrames e.1 e.2 (chunks e.2)) =
        files.flatMap fun e => (Upload.filePieces e.2 (chunks e.2)).map (.ofPiece e.1) := by
    induction files with
    | nil => rfl
    | cons e files ih =>
      rw [List.flatMap_cons, List.flatMap_cons, Upload.fileFrames_eq_map, replayFrames_ofPiece, ih]
  simpa [Upload.expectedFrames, Upload.metadataFrame, replayFrames] using hfiles f.files

end Orchestrator

namespace Download

theorem pieces_append (xs ys : List (Except Error RestoreFrame)) : pieces (xs ++ ys) = pieces xs ++ pieces ys :=
  List.filterMap_append

theorem pieces_map_ofPiece {role : FileRole} {ps : List Piece} (h : ∀ p ∈ ps, p.Filled) :
    pieces ((ps.map (RestoreFrame.ofPiece role)).map .ok) = ps := by
  induction ps with
  | nil => rfl
  | cons p ps ih =>
    rw [List.forall_mem_cons] at h
    rw [List.map_cons, List.map_cons, pieces_cons_ok, RestoreFrame.piece?_ofPiece role h.1, ih h.2]
    rfl

/-! ## Segments of a file -/

/-- The segment of a file that is handed back as it was sent. -/
def intact (dir path : String) (content : ByteArray) : Segment :=
  ⟨Upload.sentName path, Path.join dir (Upload.sentName path), content, some (Digest.of content)⟩

@[simp] theorem verified_intact (dir path : String) (content : ByteArray) :
    (intact dir path content).verified = true := by
  simp [intact, Segment.verified]

@[simp] theorem mismatched_intact (dir path : String) (content : ByteArray) :
    (intact dir path content).mismatched = false := by
  simp [Segment.mismatched]

theorem segmentsFrom_contents (dir : String) (f : Current) (c : ByteArray) (bs : List ByteArray) (ps : List Piece) :
    segmentsFrom dir (some (f, c)) (bs.map .content ++ ps) =
      segmentsFrom dir (some (f, bs.foldl (· ++ ·) c)) ps := by
  induction bs generalizing c with
  | nil => rfl
  | cons b bs ih =>
    rw [List.map_cons, List.cons_append, segmentsFrom_cons]
    exact ih (c ++ b)

theorem named_contents (bs : List ByteArray) (ps : List Piece) : named (bs.map .content ++ ps) = named ps := by
  induction bs with
  | nil => rfl
  | cons b bs ih => exact ih

variable {path name : String}

theorem restorePath?_sentName (dir : String) (h : Path.fileName? path = some name) :
    restorePath? dir (Upload.sentName path) = some (Path.join dir (Upload.sentName path)) := by
  have hs : Upload.sentName path = name := by simp [Upload.sentName, h]
  rw [hs]
  exact restorePath?_of_isPiece dir (Path.isPiece_of_fileName? h)

theorem segments_filePieces (dir : String) (h : Path.fileName? path = some name) (chunks : List ByteArray)
    (ps : List Piece) : segments dir (Upload.filePieces path chunks ++ ps) =
      intact dir path (chunks.foldl (· ++ ·) .empty) :: segments dir ps := by
  have hfrom (qs : List Piece) : segments dir qs = segmentsFrom dir none qs := rfl
  unfold Upload.filePieces
  rw [hfrom, hfrom ps, List.append_assoc, List.cons_append, segmentsFrom_cons]
  simp only [advance, restorePath?_sentName dir h, Option.map_some, segmentsFrom_contents]
  rw [List.singleton_append, segmentsFrom_cons]
  rfl

theorem rejectedNames_filePieces (dir : String) (h : Path.fileName? path = some name) (chunks : List ByteArray)
    (ps : List Piece) : rejectedNames dir (Upload.filePieces path chunks ++ ps) = rejectedNames dir ps := by
  have hrest (digits : String) :
      rejectedNames dir (chunks.map .content ++ ([.checksum digits] ++ ps)) = rejectedNames dir ps := by
    unfold rejectedNames
    rw [named_contents]
    rfl
  unfold Upload.filePieces
  rw [List.append_assoc, List.cons_append, rejectedNames_cons, hrest]
  simp [rejectedNames, named, restorePath?_sentName dir h]

/-- The segments of the files of a fragment, which are all verified and none of which is rejected. -/
theorem segments_flatMap_filePieces (dir : String) {paths : List String} (chunks : String → List ByteArray)
    (h : ∀ path ∈ paths, (Path.fileName? path).isSome) :
    segments dir (paths.flatMap fun path => Upload.filePieces path (chunks path)) =
        paths.map (fun path => intact dir path ((chunks path).foldl (· ++ ·) .empty)) ∧
      rejectedNames dir (paths.flatMap fun path => Upload.filePieces path (chunks path)) = [] := by
  induction paths with
  | nil => exact ⟨rfl, rfl⟩
  | cons path paths ih =>
    rw [List.forall_mem_cons] at h
    obtain ⟨name, hn⟩ := Option.isSome_iff_exists.1 h.1
    obtain ⟨hs, hr⟩ := ih h.2
    rw [List.flatMap_cons, segments_filePieces dir hn, rejectedNames_filePieces dir hn, hs, hr]
    exact ⟨rfl, rfl⟩

/-! ## Several downloads -/

/-- Downloads streams into one directory, one after the other. -/
def runAll {σ : Type} (sink : Sink σ) (dir : String) : List (List (Except Error RestoreFrame)) → Engine σ →
    List (Except Error Outcome) × Engine σ
  | [], g => ([], g)
  | stream :: streams, g =>
    let (r, g) := run sink dir stream g
    let (rs, g) := runAll sink dir streams g
    (r :: rs, g)

theorem runAll_cons {σ : Type} (sink : Sink σ) (dir : String) (stream : List (Except Error RestoreFrame))
    (streams : List (List (Except Error RestoreFrame))) (g : Engine σ) :
    runAll sink dir (stream :: streams) g =
      ((run sink dir stream g).1 :: (runAll sink dir streams (run sink dir stream g).2).1,
        (runAll sink dir streams (run sink dir stream g).2).2) := rfl

/-- Several downloads without read errors and faults: the outcome of each of them, and what they leave together. -/
theorem runAll_spec (dir : String) {fss : List (List RestoreFrame)} {g : Engine FileSink}
    (h : (runAll FileSink.sink dir (fss.map (·.map .ok)) g).2.Faultless) :
    g.Faultless ∧
      (runAll FileSink.sink dir (fss.map (·.map .ok)) g).1 = fss.map (fun fs =>
        .ok (({} : Outcome).add (segments dir (pieces (fs.map .ok))) (rejectedNames dir (pieces (fs.map .ok))))) ∧
      Leaves g.store.tree (fss.flatMap fun fs => segments dir (pieces (fs.map .ok)))
        (runAll FileSink.sink dir (fss.map (·.map .ok)) g).2.store.tree := by
  induction fss generalizing g with
  | nil => exact ⟨h, rfl, .refl _⟩
  | cons fs fss ih =>
    rw [List.map_cons, runAll_cons] at h ⊢
    obtain ⟨hf, hrs, hls⟩ := ih h
    obtain ⟨hf, hr, hl⟩ := run_eq_segments hf
    refine ⟨hf, ?_, hl.trans hls⟩
    rw [hr, hrs, List.map_cons]

end Download

/-! ## Uploads and downloads -/

namespace Upload

/-- An upload of a fragment: how the call goes, whether reading the files takes time, and the digest that an earlier
upload left. -/
structure Job where
  fragment : BackupFragment
  plan : CallPlan := {}
  slow : Bool := false
  digest : Digest := .empty

/-- The paths of the files that are sent, in order. -/
def sentPaths (jobs : List Job) : List String := jobs.flatMap fun j => j.fragment.files.map (·.2)

instance decidableEqOk : (r : Except Halt Unit) → Decidable (r = .ok ())
  | .ok _ => isTrue rfl
  | .error _ => isFalse (by simp)

namespace Job

variable (t : Tree) (size : Nat) (agentId backupName : String) (j : Job)

/-- What comes of the upload. -/
def run : Except Halt Unit × Progress :=
  Upload.run ⟨t.source size, j.slow⟩ j.fragment agentId backupName j.plan j.digest

/-- The frames that the other side should get. -/
def frames : List BackupFrame := expectedFrames j.fragment agentId backupName (t.source size).chunks

/-- What an answer promises: the other side accepts a call only if it has read all of it. -/
def AcceptsWhole : Prop :=
  j.plan.verdict = .ok () → j.plan.reads (j.frames t size agentId backupName) = j.frames t size agentId backupName

instance : Decidable (j.AcceptsWhole t size agentId backupName) := inferInstanceAs (Decidable (_ → _))

/-- The frames that the other side got, as they are handed back. -/
def handedBack : List RestoreFrame :=
  Orchestrator.replayFrames j.fragment.fragment.id false (j.run t size agentId backupName).2.call.received.toList

end Job

theorem filled_of_complete {t : Tree} {size : Nat} {path : String} (hn : (Path.fileName? path).isSome)
    (hc : (t.source size).Complete path) : ∀ p ∈ filePieces path ((t.source size).chunks path), p.Filled := by
  obtain ⟨name, hn⟩ := Option.isSome_iff_exists.1 hn
  exact filled_filePieces hn (Tree.source_complete hc).2

/-- What is handed back of a fragment are the pieces of its files. -/
theorem Job.pieces_handedBack {t : Tree} {size : Nat} {agentId backupName : String} {j : Job}
    (hn : ∀ path ∈ j.fragment.files.map (·.2), (Path.fileName? path).isSome)
    (hr : (j.run t size agentId backupName).1 = .ok ()) (ha : j.AcceptsWhole t size agentId backupName) :
    (∀ path ∈ j.fragment.files.map (·.2), (t.source size).Complete path) ∧
      Download.pieces ((j.handedBack t size agentId backupName).map .ok) =
        (j.fragment.files.map (·.2)).flatMap fun path => filePieces path ((t.source size).chunks path) := by
  obtain ⟨hc, hv, -, hrec, -⟩ := run_ok hr
  have hc : ∀ path ∈ j.fragment.files.map (·.2), (t.source size).Complete path := List.forall_mem_map.2 hc
  have hback : j.handedBack t size agentId backupName =
      j.fragment.files.flatMap fun e => (filePieces e.2 ((t.source size).chunks e.2)).map (.ofPiece e.1) := by
    unfold Job.handedBack Job.run
    rw [hrec, ← Orchestrator.replayFrames_expectedFrames _ agentId backupName]
    exact congrArg _ (ha hv)
  refine ⟨hc, ?_⟩
  rw [hback]
  generalize j.fragment.files = files at hn hc
  induction files with
  | nil => rfl
  | cons e files ih =>
    rw [List.map_cons, List.forall_mem_cons] at hn hc
    rw [List.flatMap_cons, List.map_append, Download.pieces_append,
      Download.pieces_map_ofPiece (filled_of_complete hn.1 hc.1), ih hn.2 hc.2, List.map_cons, List.flatMap_cons]

end Upload

namespace Download

/-- What is there of intact files in the end: the content of the last one of each name, under that name. -/
theorem Leaves.readFile_intact {t t' : Tree} {dir name : String} {before later : List String} {path : String}
    {content : String → ByteArray}
    (h : Leaves t ((before ++ path :: later).map fun path => intact dir path (content path)) t')
    (hn : Path.fileName? path = some name) (hs : ∀ p ∈ later, (Path.fileName? p).isSome)
    (hl : ∀ p ∈ later, Path.fileName? p ≠ some name) : t'.readFile (Path.join dir name) = .ok (content path) := by
  have hsent {p m : String} (hp : Path.fileName? p = some m) : Upload.sentName p = m := by
    rw [Upload.sentName, hp, Option.getD_some]
  have hpath (p : String) : (intact dir p (content p)).path = Path.join dir (Upload.sentName p) := rfl
  -- other names have other places
  have hlast : ∀ s ∈ later.map (fun p => intact dir p (content p)),
      t.place s.path ≠ t.place (intact dir path (content path)).path := by
    intro s hs'
    obtain ⟨p, hp, rfl⟩ := List.mem_map.1 hs'
    obtain ⟨m, hm⟩ := Option.isSome_iff_exists.1 (hs p hp)
    rw [hpath, hpath, hsent hm, hsent hn, Tree.place_join t (Path.isPiece_of_fileName? hm),
      Tree.place_join t (Path.isPiece_of_fileName? hn), Ne, Place.child_inj]
    rintro rfl
    exact hl p hp hm
  have he := h.entry? (t.place (intact dir path (content path)).path)
  rw [List.map_append, List.map_cons, after_last _ _ _ _ _ hlast] at he
  have hleft : (intact dir path (content path)).left = some (.file (content path)) := by
    rw [Segment.left, mismatched_intact]
    rfl
  rw [hleft, if_neg (by simp)] at he
  have hfind := (h.leads (intact dir path (content path)) (by simp)).find he
  rw [hpath, hsent hn] at hfind
  exact Tree.readFile_of_find hfind

end Download

theorem eq_append_of_getLast?_filter {α : Type} {p : α → Bool} {xs : List α} {x : α}
    (h : (xs.filter p).getLast? = some x) :
    ∃ before later, xs = before ++ x :: later ∧ p x = true ∧ ∀ y ∈ later, p y = false := by
  obtain ⟨ys, hys⟩ := List.getLast?_eq_some_iff.1 h
  obtain ⟨front, back, rfl, -, hback⟩ := List.filter_eq_append_iff.1 hys
  obtain ⟨middle, later, rfl, -, hx, hlater⟩ := List.filter_eq_cons_iff.1 hback
  refine ⟨front ++ middle, later, by simp, hx, fun y hy => ?_⟩
  simpa using List.filter_eq_nil_iff.1 hlater y hy

theorem getLast?_filter_of_nodup {α β : Type} [DecidableEq β] {f : α → β} {xs : List α} {x : α}
    (hd : (xs.map f).Nodup) (hx : x ∈ xs) : (xs.filter (f · = f x)).getLast? = some x := by
  obtain ⟨before, later, rfl⟩ := List.append_of_mem hx
  have hlater : later.filter (f · = f x) = [] := by
    rw [List.filter_eq_nil_iff]
    intro y hy hf
    rw [List.map_append, List.map_cons, List.nodup_append, List.nodup_cons] at hd
    exact hd.2.1.1 (List.mem_map.2 ⟨y, hy, by simpa using hf⟩)
  rw [List.filter_append, List.filter_cons_of_pos (by simp), hlater, List.getLast?_concat]

/-! ## The round trip -/

namespace Upload

variable {t : Tree} {size : Nat} {agentId backupName : String}

/-- The segments of what is handed back are the files, all of them intact. -/
theorem Job.segments_handedBack {j : Job} (dir : String)
    (hn : ∀ path ∈ j.fragment.files.map (·.2), (Path.fileName? path).isSome)
    (hr : (j.run t size agentId backupName).1 = .ok ()) (ha : j.AcceptsWhole t size agentId backupName) :
    Download.segments dir (Download.pieces ((j.handedBack t size agentId backupName).map .ok)) =
        (j.fragment.files.map (·.2)).map (fun path => Download.intact dir path ((t.source size).content path)) ∧
      Download.rejectedNames dir (Download.pieces ((j.handedBack t size agentId backupName).map .ok)) = [] := by
  rw [(Job.pieces_handedBack hn hr ha).2]
  exact Download.segments_flatMap_filePieces dir (t.source size).chunks hn

theorem mem_sentPaths {jobs : List Job} {j : Job} {path : String} (hj : j ∈ jobs)
    (hp : path ∈ j.fragment.files.map (·.2)) : path ∈ sentPaths jobs :=
  List.mem_flatMap.2 ⟨j, hj, hp⟩

theorem segments_all {jobs : List Job} (dir : String)
    (hn : ∀ path ∈ sentPaths jobs, (Path.fileName? path).isSome)
    (hr : ∀ j ∈ jobs, (j.run t size agentId backupName).1 = .ok ())
    (ha : ∀ j ∈ jobs, j.AcceptsWhole t size agentId backupName) :
    (jobs.map fun j => j.handedBack t size agentId backupName).flatMap
        (fun fs => Download.segments dir (Download.pieces (fs.map .ok))) =
      (sentPaths jobs).map fun path => Download.intact dir path ((t.source size).content path) := by
  rw [List.flatMap_map, sentPaths, List.map_flatMap]
  apply List.flatMap_congr
  intro j hj
  exact (Job.segments_handedBack dir (fun path hp => hn path (mem_sentPaths hj hp)) (hr j hj) (ha j hj)).1

end Upload

namespace Download

theorem add_intact (dir : String) (paths : List String) (content : String → ByteArray) :
    ({} : Outcome).add (paths.map fun path => intact dir path (content path)) [] = { verified := paths.length } := by
  have hv : ((paths.map fun path => intact dir path (content path)).countP (·.verified)) = paths.length := by
    simp [List.countP_map, Function.comp_def]
  have hm : (paths.map fun path => intact dir path (content path)).filter (·.mismatched) = [] := by
    simp [List.filter_eq_nil_iff]
  rw [Outcome.add, hv, hm]
  simp

end Download

open Upload Download in
/-- **What is backed up can be restored.** Fragments whose uploads have succeeded, to another side that accepts only
what it has read as a whole, are downloaded one after the other into one directory, and no call fails. Then all of their
files are verified, and under each name are, byte for byte, the bytes of the last file of that name; if no two names are
the same, this is every file. -/
theorem restored_of_uploaded (t : Tree) (size : Nat) (agentId backupName dir : String) (jobs : List Job)
    (g : Engine FileSink) (hn : ∀ path ∈ sentPaths jobs, (Path.fileName? path).isSome)
    (hr : ∀ j ∈ jobs, (j.run t size agentId backupName).1 = .ok ())
    (ha : ∀ j ∈ jobs, j.AcceptsWhole t size agentId backupName)
    (hf : (runAll FileSink.sink dir
      (jobs.map fun j => (j.handedBack t size agentId backupName).map .ok) g).2.Faultless) :
    let r := runAll FileSink.sink dir (jobs.map fun j => (j.handedBack t size agentId backupName).map .ok) g
    r.1 = jobs.map (fun j => .ok { verified := j.fragment.files.length }) ∧
      (∀ path ∈ sentPaths jobs, ∃ name last bytes, Path.fileName? path = some name ∧
        ((sentPaths jobs).filter (Path.fileName? · = some name)).getLast? = some last ∧
        t.readFile last = .ok bytes ∧ r.2.store.tree.readFile (Path.join dir name) = .ok bytes) ∧
      (((sentPaths jobs).map Path.fileName?).Nodup → ∀ path ∈ sentPaths jobs, ∃ name bytes,
        Path.fileName? path = some name ∧ t.readFile path = .ok bytes ∧
        r.2.store.tree.readFile (Path.join dir name) = .ok bytes) := by
  intro r
  have hstreams : (jobs.map fun j => (j.handedBack t size agentId backupName).map Except.ok) =
      (jobs.map fun j => j.handedBack t size agentId backupName).map (·.map (Except.ok (ε := Error))) := by
    rw [List.map_map]
    rfl
  have hspec := runAll_spec dir (g := g) (hstreams ▸ hf)
  rw [← hstreams, segments_all dir hn hr ha] at hspec
  obtain ⟨-, hout, hl⟩ := hspec
  have hlast : ∀ path ∈ sentPaths jobs, ∃ name last bytes, Path.fileName? path = some name ∧
      ((sentPaths jobs).filter (Path.fileName? · = some name)).getLast? = some last ∧
      t.readFile last = .ok bytes ∧ r.2.store.tree.readFile (Path.join dir name) = .ok bytes := by
    intro path hp
    obtain ⟨name, hname⟩ := Option.isSome_iff_exists.1 (hn path hp)
    cases hg : ((sentPaths jobs).filter (Path.fileName? · = some name)).getLast? with
    | none =>
      rw [List.getLast?_eq_none_iff, List.filter_eq_nil_iff] at hg
      exact absurd hname (by simpa using hg path hp)
    | some last =>
      -- no file after the last one of a name has its place
      obtain ⟨before, later, hsplit, hlast, hlater⟩ := eq_append_of_getLast?_filter hg
      rw [hsplit] at hl
      have hmem : last ∈ sentPaths jobs := by
        rw [hsplit]
        simp
      obtain ⟨j, hj, hpj⟩ := List.mem_flatMap.1 hmem
      have hc := (Job.pieces_handedBack (fun p hp => hn p (mem_sentPaths hj hp)) (hr j hj) (ha j hj)).1 last hpj
      refine ⟨name, last, _, hname, hg, (Tree.source_complete hc).1, ?_⟩
      refine hl.readFile_intact (by simpa using hlast) (fun p hp => hn p ?_) fun p hp => by simpa using hlater p hp
      rw [hsplit]
      simp [hp]
  refine ⟨?_, hlast, fun hd path hp => ?_⟩
  · change r.1 = _ at hout
    rw [hout, List.map_map]
    apply List.map_congr_left
    intro j hj
    obtain ⟨hs, hrej⟩ := Job.segments_handedBack dir (fun p hp => hn p (mem_sentPaths hj hp)) (hr j hj) (ha j hj)
    rw [Function.comp_apply, hs, hrej, add_intact, List.length_map]
  · obtain ⟨name, last, bytes, hname, hg, hread, hrest⟩ := hlast path hp
    have hself := getLast?_filter_of_nodup hd hp
    rw [hname, hg] at hself
    cases hself
    exact ⟨name, bytes, hname, hread, hrest⟩

open Upload Download in
/-- Two fragments, three files, two of them with one name. -/
theorem restored_of_uploaded_same_name :
    let t : Tree := ⟨[(.ofNames ["x", "a"], .file ⟨#[1, 2, 3]⟩), (.ofNames ["x", "b"], .file ⟨#[4, 5, 6, 7]⟩),
      (.ofNames ["y"], .file .empty), (.ofNames ["a"], .dir), (.ofNames ["b"], .dir)], .root⟩
    let jobs : List Job :=
      [{ fragment := { fragment := { id := "f" }, path := "a/x", customPath := some "y" } },
        { fragment := { fragment := { id := "g" }, path := "/b//x" }, plan := { stopAfter := some 5 }, slow := true }]
    let r := runAll FileSink.sink "out" (jobs.map fun j => (j.handedBack t 2 "agent" "nightly").map .ok)
      { store := ⟨.ofWork .root, none⟩ }
    r.2.Faultless ∧ r.1 = [.ok { verified := 2 }, .ok { verified := 1 }] ∧
      r.2.store.tree.readFile "out/x" = .ok ⟨#[4, 5, 6, 7]⟩ := by
  intro t jobs r
  have hf : r.2.Faultless := by decide +kernel
  have hn : ∀ path ∈ sentPaths jobs, (Path.fileName? path).isSome := by decide +kernel
  have hr : ∀ j ∈ jobs, (j.run t 2 "agent" "nightly").1 = .ok () := by decide +kernel
  have ha : ∀ j ∈ jobs, j.AcceptsWhole t 2 "agent" "nightly" := by decide +kernel
  obtain ⟨hout, hlast, -⟩ :=
    restored_of_uploaded t 2 "agent" "nightly" "out" jobs { store := ⟨.ofWork .root, none⟩ } hn hr ha hf
  refine ⟨hf, hout, ?_⟩
  obtain ⟨name, last, bytes, hname, hl, hb, hread⟩ := hlast "a/x" (by decide +kernel)
  have hx : Path.fileName? "a/x" = some "x" := by decide +kernel
  cases hname.symm.trans hx
  have hg : ((sentPaths jobs).filter (Path.fileName? · = some "x")).getLast? = some "/b//x" := by decide +kernel
  cases hl.symm.trans hg
  have hx : t.readFile "/b//x" = .ok ⟨#[4, 5, 6, 7]⟩ := by decide +kernel
  cases hb.symm.trans hx
  have hjoin : Path.join "out" "x" = "out/x" := by decide +kernel
  rw [hjoin] at hread
  have hrun : runAll FileSink.sink "out" (jobs.map fun j => (j.handedBack t 2 "agent" "nightly").map .ok)
      { store := ⟨.ofWork .root, none⟩ } = r := rfl
  rw [hrun] at hread
  exact hread

end Custodian
