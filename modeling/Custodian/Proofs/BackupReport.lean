import Custodian.Proofs.Attempts
import Custodian.Proofs.Incomplete

/-!
# What the reference agent reports of a backup

* `BackupFrame.mainBytes` : how much of the main file a frame carries; `Upload.sum_mainBytes` : a call that has carried
  the main file to its end has carried all of it;
* `BackupTransfer`, `Transfers` : uploads one after the other, each over a call of its own, what came of each, and what
  they leave;
* `Reference.follow_fragmentsFrom`, `Reference.follow_sendAll` : the reference agent looks at all files and then sends a
  fragment for each, up to the first that fails;
* `Reference.backup_report` : it reports success if and only if every file was sent.
-/

namespace Custodian

set_option autoImplicit false

variable {ω : Type}

/-! ## The size of a file -/

/-- How many bytes of the main file a frame carries. -/
def BackupFrame.mainBytes (x : BackupFrame) : Nat :=
  match x.body with
  | some (.file .main chunk) => chunk.content.size
  | _ => 0

/-- A frame carries the digest of the main file, and so ends it. -/
def BackupFrame.EndsMain (x : BackupFrame) : Prop := ∃ chunk, x.body = some (.file .main chunk) ∧ chunk.checksum ≠ ""

theorem size_foldl_append (bs : List ByteArray) (b : ByteArray) :
    (bs.foldl (· ++ ·) b).size = b.size + (bs.map ByteArray.size).sum := by
  induction bs generalizing b with
  | nil => rfl
  | cons x bs ih =>
    rw [List.foldl_cons, ih, ByteArray.size_append, List.map_cons, List.sum_cons, Nat.add_assoc]

/-- The size of a file is the number of its bytes. -/
theorem Tree.size_of_readFile {t : Tree} {path : String} {b : ByteArray} (h : t.readFile path = .ok b) :
    t.size path = .ok b.size := by
  unfold readFile at h
  unfold size
  cases ho : t.openRead path with
  | error f =>
    rw [ho] at h
    cases h
  | ok e =>
    rw [ho] at h
    cases e with
    | dir => cases h
    | file b' =>
      cases h
      rfl

namespace Upload

variable {s : Source} {f : BackupFragment} {agentId backupName : String} {xs : List BackupFrame} {y : BackupFrame}

theorem mainBytes_of_custom {e : FileRole × String} {chunk : FileChunk}
    (he : e ∈ (f.customPath.map (FileRole.custom, ·)).toList) (hy : y.body = some (.file e.1 chunk)) :
    y.mainBytes = 0 := by
  obtain ⟨p, -, rfl⟩ : ∃ p, f.customPath = some p ∧ (FileRole.custom, p) = e := by simpa using he
  simp [BackupFrame.mainBytes, hy]

/-- The frames of an upload up to the digest of the main file. -/
def opening (f : BackupFragment) (agentId backupName : String) (chunks : List ByteArray) : List BackupFrame :=
  metadataFrame f agentId backupName :: .ofPiece .main (.name (sentName f.path)) ::
    chunks.map fun b => .ofPiece .main (.content b)

theorem not_endsMain_of_mem_opening {chunks : List ByteArray} (h : y ∈ opening f agentId backupName chunks) :
    ¬ y.EndsMain := by
  rintro ⟨chunk, hbody, hchecksum⟩
  simp only [opening, List.mem_cons, List.mem_map] at h
  obtain rfl | rfl | ⟨b, -, rfl⟩ := h
  · cases hbody
  · cases hbody
    exact hchecksum rfl
  · cases hbody
    exact hchecksum rfl

theorem sum_mainBytes_opening (chunks : List ByteArray) :
    ((opening f agentId backupName chunks).map BackupFrame.mainBytes).sum = (chunks.map ByteArray.size).sum := by
  have hcontent : (chunks.map fun b => BackupFrame.ofPiece .main (.content b)).map BackupFrame.mainBytes =
      chunks.map ByteArray.size := by
    rw [List.map_map]
    rfl
  simp only [opening, List.map_cons, List.sum_cons, hcontent]
  change 0 + (0 + _) = _
  omega

/-- What an upload is to send begins with the opening, and goes on only if the main file can be read to its end. -/
theorem intended_eq_opening (agentId backupName : String) {chunks : List ByteArray} {ending : ReadingEnd}
    (h : s f.path = .ok ⟨chunks, ending⟩) :
    (ending = .complete ∧ intended s f agentId backupName = opening f agentId backupName chunks ++
      (.ofPiece .main (.checksum (Digest.of (s.content f.path))) ::
        intendedFiles s (f.customPath.map (FileRole.custom, ·)).toList)) ∨
      intended s f agentId backupName = opening f agentId backupName chunks := by
  have hfiles : f.files = (.main, f.path) :: (f.customPath.map (FileRole.custom, ·)).toList := rfl
  unfold intended
  rw [hfiles, intendedFiles]
  cases ending with
  | complete =>
    exact .inl ⟨rfl, by simp [Source.ending, h, yielded, fileFrames, opening, Source.content, Source.chunks]⟩
  | fault | breakdown => exact .inr (by simp [Source.ending, h, yielded, opening])

/-- A row of frames that is taken from an upload and has the digest of the main file is the opening, the digest and what
follows. -/
theorem exists_of_endsMain (h : xs <+: intended s f agentId backupName) (hends : ∃ y ∈ xs, y.EndsMain) :
    ∃ chunks rest, s f.path = .ok ⟨chunks, .complete⟩ ∧
      xs = opening f agentId backupName chunks ++ [.ofPiece .main (.checksum (Digest.of (s.content f.path)))] ++ rest ∧
      rest <+: intendedFiles s (f.customPath.map (FileRole.custom, ·)).toList := by
  obtain ⟨y, hy, hends⟩ := hends
  cases hr : s f.path with
  | error e =>
    have hmeta : intended s f agentId backupName = [metadataFrame f agentId backupName] := by
      simp [intended, BackupFragment.files, intendedFiles, Source.ending, hr, yielded]
    rw [hmeta] at h
    obtain rfl : y = metadataFrame f agentId backupName := List.mem_singleton.1 (h.subset hy)
    obtain ⟨chunk, hbody, -⟩ := hends
    cases hbody
  | ok r =>
    obtain ⟨chunks, ending⟩ := r
    have hopening (hx : xs <+: opening f agentId backupName chunks) : False :=
      not_endsMain_of_mem_opening (hx.subset hy) hends
    obtain ⟨rfl, hall⟩ | hall := intended_eq_opening agentId backupName hr
    · rw [hall, ← List.singleton_append, ← List.append_assoc] at h
      obtain hx | ⟨rest, rfl⟩ := List.prefix_or_prefix_of_prefix h (List.prefix_append _ _)
      · obtain rfl | hx := List.prefix_concat_iff.1 hx
        · exact ⟨chunks, [], rfl, by simp, List.nil_prefix⟩
        · exact (hopening hx).elim
      · exact ⟨chunks, rest, rfl, rfl, (List.prefix_append_right_inj _).1 h⟩
    · exact (hopening (hall ▸ h)).elim

/-- **A main file that was carried to its end was carried whole.** If the digest of the main file is among the frames
that a call has taken, the file could be read to its end, and the frames carry as many bytes of it as it has. -/
theorem sum_mainBytes (h : xs <+: intended s f agentId backupName) (hends : ∃ y ∈ xs, y.EndsMain) :
    s.Complete f.path ∧ (xs.map BackupFrame.mainBytes).sum = (s.content f.path).size := by
  obtain ⟨chunks, rest, hr, rfl, hrest⟩ := exists_of_endsMain h hends
  have hcustom : ∀ y ∈ rest, y.mainBytes = 0 := by
    intro y hy
    obtain ⟨e, he, chunk, hbody⟩ := body_of_mem_intendedFiles (hrest.subset hy)
    exact mainBytes_of_custom he hbody
  have hsum : (rest.map BackupFrame.mainBytes).sum = 0 := List.sum_eq_zero (List.forall_mem_map.2 hcustom)
  have hdigest (digits : String) : (BackupFrame.ofPiece .main (.checksum digits)).mainBytes = 0 := rfl
  have hcontent : (s.content f.path).size = (chunks.map ByteArray.size).sum := by
    simp [Source.content, Source.chunks, hr, size_foldl_append]
  refine ⟨⟨_, hr, rfl⟩, ?_⟩
  simp only [List.map_append, List.sum_append, sum_mainBytes_opening, List.map_cons, List.map_nil, List.sum_cons,
    List.sum_nil, hdigest, hsum, hcontent, Nat.add_zero]

end Upload

/-! ## Uploads -/

/-- An upload: the fragment, its call as it stands in the end, and what came of it. -/
structure BackupTransfer where
  fragment : BackupFragment
  call : BackupCall
  result : Except Upload.Halt Unit

/-- Uploads one after the other, each over a new call that goes as the other side has planned. -/
inductive Transfers (source : Source) (agentId backupName : String) :
    Orchestrator → List BackupTransfer → Orchestrator → Prop
  | nil (o : Orchestrator) : Transfers source agentId backupName o [] o
  | cons {o o' o'' : Orchestrator} {plan : CallPlan} {b : BackupFragment} {r : Except Upload.Halt Unit}
    {p : Upload.Progress} {xs : List BackupTransfer} (h : o.nextBackup = (plan, o'))
    (hr : Upload.run ⟨source, true⟩ b agentId backupName plan = (r, p))
    (hs : Transfers source agentId backupName (o'.record p.call) xs o'') :
    Transfers source agentId backupName o (⟨b, p.call, r⟩ :: xs) o''

theorem Transfers.accepted {source : Source} {agentId backupName : String} {o o' : Orchestrator}
    {xs : List BackupTransfer} (h : Transfers source agentId backupName o xs o') :
    ∀ x ∈ xs, x.call.accepted.toList <+: Upload.intended source x.fragment agentId backupName ∧
      (x.result = .ok () →
        x.call.accepted.toList = Upload.expectedFrames x.fragment agentId backupName source.chunks) := by
  induction h with
  | nil o => exact List.forall_mem_nil _
  | @cons o o' o'' plan b r p xs h hr hs ih =>
    refine List.forall_mem_cons.2 ⟨?_, ih⟩
    obtain ⟨-, hintended⟩ := Upload.run_prefix ⟨source, true⟩ b agentId backupName plan .empty
    rw [hr] at hintended
    refine ⟨hintended, fun h => ?_⟩
    obtain ⟨-, -, haccepted, -⟩ := Upload.run_ok ((congrArg Prod.fst hr).trans h)
    rwa [hr] at haccepted

/-- What the call for a file of some size has carried: nothing, or the metadata of its fragment and after it pieces of
files; the main file to its end if the upload succeeded; and if so as many bytes of it as the metadata tells. -/
structure BackupTransfer.Announces (x : BackupTransfer) (agentId backupName id : String) (size : Nat) : Prop where
  metadata : x.call.accepted.toList = [] ∨ ∃ rest,
    x.call.accepted.toList = ⟨metadataType, some (.metadata ⟨agentId,
      some { id := id, version := "0.0.0", sizeInBytes := toString size }, backupName⟩)⟩ :: rest ∧
    ∀ y ∈ rest, ∃ role chunk, y.body = some (.file role chunk)
  ends : x.result = .ok () → ∃ y ∈ x.call.accepted.toList, y.EndsMain
  size : (∃ y ∈ x.call.accepted.toList, y.EndsMain) → (x.call.accepted.toList.map BackupFrame.mainBytes).sum = size

theorem Upload.exists_endsMain (f : BackupFragment) (agentId backupName : String) (chunks : String → List ByteArray) :
    ∃ y ∈ expectedFrames f agentId backupName chunks, y.EndsMain := by
  refine ⟨.ofPiece .main (.checksum (Digest.of ((chunks f.path).foldl (· ++ ·) .empty))), ?_, _, rfl, ?_⟩
  · exact List.mem_cons_of_mem _ (List.mem_flatMap.2 ⟨(.main, f.path), List.mem_cons_self, by simp [fileFrames]⟩)
  · exact Digest.text_ne_empty _

/-- The call for a file whose size was looked at announces this size. -/
theorem Transfers.announces {t : Tree} {chunkSize size : Nat} {agentId backupName id : String} {o o' : Orchestrator}
    {xs : List BackupTransfer} (h : Transfers (t.source chunkSize) agentId backupName o xs o') {x : BackupTransfer}
    (hx : x ∈ xs) (hfragment : x.fragment.fragment = { id := id, version := "0.0.0", sizeInBytes := toString size })
    (hsize : t.size x.fragment.path = .ok size) : x.Announces agentId backupName id size := by
  obtain ⟨hintended, hok⟩ := h.accepted x hx
  refine ⟨?_, fun h => ?_, fun hends => ?_⟩
  · cases hall : x.call.accepted.toList with
    | nil => exact .inl rfl
    | cons y rest =>
      rw [hall, Upload.intended, List.cons_prefix_cons] at hintended
      obtain ⟨rfl, hrest⟩ := hintended
      refine .inr ⟨rest, by rw [Upload.metadataFrame, hfragment], fun y hy => ?_⟩
      obtain ⟨e, -, chunk, hbody⟩ := Upload.body_of_mem_intendedFiles (hrest.subset hy)
      exact ⟨e.1, chunk, hbody⟩
  · rw [hok h]
    exact Upload.exists_endsMain ..
  · obtain ⟨hcomplete, hsum⟩ := Upload.sum_mainBytes hintended hends
    have hcontent := Tree.size_of_readFile (Tree.source_complete hcomplete).1
    rw [hsum]
    exact Except.ok.inj (hcontent.symm.trans hsize)

/-- The upload of a fragment, made first. -/
theorem Agent.transfers_sendBackup (a : Agent) (b : BackupFragment) (w : World ω) :
    ∃ call o, (a.sendBackup b w).2 = { w with orchestrator := o } ∧
      ∀ xs o', Transfers (w.tree.source a.chunkSize) a.identity.agentId w.session.backupName o xs o' →
        Transfers (w.tree.source a.chunkSize) a.identity.agentId w.session.backupName w.orchestrator
          (⟨b, call, (a.sendBackup b w).1⟩ :: xs) o' := by
  unfold sendBackup
  rcases hplan : w.orchestrator.nextBackup with ⟨plan, o⟩
  exact ⟨_, _, rfl, fun xs o' hs => .cons hplan rfl hs⟩

namespace Reference

/-! ## Looking at files -/

namespace Config

variable {c : Config} {size : String → Except Fault Nat} {n : Nat} {files : List FragmentFile}

theorem fragment_eq (c : Config) (n : Nat) (file : FragmentFile) (k : Nat) :
    c.fragment n file k =
      ⟨{ id := c.agentId ++ "_" ++ toString n, version := "0.0.0", sizeInBytes := toString k }, file.path,
        file.customPath.filter (· ≠ "")⟩ := by
  unfold fragment
  cases file.customPath with
  | none => rfl
  | some p => by_cases hp : p = "" <;> simp [hp, BackupFragment.withCustomPath, fragmentVersion, Option.filter]

theorem fragmentsOf_error (h : ∃ file ∈ files, ∃ f, size file.path = .error f) :
    ∃ e, c.fragmentsOf size n files = .error e := by
  induction files generalizing n with
  | nil => simp at h
  | cons file files ih =>
    rw [fragmentsOf]
    cases hk : size file.path with
    | error f => exact ⟨_, rfl⟩
    | ok k =>
      obtain ⟨file', hmem, f, hf⟩ := h
      obtain rfl | hmem := List.mem_cons.1 hmem
      · rw [hk] at hf
        cases hf
      · obtain ⟨e, he⟩ := ih ⟨file', hmem, f, hf⟩ (n := n + 1)
        exact ⟨e, by rw [he]; rfl⟩

theorem fragmentsOf_ok (h : ∀ file ∈ files, ∃ k, size file.path = .ok k) :
    ∃ bs, c.fragmentsOf size n files = .ok bs ∧ bs.length = files.length ∧
      ∀ i b, bs[i]? = some b → ∃ file k, files[i]? = some file ∧ size file.path = .ok k ∧
        b = c.fragment (n + i) file k := by
  induction files generalizing n with
  | nil => exact ⟨[], rfl, rfl, by simp⟩
  | cons file files ih =>
    obtain ⟨⟨k, hk⟩, hfiles⟩ := List.forall_mem_cons.1 h
    obtain ⟨bs, hbs, hlength, hall⟩ := ih hfiles (n := n + 1)
    refine ⟨c.fragment n file k :: bs, ?_, by rw [List.length_cons, hlength, List.length_cons], ?_⟩
    · rw [fragmentsOf, hk]
      dsimp only
      rw [hbs]
      rfl
    · intro i b hb
      cases i with
      | zero =>
        cases hb
        exact ⟨file, k, rfl, hk, rfl⟩
      | succ i =>
        obtain ⟨file', k', hfile, hk', hb⟩ := hall i b hb
        exact ⟨file', k', hfile, hk', by rw [hb, Nat.add_assoc, Nat.add_comm 1 i]⟩

end Config

theorem follow_fragmentsFrom {f : Facade} (a : Agent) (c : Config) (n : Nat) (files : List FragmentFile)
    (s : Line × World ω) :
    (fragmentsFrom c n files : Attempt ω f (List BackupFragment)).follow a.answer Agent.noted s =
      (some (c.fragmentsOf s.2.tree.size n files), s) := by
  induction files generalizing n with
  | nil => rfl
  | cons file files ih =>
    have hanswer : a.answer (.fileSize file.path : Request f) s = (some (s.2.tree.size file.path), s) := rfl
    rw [fragmentsFrom, Attempt.follow_request, hanswer, Config.fragmentsOf]
    dsimp only
    cases s.2.tree.size file.path with
    | error e => rfl
    | ok k =>
      dsimp only
      rw [Attempt.follow_bind, ih]
      cases c.fragmentsOf s.2.tree.size (n + 1) files <;> rfl

/-- Fragments are sent one after the other, up to the first that fails. -/
theorem follow_sendAll (a : Agent) (bs : List BackupFragment) (l : Line) (w : World ω) :
    ∃ calls r o, (sendAll bs : Attempt ω .backup Unit).follow a.answer Agent.noted (l, w) =
        (r, l, { w with orchestrator := o }) ∧
      Transfers (w.tree.source a.chunkSize) a.identity.agentId w.session.backupName w.orchestrator calls o ∧
      calls.map (·.fragment) = bs.take calls.length ∧
      UntilFailure (fun x => x.result = .ok ()) bs.length calls (r.any (·.isOk)) := by
  induction bs generalizing w with
  | nil => exact ⟨[], some (.ok ()), w.orchestrator, rfl, .nil _, rfl, .nil⟩
  | cons b bs ih =>
    obtain ⟨call, o, hw, hcall⟩ := a.transfers_sendBackup b w
    have hanswer : a.answer (.send b) (l, w) =
        (Agent.uploadAnswer (a.sendBackup b w).1, l, { w with orchestrator := o }) := by rw [← hw]; rfl
    rw [sendAll, Attempt.follow_request, hanswer]
    cases hr : (a.sendBackup b w).1 with
    | error e =>
      have hfails : ¬ (⟨b, call, (a.sendBackup b w).1⟩ : BackupTransfer).result = .ok () := by
        rw [hr]
        nofun
      cases e with
      | failed e => exact ⟨_, some (.error [e.message]), o, rfl, hcall [] _ (.nil _), rfl, .failed hfails⟩
      | breakdown => exact ⟨_, none, o, rfl, hcall [] _ (.nil _), rfl, .failed hfails⟩
    | ok u =>
      obtain ⟨calls, r, o', hrest, hcalls, hfragments, huntil⟩ := ih { w with orchestrator := o }
      refine ⟨_ :: calls, r, o', hrest, hcall calls _ hcalls, ?_, .next hr huntil⟩
      rw [List.map_cons, hfragments]
      rfl

/-! ## The report -/

/-- The attempt to look at all files and to send a fragment for each. -/
def sendFragments (c : Config) : Attempt ω .backup Unit := fragmentsFrom c 1 c.files >>= sendAll

/-- A backup comes to a report on the attempt to send everything, which is a failure if the attempt breaks down. -/
theorem follow_executeBackup (a : Agent) (c : Config) {s t : Line × World ω} {r : Option (Except (List String) Unit)}
    (hrun : (sendFragments c).follow a.answer Agent.noted s = (r, t)) :
    ∃ message, a.follow (executeBackup c) s =
      ((t.1.send (a.identity.stageComplete (r.any (·.isOk)) message .backup)).1,
        { t.2 with session := t.2.session.clearBackup }) := by
  replace hrun : Routine.run a.answer Agent.noted (sendFragments c).run s = (r, t) := hrun
  -- what follows the attempt only looks at how it ended
  obtain ⟨k, hattempt, hok, herror⟩ : ∃ k : Except (List String) Unit → Routine ω .backup Unit,
      a.attempt (executeBackup c) s = Routine.run a.answer Agent.noted ((sendFragments c).run >>= k) s ∧
        (∀ u, ∃ message, k (.ok u) = .report true message) ∧ ∀ e, ∃ message, k (.error e) = .report false message :=
    ⟨_, rfl, fun u => ⟨_, rfl⟩, fun e => ⟨_, rfl⟩⟩
  rw [Routine.run_bind, hrun] at hattempt
  cases r with
  | none => exact ⟨breakdownMessage, by rw [a.follow_eq, hattempt]; rfl⟩
  | some r =>
    cases r with
    | ok u =>
      obtain ⟨message, hk⟩ := hok u
      dsimp only at hattempt
      rw [hk] at hattempt
      exact ⟨message, a.follow_of_report hattempt⟩
    | error e =>
      obtain ⟨message, hk⟩ := herror e
      dsimp only at hattempt
      rw [hk] at hattempt
      exact ⟨message, a.follow_of_report hattempt⟩

theorem toString_injective {m n : Nat} (h : toString m = toString n) : m = n := by
  rw [Nat.toString_eq_repr, Nat.toString_eq_repr, Nat.repr_eq_ofList_toDigits, Nat.repr_eq_ofList_toDigits,
    String.ofList_inj] at h
  calc m = Nat.ofDigitChars 10 (Nat.toDigits 10 m) 0 := (Nat.ofDigitChars_toDigits (by decide) (by decide)).symm
    _ = Nat.ofDigitChars 10 (Nat.toDigits 10 n) 0 := by rw [h]
    _ = n := Nat.ofDigitChars_toDigits (by decide) (by decide)

/-- Fragments that are numbered on have ids apart. -/
theorem nodup_ids {c : Config} {calls : List BackupTransfer}
    (h : ∀ i x, calls[i]? = some x → ∃ file k, x.fragment = c.fragment (1 + i) file k) :
    (calls.map (·.fragment.fragment.id)).Nodup := by
  have hid (i : Nat) (x : BackupTransfer) (hx : calls[i]? = some x) :
      x.fragment.fragment.id = c.agentId ++ "_" ++ toString (1 + i) := by
    obtain ⟨file, k, hfragment⟩ := h i x hx
    rw [hfragment, Config.fragment_eq]
  rw [List.nodup_iff_getElem?_ne_getElem?]
  intro i j hij hj heq
  rw [List.length_map] at hj
  have hi := hid i _ (List.getElem?_eq_getElem (hij.trans hj))
  have hj' := hid j _ (List.getElem?_eq_getElem hj)
  rw [List.getElem?_map, List.getElem?_map, List.getElem?_eq_getElem (hij.trans hj), List.getElem?_eq_getElem hj] at heq
  have hsame := (hi.symm.trans (Option.some.inj heq)).trans hj'
  rw [String.append_right_inj] at hsame
  have := toString_injective hsame
  omega

/-- **Success is reported only for a whole backup.** The reference agent, however configured, is told on any line and in
any world to make a backup. It sends one frame, a report on the backup, and the name of the backup is forgotten then. If
one of its files cannot be looked at, it reports a failure and has done nothing else: it has made no call. Otherwise it
has made calls for the files in their order, one for each, up to the first that failed: `calls` are these calls. The
`n`-th of them, counted from one, announces the fragment with the id of the agent and the number `n`, the name of the
backup that it was told and the size of the file, which is how much of it the call has carried once it has carried it to
its end; no two calls have an id in common. It reports success if and only if there was a call for every file and all of
them were accepted. -/
theorem backup_report (a : Agent) (c : Config) (e : Execution) (messageType : Int32) (l : Line) (w : World ω) :
    let s := a.handle (behavior c) ⟨Action.backup.code, messageType, some (.execution e)⟩ (l, w)
    let session := { w.session with backupName := "" }
    ∃ success message,
      let report : AgentFrame := ⟨Action.backup.code, stageCompleteType,
        some (.stageComplete ⟨success, message, a.identity.agentId⟩)⟩
      s.1 = (l.send report).1 ∧ (l.Accepts → l.WentOut s.1 [report]) ∧
        ((∃ file ∈ c.files, ∃ f, w.tree.size file.path = .error f) →
          success = false ∧ s.2 = { w with session := session }) ∧
        ((∀ file ∈ c.files, ∃ size, w.tree.size file.path = .ok size) →
          ∃ (calls : List BackupTransfer) (o : Orchestrator),
          s.2 = { w with session := session, orchestrator := o } ∧
          Transfers (w.tree.source a.chunkSize) a.identity.agentId e.backupName w.orchestrator calls o ∧
          UntilFailure (fun x => x.result = .ok ()) c.files.length calls success ∧
          (calls.map (·.fragment.fragment.id)).Nodup ∧
          ∀ (i : Nat) (x : BackupTransfer), calls[i]? = some x → ∃ (file : FragmentFile) (size : Nat),
            let id := c.agentId ++ "_" ++ toString (i + 1)
            c.files[i]? = some file ∧ w.tree.size file.path = .ok size ∧
            x.fragment = ⟨{ id := id, version := "0.0.0", sizeInBytes := toString size }, file.path,
              file.customPath.filter (· ≠ "")⟩ ∧
            x.Announces a.identity.agentId e.backupName id size) := by
  intro s session
  obtain ⟨begun, hbegun⟩ : ∃ begun : World ω, begun = { w with session := w.session.startBackup e.backupName } :=
    ⟨_, rfl⟩
  have hs : s = a.follow (executeBackup c) (l, begun) := by rw [hbegun]; rfl
  have hrun := Attempt.follow_bind a.answer Agent.noted (fragmentsFrom c 1 c.files) sendAll (l, begun)
  rw [follow_fragmentsFrom] at hrun
  have htree : begun.tree = w.tree := by rw [hbegun]
  by_cases hfiles : ∀ file ∈ c.files, ∃ size, w.tree.size file.path = .ok size
  · obtain ⟨bs, hbs, hlength, hall⟩ := Config.fragmentsOf_ok (c := c) (n := 1) hfiles
    obtain ⟨calls, r, o, hsend, hcalls, hfragments, huntil⟩ := follow_sendAll a bs l begun
    have hcall (i : Nat) (x : BackupTransfer) (hx : calls[i]? = some x) :
        ∃ file k, c.files[i]? = some file ∧ w.tree.size file.path = .ok k ∧ x.fragment = c.fragment (1 + i) file k := by
      have hfragment : (calls.map (·.fragment))[i]? = some x.fragment := by rw [List.getElem?_map, hx]; rfl
      rw [hfragments, List.getElem?_take] at hfragment
      split_ifs at hfragment
      exact hall i x.fragment hfragment
    rw [htree, hbs] at hrun
    obtain ⟨message, hfollow⟩ := follow_executeBackup a c (hrun.trans hsend)
    rw [hlength] at huntil
    rw [hs, hfollow]
    subst hbegun
    refine ⟨r.any (·.isOk), message, rfl, fun hl => Line.wentOut_send hl rfl, ?_,
      fun _ => ⟨calls, o, rfl, hcalls, huntil, ?_, fun i x hx => ?_⟩⟩
    · rintro ⟨file, hfile, f, hf⟩
      obtain ⟨k, hk⟩ := hfiles file hfile
      rw [hk] at hf
      cases hf
    · refine nodup_ids (c := c) fun i x hx => ?_
      obtain ⟨file, k, -, -, hfragment⟩ := hcall i x hx
      exact ⟨file, k, hfragment⟩
    · obtain ⟨file, k, hfile, hk, hfragment⟩ := hcall i x hx
      rw [Config.fragment_eq, Nat.add_comm 1 i] at hfragment
      refine ⟨file, k, hfile, hk, hfragment, hcalls.announces (List.mem_of_getElem? hx) ?_ ?_⟩
      · rw [hfragment]
      · rw [hfragment]
        exact hk
  · -- one of the files cannot be looked at
    have htrouble : ∃ file ∈ c.files, ∃ f, w.tree.size file.path = .error f := by
      simp only [not_forall] at hfiles
      obtain ⟨file, hfile, hk⟩ := hfiles
      cases hsize : w.tree.size file.path with
      | error f => exact ⟨file, hfile, f, hsize⟩
      | ok k => exact absurd ⟨k, hsize⟩ hk
    obtain ⟨e', he'⟩ := Config.fragmentsOf_error (c := c) (n := 1) htrouble
    rw [htree, he'] at hrun
    obtain ⟨message, hfollow⟩ := follow_executeBackup a c hrun
    rw [hs, hfollow]
    subst hbegun
    exact ⟨false, message, rfl, fun hl => Line.wentOut_send hl rfl, fun _ => ⟨rfl, rfl⟩, fun h => absurd h hfiles⟩

/-- Two files, the first of three bytes; the call for the second ends after two frames. -/
theorem backup_report_three_bytes :
    let a : Agent := { identity := { agentId := "A", scope := "", version := {}, apiVersion := "4" }, chunkSize := 2 }
    let c : Config := { agentId := "A", files := [{ path := "x" }, { path := "y", customPath := some "x" }] }
    let t : Tree := ⟨[(.ofNames ["x"], .file ⟨#[1, 2, 3]⟩), (.ofNames ["y"], .file .empty)], .root⟩
    let w : World Unit := { orchestrator := { backups := [{}, { stopAfter := some 2 }] }, tree := t }
    let l := (Line.settle (a.handle (behavior c)) ((a.registrate (.ofPlans 3 [{}] {})).1, w)).1
    let s := a.handle (behavior c) ⟨1, 0, some (.execution { backupName := "nightly" })⟩ (l, w)
    ∃ success message x calls o, l.WentOut s.1 [⟨1, stageCompleteType, some (.stageComplete ⟨success, message, "A"⟩)⟩] ∧
      Transfers (t.source 2) "A" "nightly" w.orchestrator (x :: calls) o ∧
      UntilFailure (fun x => x.result = .ok ()) 2 (x :: calls) success ∧ x.Announces "A" "nightly" "A_1" 3 ∧
      s.2.orchestrator.uploads.toList.map List.length = [5, 2] := by
  intro a c t w l s
  have hl : l.Accepts := (a.attentive_of_registrate 3 [] {} (a.handle (behavior c)) w).1.accepts
  obtain ⟨success, message, -, hout, -, hall⟩ := backup_report a c { backupName := "nightly" } 0 l w
  have hx : w.tree.size "x" = .ok 3 := by decide +kernel
  have hy : w.tree.size "y" = .ok 0 := by decide +kernel
  obtain ⟨calls, o, -, hcalls, huntil, -, hall⟩ := hall (by simp [c, hx, hy])
  cases calls with
  | nil =>
    -- there is a first call
    obtain ⟨x, hnone, -⟩ := huntil.stopped (by decide)
    cases hnone
  | cons x calls =>
    obtain ⟨file, size, hfile, hsize, -, hannounces⟩ := hall 0 x rfl
    obtain rfl : FragmentFile.mk "x" none = file := Option.some.inj hfile
    obtain rfl : 3 = size := Except.ok.inj (hx.symm.trans hsize)
    exact ⟨success, message, x, calls, o, hout hl, hcalls, huntil, hannounces, by decide +kernel⟩

end Reference

end Custodian
