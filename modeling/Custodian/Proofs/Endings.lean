import Custodian.Proofs.Restore
import Custodian.Proofs.Unreliable

/-!
# How a download ends

* `framesRest` : a download, and what of the stream it has not read; `fst_framesRest` : it is the same download;
* `run_read_error` : a stream that breaks off leaves what its frames so far leave, and what comes after is not read;
* `Progress.Holds` : the file that is being received is the one that the sink holds; `Received.holds` : it stays so;
* `isOpen_iff_write_failed` : in the end the sink holds no file, unless the last call was a write that failed;
  `not_forall_released` : then it does hold one.
-/

namespace Custodian.Download

set_option autoImplicit false

variable {σ : Type} {sink : Sink σ} {dir : String}

/-! ## Streams that break off -/

/-- Takes the frames of a stream, and tells as well what of the stream has not been read. -/
def framesRest (sink : Sink σ) (dir : String) : List (Except Error RestoreFrame) → Progress σ →
    (Except Error Outcome × Engine σ) × List (Except Error RestoreFrame)
  | [], p => (finish sink p, [])
  | .error e :: rest, p =>
    ((.error (.downloadFailed e.message), (p.engine.after .close (sink.close p.engine.store)).2), rest)
  | .ok f :: rest, p =>
    match f.piece? with
    | none => framesRest sink dir rest p
    | some (_, piece) =>
      match take sink dir piece p with
      | (.error e, q) => ((.error e, q.engine), rest)
      | (.ok _, q) => framesRest sink dir rest q

theorem fst_framesRest (stream : List (Except Error RestoreFrame)) (p : Progress σ) :
    (framesRest sink dir stream p).1 = frames sink dir stream p := by
  induction stream generalizing p with
  | nil => rfl
  | cons i rest ih =>
    cases i with
    | error e => rfl
    | ok f =>
      unfold framesRest frames
      cases f.piece? with
      | none => exact ih p
      | some rp =>
        dsimp only
        rcases take sink dir rp.2 p with ⟨e | u, q⟩
        · rfl
        · exact ih q

/-- What of a stream a download has not read. -/
def unread (sink : Sink σ) (dir : String) (stream : List (Except Error RestoreFrame)) (g : Engine σ) :
    List (Except Error RestoreFrame) := (framesRest sink dir stream { engine := g }).2

/-- As far as no call fails, the frames before a read error do what they do alone, and the error closes the sink as the
end of the stream does. -/
theorem framesRest_read_error (xs : List RestoreFrame) (e : Error) (ys : List (Except Error RestoreFrame))
    (p : Progress σ) (h : (frames sink dir (xs.map .ok ++ .error e :: ys) p).2.Faultless) :
    framesRest sink dir (xs.map .ok ++ .error e :: ys) p =
      ((.error (.downloadFailed e.message), (frames sink dir (xs.map .ok) p).2), ys) := by
  induction xs generalizing p with
  | nil =>
    have hend : frames sink dir ([].map .ok) p = finish sink p := rfl
    rw [hend, snd_finish]
    rfl
  | cons f xs ih =>
    rw [List.map_cons, List.cons_append] at h ⊢
    unfold frames at h
    unfold framesRest frames
    cases hf : f.piece? with
    | none =>
      rw [hf] at h
      exact ih p h
    | some rp =>
      rw [hf] at h
      have ht := take_took sink dir rp.2 p
      dsimp only at h ⊢
      generalize take sink dir rp.2 p = r at h ht
      rcases r with ⟨e' | u, q⟩
      · -- a piece over which a call fails would have noted the fault
        exact absurd h ht.not_faultless
      · exact ih q h

/-- **A stream that breaks off keeps what was done so far.** Frames `xs`, a read error and anything after it come into a
file tree, and no call to the sink fails. Then the download fails with the words of the error and reads nothing of what
comes after it. It leaves the tree that the download of `xs` alone leaves, which is the one that their segments describe:
verified files are there, mismatched ones are not, and the file in progress has its bytes so far. -/
theorem run_read_error (dir : String) (xs : List RestoreFrame) (e : Error) (ys : List (Except Error RestoreFrame))
    (s : FileSink) (d : Digest)
    (h : (run FileSink.sink dir (xs.map .ok ++ .error e :: ys) { store := s, digest := d }).2.Faultless) :
    let r := run FileSink.sink dir (xs.map .ok ++ .error e :: ys) { store := s, digest := d }
    let alone := run FileSink.sink dir (xs.map .ok) { store := s, digest := d }
    r.1 = .error (.downloadFailed e.message) ∧
      unread FileSink.sink dir (xs.map .ok ++ .error e :: ys) { store := s, digest := d } = ys ∧
      r.2.store.tree = alone.2.store.tree ∧
      Leaves s.tree (segments dir (pieces (xs.map .ok))) r.2.store.tree := by
  intro r alone
  have hrest := framesRest_read_error xs e ys _ h
  have hr : r = (.error (.downloadFailed e.message), alone.2) :=
    (fst_framesRest _ _).symm.trans (congrArg Prod.fst hrest)
  have halone : alone.2.Faultless := by
    rw [show alone.2 = r.2 by rw [hr]]
    exact h
  rw [hr]
  refine ⟨rfl, congrArg Prod.snd hrest, rfl, ?_⟩
  exact (run_eq_segments halone).2.2

/-- A verified file, one with another checksum and one that has begun, before the connection is lost. -/
theorem run_read_error_three_files :
    let xs : List RestoreFrame :=
      [.ofPiece .main (.name "a"), .ofPiece .main (.content ⟨#[120]⟩),
        .ofPiece .main (.checksum "9DD4E461268C8034F5C8564E155C67A6"), .ofPiece .custom (.name "b"),
        .ofPiece .custom (.content ⟨#[121]⟩), .ofPiece .custom (.checksum "no"), .ofPiece .main (.name "c"),
        .ofPiece .main (.content ⟨#[122]⟩)]
    let ys : List (Except Error RestoreFrame) := [.ok (.ofPiece .main (.content ⟨#[123]⟩))]
    let g : Engine FileSink := { store := ⟨.ofWork .root, none⟩, digest := .empty }
    let r := run FileSink.sink "out" (xs.map .ok ++ .error (.streamError "reset") :: ys) g
    r.2.Faultless ∧ r.1 = .error (.downloadFailed "stream error: reset") ∧
      unread FileSink.sink "out" (xs.map .ok ++ .error (.streamError "reset") :: ys) g = ys ∧
      r.2.store.tree.readFile "out/a" = .ok ⟨#[120]⟩ ∧ r.2.store.tree.readFile "out/b" = .error .notFound ∧
      r.2.store.tree.readFile "out/c" = .ok ⟨#[122]⟩ := by
  intro xs ys g r
  have hf : r.2.Faultless := by decide +kernel
  obtain ⟨hr, hunread, -⟩ := run_read_error "out" xs (.streamError "reset") ys g.store .empty hf
  exact ⟨hf, hr, hunread, by decide +kernel, by decide +kernel, by decide +kernel⟩

/-! ## The file that the sink holds -/

variable {isOpen : σ → Bool} {p q : Progress σ} {piece : Piece} {ps : List Piece} {e : Error}

/-- The sink holds a file whenever one is being received. -/
def Progress.Holds (isOpen : σ → Bool) (p : Progress σ) : Prop := p.current ≠ none → isOpen p.engine.store = true

theorem Took.holds (hsink : sink.HoldsOne isOpen) (h : Took sink dir p piece (.ok ()) q) (hp : p.Holds isOpen) :
    q.Holds isOpen := by
  intro hq
  cases h with
  | rejected => exact absurd rfl hq
  | opened hpath hs => exact hsink.of_openFile hs
  | strayContent hnone => exact absurd hnone hq
  | written hfile hs => exact (hsink.of_write hs).trans (hp hq)
  | strayChecksum hnone => exact absurd hnone hq
  | verified => exact absurd rfl hq
  | mismatched => exact absurd rfl hq

theorem Received.holds (hsink : sink.HoldsOne isOpen) (h : Received sink dir p ps q) (hp : p.Holds isOpen) :
    q.Holds isOpen := by
  induction h with
  | nil => exact hp
  | cons ht _ ih => exact ih (ht.holds hsink hp)

/-- The last call was a write, and it failed. -/
def Engine.EndsUnwritten (g : Engine σ) : Prop := ∃ b, g.steps.back? = some ⟨.write b, true⟩

theorem endsUnwritten_called (g : Engine σ) (call : Call) (failed : Bool) (s : σ) :
    (g.called call failed s).EndsUnwritten ↔ (∃ b, call = .write b) ∧ failed = true := by
  unfold Engine.EndsUnwritten Engine.called
  rw [Array.back?_push]
  constructor
  · rintro ⟨b, h⟩
    obtain ⟨rfl, rfl⟩ := Step.mk.inj (Option.some.inj h)
    exact ⟨⟨b, rfl⟩, rfl⟩
  · rintro ⟨⟨b, rfl⟩, rfl⟩
    exact ⟨b, rfl⟩

/-- To close the sink lets go of the file, whether it succeeds or not. -/
theorem released_of_close (hsink : sink.HoldsOne isOpen) (g : Engine σ) :
    isOpen (g.after .close (sink.close g.store)).2.store = false ∧
      ¬ (g.after .close (sink.close g.store)).2.EndsUnwritten := by
  refine ⟨hsink.close g.store, fun h => ?_⟩
  obtain ⟨⟨b, hb⟩, -⟩ := (endsUnwritten_called g .close _ _).1 h
  cases hb

/-- A piece that ends a download leaves the file open if it could not be written, and only then. -/
theorem Took.isOpen_iff (hsink : sink.HoldsOne isOpen) (h : Took sink dir p piece (.error e) q)
    (hp : p.Holds isOpen) : isOpen q.engine.store = true ↔ q.engine.EndsUnwritten := by
  cases h with
  | @unopened name path f s hpath hs =>
    have hopen : isOpen s = false := hsink.of_openFile hs
    rw [endsUnwritten_called]
    show isOpen s = true ↔ _
    simp [hopen]
  | @unwritten b file f s hfile hs =>
    have hopen : isOpen s = true := (hsink.of_write hs).trans (hp (by simp [hfile]))
    rw [endsUnwritten_called]
    show isOpen s = true ↔ _
    simp [hopen]
  | @unclosed digits file f s hfile hs =>
    have hopen : isOpen s = false := hsink.of_close hs
    rw [endsUnwritten_called]
    show isOpen s = true ↔ _
    simp [hopen]

/-- **When a download lets go of its file.** For every sink that holds at most one file, wherever its calls fail, and
every stream: when a download returns, the sink holds a file if and only if the last call was a write that failed, and
then the download has failed. Every other way to end, with an outcome, a read error, a file that cannot be opened or one
that cannot be closed, leaves no file open. -/
theorem isOpen_iff_write_failed (sink : Sink σ) (isOpen : σ → Bool) (hsink : sink.HoldsOne isOpen) (dir : String)
    (stream : List (Except Error RestoreFrame)) (g : Engine σ) :
    let r := run sink dir stream g
    (isOpen r.2.store = true ↔ ∃ b, r.2.steps.back? = some ⟨.write b, true⟩) ∧
      ((∃ b, r.2.steps.back? = some ⟨.write b, true⟩) → ∃ path f, r.1 = .error (failedAt path f)) := by
  intro r
  have hstart : Progress.Holds isOpen { engine := g : Progress σ } := fun h => absurd rfl h
  have hwent : Went sink dir { engine := g } stream r.1 r.2 := frames_went sink dir stream { engine := g }
  generalize r.1 = outcome, r.2 = g' at hwent
  show (isOpen g'.store = true ↔ g'.EndsUnwritten) ∧ (g'.EndsUnwritten → _)
  cases hwent with
  | @finished fs q hq =>
    rw [snd_finish]
    obtain ⟨hclosed, hlast⟩ := released_of_close hsink q.engine
    exact ⟨by simp [hclosed, hlast], fun h => absurd h hlast⟩
  | @unread fs e rest q hq =>
    obtain ⟨hclosed, hlast⟩ := released_of_close hsink q.engine
    exact ⟨by simp [hclosed, hlast], fun h => absurd h hlast⟩
  | @failed fs f rest role piece q q' e hq hf ht =>
    refine ⟨ht.isOpen_iff hsink (hq.holds hsink hstart), fun _ => ?_⟩
    cases ht with
    | unopened | unwritten | unclosed => exact ⟨_, _, rfl⟩

/-- The second call, the write, fails halfway: the download fails and the file stays open. -/
theorem isOpen_iff_write_failed_disk_full :
    let mishaps : Nat → Option FileSink.Mishap := fun n => if n = 1 then some ⟨.other "disk full", id⟩ else none
    let stream : List (Except Error RestoreFrame) :=
      [.ok (.ofPiece .main (.name "a")), .ok (.ofPiece .main (.content ⟨#[120]⟩)),
        .ok (.ofPiece .main (.checksum "9DD4E461268C8034F5C8564E155C67A6"))]
    let r := run (FileSink.unreliable mishaps) "out" stream { store := ⟨⟨.ofWork .root, none⟩, 0⟩ }
    (FileSink.unreliable mishaps).HoldsOne (·.sink.file.isSome) ∧ r.2.store.sink.file.isSome = true ∧
      ∃ path f, r.1 = .error (failedAt path f) := by
  intro mishaps stream r
  have hsink := FileSink.holdsOne_unreliable mishaps
  obtain ⟨hopen, hfailed⟩ := isOpen_iff_write_failed _ _ hsink "out" stream { store := ⟨⟨.ofWork .root, none⟩, 0⟩ }
  have hlast : ∃ b, r.2.steps.back? = some ⟨.write b, true⟩ := ⟨⟨#[120]⟩, by decide +kernel⟩
  exact ⟨hsink, hopen.2 hlast, hfailed hlast⟩

/-- Not every download lets go of its file. -/
theorem not_forall_released :
    ¬ ∀ (mishaps : Nat → Option FileSink.Mishap) (dir : String) (stream : List (Except Error RestoreFrame)) (t : Tree),
      (run (FileSink.unreliable mishaps) dir stream { store := ⟨⟨t, none⟩, 0⟩ }).2.store.sink.file = none := by
  intro h
  let mishaps : Nat → Option FileSink.Mishap := fun n => if n = 1 then some ⟨.other "disk full", id⟩ else none
  let stream : List (Except Error RestoreFrame) :=
    [.ok (.ofPiece .main (.name "a")), .ok (.ofPiece .main (.content ⟨#[120]⟩))]
  have hclosed := h mishaps "out" stream (.ofWork .root)
  have hopen : (run (FileSink.unreliable mishaps) "out" stream
      { store := ⟨⟨.ofWork .root, none⟩, 0⟩ }).2.store.sink.file.isSome = true := by decide +kernel
  rw [hclosed] at hopen
  cases hopen

end Custodian.Download
