import Custodian.Proofs.Endings
import Custodian.Proofs.Upload

/-!
# Nothing is carried over from one transfer to the next

* `Upload.Ignores` : steps of an upload to which the digest that they begin with makes no difference; one lemma for each
  step, and `run_ignores` for a whole upload;
* `Download.Alike` : two downloads, of which one uses a sink whose calls may go wrong; `Alike.take`, `Alike.frames` : as
  long as no call does, they go the same way; `run_eq_anew` : a download goes as one by a new engine does;
* `nothing_carried_over` : both, after any history.
-/

namespace Custodian

set_option autoImplicit false

/-! ## Uploads -/

namespace Upload

/-- Two uploads that differ in nothing but the digest. -/
def Progress.SameCall (p q : Progress) : Prop := p.call = q.call ∧ p.steps = q.steps

/-- The digest that these steps begin with makes no difference to what they do, except to the digest that they leave. -/
def Ignores {α : Type} (x : Run α) : Prop :=
  ∀ p q, p.SameCall q → (x p).1 = (x q).1 ∧ (x p).2.SameCall (x q).2

variable {α β : Type} {x : Run α}

theorem Ignores.bind {f : α → Run β} (hx : Ignores x) (hf : ∀ a, Ignores (f a)) : Ignores (x >>= f) := by
  intro p q h
  obtain ⟨hr, hs⟩ := hx p q h
  rw [run_bind, run_bind]
  generalize x p = r, x q = r' at hr hs
  obtain ⟨e | a, p'⟩ := r
  · obtain ⟨e', q'⟩ := r'
    obtain rfl : Except.error e = e' := hr
    exact ⟨rfl, hs⟩
  · obtain ⟨a', q'⟩ := r'
    obtain rfl : Except.ok a = a' := hr
    exact hf a p' q' hs

theorem Ignores.throw (e : Halt) : Ignores (throw e : Run α) := fun _ _ h => ⟨rfl, h⟩

theorem Ignores.pure (a : α) : Ignores (pure a : Run α) := fun _ _ h => ⟨rfl, h⟩

/-- After the digest is set to a value of its own, there is no difference any more. -/
theorem Ignores.of_reset {step : Step} {d : Digest} (f : Unit → Run α) :
    Ignores (note step (fun _ => d) >>= f) := by
  intro p q h
  have hsame : note step (fun _ => d) p = note step (fun _ => d) q := by
    show (Except.ok (), { p with steps := p.steps.push step, digest := d }) =
      (Except.ok (), { q with steps := q.steps.push step, digest := d })
    rw [h.1, h.2]
  rw [run_bind, run_bind, hsame]
  exact ⟨rfl, rfl, rfl⟩

theorem ignores_consult (supply : Supply) (step : Step) : Ignores (consult supply step) := by
  intro p q h
  refine ⟨rfl, ?_, ?_⟩
  · show (if supply.slow then p.call.turn.pause else p.call.turn) =
      if supply.slow then q.call.turn.pause else q.call.turn
    rw [h.1]
  · show p.steps.push step = q.steps.push step
    rw [h.2]

theorem ignores_send (f : BackupFrame) : Ignores (send f) := by
  intro p q h
  unfold send
  rw [h.1]
  exact ⟨rfl, rfl, h.2⟩

theorem ignores_finish (path : String) : Ignores (finish path) := by
  intro p q h
  unfold finish
  rw [h.1]
  rcases q.call.finish with ⟨e | u, c⟩
  · exact ⟨rfl, rfl, h.2⟩
  · exact ⟨rfl, rfl, h.2⟩

theorem Ignores.concerning {path : String} {x : Run Unit} (hx : Ignores x) : Ignores (concerning path x) := by
  intro p q h
  obtain ⟨hr, hs⟩ := hx p q h
  unfold Upload.concerning
  generalize x p = r, x q = r' at hr hs
  obtain ⟨e, p'⟩ := r
  obtain ⟨e', q'⟩ := r'
  obtain rfl : e = e' := hr
  rcases e with (e | _) | u
  · dsimp only
    rw [show p'.call = q'.call from hs.1]
    exact ⟨rfl, rfl, hs.2⟩
  · dsimp only
    rw [show p'.call = q'.call from hs.1]
    exact ⟨rfl, rfl, hs.2⟩
  · exact ⟨rfl, hs⟩

/-- A file is opened with what an earlier one has left in the digest, which is emptied before the first chunk. -/
theorem ignores_sendFile (supply : Supply) (role : FileRole) (path : String) : Ignores (sendFile supply role path) := by
  unfold sendFile
  apply (ignores_consult supply _).bind
  intro _
  cases supply.source path with
  | error f => exact .throw _
  | ok r => exact .of_reset _

theorem ignores_sendFiles (supply : Supply) (files : List (FileRole × String)) : Ignores (sendFiles supply files) := by
  induction files with
  | nil => exact .pure ()
  | cons f fs ih =>
    unfold sendFiles
    apply (ignores_sendFile supply f.1 f.2).concerning.bind
    exact fun _ => ih

theorem ignores_transfer (supply : Supply) (f : BackupFragment) (agentId backupName : String) :
    Ignores (transfer supply f agentId backupName) := by
  unfold transfer
  apply (ignores_send _).concerning.bind
  intro _
  apply (ignores_sendFiles supply f.files).bind
  intro _
  exact ignores_finish f.path

/-- What an upload is given: where its files come from, what it sends and to whom. -/
structure Transfer where
  supply : Supply
  fragment : BackupFragment
  agentId : String
  backupName : String
  plan : CallPlan

/-- Does an upload, with the digest that an earlier one left. -/
def Transfer.run (x : Transfer) (digest : Digest) : Except Halt Unit × Progress :=
  Upload.run x.supply x.fragment x.agentId x.backupName x.plan digest

/-- The digest that uploads leave, one after another from an empty one. -/
def digestAfter (history : List Transfer) : Digest := history.foldl (fun d x => (x.run d).2.digest) .empty

/-- An upload does not depend on the digest it begins with. -/
theorem Transfer.run_ignores (x : Transfer) (d d' : Digest) :
    (x.run d).1 = (x.run d').1 ∧ (x.run d).2.call = (x.run d').2.call ∧ (x.run d).2.steps = (x.run d').2.steps :=
  ignores_transfer x.supply x.fragment x.agentId x.backupName _ _ ⟨rfl, rfl⟩

end Upload

/-! ## Downloads -/

namespace Download

open FileSink (Mishap Counted unreliable)

/-- Two downloads that have come equally far, with the same tree. While a file is being received, the files that are
open agree as well, and so do the digests. -/
structure Alike (p : Progress Counted) (q : Progress FileSink) : Prop where
  current : p.current = q.current
  outcome : p.outcome = q.outcome
  tree : p.engine.store.sink.tree = q.engine.store.tree
  open_eq : p.current ≠ none → p.engine.store.sink = q.engine.store ∧ p.engine.digest = q.engine.digest

variable {mishaps : Nat → Option Mishap} {dir : String} {p p' : Progress Counted} {q : Progress FileSink}
  {piece : Piece}

theorem openFile_congr {s t : FileSink} (h : s.tree = t.tree) (path : String) :
    FileSink.openFile path s = FileSink.openFile path t := by
  unfold FileSink.openFile
  rw [h]

theorem takeChecksum_received {file : Current} {digits : String} (h : q.current = some file) :
    takeChecksum FileSink.sink digits q =
      let g := (q.engine.note (.checksum q.engine.digest.text) .empty).called .close false q.engine.store.close
      if q.engine.digest.text = digits then
        (.ok (), ⟨g, none, { q.outcome with verified := q.outcome.verified + 1 }⟩)
      else
        (.ok (), ⟨(g.after (.remove file.path) (FileSink.remove file.path g.store)).2, none,
          { q.outcome with mismatched := q.outcome.mismatched ++ [file.name] }⟩) := by
  unfold takeChecksum
  rw [h]
  rfl

/-- What a piece does without a fault, it does in both. -/
theorem Alike.take (h : Alike p q) (ht : Took (unreliable mishaps) dir p piece (.ok ()) p')
    (hf : p'.engine.Faultless) : ∃ q', take FileSink.sink dir piece q = (.ok (), q') ∧ Alike p' q' := by
  cases ht with
  | @rejected name hpath =>
    refine ⟨{ q with
      current := none
      outcome := { q.outcome with rejected := q.outcome.rejected ++ [name] } }, ?_, rfl, ?_, h.tree, ?_⟩
    · simp only [Download.take, takeName, hpath]
    · rw [h.outcome]
    · exact fun hnone => absurd rfl hnone
  | @opened name path s hpath hs =>
    -- the reset makes the digests agree, and a new file the sinks
    have hopen : FileSink.sink.openFile path q.engine.store = (.ok (), s.sink) :=
      (openFile_congr h.tree.symm path).trans (FileSink.call_ok hs)
    refine ⟨{ q with
      engine := (q.engine.called (.openFile path) false s.sink).note .reset .empty
      current := some ⟨name, path⟩ }, ?_, rfl, h.outcome, rfl, fun _ => ⟨rfl, rfl⟩⟩
    simp only [Download.take, takeName, hpath, hopen]
    rfl
  | strayContent hnone =>
    refine ⟨q, ?_, h⟩
    simp only [Download.take, takeContent, ← h.current, hnone]
  | @written b file s hfile hs =>
    obtain ⟨hsink, hdigest⟩ := h.open_eq (by simp [hfile])
    have hwrite : FileSink.sink.write b q.engine.store = (.ok (), s.sink) := by
      rw [← hsink]
      exact FileSink.call_ok hs
    refine ⟨{ q with engine := (q.engine.called (.write b) false s.sink).note (.update b) (q.engine.digest.update b) },
      ?_, h.current, h.outcome, rfl, fun _ => ⟨rfl, ?_⟩⟩
    · simp only [Download.take, takeContent, ← h.current, hfile, hwrite]
      rfl
    · exact congrArg (·.update b) hdigest
  | @strayChecksum digits hnone =>
    -- what is left in the digest shows only here, in a value that is not looked at
    refine ⟨{ q with engine := q.engine.note (.checksum q.engine.digest.text) .empty }, ?_, h.current, h.outcome,
      h.tree, fun hsome => absurd hnone hsome⟩
    simp only [Download.take, takeChecksum, ← h.current, hnone]
  | @verified digits file s hfile hs hdigits =>
    obtain ⟨hsink, hdigest⟩ := h.open_eq (by simp [hfile])
    have hclosed := FileSink.close_ok hs
    refine ⟨_, (takeChecksum_received (h.current.symm.trans hfile)).trans (if_pos (hdigest ▸ hdigits)), rfl, ?_, ?_,
      fun hnone => absurd rfl hnone⟩
    · rw [h.outcome]
    · show s.sink.tree = q.engine.store.close.tree
      rw [hclosed, hsink]
  | @mismatched digits file s s' r hfile hs hdigits hr =>
    obtain ⟨hsink, hdigest⟩ := h.open_eq (by simp [hfile])
    have hclosed := FileSink.close_ok hs
    -- a removal that failed would have been noted
    obtain rfl : r = .ok () := by
      cases r with
      | error f => simp [Except.isOk, Except.toBool] at hf
      | ok u => rfl
    have hremove : FileSink.remove file.path q.engine.store.close = (.ok (), s'.sink) := by
      rw [← hsink, ← hclosed]
      exact FileSink.call_ok hr
    refine ⟨_, (takeChecksum_received (h.current.symm.trans hfile)).trans (if_neg (hdigest ▸ hdigits)), rfl, ?_, ?_,
      fun hnone => absurd rfl hnone⟩
    · rw [h.outcome]
    · show s'.sink.tree = (FileSink.remove file.path q.engine.store.close).2.tree
      rw [hremove]

theorem finish_unreliable (hf : (finish (unreliable mishaps) p).2.Faultless) :
    (finish (unreliable mishaps) p).1 = .ok p.outcome ∧
      (finish (unreliable mishaps) p).2.store.sink.tree = p.engine.store.sink.tree := by
  rcases hs : (unreliable mishaps).close p.engine.store with ⟨f | ⟨⟨⟩⟩, s⟩
  · rw [snd_finish, after_eq_called, hs, faultless_called] at hf
    simp [Except.isOk, Except.toBool] at hf
  · unfold finish
    rw [after_eq_called, hs]
    refine ⟨rfl, ?_⟩
    show s.sink.tree = p.engine.store.sink.tree
    rw [FileSink.close_ok hs]
    rfl

/-- What the frames of a stream do without a fault, they do in both. -/
theorem Alike.frames {stream : List (Except Error RestoreFrame)} (h : Alike p q)
    (hf : (frames (unreliable mishaps) dir stream p).2.Faultless) :
    (frames (unreliable mishaps) dir stream p).1 = (frames FileSink.sink dir stream q).1 ∧
      (frames (unreliable mishaps) dir stream p).2.store.sink.tree = (frames FileSink.sink dir stream q).2.store.tree := by
  induction stream generalizing p q with
  | nil =>
    obtain ⟨hr, ht⟩ := finish_unreliable hf
    exact ⟨hr.trans (congrArg Except.ok h.outcome), ht.trans h.tree⟩
  | cons i rest ih =>
    cases i with
    | error e =>
      -- the sink is closed as at the end of a stream
      have hend : (finish (unreliable mishaps) p).2.Faultless := by
        rw [snd_finish]
        exact hf
      obtain ⟨-, ht⟩ := finish_unreliable hend
      rw [snd_finish] at ht
      exact ⟨rfl, ht.trans h.tree⟩
    | ok f =>
      unfold Download.frames at hf ⊢
      cases hpiece : f.piece? with
      | none =>
        rw [hpiece] at hf
        exact ih h hf
      | some rp =>
        rw [hpiece] at hf
        have ht := take_took (unreliable mishaps) dir rp.2 p
        dsimp only at hf ⊢
        generalize Download.take (unreliable mishaps) dir rp.2 p = r at hf ht ⊢
        obtain ⟨e | ⟨⟨⟩⟩, p'⟩ := r
        · exact absurd hf ht.not_faultless
        · have hp' : p'.engine.Faultless := (frames_went _ dir rest p').faultless hf
          obtain ⟨q', hq, h'⟩ := h.take ht hp'
          rw [hq]
          exact ih h' hf

/-- A download on which no call fails goes as one by a new engine does on the same tree, whatever was left in the sink and
in the digest. -/
theorem run_eq_anew {stream : List (Except Error RestoreFrame)} {g : Engine Counted}
    (hf : (run (unreliable mishaps) dir stream g).2.Faultless) :
    (run (unreliable mishaps) dir stream g).1 = (run FileSink.sink dir stream { store := ⟨g.store.sink.tree, none⟩ }).1 ∧
      (run (unreliable mishaps) dir stream g).2.store.sink.tree =
        (run FileSink.sink dir stream { store := ⟨g.store.sink.tree, none⟩ }).2.store.tree := by
  have hstart : Alike { engine := g } { engine := { store := ⟨g.store.sink.tree, none⟩ } } :=
    ⟨rfl, rfl, rfl, fun hnone => absurd rfl hnone⟩
  exact hstart.frames hf

/-- What is left of an engine that has had a history of downloads, each a directory and a stream, from a new one on a
tree. Its notes begin anew. -/
def engineAfter (mishaps : Nat → Option Mishap) (history : List (String × List (Except Error RestoreFrame)))
    (t : Tree) : Engine Counted :=
  history.foldl (fun g d => { (run (unreliable mishaps) d.1 d.2 g).2 with steps := #[] }) { store := ⟨⟨t, none⟩, 0⟩ }

end Download

/-- **Nothing is carried over.** However earlier uploads by an engine went, the next one ends as it does by a new engine,
its call takes the same frames, and it makes the same calls. However earlier downloads by an engine went, wherever their
calls to the sink went wrong, the next one on which no call does has the outcome that a new engine has on the tree they
left, and it leaves the same tree. -/
theorem nothing_carried_over :
    (∀ (history : List Upload.Transfer) (next : Upload.Transfer),
      let reused := next.run (Upload.digestAfter history)
      let fresh := next.run .empty
      reused.1 = fresh.1 ∧ reused.2.call = fresh.2.call ∧ reused.2.steps = fresh.2.steps) ∧
    ∀ (mishaps : Nat → Option FileSink.Mishap) (history : List (String × List (Except Error RestoreFrame))) (t : Tree)
      (dir : String) (stream : List (Except Error RestoreFrame)),
      let left := Download.engineAfter mishaps history t
      let reused := Download.run (FileSink.unreliable mishaps) dir stream left
      let fresh := Download.run FileSink.sink dir stream { store := ⟨left.store.sink.tree, none⟩ }
      reused.2.Faultless → reused.1 = fresh.1 ∧ reused.2.store.sink.tree = fresh.2.store.tree := by
  refine ⟨fun history next => next.run_ignores _ _, ?_⟩
  intro mishaps history t dir stream left reused fresh hf
  exact Download.run_eq_anew hf

/-- The third call, a write, fails and leaves a file open and bytes in the digest. The next download begins with pieces
that belong to no file. -/
theorem nothing_carried_over_disk_full :
    let mishaps : Nat → Option FileSink.Mishap := fun n => if n = 2 then some ⟨.other "disk full", id⟩ else none
    let history : List (String × List (Except Error RestoreFrame)) :=
      [("out", [.ok (.ofPiece .main (.name "a")), .ok (.ofPiece .main (.content ⟨#[120]⟩)),
        .ok (.ofPiece .main (.content ⟨#[121]⟩))])]
    let stream : List (Except Error RestoreFrame) :=
      [.ok (.ofPiece .main (.content ⟨#[122]⟩)), .ok (.ofPiece .main (.checksum "no")),
        .ok (.ofPiece .main (.name "b")), .ok (.ofPiece .main (.content ⟨#[120]⟩)),
        .ok (.ofPiece .main (.checksum "9DD4E461268C8034F5C8564E155C67A6"))]
    let left := Download.engineAfter mishaps history (.ofWork .root)
    let reused := Download.run (FileSink.unreliable mishaps) "out" stream left
    let fresh := Download.run FileSink.sink "out" stream { store := ⟨left.store.sink.tree, none⟩ }
    left.store.sink.file.isSome = true ∧ left.digest.text = "9DD4E461268C8034F5C8564E155C67A6" ∧
      reused.2.Faultless ∧ reused.1 = fresh.1 ∧ reused.2.store.sink.tree = fresh.2.store.tree ∧
      fresh.1 = .ok { verified := 1 } ∧ fresh.2.store.tree.readFile "out/b" = .ok ⟨#[120]⟩ := by
  intro mishaps history stream left reused fresh
  have hf : reused.2.Faultless := by decide +kernel
  obtain ⟨hr, ht⟩ := nothing_carried_over.2 mishaps history (.ofWork .root) "out" stream hf
  refine ⟨by decide +kernel, by decide +kernel, hf, hr, ?_, by decide +kernel, by decide +kernel⟩
  unfold reused fresh left
  exact ht

end Custodian
