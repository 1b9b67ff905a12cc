import Custodian.Download
import Mathlib.Tactic

/-!
# How a download goes

* `Download.Took` : what one piece can do, a case for each way through; `take_took` : there are no others;
* `Download.Received` : pieces that were all taken in, one after the other;
* `Download.Went` : how a whole stream can go; `frames_went` : there are no other ways;
* `received_of_faultless` : a stream without read errors on which no call fails is received to its end.
-/

namespace Custodian.Download

set_option autoImplicit false

variable {σ : Type}

/-- The pieces of a stream, in order. What could not be read and frames without a piece yield none. -/
def pieces (stream : List (Except Error RestoreFrame)) : List Piece :=
  stream.filterMap fun
    | .ok f => f.piece?.map (·.2)
    | .error _ => none

@[simp] theorem pieces_nil : pieces [] = [] := rfl

theorem pieces_cons_ok (f : RestoreFrame) (rest : List (Except Error RestoreFrame)) :
    pieces (.ok f :: rest) = (f.piece?.map (·.2)).toList ++ pieces rest := by
  cases h : f.piece? <;> simp [pieces, h]

/-! ## One piece -/

/-- An engine after a call that left a store. -/
def Engine.called (g : Engine σ) (call : Call) (failed : Bool) (store : σ) : Engine σ :=
  { g with store := store, steps := g.steps.push ⟨call, failed⟩ }

theorem after_eq_called (g : Engine σ) (call : Call) (r : Except Fault Unit × σ) :
    g.after call r = (r.1, g.called call (!r.1.isOk) r.2) := rfl

/-- What a piece does to a download. -/
inductive Took (sink : Sink σ) (dir : String) (p : Progress σ) : Piece → Except Error Unit → Progress σ → Prop
  /-- A name that leads nowhere gives up the file before. -/
  | rejected {name : String} (h : restorePath? dir name = none) :
    Took sink dir p (.name name) (.ok ())
      { p with current := none, outcome := { p.outcome with rejected := p.outcome.rejected ++ [name] } }
  | unopened {name path : String} {f : Fault} {s : σ} (h : restorePath? dir name = some path)
    (hs : sink.openFile path p.engine.store = (.error f, s)) :
    Took sink dir p (.name name) (.error (failedAt path f)) { p with engine := p.engine.called (.openFile path) true s }
  /-- A new file begins, with a new digest. -/
  | opened {name path : String} {s : σ} (h : restorePath? dir name = some path)
    (hs : sink.openFile path p.engine.store = (.ok (), s)) :
    Took sink dir p (.name name) (.ok ())
      { p with
        engine := (p.engine.called (.openFile path) false s).note .reset .empty
        current := some ⟨name, path⟩ }
  | strayContent {b : ByteArray} (h : p.current = none) : Took sink dir p (.content b) (.ok ()) p
  | unwritten {b : ByteArray} {file : Current} {f : Fault} {s : σ} (h : p.current = some file)
    (hs : sink.write b p.engine.store = (.error f, s)) :
    Took sink dir p (.content b) (.error (failedAt file.path f)) { p with engine := p.engine.called (.write b) true s }
  /-- The file and its digest take the bytes in. -/
  | written {b : ByteArray} {file : Current} {s : σ} (h : p.current = some file)
    (hs : sink.write b p.engine.store = (.ok (), s)) :
    Took sink dir p (.content b) (.ok ())
      { p with engine := (p.engine.called (.write b) false s).note (.update b) (p.engine.digest.update b) }
  | strayChecksum {digits : String} (h : p.current = none) :
    Took sink dir p (.checksum digits) (.ok ())
      { p with engine := p.engine.note (.checksum p.engine.digest.text) .empty }
  | unclosed {digits : String} {file : Current} {f : Fault} {s : σ} (h : p.current = some file)
    (hs : sink.close p.engine.store = (.error f, s)) :
    Took sink dir p (.checksum digits) (.error (failedAt file.path f))
      { p with
        engine := (p.engine.note (.checksum p.engine.digest.text) .empty).called .close true s
        current := none }
  /-- The digests agree. -/
  | verified {digits : String} {file : Current} {s : σ} (h : p.current = some file)
    (hs : sink.close p.engine.store = (.ok (), s)) (hd : p.engine.digest.text = digits) :
    Took sink dir p (.checksum digits) (.ok ())
      ⟨(p.engine.note (.checksum p.engine.digest.text) .empty).called .close false s, none,
        { p.outcome with verified := p.outcome.verified + 1 }⟩
  /-- The digests differ: the file is removed, or at least that is tried. -/
  | mismatched {digits : String} {file : Current} {s s' : σ} {r : Except Fault Unit} (h : p.current = some file)
    (hs : sink.close p.engine.store = (.ok (), s)) (hd : p.engine.digest.text ≠ digits)
    (hr : sink.remove file.path s = (r, s')) :
    Took sink dir p (.checksum digits) (.ok ())
      ⟨((p.engine.note (.checksum p.engine.digest.text) .empty).called .close false s).called (.remove file.path)
          (!r.isOk) s', none, { p.outcome with mismatched := p.outcome.mismatched ++ [file.name] }⟩

theorem take_took (sink : Sink σ) (dir : String) (piece : Piece) (p : Progress σ) :
    Took sink dir p piece (take sink dir piece p).1 (take sink dir piece p).2 := by
  cases piece with
  | name name =>
    simp only [take, takeName]
    split
    · exact .rejected ‹_›
    · rename_i path hp
      rcases ho : sink.openFile path p.engine.store with ⟨_ | ⟨⟨⟩⟩, s⟩
      · exact .unopened hp ho
      · exact .opened hp ho
  | content b =>
    simp only [take, takeContent]
    split
    · exact .strayContent ‹_›
    · rename_i file hf
      rcases hw : sink.write b p.engine.store with ⟨_ | ⟨⟨⟩⟩, s⟩
      · exact .unwritten hf hw
      · exact .written hf hw
  | checksum digits =>
    simp only [take, takeChecksum]
    split
    · exact .strayChecksum ‹_›
    · rename_i file hf
      rcases hc : sink.close p.engine.store with ⟨_ | ⟨⟨⟩⟩, s⟩
      · simp only [Engine.note, hc]
        exact .unclosed hf hc
      · simp only [Engine.note, hc, Engine.after]
        split_ifs with hd
        · exact .verified hf hc hd
        · exact .mismatched hf hc hd rfl

/-! ## A stream -/

/-- Pieces that were all taken in. -/
inductive Received (sink : Sink σ) (dir : String) : Progress σ → List Piece → Progress σ → Prop
  | nil (p : Progress σ) : Received sink dir p [] p
  | cons {p q r : Progress σ} {piece : Piece} {ps : List Piece} (h : Took sink dir p piece (.ok ()) q)
    (hs : Received sink dir q ps r) : Received sink dir p (piece :: ps) r

/-- How a stream goes. -/
inductive Went (sink : Sink σ) (dir : String) (p : Progress σ) : List (Except Error RestoreFrame) →
    Except Error Outcome → Engine σ → Prop
  /-- To its end. -/
  | finished (fs : List RestoreFrame) {q : Progress σ} (h : Received sink dir p (pieces (fs.map .ok)) q) :
    Went sink dir p (fs.map .ok) (finish sink q).1 (finish sink q).2
  /-- Up to a frame that cannot be read. -/
  | unread (fs : List RestoreFrame) {e : Error} {rest : List (Except Error RestoreFrame)} {q : Progress σ}
    (h : Received sink dir p (pieces (fs.map .ok)) q) :
    Went sink dir p (fs.map .ok ++ .error e :: rest) (.error (.downloadFailed e.message))
      (q.engine.after .close (sink.close q.engine.store)).2
  /-- Up to a piece over which a call fails. -/
  | failed (fs : List RestoreFrame) {f : RestoreFrame} {rest : List (Except Error RestoreFrame)} {role : FileRole}
    {piece : Piece} {q q' : Progress σ} {e : Error} (h : Received sink dir p (pieces (fs.map .ok)) q)
    (hf : f.piece? = some (role, piece)) (ht : Took sink dir q piece (.error e) q') :
    Went sink dir p (fs.map .ok ++ .ok f :: rest) (.error e) q'.engine

variable {sink : Sink σ} {dir : String} {p q : Progress σ} {piece : Piece} {ps : List Piece}
  {stream : List (Except Error RestoreFrame)} {r : Except Error Outcome} {g : Engine σ}

theorem Went.skip {f : RestoreFrame} (hf : f.piece? = none) (h : Went sink dir p stream r g) :
    Went sink dir p (.ok f :: stream) r g := by
  have hp (fs : List RestoreFrame) : pieces ((f :: fs).map .ok) = pieces (fs.map .ok) := by
    simp [pieces_cons_ok, hf]
  cases h with
  | @finished fs q h => exact Went.finished (f :: fs) (hp fs ▸ h)
  | @unread fs e rest q h => exact Went.unread (f :: fs) (hp fs ▸ h)
  | @failed fs f' rest role piece q q' e h hf' ht => exact Went.failed (f :: fs) (hp fs ▸ h) hf' ht

theorem Went.next {f : RestoreFrame} {role : FileRole} (hf : f.piece? = some (role, piece))
    (ht : Took sink dir p piece (.ok ()) q) (h : Went sink dir q stream r g) :
    Went sink dir p (.ok f :: stream) r g := by
  have hp (fs : List RestoreFrame) : pieces ((f :: fs).map .ok) = piece :: pieces (fs.map .ok) := by
    simp [pieces_cons_ok, hf]
  cases h with
  | @finished fs q h => exact Went.finished (f :: fs) (hp fs ▸ .cons ht h)
  | @unread fs e rest q h => exact Went.unread (f :: fs) (hp fs ▸ .cons ht h)
  | @failed fs f' rest role' piece' q q' e h hf' ht' => exact Went.failed (f :: fs) (hp fs ▸ .cons ht h) hf' ht'

/-- Every stream goes in one of these ways. -/
theorem frames_went (sink : Sink σ) (dir : String) (stream : List (Except Error RestoreFrame)) (p : Progress σ) :
    Went sink dir p stream (frames sink dir stream p).1 (frames sink dir stream p).2 := by
  induction stream generalizing p with
  | nil => exact .finished [] (.nil p)
  | cons i rest ih =>
    cases i with
    | error e => exact .unread [] (.nil p)
    | ok f =>
      cases hf : f.piece? with
      | none =>
        rw [show frames sink dir (.ok f :: rest) p = frames sink dir rest p by simp only [frames, hf]]
        exact (ih p).skip hf
      | some rp =>
        obtain ⟨role, piece⟩ := rp
        have ht := take_took sink dir piece p
        rcases hq : take sink dir piece p with ⟨e | ⟨⟨⟩⟩, q⟩
        · rw [hq] at ht
          rw [show frames sink dir (.ok f :: rest) p = (.error e, q.engine) by simp only [frames, hf, hq]]
          exact .failed [] (.nil p) hf ht
        · rw [hq] at ht
          rw [show frames sink dir (.ok f :: rest) p = frames sink dir rest q by simp only [frames, hf, hq]]
          exact (ih q).next hf ht

/-! ## Without faults -/

/-- No call has failed. -/
def Engine.Faultless (g : Engine σ) : Prop := ∀ st ∈ g.steps, st.failed = false

instance (g : Engine σ) : Decidable g.Faultless := inferInstanceAs (Decidable (∀ st ∈ g.steps, st.failed = false))

@[simp] theorem faultless_called {call : Call} {failed : Bool} {s : σ} :
    (g.called call failed s).Faultless ↔ g.Faultless ∧ failed = false := by
  simp [Engine.Faultless, Engine.called, or_imp, forall_and]

@[simp] theorem faultless_note {call : Call} {d : Digest} : (g.note call d).Faultless ↔ g.Faultless := by
  simp [Engine.Faultless, Engine.note, or_imp, forall_and]

theorem Took.faultless {e : Except Error Unit} (h : Took sink dir p piece e q) (hq : q.engine.Faultless) :
    p.engine.Faultless := by
  cases h <;> simp_all

theorem Took.not_faultless {e : Error} (h : Took sink dir p piece (.error e) q) : ¬ q.engine.Faultless := by
  cases h <;> simp

theorem Received.faultless (h : Received sink dir p ps q) (hq : q.engine.Faultless) : p.engine.Faultless := by
  induction h with
  | nil => exact hq
  | cons ht _ ih => exact ht.faultless (ih hq)

theorem snd_finish (sink : Sink σ) (p : Progress σ) :
    (finish sink p).2 = (p.engine.after .close (sink.close p.engine.store)).2 := by
  unfold finish
  split <;> rename_i h <;> rw [h]

theorem Went.faultless (h : Went sink dir p stream r g) (hg : g.Faultless) : p.engine.Faultless := by
  cases h with
  | finished fs hr =>
    rw [snd_finish, after_eq_called, faultless_called] at hg
    exact hr.faultless hg.1
  | unread fs hr =>
    rw [after_eq_called, faultless_called] at hg
    exact hr.faultless hg.1
  | failed fs hr hf ht => exact absurd hg ht.not_faultless

/-- A stream that can be read and on which no call fails is received to its end. -/
theorem received_of_faultless (fs : List RestoreFrame) (h : (frames sink dir (fs.map .ok) p).2.Faultless) :
    ∃ q s, Received sink dir p (pieces (fs.map .ok)) q ∧ q.engine.Faultless ∧
      sink.close q.engine.store = (.ok (), s) ∧
      frames sink dir (fs.map .ok) p = (.ok q.outcome, q.engine.called .close false s) := by
  have hw := frames_went sink dir (fs.map .ok) p
  -- of the ways a stream can go, one needs a frame that cannot be read and one a call that fails
  generalize hx : fs.map Except.ok = stream at hw h ⊢
  generalize hr : (frames sink dir stream p).1 = r at hw
  generalize hg : (frames sink dir stream p).2 = g at hw h
  cases hw with
  | @finished fs' q hq =>
    rcases hc : sink.close q.engine.store with ⟨_ | ⟨⟨⟩⟩, s⟩
    · simp only [finish, after_eq_called, hc, faultless_called] at h
      exact absurd h.2 (by simp [Except.isOk, Except.toBool])
    · have hfin : finish sink q = (.ok q.outcome, q.engine.called .close false s) := by
        simp only [finish, after_eq_called, hc]
        rfl
      rw [hfin] at h hr hg
      exact ⟨q, s, hq, (faultless_called.1 h).1, hc, Prod.ext hr hg⟩
  | @unread fs' e =>
    have he : Except.error e ∈ fs.map Except.ok := hx ▸ by simp
    simp at he
  | failed _ _ _ ht => exact absurd h ht.not_faultless

/-! ## With nothing discarded -/

/-- A file is only noted as discarded after its removal was tried, and a removal is the one call that may fail. -/
theorem Took.faultless_of_mismatched_nil (h : Took sink dir p piece (.ok ()) q) (hq : q.outcome.mismatched = []) :
    p.outcome.mismatched = [] ∧ (p.engine.Faultless → q.engine.Faultless) := by
  cases h <;> simp_all

theorem Received.faultless_of_mismatched_nil (h : Received sink dir p ps q) (hq : q.outcome.mismatched = []) :
    p.outcome.mismatched = [] ∧ (p.engine.Faultless → q.engine.Faultless) := by
  induction h with
  | nil => exact ⟨hq, id⟩
  | cons ht _ ih =>
    obtain ⟨hm, hf⟩ := ih hq
    obtain ⟨hm', hf'⟩ := ht.faultless_of_mismatched_nil hm
    exact ⟨hm', hf ∘ hf'⟩

/-- A download with an outcome has read its stream to the end; if no file was discarded, no call has failed. -/
theorem faultless_of_frames_ok {o : Outcome} (h : (frames sink dir stream p).1 = .ok o) (hp : p.engine.Faultless)
    (hm : o.mismatched = []) :
    (∃ fs : List RestoreFrame, stream = fs.map .ok) ∧ (frames sink dir stream p).2.Faultless := by
  have hw := frames_went sink dir stream p
  generalize (frames sink dir stream p).1 = r at hw h
  generalize (frames sink dir stream p).2 = g at hw
  cases hw with
  | @finished fs q hq =>
    refine ⟨⟨fs, rfl⟩, ?_⟩
    rcases hc : sink.close q.engine.store with ⟨_ | ⟨⟨⟩⟩, s⟩
    · simp [finish, after_eq_called, hc] at h
    · simp only [finish, after_eq_called, hc, Except.ok.injEq] at h ⊢
      subst h
      rw [faultless_called]
      exact ⟨(hq.faultless_of_mismatched_nil hm).2 hp, rfl⟩
  | unread => cases h
  | failed => cases h

/-! ## What was opened -/

/-- The path that a call opens. -/
def Call.opened? : Call → Option String
  | .openFile path => some path
  | _ => none

/-- The paths that were opened, in order. -/
def Engine.opened (g : Engine σ) : List String := g.steps.toList.filterMap (·.call.opened?)

@[simp] theorem opened_called {call : Call} {failed : Bool} {s : σ} :
    (g.called call failed s).opened = g.opened ++ call.opened?.toList := by
  cases hc : call.opened? <;> simp [Engine.opened, Engine.called, hc]

@[simp] theorem opened_note {call : Call} {d : Digest} :
    (g.note call d).opened = g.opened ++ call.opened?.toList := by
  cases hc : call.opened? <;> simp [Engine.opened, Engine.note, hc]

/-- The path that a piece opens. -/
def pathOf? (dir : String) : Piece → Option String
  | .name n => restorePath? dir n
  | _ => none

theorem Took.opened_eq (h : Took sink dir p piece (.ok ()) q) :
    q.engine.opened = p.engine.opened ++ (pathOf? dir piece).toList := by
  cases h <;> simp_all [pathOf?, Call.opened?]

theorem Received.opened_eq (h : Received sink dir p ps q) :
    q.engine.opened = p.engine.opened ++ ps.filterMap (pathOf? dir) := by
  induction h with
  | nil => simp
  | @cons p q r piece ps ht _ ih =>
    rw [ih, ht.opened_eq, List.filterMap_cons, List.append_assoc]
    cases pathOf? dir piece <;> rfl

end Custodian.Download
