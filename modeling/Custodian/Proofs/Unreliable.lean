import Custodian.Files.Sink
import Mathlib.Tactic

/-!
# Sinks that fail

* `Sink.HoldsOne` : the sinks that hold at most one file, and when they hold it;
* `FileSink.Mishap` : a call that goes wrong, with its fault and what it leaves of the tree; `FileSink.unreliable` : the
  sink of a file tree, of whose calls any may go wrong;
* `holdsOne_sink`, `holdsOne_unreliable` : both hold at most one file; `call_ok` : a call that succeeds has done what it
  does on the tree.
-/

namespace Custodian

set_option autoImplicit false

/-- A sink holds at most one file. To open one lets go of the one before, whether it succeeds or not; a file that is
closed is let go of, whether it succeeds or not; nothing else changes what is held. -/
structure Sink.HoldsOne {σ : Type} (sink : Sink σ) (isOpen : σ → Bool) : Prop where
  openFile : ∀ path s, isOpen (sink.openFile path s).2 = (sink.openFile path s).1.isOk
  write : ∀ b s, isOpen (sink.write b s).2 = isOpen s
  close : ∀ s, isOpen (sink.close s).2 = false
  remove : ∀ path s, isOpen (sink.remove path s).2 = isOpen s

namespace Sink.HoldsOne

variable {σ : Type} {sink : Sink σ} {isOpen : σ → Bool} {path : String} {b : ByteArray} {s t : σ}
  {r : Except Fault Unit}

theorem of_openFile (h : sink.HoldsOne isOpen) (hs : sink.openFile path s = (r, t)) : isOpen t = r.isOk := by
  have hopen := h.openFile path s
  rw [hs] at hopen
  exact hopen

theorem of_write (h : sink.HoldsOne isOpen) (hs : sink.write b s = (r, t)) : isOpen t = isOpen s := by
  have hwrite := h.write b s
  rw [hs] at hwrite
  exact hwrite

theorem of_close (h : sink.HoldsOne isOpen) (hs : sink.close s = (r, t)) : isOpen t = false := by
  have hclose := h.close s
  rw [hs] at hclose
  exact hclose

end Sink.HoldsOne

namespace FileSink

theorem holdsOne_sink : sink.HoldsOne (·.file.isSome) where
  openFile path s := by
    show (openFile path s).2.file.isSome = (openFile path s).1.isOk
    unfold openFile
    split
    · rfl
    · split <;> rfl
  write b s := by
    show (write b s).2.file.isSome = s.file.isSome
    unfold write
    split <;> rfl
  close s := rfl
  remove path s := by
    show (remove path s).2.file.isSome = s.file.isSome
    unfold remove
    split
    · rfl
    · dsimp only
      split_ifs with h
      · rw [h]
        rfl
      · rfl

/-! ## Calls that go wrong -/

/-- How a call goes wrong: the fault it ends with, and what has become of the tree by then. -/
structure Mishap where
  fault : Fault
  left : Tree → Tree := id

/-- The sink of a file tree and how many calls it has had. -/
structure Counted where
  sink : FileSink
  calls : Nat := 0

/-- A call that goes as `step` says, or wrong if that is planned; `kept` is the file that is open then. -/
def Counted.call (s : Counted) (mishaps : Nat → Option Mishap) (kept : Option OpenFile)
    (step : FileSink → Except Fault Unit × FileSink) : Except Fault Unit × Counted :=
  match mishaps s.calls with
  | none => ((step s.sink).1, ⟨(step s.sink).2, s.calls + 1⟩)
  | some m => (.error m.fault, ⟨⟨m.left s.sink.tree, kept⟩, s.calls + 1⟩)

/-- The sink of a file tree, of whose calls those go wrong that are planned, by the number of calls before. Opening and
closing let go of the open file in any case. -/
def unreliable (mishaps : Nat → Option Mishap) : Sink Counted where
  openFile path s := s.call mishaps none (openFile path)
  write b s := s.call mishaps s.sink.file (write b)
  close s := s.call mishaps none fun t => (.ok (), t.close)
  remove path s := s.call mishaps s.sink.file (remove path)

variable {mishaps : Nat → Option Mishap} {s s' : Counted} {kept : Option OpenFile}
  {step : FileSink → Except Fault Unit × FileSink}

theorem call_ok (h : s.call mishaps kept step = (.ok (), s')) : step s.sink = (.ok (), s'.sink) := by
  unfold Counted.call at h
  split at h
  · obtain ⟨hr, rfl⟩ := Prod.mk.inj h
    exact Prod.ext hr rfl
  · cases h

theorem close_ok (h : (unreliable mishaps).close s = (.ok (), s')) : s'.sink = s.sink.close :=
  (congrArg Prod.snd (@call_ok mishaps s s' none (fun t => (.ok (), t.close)) h)).symm

theorem isSome_file_call (s : Counted) (mishaps : Nat → Option Mishap) (isOpen : Except Fault Unit → Bool)
    (hkept : ∀ f, kept.isSome = isOpen (.error f))
    (hstep : (step s.sink).2.file.isSome = isOpen (step s.sink).1) :
    (s.call mishaps kept step).2.sink.file.isSome = isOpen (s.call mishaps kept step).1 := by
  unfold Counted.call
  split
  · exact hstep
  · exact hkept _

theorem holdsOne_unreliable (mishaps : Nat → Option Mishap) : (unreliable mishaps).HoldsOne (·.sink.file.isSome) where
  openFile path s := by
    apply isSome_file_call s mishaps Except.isOk
    · exact fun f => rfl
    · exact holdsOne_sink.openFile path s.sink
  write b s := by
    apply isSome_file_call s mishaps fun _ => s.sink.file.isSome
    · exact fun f => rfl
    · exact holdsOne_sink.write b s.sink
  close s := by
    apply isSome_file_call s mishaps fun _ => false
    · exact fun f => rfl
    · exact holdsOne_sink.close s.sink
  remove path s := by
    apply isSome_file_call s mishaps fun _ => s.sink.file.isSome
    · exact fun f => rfl
    · exact holdsOne_sink.remove path s.sink

end FileSink

end Custodian
