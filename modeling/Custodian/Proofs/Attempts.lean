import Custodian.Proofs.Failure

/-!
# Attempts of the reference agent

* `UntilFailure` : what came of a row of tasks that are done one after the other up to the first failure;
* `Agent.follow_of_report` : what is left when a routine ends with a report;
* `Reference.Attempt.follow` : an attempt followed request by request; `follow_request`, `follow_bind` : what it comes to
  when it begins with a request or with another attempt.
-/

namespace Custodian

set_option autoImplicit false

variable {ω α β : Type} {f : Facade}

/-! ## Up to the first failure -/

/-- What came of the first of `n` tasks that are done one after the other: all before the last went well, and there are
fewer than `n` only if the last has failed. `ok` tells whether all `n` are done and went well. -/
structure UntilFailure (good : β → Prop) (n : Nat) (xs : List β) (ok : Bool) : Prop where
  before : ∀ x ∈ xs.dropLast, good x
  stopped : xs.length < n → ∃ x, xs.getLast? = some x ∧ ¬ good x
  all : ok = true ↔ xs.length = n ∧ ∀ x ∈ xs, good x

namespace UntilFailure

variable {good : β → Prop} {n : Nat} {x : β} {xs : List β} {ok : Bool}

theorem nil : UntilFailure good 0 [] true := ⟨by simp, by simp, by simp⟩

theorem failed (h : ¬ good x) : UntilFailure good (n + 1) [x] false where
  before := by simp
  stopped _ := ⟨x, rfl, h⟩
  all := by simp [h]

theorem next (h : good x) (hs : UntilFailure good n xs ok) : UntilFailure good (n + 1) (x :: xs) ok where
  before := by
    cases xs with
    | nil => simp
    | cons y ys =>
      rw [List.dropLast_cons_cons, List.forall_mem_cons]
      exact ⟨h, hs.before⟩
  stopped hlt := by
    obtain ⟨y, hy, hbad⟩ := hs.stopped (Nat.lt_of_succ_lt_succ hlt)
    exact ⟨y, by rw [List.getLast?_cons, hy]; rfl, hbad⟩
  all := by rw [hs.all, List.length_cons, Nat.succ_inj, List.forall_mem_cons, and_iff_right h]

end UntilFailure

/-! ## Reports -/

/-- What is sent on a call that takes every frame has gone out. -/
theorem Line.wentOut_send {l : Line} {x : AgentFrame} (h : l.Accepts) (hx : x.isRegister = false) :
    l.WentOut (l.send x).1 [x] := by
  rw [Line.send_eq_post h hx]
  exact Line.wentOut_post l [x]

/-- What an agent has done once it has followed a routine that ends with a report. -/
theorem Agent.follow_of_report (a : Agent) {routine : Routine ω f Unit} {s t : Line × World ω} {success : Bool}
    {message : String}
    (h : a.attempt routine s = (Routine.report success message : Routine ω f Unit).run a.answer noted t) :
    a.follow routine s = ((t.1.send (a.identity.stageComplete success message f.action)).1,
      { t.2 with session := f.afterReport t.2.session }) := by
  rw [a.follow_eq, h, a.run_report]

/-! ## Attempts -/

namespace Reference.Attempt

variable {σ : Type} (answer : (r : Request f) → σ → Option r.Answer × σ) (noted : ω → σ → σ)

/-- Follows an attempt: there is no result if it breaks down. -/
def follow (x : Attempt ω f α) (s : σ) : Option (Except (List String) α) × σ := Routine.run answer noted x.run s

/-- An attempt that begins with a request goes on with the answer. -/
theorem follow_request (r : Request f) (k : r.Answer → Attempt ω f α) (s : σ) :
    (ExceptT.lift (Routine.request r) >>= k : Attempt ω f α).follow answer noted s =
      match answer r s with
      | (some x, t) => (k x).follow answer noted t
      | (none, t) => (none, t) := by
  change Routine.run answer noted (.ask r fun x => (k x).run) s = _
  rw [Routine.run]
  rcases answer r s with ⟨_ | x, t⟩ <;> rfl

/-- An attempt after another, if that one does not fail. -/
theorem follow_bind (x : Attempt ω f α) (k : α → Attempt ω f β) (s : σ) :
    (x >>= k).follow answer noted s =
      match x.follow answer noted s with
      | (some (.ok a), t) => (k a).follow answer noted t
      | (some (.error e), t) => (some (.error e), t)
      | (none, t) => (none, t) := by
  unfold follow
  change Routine.run answer noted (x.run >>= ExceptT.bindCont k) s = _
  rw [Routine.run_bind]
  rcases x.run.run answer noted s with ⟨_ | e | a, t⟩ <;> rfl

end Reference.Attempt

end Custodian
