import Custodian.Proofs.Call
import Custodian.Proofs.Chunks
import Custodian.Proofs.Digest
import Custodian.Upload

/-!
# What an upload sends

* `Tree.source_complete` : what a file that can be read to its end yields;
* `Upload.Sends` : steps of an upload and the frames they send; one lemma for each step, and `run_ok` for a whole
  upload: one that succeeds has read every file to its end and sent `Upload.expectedFrames`.
-/

namespace Custodian

set_option autoImplicit false

/-! ## Sources -/

/-- A file can be read to its end. -/
def Source.Complete (s : Source) (path : String) : Prop := ∃ r, s path = .ok r ∧ r.ending = .complete

/-- The chunks that a file is read in. -/
def Source.chunks (s : Source) (path : String) : List ByteArray :=
  match s path with
  | .ok r => r.chunks
  | .error _ => []

/-- The content of a file. -/
def Source.content (s : Source) (path : String) : ByteArray := (s.chunks path).foldl (· ++ ·) .empty

/-- A file of a tree that can be read to its end is a file, and yields its bytes. -/
theorem Tree.source_complete {t : Tree} {size : Nat} {path : String} (h : (t.source size).Complete path) :
    t.readFile path = .ok ((t.source size).content path) ∧ ∀ c ∈ (t.source size).chunks path, c ≠ .empty := by
  obtain ⟨r, hr, he⟩ := h
  have hs : (t.openRead path).map (Entry.reading size) = .ok r := hr
  cases ho : t.openRead path with
  | error f =>
    rw [ho] at hs
    cases hs
  | ok e =>
    rw [ho] at hs
    cases hs
    cases e with
    | dir =>
      unfold Entry.reading at he
      split_ifs at he
    | file b =>
      have hlimit : ¬ chunkSizeLimit ≤ size := by
        intro hl
        rw [Entry.reading, if_pos hl] at he
        cases he
      have hc : (t.source size).chunks path = Custodian.chunks size b := by
        unfold Source.chunks
        rw [hr, Entry.reading, if_neg hlimit]
      refine ⟨?_, fun c hc' => chunks_ne_empty (hc ▸ hc')⟩
      unfold readFile Source.content
      rw [ho, hc, foldl_chunks]
      rfl

namespace Upload

variable {supply : Supply} {p q : Progress} {xs ys : List BackupFrame}

/-! ## Steps -/

/-- From one point of an upload to another, `xs` are sent. -/
structure Sends (p q : Progress) (xs : List BackupFrame) : Prop where
  plan : q.call.plan = p.call.plan
  carries : ∀ ys, p.call.Carries ys → q.call.Carries (ys ++ xs)

theorem Sends.refl (p : Progress) : Sends p p [] := ⟨rfl, fun ys h => by simpa using h⟩

theorem Sends.trans {r : Progress} (h : Sends p q xs) (h' : Sends q r ys) : Sends p r (xs ++ ys) :=
  ⟨h'.plan.trans h.plan, fun zs hz => by simpa using h'.carries _ (h.carries zs hz)⟩

theorem run_bind {α β : Type} (x : Run α) (f : α → Run β) (p : Progress) :
    (x >>= f) p =
      match x p with
      | (.ok a, r) => f a r
      | (.error e, r) => (.error e, r) := by
  show ExceptT.bindCont f (x p).1 (x p).2 = _
  rcases x p with ⟨e | a, r⟩ <;> rfl

theorem bind_ok {α β : Type} {x : Run α} {f : α → Run β} {b : β} (h : (x >>= f) p = (.ok b, q)) :
    ∃ a r, x p = (.ok a, r) ∧ f a r = (.ok b, q) := by
  rw [run_bind] at h
  rcases hx : x p with ⟨e | a, r⟩
  · rw [hx] at h
    cases h
  · rw [hx] at h
    exact ⟨a, r, rfl, h⟩

theorem bind_error {α β : Type} {x : Run α} {f : α → Run β} {e : Halt} (h : (x >>= f) p = (.error e, q)) :
    x p = (.error e, q) ∨ ∃ a r, x p = (.ok a, r) ∧ f a r = (.error e, q) := by
  rw [run_bind] at h
  rcases hx : x p with ⟨e' | a, r⟩
  · rw [hx] at h
    cases h
    exact .inl rfl
  · rw [hx] at h
    exact .inr ⟨a, r, rfl, h⟩

theorem Sends.of_consult {step : Step} (h : consult supply step p = (.ok (), q)) :
    Sends p q [] ∧ q.digest = p.digest := by
  have hq : { p with
      steps := p.steps.push step
      call := if supply.slow then p.call.turn.pause else p.call.turn } = q := congrArg Prod.snd h
  subst hq
  refine ⟨⟨?_, fun ys hy => ?_⟩, rfl⟩
  · dsimp only
    split_ifs
    · exact (BackupCall.plan_readOn _).trans (BackupCall.plan_turn _)
    · exact BackupCall.plan_turn _
  · rw [List.append_nil]
    dsimp only
    split_ifs
    · exact hy.turn.readOn
    · exact hy.turn

theorem Sends.of_note {step : Step} {g : Digest → Digest} (h : note step g p = (.ok (), q)) :
    Sends p q [] ∧ q.digest = g p.digest := by
  have hq : { p with steps := p.steps.push step, digest := g p.digest } = q := congrArg Prod.snd h
  subst hq
  exact ⟨⟨rfl, fun ys hy => by simpa using hy⟩, rfl⟩

theorem Sends.of_send {f : BackupFrame} (h : send f p = (.ok (), q)) : Sends p q [f] ∧ q.digest = p.digest := by
  unfold send at h
  rcases hs : p.call.send f with ⟨e | u, c⟩
  · rw [hs] at h
    cases h
  · rw [hs] at h
    cases h
    have hplan := p.call.plan_send f
    rw [hs] at hplan
    exact ⟨⟨hplan, fun ys hy => hy.send_ok hs⟩, rfl⟩

/-- The content of a file that is sent has been read to its end, and the digest has taken it in. -/
theorem Sends.of_sendChunks {role : FileRole} {ending : ReadingEnd} {bs : List ByteArray}
    (h : sendChunks supply role ending bs p = (.ok (), q)) :
    ending = .complete ∧ Sends p q (bs.map fun b => .ofPiece role (.content b)) ∧
      q.digest = bs.foldl Digest.update p.digest := by
  induction bs generalizing p with
  | nil =>
    cases ending with
    | complete =>
      obtain ⟨hs, hd⟩ := Sends.of_consult h
      exact ⟨rfl, hs, hd⟩
    | fault f =>
      obtain ⟨a, r, -, h⟩ := bind_ok h
      cases h
    | breakdown =>
      obtain ⟨a, r, -, h⟩ := bind_ok h
      cases h
  | cons b bs ih =>
    obtain ⟨⟨⟩, p₁, hc, h⟩ := bind_ok h
    obtain ⟨⟨⟩, p₂, hn, h⟩ := bind_ok h
    obtain ⟨⟨⟩, p₃, hs, h⟩ := bind_ok h
    obtain ⟨hc, hdc⟩ := Sends.of_consult hc
    obtain ⟨hn, hdn⟩ := Sends.of_note hn
    obtain ⟨hs, hds⟩ := Sends.of_send hs
    obtain ⟨he, hr, hd⟩ := ih h
    refine ⟨he, ((hc.trans hn).trans hs).trans hr, ?_⟩
    rw [hd, hds, hdn, hdc, List.foldl_cons]

/-! ## Files -/

theorem Sends.of_sendFile {role : FileRole} {path : String} (h : sendFile supply role path p = (.ok (), q)) :
    supply.source.Complete path ∧ Sends p q (fileFrames role path (supply.source.chunks path)) := by
  unfold sendFile at h
  obtain ⟨⟨⟩, p₁, ho, h⟩ := bind_ok h
  cases hr : supply.source path with
  | error f =>
    rw [hr] at h
    cases h
  | ok r =>
    rw [hr] at h
    obtain ⟨⟨⟩, p₂, hn, h⟩ := bind_ok h
    obtain ⟨⟨⟩, p₃, hname, h⟩ := bind_ok h
    obtain ⟨⟨⟩, p₄, hchunks, h⟩ := bind_ok h
    obtain ⟨p', p₅, hget, h⟩ := bind_ok h
    cases hget
    obtain ⟨⟨⟩, p₆, hnote, hsum⟩ := bind_ok h
    obtain ⟨ho, -⟩ := Sends.of_consult ho
    obtain ⟨hn, hd₂⟩ := Sends.of_note hn
    obtain ⟨hname, hd₃⟩ := Sends.of_send hname
    obtain ⟨he, hchunks, hd₄⟩ := Sends.of_sendChunks hchunks
    obtain ⟨hnote, -⟩ := Sends.of_note hnote
    obtain ⟨hsum, -⟩ := Sends.of_send hsum
    -- the digest was empty when the content began
    have hdigits : p₄.digest.text = Digest.of (r.chunks.foldl (· ++ ·) .empty) := by
      rw [hd₄, hd₃, hd₂, Digest.text_foldl_update]
    refine ⟨⟨r, hr, he⟩, ?_⟩
    have hall := ((((ho.trans hn).trans hname).trans hchunks).trans hnote).trans hsum
    rw [hdigits] at hall
    simpa [fileFrames, Source.chunks, hr] using hall

theorem concerning_ok {path : String} {x : Run Unit} (h : concerning path x p = (.ok (), q)) : x p = (.ok (), q) := by
  unfold concerning at h
  split at h
  · rename_i hx
    rw [hx, h]
  · cases h
  · cases h

theorem Sends.of_sendFiles {files : List (FileRole × String)} (h : sendFiles supply files p = (.ok (), q)) :
    (∀ e ∈ files, supply.source.Complete e.2) ∧
      Sends p q (files.flatMap fun e => fileFrames e.1 e.2 (supply.source.chunks e.2)) := by
  induction files generalizing p with
  | nil =>
    cases h
    exact ⟨by simp, .refl _⟩
  | cons e files ih =>
    obtain ⟨⟨⟩, r, he, h⟩ := bind_ok h
    obtain ⟨hc, hs⟩ := Sends.of_sendFile (concerning_ok he)
    obtain ⟨hcs, hss⟩ := ih h
    exact ⟨List.forall_mem_cons.2 ⟨hc, hcs⟩, hs.trans hss⟩

/-! ## A whole upload -/

theorem finish_ok {path : String} (h : finish path p = (.ok (), q)) :
    q.call = p.call.finish.2 ∧ p.call.plan.verdict = .ok () := by
  unfold finish at h
  split at h
  · rename_i hf
    cases h
    rw [← BackupCall.answer_finish, hf]
    exact ⟨rfl, rfl⟩
  · cases h

/-- **What a successful upload has done.** Every file of the fragment was read to its end and the call has taken all
frames expected. It has ended and accepts, and the other side has read as many of the frames as it wanted. -/
theorem run_ok {f : BackupFragment} {agentId backupName : String} {plan : CallPlan} {d : Digest}
    (h : (run supply f agentId backupName plan d).1 = .ok ()) :
    (∀ e ∈ f.files, supply.source.Complete e.2) ∧ plan.verdict = .ok () ∧
      (run supply f agentId backupName plan d).2.call.accepted.toList =
        expectedFrames f agentId backupName supply.source.chunks ∧
      (run supply f agentId backupName plan d).2.call.received.toList =
        plan.reads (expectedFrames f agentId backupName supply.source.chunks) ∧
      (run supply f agentId backupName plan d).2.call.ended = true := by
  generalize hq : (run supply f agentId backupName plan d).2 = q
  have hr : run supply f agentId backupName plan d = (.ok (), q) := Prod.ext h hq
  unfold run transfer at hr
  obtain ⟨⟨⟩, p₁, hm, hr⟩ := bind_ok hr
  obtain ⟨⟨⟩, p₂, hfs, hfin⟩ := bind_ok hr
  obtain ⟨hm, -⟩ := Sends.of_send (concerning_ok hm)
  obtain ⟨hc, hfs⟩ := Sends.of_sendFiles hfs
  have hall := hm.trans hfs
  -- the call began with nothing sent
  obtain ⟨hcall, hv⟩ := finish_ok hfin
  rw [hall.plan] at hv
  obtain ⟨haccepted, hreceived, hended⟩ := (hall.carries [] (BackupCall.carries_start plan)).finish
  rw [hall.plan] at hreceived
  exact ⟨hc, hv, hcall ▸ haccepted, hcall ▸ hreceived, hcall ▸ hended⟩

end Upload

end Custodian
