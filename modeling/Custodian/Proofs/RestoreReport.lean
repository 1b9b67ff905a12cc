import Custodian.Proofs.Attempts

/-!
# What the reference agent reports of a restore

* `RestoreCall`, `Restores` : restore calls one after the other, what came of each, and what they leave;
* `Reference.follow_downloadAll` : the reference agent makes one call for each fragment, up to the first that is not
  clean;
* `Reference.restore_report` : it reports success if and only if the backup is of its own product and every fragment of
  it came clean.
-/

namespace Custodian

set_option autoImplicit false

variable {ω : Type}

/-! ## Restore calls -/

/-- A restore call: what was asked for, and what came of the download. -/
structure RestoreCall where
  request : Metadata
  result : Except Error Download.Outcome

/-- The download came to its end, and every file of it was accepted and is as it was announced. -/
def RestoreCall.Clean (x : RestoreCall) : Prop := ∃ o, x.result = .ok o ∧ o.mismatched = [] ∧ o.rejected = []

/-- Restore calls one after the other: the other side refuses a call or streams frames, which are downloaded into a
directory. -/
inductive Restores (dir : String) : Orchestrator × Tree → List RestoreCall → Orchestrator × Tree → Prop
  | nil (s : Orchestrator × Tree) : Restores dir s [] s
  | refused {o o' : Orchestrator} {t : Tree} {m : Metadata} {e : Error} {xs : List RestoreCall}
    {s : Orchestrator × Tree} (h : o.restore m = (.error e, o')) (hs : Restores dir (o', t) xs s) :
    Restores dir (o, t) (⟨m, .error (.downloadFailed e.message)⟩ :: xs) s
  | streamed {o o' : Orchestrator} {t : Tree} {m : Metadata} {items : List (Except Error RestoreFrame)}
    {r : Except Error Download.Outcome} {g : Download.Engine FileSink} {xs : List RestoreCall}
    {s : Orchestrator × Tree} (h : o.restore m = (.ok items, o'))
    (hr : Download.run FileSink.sink dir items { store := ⟨t, none⟩ } = (r, g))
    (hs : Restores dir (o', g.store.tree) xs s) : Restores dir (o, t) (⟨m, r⟩ :: xs) s

theorem Orchestrator.requests_restore (o : Orchestrator) (m : Metadata) :
    (o.restore m).2.requests = o.requests.push m := by
  unfold restore
  dsimp only
  split <;> rfl

/-- The other side has been asked for what the calls ask for, and for nothing else. -/
theorem Restores.requests {dir : String} {s s' : Orchestrator × Tree} {calls : List RestoreCall}
    (h : Restores dir s calls s') : s'.1.requests.toList = s.1.requests.toList ++ calls.map (·.request) := by
  induction h with
  | nil s => simp
  | @refused o o' t m e xs s h hs ih | @streamed o o' t m items r g xs s h hr hs ih =>
    have hpush := o.requests_restore m
    rw [h] at hpush
    rw [ih, show o'.requests = o.requests.push m from hpush]
    simp

/-- The call for a fragment, made first. -/
theorem Agent.restores_download (a : Agent) (b : Fragment) (dir : String) (w : World ω) :
    ∃ o t, (a.download b dir w).2 = { w with orchestrator := o, tree := t } ∧
      ∀ xs s, Restores dir (o, t) xs s →
        Restores dir (w.orchestrator, w.tree)
          (⟨⟨a.identity.agentId, some b, w.session.backupName⟩, (a.download b dir w).1⟩ :: xs) s := by
  unfold download openRestore
  rcases hr : w.orchestrator.restore ⟨a.identity.agentId, some b, w.session.backupName⟩ with ⟨e | items, o⟩
  · exact ⟨o, w.tree, rfl, fun xs s hs => .refused hr hs⟩
  · exact ⟨o, _, rfl, fun xs s hs => .streamed hr rfl hs⟩

namespace Reference

/-! ## A row of fragments -/

/-- Fragments are downloaded one after the other, up to the first that is not clean. -/
theorem follow_downloadAll (a : Agent) (dir : String) (bs : List Fragment) (l : Line) (w : World ω) :
    ∃ calls r o t, (downloadAll dir bs : Attempt ω .restore Unit).follow a.answer Agent.noted (l, w) =
        (some r, l, { w with orchestrator := o, tree := t }) ∧
      Restores dir (w.orchestrator, w.tree) calls (o, t) ∧
      calls.map (·.request) = (bs.take calls.length).map (⟨a.identity.agentId, some ·, w.session.backupName⟩) ∧
      UntilFailure RestoreCall.Clean bs.length calls r.isOk := by
  induction bs generalizing w with
  | nil => exact ⟨[], .ok (), w.orchestrator, w.tree, rfl, .nil _, rfl, .nil⟩
  | cons b bs ih =>
    obtain ⟨o, t, hw, hcall⟩ := a.restores_download b dir w
    have hanswer : a.answer (.download b dir) (l, w) =
        (some (a.download b dir w).1, l, { w with orchestrator := o, tree := t }) := by rw [← hw]; rfl
    rw [downloadAll, Attempt.follow_request, hanswer]
    dsimp only
    cases hr : (a.download b dir w).1 with
    | error e =>
      refine ⟨_, _, o, t, rfl, hcall [] _ (.nil _), rfl, .failed ?_⟩
      rintro ⟨out, hout, -⟩
      rw [hr] at hout
      cases hout
    | ok out =>
      dsimp only
      by_cases hclean : out.mismatched = [] ∧ out.rejected = []
      · obtain ⟨calls, r, o', t', hrest, hcalls, hrequests, huntil⟩ := ih { w with orchestrator := o, tree := t }
        rw [if_neg (not_not.2 hclean.1), if_neg (not_not.2 hclean.2)]
        refine ⟨_ :: calls, r, o', t', hrest, hcall calls _ hcalls, ?_, .next ⟨out, hr, hclean⟩ huntil⟩
        rw [List.map_cons, hrequests]
        rfl
      · have hunclean : ¬ RestoreCall.Clean
            ⟨⟨a.identity.agentId, some b, w.session.backupName⟩, (a.download b dir w).1⟩ := by
          rintro ⟨out', hout, hclean'⟩
          cases hr.symm.trans hout
          exact hclean hclean'
        split_ifs with hmismatched hrejected
        · exact ⟨_, .error _, o, t, rfl, hcall [] _ (.nil _), rfl, .failed hunclean⟩
        · exact ⟨_, .error _, o, t, rfl, hcall [] _ (.nil _), rfl, .failed hunclean⟩
        · exact absurd ⟨not_not.1 hmismatched, not_not.1 hrejected⟩ hclean

/-! ## The report -/

theorem compatible_iff (c : Config) (v : SoftwareVersion) :
    c.compatible v = true ↔ v.productName = c.version.productName ∧ v.productNumber = c.version.productNumber ∧
      v.revision = c.version.revision := by
  simp only [Config.compatible, Bool.and_eq_true, decide_eq_true_eq]
  constructor
  · rintro ⟨⟨h, h'⟩, h''⟩
    exact ⟨h'.symm, h''.symm, h.symm⟩
  · rintro ⟨h, h', h''⟩
    exact ⟨⟨h''.symm, h.symm⟩, h'.symm⟩

section

variable {a : Agent} {c : Config} (s : Line × World ω)

/-- A restore of another product comes to the report of a failure at once. -/
theorem attempt_of_not_compatible (h : ¬ c.compatible s.2.session.version = true) :
    a.attempt (executeRestore c) s = (Routine.report false "Incompatible software version" :
      Routine ω .restore Unit).run a.answer Agent.noted s := by
  change Routine.run a.answer Agent.noted (if c.compatible s.2.session.version then _ else _) s = _
  rw [if_neg h]

/-- A restore comes to a report on the attempt to download all fragments. -/
theorem attempt_of_compatible {t : Line × World ω} {r : Except (List String) Unit}
    (h : c.compatible s.2.session.version = true)
    (hrun : (downloadAll c.downloadDir s.2.session.fragments : Attempt ω .restore Unit).follow a.answer Agent.noted s =
      (some r, t)) :
    ∃ message, a.attempt (executeRestore c) s =
      (Routine.report r.isOk message : Routine ω .restore Unit).run a.answer Agent.noted t := by
  change ∃ message, Routine.run a.answer Agent.noted (if c.compatible s.2.session.version then
    (downloadAll c.downloadDir s.2.session.fragments : Attempt ω .restore Unit).run >>= _ else _) s = _
  replace hrun : Routine.run a.answer Agent.noted (downloadAll c.downloadDir s.2.session.fragments).run s =
    (some r, t) := hrun
  rw [if_pos h, Routine.run_bind, hrun]
  cases r with
  | ok u => exact ⟨_, rfl⟩
  | error e => exact ⟨_, rfl⟩

end

/-- **Success is reported only for a whole restore.** The reference agent, however configured, is told on any line and
in any world to restore any fragments of a backup that any version or none is said to have made. It sends one frame, a
report on the restore, and the session is empty then. If the product name, the product number or the revision is not its
own, it reports a failure and has done nothing else: it has made no call and touched no file. Otherwise it has made
calls for the fragments in their order, one for each, up to the first that was not clean: `calls` are these calls, each
in its own name, for the backup that it was told and the fragment as it was given, and the other side has been asked for
nothing else. It reports success if and only if there was a call for every fragment and all of them were clean. -/
theorem restore_report (a : Agent) (c : Config) (e : Execution) (messageType : Int32) (l : Line) (w : World ω) :
    let s := a.handle (behavior c) ⟨Action.restore.code, messageType, some (.execution e)⟩ (l, w)
    let v := e.version.getD .unknown
    let own := v.productName = c.version.productName ∧ v.productNumber = c.version.productNumber ∧
      v.revision = c.version.revision
    ∃ success message,
      let report : AgentFrame := ⟨Action.restore.code, stageCompleteType,
        some (.stageComplete ⟨success, message, a.identity.agentId⟩)⟩
      s.1 = (l.send report).1 ∧ (l.Accepts → l.WentOut s.1 [report]) ∧
        (¬ own → success = false ∧ s.2 = { w with session := {} }) ∧
        (own → ∃ calls o t, s.2 = { w with session := {}, orchestrator := o, tree := t } ∧
          Restores c.downloadDir (w.orchestrator, w.tree) calls (o, t) ∧
          o.requests.toList = w.orchestrator.requests.toList ++ calls.map (·.request) ∧
          calls.map (·.request) =
            (e.fragments.take calls.length).map (fun f => ⟨a.identity.agentId, some f, e.backupName⟩) ∧
          UntilFailure RestoreCall.Clean e.fragments.length calls success) := by
  intro s v own
  obtain ⟨begun, hbegun⟩ : ∃ begun : World ω, begun = { w with session := .startRestore e } := ⟨_, rfl⟩
  have hs : s = a.follow (executeRestore c) (l, begun) := by rw [hbegun]; rfl
  have hversion : begun.session.version = v := by rw [hbegun]; rfl
  have hown : c.compatible begun.session.version = true ↔ own := hversion ▸ compatible_iff c v
  by_cases hcompatible : c.compatible begun.session.version = true
  · obtain ⟨calls, r, o, t, hrun, hcalls, hrequests, huntil⟩ :=
      follow_downloadAll a c.downloadDir begun.session.fragments l begun
    obtain ⟨message, hreport⟩ := attempt_of_compatible (l, begun) hcompatible hrun
    rw [hs, a.follow_of_report hreport]
    subst hbegun
    exact ⟨r.isOk, message, rfl, fun hl => Line.wentOut_send hl rfl, fun h => absurd (hown.1 hcompatible) h,
      fun _ => ⟨calls, o, t, rfl, hcalls, hcalls.requests, hrequests, huntil⟩⟩
  · rw [hs, a.follow_of_report (attempt_of_not_compatible (l, begun) hcompatible)]
    subst hbegun
    exact ⟨false, _, rfl, fun hl => Line.wentOut_send hl rfl, fun _ => ⟨rfl, rfl⟩,
      fun h => absurd (hown.2 h) hcompatible⟩

/-- Of three fragments the first comes clean and the call for the second is refused; the third is not asked for. -/
theorem restore_report_refused :
    let a : Agent := { identity := { agentId := "A", scope := "", version := {}, apiVersion := "4" }, chunkSize := 4 }
    let c : Config := { downloadDir := "in" }
    let file : List RestoreFrame := [.ofPiece .main (.name "x"), .ofPiece .main (.checksum (Digest.of .empty))]
    let w : World Unit := {
      orchestrator := { restores := [.delivers (file.map .ok), .refuses .streamClosed] }, tree := .ofWork .root }
    let l := (Line.settle (a.handle (behavior c)) ((a.registrate (.ofPlans 3 [{}] {})).1, w)).1
    let f (id : String) : Fragment := { id := id, custom := .ofList [("k", id)] }
    let request (id : String) : Metadata := ⟨"A", some (f id), "nightly"⟩
    let e : Execution := { backupName := "nightly", version := some c.version, fragments := [f "1", f "2", f "3"] }
    let s := a.handle (behavior c) ⟨2, 0, some (.execution e)⟩ (l, w)
    ∃ message calls o t, l.WentOut s.1 [⟨2, stageCompleteType, some (.stageComplete ⟨false, message, "A"⟩)⟩] ∧
      Restores "in" (w.orchestrator, w.tree) calls (o, t) ∧ calls.map (·.request) = [request "1", request "2"] ∧
      s.2.tree = t ∧ t.readFile "in/x" = .ok .empty := by
  intro a c file w l f request e s
  have hl : l.Accepts := (a.attentive_of_registrate 3 [] {} (a.handle (behavior c)) w).1.accepts
  obtain ⟨success, message, -, hout, -, hown⟩ := restore_report a c e 0 l w
  obtain ⟨calls, o, t, hworld, hcalls, hrequests, -, huntil⟩ := hown ⟨rfl, rfl, rfl⟩
  have hmade : s.2.orchestrator.requests.toList = [request "1", request "2"] := by decide +kernel
  have hread : s.2.tree.readFile "in/x" = .ok .empty := by decide +kernel
  change s.2 = _ at hworld
  rw [hworld] at hmade hread
  rw [hrequests, show w.orchestrator.requests.toList = [] from rfl, List.nil_append] at hmade
  have hlength : calls.length = 2 := by simpa using congrArg List.length hmade
  have hfails : success = false := by
    rw [Bool.eq_false_iff, Ne, huntil.all, hlength]
    exact fun h => absurd h.1 (by decide)
  subst hfails
  exact ⟨message, calls, o, t, hout hl, hcalls, hmade, by rw [hworld], hread⟩

end Reference

end Custodian
