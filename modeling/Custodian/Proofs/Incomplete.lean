import Custodian.Proofs.Upload

/-!
# An incomplete upload is never taken for a complete one

* `Upload.yielded`, `Upload.intended` : the frames that an upload is to send, as far as its source yields its files;
* `Upload.Fails` : steps of an upload that fail, since the call has ended or a file cannot be read; one lemma for each
  step; `Fails.named` : such a failure is told with the file, and a call that goes on is given up;
* `Upload.Stops` : why an upload stops, which file it names, and what has become of the call;
* `Upload.run_prefix` : whatever becomes of an upload, what was received is a beginning of what was to be sent;
* `Upload.run_outcome` : an upload succeeds only if all was sent and accepted, and otherwise fails in one of these ways.
-/

namespace Custodian

set_option autoImplicit false

/-! ## What a source yields -/

/-- How far a source yields a file: what cannot be opened ends with the fault. -/
def Source.ending (s : Source) (path : String) : ReadingEnd :=
  match s path with
  | .error f => .fault f
  | .ok r => r.ending

theorem Source.ending_eq_complete {s : Source} {path : String} : s.ending path = .complete ↔ s.Complete path := by
  unfold ending Complete
  cases s path <;> simp

theorem Source.ending_eq_fault {s : Source} {path : String} {f : Fault} :
    s.ending path = .fault f ↔ s path = .error f ∨ ∃ chunks, s path = .ok ⟨chunks, .fault f⟩ := by
  unfold ending
  rcases s path with f' | ⟨chunks, ending⟩ <;> simp

theorem Source.ending_eq_breakdown {s : Source} {path : String} :
    s.ending path = .breakdown ↔ ∃ chunks, s path = .ok ⟨chunks, .breakdown⟩ := by
  unfold ending
  rcases s path with f' | ⟨chunks, ending⟩ <;> simp

namespace Upload

variable {supply : Supply} {p q r : Progress} {xs ys rows : List BackupFrame} {ending : ReadingEnd} {e : Halt}

/-- The frames of a file that an upload is to send: all of them, or those before it finds that the file cannot be
opened or read on. -/
def yielded (s : Source) (role : FileRole) (path : String) : List BackupFrame :=
  match s path with
  | .error _ => []
  | .ok ⟨chunks, .complete⟩ => fileFrames role path chunks
  | .ok ⟨chunks, _⟩ => .ofPiece role (.name (sentName path)) :: chunks.map fun b => .ofPiece role (.content b)

theorem yielded_of_complete {s : Source} {path : String} (role : FileRole) (h : s.Complete path) :
    yielded s role path = fileFrames role path (s.chunks path) := by
  obtain ⟨⟨chunks, ending⟩, hr, rfl⟩ := h
  simp [yielded, Source.chunks, hr]

/-! ## Steps that fail -/

/-- Steps that were to send `rows` and to end so then have failed: the call has ended before it had taken all of them,
or it has taken all and the source does not go on. -/
inductive Fails (p q : Progress) (rows : List BackupFrame) (ending : ReadingEnd) : Halt → Prop
  | refused {xs ys : List BackupFrame} {x : BackupFrame} (hrows : rows = xs ++ x :: ys) (hs : Sends p q xs)
    (he : ∀ zs, p.call.Carries zs → q.call.ended = true) : Fails p q rows ending (.failed .streamClosed)
  | fault {f : Fault} (h : ending = .fault f) (hs : Sends p q rows) :
    Fails p q rows ending (.failed (.streamError f.message))
  | breakdown (h : ending = .breakdown) (hs : Sends p q rows) : Fails p q rows ending .breakdown

theorem Fails.after (h : Fails r q rows ending e) (hs : Sends p r xs) : Fails p q (xs ++ rows) ending e := by
  cases h with
  | refused hrows hs' he =>
    exact .refused (by rw [hrows, List.append_assoc]) (hs.trans hs') fun zs hz => he _ (hs.carries zs hz)
  | fault h hs' => exact .fault h (hs.trans hs')
  | breakdown h hs' => exact .breakdown h (hs.trans hs')

/-- More was to be sent, but it has not come to that. -/
theorem Fails.extend (h : Fails p q rows .complete e) (more : List BackupFrame) :
    Fails p q (rows ++ more) ending e := by
  cases h with
  | refused hrows hs he => exact .refused (by rw [hrows, List.append_assoc, List.cons_append]) hs he
  | fault h | breakdown h => cases h

theorem Fails.of_send {f : BackupFrame} (h : send f p = (.error e, q)) : Fails p q [f] .complete e := by
  unfold send at h
  rcases hs : p.call.send f with ⟨e' | u, c⟩
  · rw [hs] at h
    cases h
    cases BackupCall.send_error hs
    have hplan := p.call.plan_send f
    rw [hs] at hplan
    have hcall (zs : List BackupFrame) (hz : p.call.Carries zs) : c.Carries zs ∧ c.ended = true := by
      rcases hz.send f with ⟨d, hd, -⟩ | ⟨d, hd, hc⟩
      · rw [hs] at hd
        cases hd
      · rw [hs] at hd
        cases hd
        exact hc
    exact .refused (List.nil_append [f]).symm ⟨hplan, fun zs hz => by simpa using (hcall zs hz).1⟩
      fun zs hz => (hcall zs hz).2
  · rw [hs] at h
    cases h

theorem Fails.of_sendChunks {role : FileRole} {ending : ReadingEnd} {bs : List ByteArray}
    (h : sendChunks supply role ending bs p = (.error e, q)) :
    Fails p q (bs.map fun b => .ofPiece role (.content b)) ending e := by
  induction bs generalizing p with
  | nil =>
    cases ending with
    | complete => cases h
    | fault f =>
      obtain h | ⟨⟨⟩, p₁, hc, h⟩ := bind_error h
      · cases h
      · cases h
        exact .fault rfl (Sends.of_consult hc).1
    | breakdown =>
      obtain h | ⟨⟨⟩, p₁, hn, h⟩ := bind_error h
      · cases h
      · cases h
        exact .breakdown rfl (Sends.of_note hn).1
  | cons b bs ih =>
    obtain h | ⟨⟨⟩, p₁, hc, h⟩ := bind_error h
    · cases h
    obtain h | ⟨⟨⟩, p₂, hn, h⟩ := bind_error h
    · cases h
    have hbefore := (Sends.of_consult hc).1.trans (Sends.of_note hn).1
    obtain h | ⟨⟨⟩, p₃, hs, h⟩ := bind_error h
    · exact (((Fails.of_send h).extend (bs.map _)).after hbefore)
    · exact (ih h).after (hbefore.trans (Sends.of_send hs).1)

theorem Fails.of_sendFile {role : FileRole} {path : String} (h : sendFile supply role path p = (.error e, q)) :
    Fails p q (yielded supply.source role path) (supply.source.ending path) e := by
  unfold sendFile at h
  obtain h | ⟨⟨⟩, p₁, ho, h⟩ := bind_error h
  · cases h
  obtain ⟨ho, -⟩ := Sends.of_consult ho
  unfold yielded Source.ending
  rcases hr : supply.source path with f | ⟨chunks, ending⟩
  · rw [hr] at h
    cases h
    exact .fault rfl ho
  · rw [hr] at h
    obtain h | ⟨⟨⟩, p₂, hn, h⟩ := bind_error h
    · cases h
    obtain ⟨hn, hd₂⟩ := Sends.of_note hn
    have hopened := ho.trans hn
    obtain h | ⟨⟨⟩, p₃, hname, h⟩ := bind_error h
    · -- the name is refused
      have hfails := (Fails.of_send h).after hopened
      cases ending <;> exact hfails.extend _
    obtain ⟨hname, hd₃⟩ := Sends.of_send hname
    have hnamed := hopened.trans hname
    obtain h | ⟨⟨⟩, p₄, hchunks, h⟩ := bind_error h
    · -- a chunk is refused, or the source fails
      have hfails := (Fails.of_sendChunks h).after hnamed
      cases ending with
      | complete => exact hfails.extend _
      | fault | breakdown => exact hfails
    obtain ⟨hcomplete, hchunks, hd₄⟩ := Sends.of_sendChunks hchunks
    obtain h | ⟨p', p₅, hget, h⟩ := bind_error h
    · cases h
    cases hget
    obtain h | ⟨⟨⟩, p₆, hnote, h⟩ := bind_error h
    · cases h
    obtain ⟨hnote, -⟩ := Sends.of_note hnote
    -- the digest is refused
    have hdigits : p₄.digest.text = Digest.of (chunks.foldl (· ++ ·) .empty) := by
      rw [hd₄, hd₃, hd₂, Digest.text_foldl_update]
    have hfails := (Fails.of_send h).after ((hnamed.trans hchunks).trans hnote)
    rw [hdigits] at hfails
    cases hcomplete
    simpa [fileFrames] using hfails

/-! ## Files -/

/-- The error of a send over a call that has ended: its own refusal, or that it takes no more. -/
def refusal (plan : CallPlan) : Error :=
  match plan.verdict with
  | .error e => e
  | .ok _ => .streamClosed

theorem explain_of_ended {c : BackupCall} (h : c.Carries xs) (he : c.ended = true) :
    (c.explain .streamClosed).1 = refusal c.plan ∧ (c.explain .streamClosed).2.Carries xs ∧
      (c.explain .streamClosed).2.ended = true := by
  obtain ⟨hcarries, hended⟩ := h.finish_of_ended he
  have hanswer := c.answer_finish
  unfold BackupCall.explain refusal
  rcases hf : c.finish with ⟨r | u, d⟩
  · rw [hf] at hcarries hended hanswer
    rw [← hanswer]
    exact ⟨rfl, hcarries, hended⟩
  · rw [hf] at hcarries hended hanswer
    rw [← hanswer]
    exact ⟨rfl, hcarries, hended⟩

/-- A step over the file at `path` that failed, after the call had carried `zs`, and what has become of the call. -/
inductive Named (path : String) (zs rows : List BackupFrame) (ending : ReadingEnd) (c : BackupCall) : Halt → Prop
  | refused {xs ys : List BackupFrame} {x : BackupFrame} (hrows : rows = xs ++ x :: ys)
    (accepted : c.accepted.toList = zs ++ xs) (ended : c.EndedEarly) :
    Named path zs rows ending c (.failed (.transferFailed path (refusal c.plan).message))
  | fault {f : Fault} (h : ending = .fault f) (accepted : c.accepted.toList = zs ++ rows) (givenUp : c.GivenUp) :
    Named path zs rows ending c (.failed (.transferFailed path (Error.streamError f.message).message))
  | breakdown (h : ending = .breakdown) (accepted : c.accepted.toList = zs ++ rows) (givenUp : c.GivenUp) :
    Named path zs rows ending c .breakdown

theorem plan_explain (c : BackupCall) : (c.explain .streamClosed).2.plan = c.plan := by
  have hplan := c.plan_finish
  unfold BackupCall.explain
  rcases hf : c.finish with ⟨r | u, d⟩ <;> (rw [hf] at hplan; exact hplan)

/-- A failed step is told with the file it concerns. A call that goes on when the source fails is given up. -/
theorem Fails.named {path : String} {x : Run Unit} {zs : List BackupFrame}
    (h : concerning path x p = (.error e, q)) (hx : ∀ e' r, x p = (.error e', r) → Fails p r rows ending e')
    (hp : p.call.Carries zs) : Named path zs rows ending q.call e ∧ q.call.plan = p.call.plan ∧
      q.call.received.toList <+: q.call.accepted.toList := by
  unfold concerning at h
  rcases hr : x p with ⟨e' | u, r⟩
  · rw [hr] at h
    have hfails := hx e' r hr
    cases hfails with
    | refused hrows hs he =>
      have hplan := plan_explain r.call
      obtain ⟨hreason, hcarries, hended⟩ := explain_of_ended (hs.carries zs hp) (he zs hp)
      cases h
      refine ⟨?_, hplan.trans hs.plan, hcarries.received_prefix⟩
      change Named path zs rows ending (r.call.explain .streamClosed).2
        (.failed (.transferFailed path (r.call.explain .streamClosed).1.message))
      rw [hreason, ← hplan]
      exact .refused hrows hcarries.accepted (hcarries.endedEarly hended)
    | fault hend hs =>
      obtain ⟨hgivenUp, hplan, haccepted, hreceived⟩ := (hs.carries zs hp).abandon
      cases h
      exact ⟨.fault hend haccepted hgivenUp, hplan.trans hs.plan, hreceived⟩
    | breakdown hend hs =>
      obtain ⟨hgivenUp, hplan, haccepted, hreceived⟩ := (hs.carries zs hp).abandon
      cases h
      exact ⟨.breakdown hend haccepted hgivenUp, hplan.trans hs.plan, hreceived⟩
  · rw [hr] at h
    cases h

/-! ## A row of files -/

/-- The frames of files that are sent to the end. -/
def sentFiles (s : Source) (files : List (FileRole × String)) : List BackupFrame :=
  files.flatMap fun e => fileFrames e.1 e.2 (s.chunks e.2)

/-- The frames of files that an upload is to send: the next file follows once a file has been read to its end. -/
def intendedFiles (s : Source) : List (FileRole × String) → List BackupFrame
  | [] => []
  | (role, path) :: files =>
    match s.ending path with
    | .complete => yielded s role path ++ intendedFiles s files
    | _ => yielded s role path

/-- The frames that an upload is to send: the metadata, then what its source yields of each file. -/
def intended (s : Source) (f : BackupFragment) (agentId backupName : String) : List BackupFrame :=
  metadataFrame f agentId backupName :: intendedFiles s f.files

theorem yielded_prefix_intendedFiles (s : Source) (role : FileRole) (path : String) (files : List (FileRole × String)) :
    yielded s role path <+: intendedFiles s ((role, path) :: files) := by
  rw [intendedFiles]
  split
  · exact List.prefix_append _ _
  · exact List.prefix_rfl

theorem intendedFiles_append {s : Source} {before : List (FileRole × String)} (h : ∀ e ∈ before, s.Complete e.2)
    (files : List (FileRole × String)) :
    intendedFiles s (before ++ files) = sentFiles s before ++ intendedFiles s files := by
  induction before with
  | nil => rfl
  | cons e before ih =>
    obtain ⟨he, hbefore⟩ := List.forall_mem_cons.1 h
    rw [List.cons_append, intendedFiles, Source.ending_eq_complete.2 he, yielded_of_complete _ he]
    dsimp only
    rw [ih hbefore, ← List.append_assoc]
    rfl

theorem body_of_mem_fileFrames {role : FileRole} {path : String} {chunks : List ByteArray} {y : BackupFrame}
    (h : y ∈ fileFrames role path chunks) : ∃ chunk, y.body = some (.file role chunk) := by
  simp only [fileFrames, List.cons_append, List.mem_cons, List.mem_append, List.mem_map, List.not_mem_nil,
    or_false] at h
  obtain rfl | ⟨b, -, rfl⟩ | rfl := h <;> exact ⟨_, rfl⟩

theorem body_of_mem_yielded {s : Source} {role : FileRole} {path : String} {y : BackupFrame}
    (h : y ∈ yielded s role path) : ∃ chunk, y.body = some (.file role chunk) := by
  unfold yielded at h
  split at h
  · cases h
  · exact body_of_mem_fileFrames h
  · exact body_of_mem_fileFrames (List.mem_append_left [_] h)

/-- Every frame after the metadata carries a piece of one of the files. -/
theorem body_of_mem_intendedFiles {s : Source} {files : List (FileRole × String)} {y : BackupFrame}
    (h : y ∈ intendedFiles s files) : ∃ e ∈ files, ∃ chunk, y.body = some (.file e.1 chunk) := by
  induction files with
  | nil => cases h
  | cons e files ih =>
    obtain ⟨role, path⟩ := e
    rw [intendedFiles] at h
    split at h
    · obtain h | h := List.mem_append.1 h
      · exact ⟨_, List.mem_cons_self, body_of_mem_yielded h⟩
      · obtain ⟨e, he, hy⟩ := ih h
        exact ⟨e, List.mem_cons_of_mem _ he, hy⟩
    · exact ⟨_, List.mem_cons_self, body_of_mem_yielded h⟩

/-- The first file that fails, once all files before it have been sent. -/
theorem sendFiles_error {files : List (FileRole × String)} {zs : List BackupFrame}
    (h : sendFiles supply files p = (.error e, q)) (hp : p.call.Carries zs) :
    ∃ before role path after, files = before ++ (role, path) :: after ∧ (∀ e ∈ before, supply.source.Complete e.2) ∧
      Named path (zs ++ sentFiles supply.source before) (yielded supply.source role path) (supply.source.ending path)
        q.call e ∧ q.call.plan = p.call.plan ∧ q.call.received.toList <+: q.call.accepted.toList := by
  induction files generalizing p zs with
  | nil => cases h
  | cons file files ih =>
    obtain ⟨role, path⟩ := file
    obtain h | ⟨⟨⟩, r, hfile, h⟩ := bind_error h
    · obtain ⟨hnamed, hcall⟩ := Fails.named h (fun _ _ => Fails.of_sendFile) hp
      exact ⟨[], role, path, files, rfl, nofun, by simpa [sentFiles] using hnamed, hcall⟩
    · obtain ⟨hcomplete, hsent⟩ := Sends.of_sendFile (concerning_ok hfile)
      obtain ⟨before, role', path', after, rfl, hbefore, hnamed, hplan, hreceived⟩ := ih h (hsent.carries zs hp)
      refine ⟨(role, path) :: before, role', path', after, rfl, List.forall_mem_cons.2 ⟨hcomplete, hbefore⟩, ?_,
        hplan.trans hsent.plan, hreceived⟩
      rw [sentFiles, List.flatMap_cons, ← List.append_assoc]
      exact hnamed

/-! ## A whole upload -/

/-- Why an upload stops, what it is told, and what has become of the call. -/
inductive Stops (s : Source) (f : BackupFragment) (agentId backupName : String) (c : BackupCall) : Halt → Prop
  /-- The call has ended before it took the metadata. -/
  | metadata (accepted : c.accepted.toList = []) (ended : c.EndedEarly) :
    Stops s f agentId backupName c (.failed (.transferFailed f.path (refusal c.plan).message))
  /-- The call has ended before it took all frames of a file. -/
  | frame {before after : List (FileRole × String)} {role : FileRole} {path : String} {xs ys : List BackupFrame}
    {x : BackupFrame} (files : f.files = before ++ (role, path) :: after) (complete : ∀ e ∈ before, s.Complete e.2)
    (frames : yielded s role path = xs ++ x :: ys)
    (accepted : c.accepted.toList = metadataFrame f agentId backupName :: sentFiles s before ++ xs)
    (ended : c.EndedEarly) :
    Stops s f agentId backupName c (.failed (.transferFailed path (refusal c.plan).message))
  /-- A file cannot be opened or read on. -/
  | source {before after : List (FileRole × String)} {role : FileRole} {path : String} {fault : Fault}
    (files : f.files = before ++ (role, path) :: after) (complete : ∀ e ∈ before, s.Complete e.2)
    (unread : s path = .error fault ∨ ∃ chunks, s path = .ok ⟨chunks, .fault fault⟩)
    (accepted : c.accepted.toList = metadataFrame f agentId backupName :: sentFiles s before ++ yielded s role path)
    (givenUp : c.GivenUp) :
    Stops s f agentId backupName c (.failed (.transferFailed path (Error.streamError fault.message).message))
  /-- The reading of a file breaks down, and the sender with it. -/
  | breakdown {before after : List (FileRole × String)} {role : FileRole} {path : String}
    (files : f.files = before ++ (role, path) :: after) (complete : ∀ e ∈ before, s.Complete e.2)
    (breaks : ∃ chunks, s path = .ok ⟨chunks, .breakdown⟩)
    (accepted : c.accepted.toList = metadataFrame f agentId backupName :: sentFiles s before ++ yielded s role path)
    (givenUp : c.GivenUp) : Stops s f agentId backupName c .breakdown
  /-- The call has taken all frames and refuses. -/
  | answer {e : Error} (complete : ∀ e ∈ f.files, s.Complete e.2)
    (accepted : c.accepted.toList = expectedFrames f agentId backupName s.chunks) (ended : c.ended = true)
    (refused : c.plan.verdict = .error e) :
    Stops s f agentId backupName c (.failed (.transferFailed f.path e.message))

variable {s : Source} {f : BackupFragment} {agentId backupName : String} {c : BackupCall}

theorem expectedFrames_eq_intended (h : ∀ e ∈ f.files, s.Complete e.2) :
    expectedFrames f agentId backupName s.chunks = intended s f agentId backupName := by
  have hfiles := intendedFiles_append h []
  rw [List.append_nil] at hfiles
  rw [intended, hfiles, intendedFiles, List.append_nil]
  rfl

/-- The frames of a file that were taken are where they belong. -/
theorem accepted_prefix_intended {before after : List (FileRole × String)} {role : FileRole} {path : String}
    (files : f.files = before ++ (role, path) :: after) (complete : ∀ e ∈ before, s.Complete e.2)
    (h : xs <+: yielded s role path) :
    metadataFrame f agentId backupName :: sentFiles s before ++ xs <+: intended s f agentId backupName := by
  rw [intended, files, intendedFiles_append complete, List.cons_append, List.cons_prefix_cons]
  exact ⟨rfl, (List.prefix_append_right_inj _).2 (h.trans (yielded_prefix_intendedFiles ..))⟩

theorem Stops.accepted_prefix (h : Stops s f agentId backupName c e) :
    c.accepted.toList <+: intended s f agentId backupName := by
  cases h with
  | metadata accepted => exact accepted ▸ List.nil_prefix
  | frame files complete frames accepted =>
    exact accepted ▸ accepted_prefix_intended files complete ⟨_, frames.symm⟩
  | source files complete _ accepted | breakdown files complete _ accepted =>
    exact accepted ▸ accepted_prefix_intended files complete List.prefix_rfl
  | answer complete accepted =>
    rw [accepted, expectedFrames_eq_intended complete]

theorem Stops.of_named {before after : List (FileRole × String)} {role : FileRole} {path : String}
    (files : f.files = before ++ (role, path) :: after) (complete : ∀ e ∈ before, s.Complete e.2)
    (h : Named path (metadataFrame f agentId backupName :: sentFiles s before) (yielded s role path) (s.ending path)
      c e) : Stops s f agentId backupName c e := by
  cases h with
  | refused hrows accepted ended => exact .frame files complete hrows accepted ended
  | fault hend accepted givenUp =>
    exact .source files complete (Source.ending_eq_fault.1 hend) accepted givenUp
  | breakdown hend accepted givenUp =>
    exact .breakdown files complete (Source.ending_eq_breakdown.1 hend) accepted givenUp

/-- An upload that fails, and why. -/
theorem run_error {plan : CallPlan} {d : Digest} (h : run supply f agentId backupName plan d = (.error e, q)) :
    Stops supply.source f agentId backupName q.call e ∧ q.call.plan = plan ∧
      q.call.received.toList <+: q.call.accepted.toList := by
  have hstart := BackupCall.carries_start plan
  unfold run transfer at h
  obtain h | ⟨⟨⟩, p₁, hmeta, h⟩ := bind_error h
  · -- the metadata is refused
    obtain ⟨hnamed, hcall⟩ := Fails.named h (fun _ _ => Fails.of_send) hstart
    refine ⟨?_, hcall⟩
    cases hnamed with
    | @refused xs _ _ hrows accepted ended =>
      cases xs with
      | nil => exact .metadata accepted ended
      | cons => simp at hrows
    | fault hend | breakdown hend => cases hend
  obtain ⟨hmeta, -⟩ := Sends.of_send (concerning_ok hmeta)
  obtain h | ⟨⟨⟩, p₂, hfiles, hfin⟩ := bind_error h
  · -- a file fails
    obtain ⟨before, role, path, after, hf, hbefore, hnamed, hplan, hreceived⟩ :=
      sendFiles_error h (hmeta.carries _ hstart)
    exact ⟨.of_named hf hbefore hnamed, hplan.trans hmeta.plan, hreceived⟩
  · -- the call refuses
    obtain ⟨hcomplete, hfiles⟩ := Sends.of_sendFiles hfiles
    have hall := hmeta.trans hfiles
    obtain ⟨haccepted, hreceived, hended⟩ := (hall.carries _ hstart).finish
    have hanswer := p₂.call.answer_finish
    have hplan := p₂.call.plan_finish
    unfold finish at hfin
    rcases hf : p₂.call.finish with ⟨r | u, c⟩
    · rw [hf] at hfin haccepted hreceived hended hanswer hplan
      cases hfin
      refine ⟨.answer hcomplete haccepted hended ?_, hplan.trans hall.plan, ?_⟩
      · rw [hplan, ← hanswer]
      · rw [haccepted, hreceived]
        exact CallPlan.reads_prefix _ _
    · rw [hf] at hfin
      cases hfin

/-- Whatever becomes of an upload, what the other side receives is a beginning of what was accepted, and that is a
beginning of what was to be sent. -/
theorem run_prefix (supply : Supply) (f : BackupFragment) (agentId backupName : String) (plan : CallPlan) (d : Digest) :
    let c := (run supply f agentId backupName plan d).2.call
    c.received.toList <+: c.accepted.toList ∧ c.accepted.toList <+: intended supply.source f agentId backupName := by
  rcases hr : run supply f agentId backupName plan d with ⟨e | ⟨⟨⟩⟩, q⟩
  · obtain ⟨hstops, -, hreceived⟩ := run_error hr
    exact ⟨hreceived, hstops.accepted_prefix⟩
  · obtain ⟨hcomplete, -, haccepted, hreceived, -⟩ := run_ok (congrArg Prod.fst hr)
    rw [hr] at haccepted hreceived
    dsimp only
    refine ⟨?_, ?_⟩
    · rw [haccepted, hreceived]
      exact plan.reads_prefix _
    · rw [haccepted, expectedFrames_eq_intended hcomplete]

end Upload

end Custodian
