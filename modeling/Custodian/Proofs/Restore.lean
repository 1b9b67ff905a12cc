import Custodian.Proofs.Segments
import Custodian.Proofs.Sink

/-!
# Downloads into a file tree

* `Segment.effect` : what a segment makes of the entry at a place; `after` : the same for a row of segments;
* `after_last`, `after_unnamed` : of many segments the last that names a place decides what stands there, and elsewhere
  only directories on the way of a file are new;
* `Received.entry?_eq` : the tree that a download without faults leaves is the one its segments describe;
* `run_segments` : a whole download, outcome and tree, in terms of its segments.
-/

namespace Custodian.Download

set_option autoImplicit false

/-! ## What segments make of a place -/

/-- What a segment leaves at its own place. -/
def Segment.left (s : Segment) : Option Entry := if s.mismatched then none else some (.file s.content)

/-- What a segment makes of the entry at a place. -/
def Segment.effect (t : Tree) (s : Segment) (q : Place) (e : Option Entry) : Option Entry :=
  if q = t.place s.path then s.left
  else if e = none ∧ q ∈ FileSink.way t s.path then some .dir else e

/-- What a row of segments makes of the entries at all places. -/
def after (t : Tree) (segs : List Segment) (entries : Place → Option Entry) (q : Place) : Option Entry :=
  segs.foldl (fun e s => s.effect t q e) (entries q)

theorem after_append (t : Tree) (ss ts : List Segment) (entries : Place → Option Entry) :
    after t (ss ++ ts) entries = after t ts (after t ss entries) := by
  funext q
  exact List.foldl_append

theorem after_cons (t : Tree) (s : Segment) (ss : List Segment) (entries : Place → Option Entry) (q : Place) :
    after t (s :: ss) entries q = after t ss (fun q => s.effect t q (entries q)) q := rfl

@[simp] theorem after_nil (t : Tree) (entries : Place → Option Entry) : after t [] entries = entries := rfl

/-- Where no segment has its place, nothing changes but that a directory is made if one is needed. -/
theorem after_unnamed (t : Tree) (segs : List Segment) (entries : Place → Option Entry) (q : Place)
    (h : ∀ s ∈ segs, t.place s.path ≠ q) :
    after t segs entries q =
      if entries q = none ∧ ∃ s ∈ segs, q ∈ FileSink.way t s.path then some .dir else entries q := by
  induction segs generalizing entries with
  | nil => simp
  | cons s segs ih =>
    have hq : q ≠ t.place s.path := fun hq => h s (by simp) hq.symm
    have hs : s.effect t q (entries q) =
        if entries q = none ∧ q ∈ FileSink.way t s.path then some .dir else entries q := by
      rw [Segment.effect, if_neg hq]
    rw [after_cons, ih _ fun s hs => h s (List.mem_cons_of_mem _ hs), hs]
    by_cases he : entries q = none <;> by_cases hw : q ∈ FileSink.way t s.path <;> simp [he, hw]

/-- The last segment that has its place somewhere decides what is there, but for a directory made where it left
nothing. -/
theorem after_last (t : Tree) (earlier later : List Segment) (seg : Segment) (entries : Place → Option Entry)
    (h : ∀ s ∈ later, t.place s.path ≠ t.place seg.path) :
    after t (earlier ++ seg :: later) entries (t.place seg.path) =
      if seg.left = none ∧ ∃ s ∈ later, t.place seg.path ∈ FileSink.way t s.path then some .dir else seg.left := by
  have hs (e : Option Entry) : seg.effect t (t.place seg.path) e = seg.left := by
    rw [Segment.effect, if_pos rfl]
  rw [after_append, after_cons, after_unnamed t later _ _ h, hs]

/-! ## The tree under a download -/

/-- Directories that stay. -/
def Keeps (t t' : Tree) : Prop := ∀ r, t.entry? r = some .dir → t'.entry? r = some .dir

theorem Keeps.refl (t : Tree) : Keeps t t := fun _ h => h

theorem Keeps.trans {t t' t'' : Tree} (h : Keeps t t') (h' : Keeps t' t'') : Keeps t t'' := fun r hr => h' r (h r hr)

/-- A path was found to lead to a place, and what led there has stayed. -/
def Leads (t : Tree) (path : String) (p : Place) : Prop :=
  ∃ t' e, t'.find path = .ok (p, e) ∧ t.work = t'.work ∧ Keeps t' t

theorem Leads.keeps {t t' : Tree} {path : String} {p : Place} (h : Leads t path p) (hw : t'.work = t.work)
    (hk : Keeps t t') : Leads t' path p := by
  obtain ⟨t₁, e, hf, hw₁, hk₁⟩ := h
  exact ⟨t₁, e, hf, hw.trans hw₁, hk₁.trans hk⟩

theorem Leads.find {t : Tree} {path : String} {p : Place} {e : Entry} (h : Leads t path p) (he : t.entry? p = some e) :
    t.find path = .ok (p, e) := by
  obtain ⟨t₁, e₁, hf, hw, hk⟩ := h
  exact Tree.find_keeps hf hw hk he

/-- The tree under a download holds what stood there before and what has begun since, which is the open file. -/
structure Mirrors (t : Tree) (entries : Place → Option Entry) (s : FileSink) (o : Begun) : Prop where
  work : s.tree.work = t.work
  entry? : ∀ q, s.tree.entry? q = after t (ended o none) entries q
  file : ∀ f c, o = some (f, c) → s.file = some (.listed (t.place f.path))

variable {t : Tree} {entries : Place → Option Entry} {dir : String} {p q : Progress FileSink} {piece : Piece}
  {ps : List Piece} {o : Begun}

theorem after_ended_self (f : Current) (c : ByteArray) (x : Option String) :
    after t (ended (some (f, c)) x) entries (t.place f.path) = Segment.left ⟨f.name, f.path, c, x⟩ := by
  simp [after, ended, Segment.effect]

/-- Elsewhere it does not matter what becomes of the open file. -/
theorem after_ended_of_ne {f : Current} {c c' : ByteArray} {x y : Option String} {r : Place}
    (h : r ≠ t.place f.path) :
    after t (ended (some (f, c)) x) entries r = after t (ended (some (f, c')) y) entries r := by
  simp [after, ended, Segment.effect, h]

theorem left_of_not_closed (name path : String) (c : ByteArray) :
    Segment.left ⟨name, path, c, none⟩ = some (.file c) := rfl

/-- A change at one place where no directory stands. -/
theorem Keeps.of_ne {t t' : Tree} {p : Place} (hp : t.entry? p ≠ some .dir)
    (h : ∀ r, r ≠ p → t'.entry? r = t.entry? r) : Keeps t t' := by
  intro r hr
  have hne : r ≠ p := by
    rintro rfl
    exact hp hr
  rw [h r hne, hr]

namespace Mirrors

variable {s s' : FileSink} {f : Current} {c : ByteArray} {digits : String}

theorem entry?_file (h : Mirrors t entries s (some (f, c))) : s.tree.entry? (t.place f.path) = some (.file c) := by
  rw [h.entry?, after_ended_self, left_of_not_closed]

theorem not_dir (h : Mirrors t entries s (some (f, c))) : s.tree.entry? (t.place f.path) ≠ some .dir := by
  rw [h.entry?_file]
  simp

theorem opened (hm : Mirrors t entries s o) (name : String) {path : String}
    (hs : FileSink.openFile path s = (.ok (), s')) :
    Mirrors t (after t (ended o none) entries) s' (some (⟨name, path⟩, .empty)) ∧ Keeps s.tree s'.tree := by
  obtain ⟨hw, hfile, hnd, -, he⟩ := FileSink.openFile_spec hs
  rw [Tree.place_congr hm.work] at hfile hnd he
  rw [FileSink.way_congr hm.work] at he
  refine ⟨⟨hw.trans hm.work, fun r => ?_, fun f c hfc => ?_⟩, fun r hr => ?_⟩
  · rw [he, hm.entry?]
    rfl
  · cases hfc
    exact hfile
  · have hne : r ≠ t.place path := by
      rintro rfl
      exact hnd hr
    rw [he, if_neg hne, hr]
    simp

theorem written (hm : Mirrors t entries s (some (f, c))) (b : ByteArray) :
    Mirrors t entries { s with tree := s.tree.append (t.place f.path) b } (some (f, c ++ b)) ∧
      Keeps s.tree (s.tree.append (t.place f.path) b) := by
  have he := Tree.entry?_append s.tree hm.entry?_file b
  refine ⟨⟨(Tree.work_append _ _ _).trans hm.work, fun r => ?_, fun f' c' hfc => ?_⟩, .of_ne hm.not_dir fun r hr => ?_⟩
  · show Tree.entry? (s.tree.append _ b) r = _
    by_cases hr : r = t.place f.path
    · rw [he, if_pos hr, hr, after_ended_self, left_of_not_closed]
    · rw [he, if_neg hr, hm.entry?]
      exact after_ended_of_ne hr
  · cases hfc
    exact hm.file f c rfl
  · rw [he, if_neg hr]

theorem verified (hm : Mirrors t entries s (some (f, c))) (hd : Digest.of c = digits) :
    Mirrors t (after t (ended (some (f, c)) (some digits)) entries) s.close none := by
  have hleft : Segment.left ⟨f.name, f.path, c, some digits⟩ = some (.file c) := by
    simp [Segment.left, Segment.mismatched, Segment.verified, hd]
  refine ⟨hm.work, fun r => ?_, by simp⟩
  show s.tree.entry? r = after t (ended (some (f, c)) (some digits)) entries r
  by_cases hr : r = t.place f.path
  · rw [hr, hm.entry?_file, after_ended_self, hleft]
  · rw [hm.entry?]
    exact after_ended_of_ne hr

/-- The open file is closed by another digest, and removed. -/
theorem mismatched (hm : Mirrors t entries s (some (f, c))) (hd : Digest.of c ≠ digits)
    (hs : FileSink.remove f.path s.close = (.ok (), s')) :
    Mirrors t (after t (ended (some (f, c)) (some digits)) entries) s' none ∧ Keeps s.tree s'.tree := by
  have hleft : Segment.left ⟨f.name, f.path, c, some digits⟩ = none := by
    simp [Segment.left, Segment.mismatched, Segment.verified, Ne.symm hd]
  obtain ⟨rfl, hroot⟩ := FileSink.remove_spec hs rfl
  have hplace : s.close.tree.place f.path = t.place f.path := Tree.place_congr hm.work _
  rw [hplace] at hroot ⊢
  have he := Tree.entry?_erase s.tree hroot
  refine ⟨⟨hm.work, fun r => ?_, by simp⟩, .of_ne hm.not_dir fun r hr => (he r).trans (if_neg hr)⟩
  show Tree.entry? (s.tree.erase _) r = after t (ended (some (f, c)) (some digits)) entries r
  by_cases hr : r = t.place f.path
  · rw [he, if_pos hr, hr, after_ended_self, hleft]
  · rw [he, if_neg hr, hm.entry?]
    exact after_ended_of_ne hr

end Mirrors

theorem Took.mirrors (h : Took FileSink.sink dir p piece (.ok ()) q) (ho : StandsAt p o)
    (hm : Mirrors t entries p.engine.store o) (hf : q.engine.Faultless) :
    Mirrors t (after t (advance dir piece o).1 entries) q.engine.store (advance dir piece o).2 ∧
      Keeps p.engine.store.tree q.engine.store.tree := by
  cases h with
  | rejected h =>
    simp only [advance, h, Option.map_none]
    exact ⟨⟨hm.work, hm.entry?, by simp⟩, .refl _⟩
  | @opened name path s h hs =>
    simp only [advance, h, Option.map_some]
    exact hm.opened name hs
  | strayContent h =>
    cases ho.eq_none h
    exact ⟨hm, .refl _⟩
  | @written b f s h hs =>
    obtain ⟨c, rfl, -⟩ := ho.eq_some h
    rw [show FileSink.sink.write = FileSink.write from rfl, FileSink.write_spec (hm.file f c rfl)] at hs
    cases hs
    exact hm.written b
  | strayChecksum h =>
    cases ho.eq_none h
    exact ⟨hm, .refl _⟩
  | @verified digits f s h hs hd =>
    obtain ⟨c, rfl, hc⟩ := ho.eq_some h
    cases hs
    exact ⟨hm.verified (hc.symm.trans hd), .refl _⟩
  | @mismatched digits f s s' r h hs hd hr =>
    obtain ⟨c, rfl, hc⟩ := ho.eq_some h
    cases hs
    -- only a removal may fail, and then a fault is noted
    have hok : r = .ok () := by
      cases r with
      | ok => rfl
      | error e => exact absurd hf (by simp [Except.isOk, Except.toBool])
    subst hok
    exact hm.mismatched (hc ▸ hd) hr

/-- All pieces taken in without a fault leave what the segments describe. -/
theorem Received.entry?_eq (h : Received FileSink.sink dir p ps q) (ho : StandsAt p o)
    (hm : Mirrors t entries p.engine.store o) (hf : q.engine.Faultless) :
    (∀ r, q.engine.store.tree.entry? r = after t (segmentsFrom dir o ps) entries r) ∧
      q.engine.store.tree.work = t.work ∧ Keeps p.engine.store.tree q.engine.store.tree := by
  induction h generalizing o entries with
  | nil p =>
    rw [segmentsFrom_nil]
    exact ⟨hm.entry?, hm.work, .refl _⟩
  | cons ht hs ih =>
    -- what the segments that have ended leave is taken for what stood there before
    obtain ⟨hm', hk⟩ := ht.mirrors ho hm (hs.faultless hf)
    obtain ⟨he, hw, hk'⟩ := ih (ht.standsAt ho) hm' hf
    rw [segmentsFrom_cons, after_append]
    exact ⟨he, hw, hk.trans hk'⟩

theorem Received.leads (h : Received FileSink.sink dir p ps q) (ho : StandsAt p o)
    (hm : Mirrors t entries p.engine.store o) (hf : q.engine.Faultless) {seg : Segment}
    (hseg : seg ∈ segments dir ps) : Leads q.engine.store.tree seg.path (t.place seg.path) := by
  induction h generalizing o entries with
  | nil p => simp [segments, named] at hseg
  | @cons p q r piece ps ht hs ih =>
    obtain ⟨hm', -⟩ := ht.mirrors ho hm (hs.faultless hf)
    have ho' := ht.standsAt ho
    have rest (hin : seg ∈ segments dir ps) := ih ho' hm' hf hin
    cases ht with
    | rejected h =>
      simp only [segments, named, List.filterMap_cons, segment?, h, Option.map_none] at hseg
      exact rest hseg
    | opened h hs' =>
      simp only [segments, named, List.filterMap_cons, segment?, h, Option.map_some, List.mem_cons] at hseg
      obtain rfl | hin := hseg
      · -- its path was found when it was opened, and since then directories have stayed
        obtain ⟨hwork, -, -, hfind, -⟩ := FileSink.openFile_spec hs'
        rw [Tree.place_congr hm.work] at hfind
        obtain ⟨-, hw, hk⟩ := hs.entry?_eq ho' hm' hf
        exact ⟨_, _, hfind, hw.trans (hwork.trans hm.work).symm, hk⟩
      · exact rest hin
    | strayContent | written | strayChecksum | verified | mismatched => exact rest hseg

/-! ## A whole download -/

theorem Mirrors.start (s : FileSink) : Mirrors s.tree s.tree.entry? s none := ⟨rfl, fun _ => rfl, by simp⟩

/-- One tree is what segments leave of another. -/
structure Leaves (t : Tree) (segs : List Segment) (t' : Tree) : Prop where
  work : t'.work = t.work
  entry? : ∀ q, t'.entry? q = after t segs t.entry? q
  keeps : Keeps t t'
  leads : ∀ seg ∈ segs, Leads t' seg.path (t.place seg.path)

theorem Leaves.refl (t : Tree) : Leaves t [] t := ⟨rfl, fun _ => rfl, .refl t, by simp⟩

theorem after_congr {t t' : Tree} (h : t'.work = t.work) (segs : List Segment) (entries : Place → Option Entry) :
    after t' segs entries = after t segs entries := by
  have heffect (s : Segment) (r : Place) (e : Option Entry) : s.effect t' r e = s.effect t r e := by
    unfold Segment.effect
    rw [Tree.place_congr h, FileSink.way_congr h]
  funext r
  unfold after
  simp only [heffect]

theorem Leaves.trans {t t' t'' : Tree} {ss ts : List Segment} (h : Leaves t ss t') (h' : Leaves t' ts t'') :
    Leaves t (ss ++ ts) t'' := by
  refine ⟨h'.work.trans h.work, fun r => ?_, h.keeps.trans h'.keeps, fun seg hseg => ?_⟩
  · have he : t'.entry? = after t ss t.entry? := funext h.entry?
    rw [h'.entry?, after_congr h.work, he, after_append]
  · obtain hseg | hseg := List.mem_append.1 hseg
    · exact (h.leads seg hseg).keeps h'.work h'.keeps
    · rw [← Tree.place_congr h.work]
      exact h'.leads seg hseg

/-- The outcome and the tree of a download without read errors and without faults. -/
theorem run_eq_segments {fs : List RestoreFrame} {g : Engine FileSink}
    (h : (run FileSink.sink dir (fs.map .ok) g).2.Faultless) :
    g.Faultless ∧
      (run FileSink.sink dir (fs.map .ok) g).1 =
        .ok (({} : Outcome).add (segments dir (pieces (fs.map .ok))) (rejectedNames dir (pieces (fs.map .ok)))) ∧
      Leaves g.store.tree (segments dir (pieces (fs.map .ok)))
        (run FileSink.sink dir (fs.map .ok) g).2.store.tree := by
  obtain ⟨q, s', hq, hf, hc, hr⟩ := received_of_faultless fs h
  cases hc
  have ho : StandsAt ({ engine := g } : Progress FileSink) none := .of_none rfl
  obtain ⟨he, hw, hk⟩ := hq.entry?_eq ho (.start g.store) hf
  refine ⟨hq.faultless hf, ?_, ?_⟩
  · rw [run, hr, hq.outcome_eq ho]
    rfl
  · rw [run, hr]
    exact ⟨hw, he, hk, fun seg hseg => hq.leads ho (.start g.store) hf hseg⟩

/-- **A download is what its segments say.** When the stream can be read to its end and no call fails, the outcome
counts the segments closed by their own digest and names the others that are closed and the names that lead nowhere, in
order; the last segment at a place decides what is there: nothing if its checksum was another (or a directory that a
later file needs), otherwise its bytes; and elsewhere only directories on the way of a file are new. -/
theorem run_segments (dir : String) (fs : List RestoreFrame) (s : FileSink) (d : Digest)
    (h : (run FileSink.sink dir (fs.map .ok) { store := s, digest := d }).2.Faultless) :
    let segs := segments dir (pieces (fs.map .ok))
    let r := run FileSink.sink dir (fs.map .ok) { store := s, digest := d }
    r.1 = .ok
        { verified := segs.countP (·.verified)
          mismatched := (segs.filter (·.mismatched)).map (·.name)
          rejected := rejectedNames dir (pieces (fs.map .ok)) } ∧
      (∀ earlier seg later, segs = earlier ++ seg :: later →
        (∀ l ∈ later, s.tree.place l.path ≠ s.tree.place seg.path) →
        r.2.store.tree.entry? (s.tree.place seg.path) =
          if seg.mismatched then
            if ∃ l ∈ later, s.tree.place seg.path ∈ FileSink.way s.tree l.path then some .dir else none
          else some (.file seg.content)) ∧
      ∀ q, (∀ seg ∈ segs, s.tree.place seg.path ≠ q) →
        r.2.store.tree.entry? q =
          if s.tree.entry? q = none ∧ ∃ seg ∈ segs, q ∈ FileSink.way s.tree seg.path then some .dir
          else s.tree.entry? q := by
  obtain ⟨-, hr, hl⟩ := run_eq_segments h
  refine ⟨?_, fun earlier seg later hsegs hlast => ?_, fun q hq => ?_⟩
  · rw [hr]
    simp [Outcome.add]
  · rw [hl.entry?, hsegs, after_last _ _ _ _ _ hlast]
    cases hm : seg.mismatched <;> simp [Segment.left, hm]
  · rw [hl.entry?, after_unnamed _ _ _ _ hq]

/-- A stream with a file whose checksum is another, a rejected name, a verified file, stray content and a file that
ends too soon. -/
theorem run_segments_mixed :
    let fs : List RestoreFrame :=
      [.ofPiece .main (.name "a"), .ofPiece .main (.content ⟨#[120]⟩), .ofPiece .main (.checksum "no"),
        .ofPiece .main (.name "../b"), .ofPiece .main (.content ⟨#[121]⟩), .ofPiece .custom (.name "/c/d"),
        .ofPiece .custom (.content ⟨#[120]⟩), .ofPiece .custom (.checksum "9DD4E461268C8034F5C8564E155C67A6"),
        .ofPiece .main (.content ⟨#[122]⟩), .ofPiece .main (.name "e")]
    let s : FileSink := ⟨.ofWork .root, none⟩
    (run FileSink.sink "out" (fs.map .ok) { store := s, digest := .empty }).2.Faultless ∧
      (run FileSink.sink "out" (fs.map .ok) { store := s, digest := .empty }).1 =
        .ok { verified := 1, mismatched := ["a"], rejected := ["../b"] } :=
  ⟨by decide +kernel, (run_segments _ _ _ _ (by decide +kernel)).1.trans (by decide +kernel)⟩

/-! ## Clean outcomes -/

theorem verified_eq_isSome_of_not_mismatched {seg : Segment} (h : seg.mismatched = false) :
    seg.verified = seg.closing.isSome := by
  cases hc : seg.closing with
  | none => simp [Segment.verified, hc]
  | some digits => simpa [Segment.mismatched, hc] using h

/-- **What a clean outcome tells.** Of the files that a download with a clean outcome has opened, those are verified
that were closed by a checksum at all. The last one at a place is there with the bytes received for it; whether it is
verified is told by whether it was closed. -/
theorem verified_iff_closed_of_clean (dir : String) (stream : List (Except Error RestoreFrame)) (s : FileSink)
    (d : Digest) (o : Outcome) (h : (run FileSink.sink dir stream { store := s, digest := d }).1 = .ok o)
    (hc : o.clean = true) :
    let segs := segments dir (pieces stream)
    let r := run FileSink.sink dir stream { store := s, digest := d }
    r.2.opened = segs.map (·.path) ∧
      (∀ seg ∈ segs, seg.closing = some (Digest.of seg.content) ↔ seg.closing.isSome = true) ∧
      ∀ earlier seg later, segs = earlier ++ seg :: later →
        (∀ l ∈ later, s.tree.place l.path ≠ s.tree.place seg.path) →
        r.2.store.tree.entry? (s.tree.place seg.path) = some (.file seg.content) := by
  have hm : o.mismatched = [] := by
    simp only [Outcome.clean, Bool.and_eq_true, List.isEmpty_iff] at hc
    exact hc.1
  obtain ⟨⟨fs, rfl⟩, hf⟩ := faultless_of_frames_ok h (by simp [Engine.Faultless]) hm
  obtain ⟨-, hr, hl⟩ := run_eq_segments hf
  rw [h] at hr
  have hnone : ∀ seg ∈ segments dir (pieces (fs.map .ok)), seg.mismatched = false := by
    rw [Except.ok.inj hr] at hm
    simpa [Outcome.add] using hm
  refine ⟨?_, fun seg hseg => ?_, fun earlier seg later hsegs hlast => ?_⟩
  · obtain ⟨q, s', hq, -, -, hrun⟩ := received_of_faultless fs hf
    rw [map_path_segments]
    change (frames FileSink.sink dir (fs.map .ok) _).2.opened = _
    rw [hrun, opened_called, hq.opened_eq]
    simp [Engine.opened, Call.opened?]
  · rw [← verified_eq_isSome_of_not_mismatched (hnone seg hseg)]
    simp [Segment.verified]
  · have hseg : seg ∈ segments dir (pieces (fs.map .ok)) := by
      rw [hsegs]
      simp
    rw [hl.entry?, hsegs, after_last _ _ _ _ _ hlast]
    simp [Segment.left, hnone seg hseg]

/-- A verified file and one that ends too soon. -/
theorem verified_iff_closed_of_clean_two_files :
    let stream : List (Except Error RestoreFrame) :=
      [.ok (.ofPiece .main (.name "a")), .ok (.ofPiece .main (.content ⟨#[120]⟩)),
        .ok (.ofPiece .main (.checksum "9DD4E461268C8034F5C8564E155C67A6")), .ok (.ofPiece .main (.name "b")),
        .ok (.ofPiece .main (.content ⟨#[121]⟩))]
    let r := run FileSink.sink "out" stream { store := ⟨.ofWork .root, none⟩, digest := .empty }
    r.1 = .ok { verified := 1 } ∧ ({ verified := 1 } : Outcome).clean = true ∧ r.2.opened = ["out/a", "out/b"] :=
  ⟨by decide +kernel, by decide,
    (verified_iff_closed_of_clean _ _ _ _ { verified := 1 } (by decide +kernel) (by decide)).1.trans
      (by decide +kernel)⟩

/-- A stream that ends before the checksum of its only file has a clean outcome, and the file is left. -/
theorem clean_of_truncated :
    let stream : List (Except Error RestoreFrame) :=
      [.ok (.ofPiece .main (.name "a")), .ok (.ofPiece .main (.content ⟨#[120]⟩))]
    let r := run FileSink.sink "out" stream { store := ⟨.ofWork .root, none⟩ }
    r.1 = .ok {} ∧ ({} : Outcome).clean = true ∧ r.2.opened = ["out/a"] ∧
      (¬ ∀ seg ∈ segments "out" (pieces stream), seg.verified = true) ∧
      r.2.store.tree.readFile "out/a" = .ok ⟨#[120]⟩ :=
  ⟨by decide +kernel, by decide, by decide +kernel, by decide +kernel, by decide +kernel⟩

end Custodian.Download
