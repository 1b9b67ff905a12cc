import Custodian.Proofs.Sink

/-!
# A sink and what has been asked of it

* `FileSink.Opened` : the file of the last open that succeeded, as the calls and how they went tell it: what was written
  to it since, whether it is still open, whether it was removed; `lastOpened`, `touched`, `passed` : that file, the
  places of files opened and removed, and the places on the way to opened files;
* `FileSink.Follows` : a sink is as its history says; `Follows.act` : one more call, by a lemma for each of them;
* `FileSink.accounts_run` : so it is after any calls, and only the file that is open is written to.
-/

namespace Custodian.FileSink

set_option autoImplicit false

/-! ## Histories -/

/-- The file of an open that succeeded, and what came of it since. -/
structure Opened where
  path : String
  written : ByteArray := .empty
  isOpen : Bool := true
  removed : Bool := false
deriving DecidableEq

/-- The file of the last open that succeeded, after one more call and how it went. Any open, and a close, let go of the
file before; paths that lead to one place, from the working directory of `t`, are one file. -/
def Opened.after (t : Tree) (o : Option Opened) : Act × Except Fault Unit → Option Opened
  | (.openFile path, .ok _) => some { path }
  | (.openFile _, .error _) | (.close, _) => o.map fun x => { x with isOpen := false }
  | (.write b, .ok _) => o.map fun x => { x with written := x.written ++ b }
  | (.remove path, .ok _) => o.map fun x => { x with removed := x.removed || t.place path = t.place x.path }
  | (.write _, .error _) | (.remove _, .error _) => o

/-- The file of the last open that succeeded. -/
def lastOpened (t : Tree) (h : List (Act × Except Fault Unit)) : Option Opened := h.foldl (Opened.after t) none

/-- The places of the files that were opened or removed. -/
def touched (t : Tree) (h : List (Act × Except Fault Unit)) : List Place :=
  h.filterMap fun
    | (.openFile path, .ok _) | (.remove path, .ok _) => some (t.place path)
    | _ => none

/-- The places of the directories that opened files need. -/
def passed (t : Tree) (h : List (Act × Except Fault Unit)) : List Place :=
  h.flatMap fun
    | (.openFile path, _) => way t path
    | _ => []

/-- What a sink holds of the file of the last open. -/
def Opened.held (t : Tree) (x : Opened) : Option OpenFile :=
  if x.isOpen then some (if x.removed then .unlisted else .listed (t.place x.path)) else none

/-- The removal of a file at a place makes a difference to what is held only if that file is held there. -/
theorem Opened.held_removed (t : Tree) (x : Opened) (p : Place) :
    Opened.held t { x with removed := x.removed || p = t.place x.path } =
      if x.held t = some (.listed p) then some .unlisted else x.held t := by
  obtain ⟨path, written, isOpen, removed⟩ := x
  cases isOpen with
  | false => rfl
  | true =>
    cases removed with
    | true => rfl
    | false =>
      by_cases hp : p = t.place path
      · simp [Opened.held, hp]
      · simp [Opened.held, hp, Ne.symm hp]

/-! ## The sink follows its history -/

/-- A sink whose calls began on the tree `t`, without an open file, is as its history says. -/
structure Follows (t : Tree) (h : List (Act × Except Fault Unit)) (s : FileSink) : Prop where
  grows : t.Grows s.tree (touched t h) (passed t h)
  file : s.file = (lastOpened t h).bind (·.held t)
  touches : ∀ x, lastOpened t h = some x → t.place x.path ∈ touched t h
  content : ∀ x, lastOpened t h = some x → x.removed = false →
    s.tree.find x.path = .ok (t.place x.path, .file x.written)

variable {t : Tree} {h : List (Act × Except Fault Unit)} {s s' : FileSink} {path : String}

theorem follows_start (t : Tree) : Follows t [] ⟨t, none⟩ :=
  ⟨.refl t _ _, rfl, nofun, nofun⟩

theorem lastOpened_snoc (t : Tree) (h : List (Act × Except Fault Unit)) (e : Act × Except Fault Unit) :
    lastOpened t (h ++ [e]) = Opened.after t (lastOpened t h) e := by
  simp [lastOpened]

theorem touched_snoc (t : Tree) (h : List (Act × Except Fault Unit)) (e : Act × Except Fault Unit) :
    touched t (h ++ [e]) = touched t h ++ touched t [e] := List.filterMap_append

theorem passed_snoc (t : Tree) (h : List (Act × Except Fault Unit)) (e : Act × Except Fault Unit) :
    passed t (h ++ [e]) = passed t h ++ passed t [e] := List.flatMap_append

/-- A sink that holds a file holds that of the last open, which nothing has closed since. -/
theorem Follows.opened (hf : Follows t h s) {f : OpenFile} (hs : s.file = some f) :
    ∃ x, lastOpened t h = some x ∧ x.isOpen = true ∧ f = if x.removed then .unlisted else .listed (t.place x.path) := by
  have hfile := hf.file
  rw [hs] at hfile
  obtain ⟨x, hx, hheld⟩ := Option.bind_eq_some_iff.1 hfile.symm
  unfold Opened.held at hheld
  split_ifs at hheld with hopen hremoved
  all_goals exact ⟨x, hx, hopen, by simpa [hremoved] using hheld.symm⟩

/-- The file that was opened last is as it was when nothing has touched it. -/
theorem Follows.content_of_grows (hf : Follows t h s) {x : Opened} {ps ws : List Place} (hx : lastOpened t h = some x)
    (hremoved : x.removed = false) (hg : s.tree.Grows s'.tree ps ws)
    (hps : ∀ p ∈ ps, p ≠ t.place x.path ∧ s.tree.entry? p ≠ some .dir) :
    s'.tree.find x.path = .ok (t.place x.path, .file x.written) := by
  have hfind := hf.content x hx hremoved
  refine Tree.find_keeps hfind hg.work (fun r hr => hg.entry_of_some (fun hmem => (hps r hmem).2 hr) hr) ?_
  exact hg.entry_of_some (fun hmem => (hps _ hmem).1 rfl) (Tree.entry?_of_find hfind)

namespace Follows

/-- One more call: what it changes is an open file or lies on the way to one, and the file of the last open is as it
should be after it. -/
theorem snoc (hf : Follows t h s) {e : Act × Except Fault Unit} {ps ws : List Place}
    (hgrows : s.tree.Grows s'.tree ps ws) (hps : ps ⊆ touched t (h ++ [e])) (hws : ws ⊆ passed t [e])
    (hfile : s'.file = (Opened.after t (lastOpened t h) e).bind (·.held t))
    (hlast : ∀ y, Opened.after t (lastOpened t h) e = some y → t.place y.path ∈ touched t (h ++ [e]) ∧
      (y.removed = false → s'.tree.find y.path = .ok (t.place y.path, .file y.written))) :
    Follows t (h ++ [e]) s' := by
  refine ⟨(hf.grows.trans hgrows).mono ?_ ?_, ?_, fun y hy => ?_, fun y hy => ?_⟩
  · rw [touched_snoc] at hps ⊢
    exact List.append_subset.2 ⟨List.subset_append_left _ _, hps⟩
  · rw [passed_snoc]
    exact List.append_subset.2 ⟨List.subset_append_left _ _, List.Subset.trans hws (List.subset_append_right _ _)⟩
  · rw [hfile, lastOpened_snoc]
  · exact (hlast y (lastOpened_snoc t h e ▸ hy)).1
  · exact (hlast y (lastOpened_snoc t h e ▸ hy)).2

theorem mem_touched_snoc {p : Place} (hp : p ∈ touched t h) (e : Act × Except Fault Unit) : p ∈ touched t (h ++ [e]) := by
  rw [touched_snoc]
  exact List.mem_append_left _ hp

theorem openFile_ok (hf : Follows t h s) (ho : openFile path s = (.ok (), s')) :
    Follows t (h ++ [(.openFile path, .ok ())]) s' := by
  obtain ⟨-, hfile, -, hfind, -⟩ := openFile_spec ho
  have hgrows := grows_of_openFile ho
  rw [Tree.place_congr hf.grows.work] at hfile hfind hgrows
  rw [way_congr hf.grows.work] at hgrows
  have hplace : t.place path ∈ touched t (h ++ [(.openFile path, .ok ())]) := by
    rw [touched_snoc]
    exact List.mem_append_right _ (List.mem_singleton_self _)
  refine hf.snoc hgrows (by simpa using hplace) (by simp [passed]) hfile fun y hy => ?_
  obtain rfl : { path } = y := Option.some.inj hy
  exact ⟨hplace, fun _ => hfind⟩

/-- A call that lets go of the open file, and at most makes directories. -/
theorem let_go (hf : Follows t h s) {e : Act × Except Fault Unit}
    (he : Opened.after t (lastOpened t h) e = (lastOpened t h).map fun x => { x with isOpen := false })
    (hfile : s'.file = none) (hgrows : s.tree.Grows s'.tree [] (passed t [e])) : Follows t (h ++ [e]) s' := by
  refine hf.snoc hgrows (List.nil_subset _) (List.Subset.refl _) ?_ fun y hy => ?_
  · rw [hfile, he]
    cases lastOpened t h <;> rfl
  · rw [he, Option.map_eq_some_iff] at hy
    obtain ⟨x, hx, rfl⟩ := hy
    refine ⟨mem_touched_snoc (hf.touches x hx) e, fun hremoved => ?_⟩
    have hfind := hf.content_of_grows hx hremoved hgrows (by simp)
    exact hfind

/-- A write to the file that is open, be it listed or not. -/
theorem write_ok (hf : Follows t h s) {b : ByteArray} (hw : write b s = (.ok (), s')) :
    Follows t (h ++ [(.write b, .ok ())]) s' := by
  cases hs : s.file with
  | none => simp [write, hs] at hw
  | some f =>
    obtain ⟨x, hx, hopen, rfl⟩ := hf.opened hs
    have hafter : Opened.after t (lastOpened t h) (.write b, .ok ()) = some { x with written := x.written ++ b } := by
      rw [hx]
      rfl
    have htouches := hf.touches x hx
    have hheld : s.file = Opened.held t { x with written := x.written ++ b } := by
      rw [hf.file, hx]
      rfl
    cases hremoved : x.removed with
    | true =>
      simp only [write, hs, hremoved, if_true] at hw
      obtain rfl := (Prod.mk.inj hw).2
      refine hf.snoc (.refl _ [] []) (List.nil_subset _) (List.nil_subset _) ?_ fun y hy => ?_
      · rw [hafter]
        exact hheld
      · obtain rfl := Option.some.inj (hafter.symm.trans hy)
        exact ⟨mem_touched_snoc htouches _, fun hy' => absurd hy' (by simp [hremoved])⟩
    | false =>
      simp only [hremoved, Bool.false_eq_true, if_false] at hs
      rw [write_spec hs] at hw
      obtain rfl := (Prod.mk.inj hw).2
      have hfind := hf.content x hx hremoved
      have hentry := Tree.entry?_append s.tree (Tree.entry?_of_find hfind) b
      have hgrows : s.tree.Grows (s.tree.append (t.place x.path) b) [t.place x.path] [] := by
        refine ⟨Tree.work_append .., fun q hq => .inl ?_⟩
        rw [hentry, if_neg (by simpa using hq)]
      refine hf.snoc hgrows (by simpa using mem_touched_snoc htouches _) (List.nil_subset _) ?_ fun y hy => ?_
      · rw [hafter]
        exact hheld
      · obtain rfl := Option.some.inj (hafter.symm.trans hy)
        refine ⟨mem_touched_snoc htouches _, fun _ => Tree.find_keeps hfind hgrows.work (fun r hr => ?_) ?_⟩
        · rw [hentry, if_neg, hr]
          rintro rfl
          rw [Tree.entry?_of_find hfind] at hr
          cases hr
        · rw [hentry, if_pos rfl]

/-- A removal, be it of the file of the last open or of another. -/
theorem remove_ok (hf : Follows t h s) (hr : remove path s = (.ok (), s')) :
    Follows t (h ++ [(.remove path, .ok ())]) s' := by
  obtain ⟨⟨b, hb⟩, htree, hfile⟩ := FileSink.remove_ok hr
  rw [Tree.place_congr hf.grows.work] at hb htree hfile
  have hgrows : s.tree.Grows s'.tree [t.place path] [] := by
    refine ⟨by rw [htree, Tree.work_erase], fun q hq => .inl ?_⟩
    rw [htree, Tree.entry?_erase _ (Tree.depth_ne_zero_of_not_dir (t := s.tree) (by simp [hb])),
      if_neg (by simpa using hq)]
  have hplace : t.place path ∈ touched t (h ++ [(.remove path, .ok ())]) := by
    rw [touched_snoc]
    exact List.mem_append_right _ (List.mem_singleton_self _)
  refine hf.snoc hgrows (by simpa using hplace) (List.nil_subset _) ?_ fun y hy => ?_
  · rw [hfile, hf.file]
    cases lastOpened t h with
    | none => rfl
    | some x => exact (x.held_removed t (t.place path)).symm
  · obtain ⟨x, hx, rfl⟩ := Option.map_eq_some_iff.1 hy
    refine ⟨mem_touched_snoc (hf.touches x hx) _, fun hy' => ?_⟩
    simp only [Bool.or_eq_false_iff, decide_eq_false_iff_not] at hy'
    have hfind := hf.content_of_grows hx hy'.1 hgrows (by simpa [hb] using hy'.2)
    exact hfind

/-- One more call that changes nothing, and of which the history makes nothing. -/
theorem unchanged (hf : Follows t h s) {e : Act × Except Fault Unit}
    (he : Opened.after t (lastOpened t h) e = lastOpened t h) : Follows t (h ++ [e]) s := by
  refine hf.snoc (.refl _ [] []) (List.nil_subset _) (List.nil_subset _) ?_ fun y hy => ?_
  · rw [he]
    exact hf.file
  · rw [he] at hy
    exact ⟨mem_touched_snoc (hf.touches y hy) e, hf.content y hy⟩

theorem act (hf : Follows t h s) (a : Act) : Follows t (h ++ [(a, (act a s).1)]) (act a s).2 := by
  obtain ⟨r, s', ha⟩ : ∃ r s', FileSink.act a s = (r, s') := ⟨_, _, rfl⟩
  rw [ha]
  cases a with
  | openFile path =>
    cases r with
    | ok u => exact hf.openFile_ok ha
    | error f =>
      obtain ⟨hfile, hgrows⟩ := openFile_error ha
      rw [way_congr hf.grows.work] at hgrows
      exact hf.let_go rfl hfile (hgrows.mono (List.Subset.refl _) (by simp [passed]))
  | write b =>
    cases r with
    | ok u => exact hf.write_ok ha
    | error f =>
      obtain ⟨-, rfl, -⟩ := write_error ha
      exact hf.unchanged rfl
  | close =>
    cases ha
    exact hf.let_go rfl rfl (.refl _ _ _)
  | remove path =>
    cases r with
    | ok u => exact hf.remove_ok ha
    | error f =>
      obtain rfl := remove_error ha
      exact hf.unchanged rfl

/-- Any calls at all. -/
theorem foldl (hf : Follows t h s) (as : List Act) :
    let r := as.foldl (fun (h, s) a => (h ++ [(a, (FileSink.act a s).1)], (FileSink.act a s).2)) (h, s)
    Follows t r.1 r.2 := by
  induction as generalizing h s with
  | nil => exact hf
  | cons a as ih => exact ih (hf.act a)

end Follows

theorem follows_run (t : Tree) (as : List Act) : Follows t (run ⟨t, none⟩ as).1 (run ⟨t, none⟩ as).2 :=
  (follows_start t).foldl as

/-! ## The account -/

/-- What can be relied on after some calls, that began on the tree `t` without an open file. -/
structure Accounts (t : Tree) (h : List (Act × Except Fault Unit)) (s : FileSink) : Prop where
  /-- A write succeeds on the file of the last open, if this is still open, and changes only that. -/
  write_open : ∀ x, lastOpened t h = some x → x.isOpen = true → ∀ b, (act (.write b) s).1 = .ok () ∧
    ∀ q ≠ t.place x.path, (act (.write b) s).2.tree.entry? q = s.tree.entry? q
  /-- Otherwise it fails and changes nothing. -/
  write_closed : (∀ x, lastOpened t h = some x → x.isOpen = false) → ∀ b, act (.write b) s = (.error .notOpen, s)
  /-- Once closed, the file of the last open that succeeded holds what was written to it since, unless it was
  removed. -/
  closed : ∀ x, lastOpened t h = some x → x.isOpen = false → x.removed = false →
    s.tree.readFile x.path = .ok x.written
  /-- An open that fails closes the file before, and leaves the bytes of every file. -/
  openFile_failed : ∀ path f s', act (.openFile path) s = (.error f, s') →
    s'.file = none ∧ ∀ q b, s.tree.entry? q = some (.file b) → s'.tree.entry? q = some (.file b)
  /-- Nothing changes but files that were opened or removed and directories on the way to opened ones. -/
  others : ∀ q ∉ touched t h, s.tree.entry? q = t.entry? q ∨
    t.entry? q = none ∧ s.tree.entry? q = some .dir ∧ q ∈ passed t h

/-- **A sink holds at most one file, and only this is written to.** It holds the file of the last open as long as
that succeeded and nothing has closed it, whatever calls are made in whatever order. -/
theorem accounts_run (t : Tree) (as : List Act) : Accounts t (run ⟨t, none⟩ as).1 (run ⟨t, none⟩ as).2 := by
  have hf := follows_run t as
  generalize run ⟨t, none⟩ as = r at hf
  obtain ⟨h, s⟩ := r
  refine ⟨fun x hx hopen b => ?_, fun hclosed b => ?_, fun x hx _ hremoved => ?_, fun path f s' ho => ?_,
    hf.grows.entry⟩
  · have hfile : s.file = some (if x.removed then .unlisted else .listed (t.place x.path)) := by
      rw [hf.file, hx]
      simp [Opened.held, hopen]
    cases hremoved : x.removed with
    | true =>
      rw [hremoved, if_pos rfl] at hfile
      have hw : act (.write b) s = (.ok (), s) := by
        simp only [act, sink, write, hfile]
      rw [hw]
      exact ⟨rfl, fun q _ => rfl⟩
    | false =>
      rw [hremoved, if_neg Bool.false_ne_true] at hfile
      have hw : act (.write b) s = (.ok (), { s with tree := s.tree.append (t.place x.path) b }) := write_spec hfile b
      rw [hw]
      refine ⟨rfl, fun q hq => ?_⟩
      rw [Tree.entry?_append _ (Tree.entry?_of_find (hf.content x hx hremoved)), if_neg hq]
  · have hfile : s.file = none := by
      rw [hf.file, Option.bind_eq_none_iff]
      intro x hx
      simp [Opened.held, hclosed x hx]
    simp only [act, sink, write, hfile]
  · exact Tree.readFile_of_find (hf.content x hx hremoved)
  · obtain ⟨hfile, hgrows⟩ := openFile_error ho
    exact ⟨hfile, fun q b hb => hgrows.entry_of_some List.not_mem_nil hb⟩

/-- An open below a file that is being written fails; the file is closed then, and as it was. -/
theorem accounts_run_failed_open :
    let r := run ⟨.ofWork .root, none⟩
      [.openFile "a", .write ⟨#[120]⟩, .write ⟨#[121]⟩, .openFile "a/b", .write ⟨#[122]⟩]
    r.1.map (·.2.isOk) = [true, true, true, false, false] ∧ r.2.tree.readFile "a" = .ok ⟨#[120, 121]⟩ ∧
      act (.write ⟨#[122]⟩) r.2 = (.error .notOpen, r.2) := by
  intro r
  have hlast : lastOpened (.ofWork .root) r.1 = some ⟨"a", ⟨#[120, 121]⟩, false, false⟩ := by decide +kernel
  have haccounts : Accounts (.ofWork .root) r.1 r.2 := accounts_run _ _
  refine ⟨by decide +kernel, haccounts.closed _ hlast rfl rfl, haccounts.write_closed (fun x hx => ?_) _⟩
  obtain rfl := Option.some.inj (hlast.symm.trans hx)
  rfl

end Custodian.FileSink
