import Custodian.Files.Tree
import Mathlib.Tactic

/-!
# What the operations on a file tree do, place by place

* `Place.follow`, `Place.way` : where pieces of a path lead, read off the path alone, and the places they pass;
  `Tree.place`, `Tree.way` : the same for a whole path;
* `entry?_put`, `entry?_erase`, `entry?_append` : a changed tree is looked up like the old one but at one place;
* `walk_eq_follow`, `walk_keeps` : a path that can be followed leads where it says, and still does as long as
  directories stay;
* `makeDirs_entry?`, `createFile_spec`, `removeFile_spec`, `readFile_of_find` : one specification for each operation;
* `Grows` : what stays when files are written and directories made; `makeDirs_grows` : making directories, whether it
  succeeds or not.
-/

namespace Custodian

set_option autoImplicit false

/-! ## Where a path leads -/

/-- Whether a piece of a path is the name of a file or a directory. -/
def Path.IsName (piece : String) : Prop := piece ≠ "" ∧ piece ≠ "." ∧ piece ≠ ".."

namespace Place

/-- The place that pieces of a path lead to. -/
def follow : Place → List String → Place
  | p, [] => p
  | p, n :: ns =>
    if n = "" ∨ n = "." then follow p ns else if n = ".." then follow p.parent ns else follow (p.child n) ns

/-- The places below others that pieces of a path lead through, the last one included. -/
def way : Place → List String → List Place
  | _, [] => []
  | p, n :: ns =>
    if n = "" ∨ n = "." then way p ns else if n = ".." then way p.parent ns else p.child n :: way (p.child n) ns

theorem follow_append (p : Place) (ms ns : List String) : p.follow (ms ++ ns) = (p.follow ms).follow ns := by
  induction ms generalizing p with
  | nil => rfl
  | cons m ms ih =>
    simp only [List.cons_append, follow]
    split_ifs <;> exact ih _

@[simp] theorem follow_empty (p : Place) (ns : List String) : p.follow ("" :: ns) = p.follow ns := by simp [follow]

theorem follow_name (p : Place) {n : String} (h : Path.IsName n) : p.follow [n] = p.child n := by
  simp [follow, h.1, h.2.1, h.2.2]

theorem child_inj {p : Place} {m n : String} : p.child m = p.child n ↔ m = n := by
  simp [child]

@[simp] theorem depth_child (p : Place) (n : String) : (p.child n).depth = p.depth + 1 := rfl

theorem child_ne_root (p : Place) (n : String) : (p.child n).depth ≠ 0 := by simp

end Place

namespace Tree

/-- The place that a path leads to. -/
def place (t : Tree) (path : String) : Place := (t.start path).1.follow (t.start path).2

/-- The places that a path leads through. -/
def way (t : Tree) (path : String) : List Place := (t.start path).1.way (t.start path).2

theorem start_congr {t t' : Tree} (h : t'.work = t.work) (path : String) : t'.start path = t.start path := by
  simp [start, h]

theorem place_congr {t t' : Tree} (h : t'.work = t.work) (path : String) : t'.place path = t.place path := by
  simp [place, start_congr h]

theorem way_congr {t t' : Tree} (h : t'.work = t.work) (path : String) : t'.way path = t.way path := by
  simp [way, start_congr h]

/-! ## Look-ups in a changed tree -/

@[simp] theorem work_put (t : Tree) (p : Place) (e : Entry) : (t.put p e).work = t.work := rfl

@[simp] theorem work_erase (t : Tree) (p : Place) : (t.erase p).work = t.work := rfl

@[simp] theorem work_append (t : Tree) (p : Place) (b : ByteArray) : (t.append p b).work = t.work := by
  unfold append
  split <;> rfl

theorem lookup_filter_ne (es : List (Place × Entry)) (p q : Place) :
    (es.filter (·.1 ≠ p)).lookup q = if q = p then none else es.lookup q := by
  induction es with
  | nil => simp
  | cons e es ih =>
    obtain ⟨r, e⟩ := e
    by_cases hr : r = p
    · rw [List.filter_cons_of_neg (by simpa using hr), ih]
      by_cases hq : q = p
      · simp [hq]
      · have hqr : q ≠ r := fun h => hq (h.trans hr)
        rw [if_neg hq, if_neg hq, List.lookup_cons, beq_eq_false_iff_ne.2 hqr]
    · rw [List.filter_cons_of_pos (by simpa using hr), List.lookup_cons, List.lookup_cons, ih]
      by_cases hqr : q = r
      · simp [hqr, hr]
      · rw [beq_eq_false_iff_ne.2 hqr]

theorem entry?_put (t : Tree) {p : Place} (hp : p.depth ≠ 0) (e : Entry) (q : Place) :
    entry? (t.put p e) q = if q = p then some e else t.entry? q := by
  by_cases hq : q = p
  · subst hq
    simp [Tree.entry?, put, hp]
  · simp only [Tree.entry?, put, if_neg hq, List.lookup_cons, beq_eq_false_iff_ne.2 hq, lookup_filter_ne]

theorem entry?_erase (t : Tree) {p : Place} (hp : p.depth ≠ 0) (q : Place) :
    entry? (t.erase p) q = if q = p then none else t.entry? q := by
  by_cases hq : q = p
  · subst hq
    simp only [Tree.entry?, erase, if_neg hp, lookup_filter_ne, if_true]
  · simp only [Tree.entry?, erase, if_neg hq, lookup_filter_ne]

theorem depth_ne_zero_of_not_dir {t : Tree} {p : Place} (h : t.entry? p ≠ some .dir) : p.depth ≠ 0 := by
  intro h0
  simp [Tree.entry?, h0] at h

theorem entry?_append (t : Tree) {p : Place} {c : ByteArray} (h : t.entry? p = some (.file c)) (b : ByteArray)
    (q : Place) : entry? (t.append p b) q = if q = p then some (.file (c ++ b)) else t.entry? q := by
  simp only [append, h]
  exact t.entry?_put (depth_ne_zero_of_not_dir (t := t) (by simp [h])) _ q

/-! ## Following a path -/

theorem walk_append (t : Tree) (p : Place) (ms ns : List String) :
    t.walk p (ms ++ ns) = (t.walk p ms).bind fun q => t.walk q ns := by
  induction ms generalizing p with
  | nil => rfl
  | cons m ms ih =>
    simp only [List.cons_append, walk]
    split
    · split_ifs <;> first | exact ih _ | rfl
    · rfl
    · rfl

theorem walk_eq_follow {t : Tree} {p q : Place} {ns : List String} (h : t.walk p ns = .ok q) : q = p.follow ns := by
  induction ns generalizing p with
  | nil => simpa [walk, Place.follow] using h.symm
  | cons n ns ih =>
    simp only [walk] at h
    simp only [Place.follow]
    split at h
    · split_ifs at h ⊢ <;> exact ih h
    · cases h
    · cases h

theorem dir_of_walk_cons {t : Tree} {p q : Place} {n : String} {ns : List String} (h : t.walk p (n :: ns) = .ok q) :
    t.entry? p = some .dir := by
  simp only [walk] at h
  split at h
  · assumption
  · cases h
  · cases h

/-- A walk still leads to the same place when directories have stayed and something stands at its end. -/
theorem walk_keeps {t t' : Tree} {p q : Place} {ns : List String} (h : t.walk p ns = .ok q)
    (hd : ∀ r, t.entry? r = some .dir → t'.entry? r = some .dir) (hq : (t'.entry? q).isSome) :
    t'.walk p ns = .ok q := by
  induction ns generalizing p with
  | nil => simpa [walk] using h
  | cons n ns ih =>
    have hp := dir_of_walk_cons h
    simp only [walk, hp, hd p hp] at h ⊢
    split_ifs at h with h1 h2 h3 h4
    · simp only [if_pos h1]
      exact ih h
    · simp only [if_neg h1, if_pos h2]
      exact ih h
    · -- the next place is the end of the walk, or a directory
      have hn : (t'.entry? (p.child n)).isSome := by
        cases ns with
        | nil => cases h; exact hq
        | cons m ms => simp [hd _ (dir_of_walk_cons h)]
      simp only [if_neg h1, if_neg h2, if_neg h3, if_pos hn]
      exact ih h

/-! ## The end of a path -/

/-- When nothing is dropped from the end of a row, its last element is one to keep. -/
theorem eq_concat_of_reverse_dropWhile {α : Type} {keep : α → Bool} {xs before : List α} {x : α}
    (h : xs.reverse.dropWhile keep = x :: before) (hl : xs.length ≤ (xs.reverse.dropWhile keep).length) :
    xs = before.reverse ++ [x] ∧ keep x = false := by
  have hall := (List.dropWhile_suffix keep (l := xs.reverse)).eq_of_length_le (by simpa using hl)
  refine ⟨?_, ?_⟩
  · rw [← List.reverse_cons, ← h, hall, List.reverse_reverse]
  · have hp := List.head?_dropWhile_not keep xs.reverse
    simpa [h] using hp

/-- The end of a path with a name and no slash after it: the directory is there, and the name below it is the place of
the path. -/
theorem target_spec {t : Tree} {path : String} {g : Target} {n : String} (h : t.target path = .ok g)
    (hn : g.name? = some n) (hs : g.slash = false) :
    checkPath path = .ok () ∧ Path.IsName n ∧ t.entry? g.dir = some .dir ∧ t.place path = g.dir.child n ∧
      ∃ ms, (t.start path).2 = ms ++ [n] ∧ t.walk (t.start path).1 ms = .ok g.dir := by
  unfold target at h
  cases hc : checkPath path with
  | error e => simp [hc, bind, Except.bind] at h
  | ok u =>
    simp only [hc, bind, Except.bind] at h
    split at h
    · cases h
      cases hn
    · rename_i m before hb
      split at h
      · cases h
      · rename_i dir hw
        cases h
        simp only [decide_eq_false_iff_not, Nat.not_lt] at hn hs
        split_ifs at hn with hd
        cases hn
        rw [not_or] at hd
        obtain ⟨hpieces, hne⟩ := eq_concat_of_reverse_dropWhile hb hs
        have hname : Path.IsName n := ⟨by simpa using hne, hd.1, hd.2⟩
        rw [walk_append] at hw
        cases hq : t.walk (t.start path).1 before.reverse with
        | error e => simp [hq, Except.bind] at hw
        | ok q =>
          simp only [hq, Except.bind] at hw
          have hdir := dir_of_walk_cons hw
          have hqd : q = dir := by simpa [walk, hdir] using hw
          subst hqd
          refine ⟨rfl, hname, hdir, ?_, before.reverse, hpieces, hq⟩
          rw [place, hpieces, Place.follow_append, ← walk_eq_follow hq, Place.follow_name _ hname]

theorem child_eq_ok {t : Tree} {p : Place} {n : String} {e : Option Entry} (h : t.child p n = .ok e) :
    n.utf8ByteSize ≤ maxName ∧ e = t.entry? (p.child n) := by
  unfold child at h
  split_ifs at h with hl
  cases h
  exact ⟨Nat.le_of_not_lt hl, rfl⟩

/-! ## The operations -/

/-- What is put below a directory, where no directory was, is found by the way to that directory and its name. -/
theorem find_put_child {t : Tree} {path n : String} {ms : List String} {dir : Place} {e : Entry}
    (hc : checkPath path = .ok ()) (hms : (t.start path).2 = ms ++ [n]) (hw : t.walk (t.start path).1 ms = .ok dir)
    (hname : Path.IsName n) (hlen : n.utf8ByteSize ≤ maxName) (hdir : t.entry? dir = some .dir)
    (hnd : t.entry? (dir.child n) ≠ some .dir) : (t.put (dir.child n) e).find path = .ok (dir.child n, e) := by
  have hput := entry?_put t (Place.child_ne_root dir n) e
  have hkeep : ∀ r, t.entry? r = some .dir → entry? (t.put (dir.child n) e) r = some .dir := by
    intro r hr
    have hne : r ≠ dir.child n := by
      rintro rfl
      exact hnd hr
    rw [hput, if_neg hne, hr]
  have hself : entry? (t.put (dir.child n) e) (dir.child n) = some e := by
    rw [hput, if_pos rfl]
  -- the directory has stayed, and the name leads on from there
  have hdir' := hkeep dir hdir
  have hw' := walk_keeps hw hkeep (by simp [hdir'])
  have hlast : (t.put (dir.child n) e).walk dir [n] = .ok (dir.child n) := by
    simp [walk, hdir', hname.1, hname.2.1, hname.2.2, Nat.not_lt.2 hlen, hself]
  simp only [find, hc, start_congr (work_put _ _ _), hms, walk_append, hw', bind, Except.bind, hlast, hself]

/-- A file is made at the place of its path, where no directory was; its path can be followed then. -/
theorem createFile_spec {t t' : Tree} {path : String} {p : Place} (h : t.createFile path = .ok (t', p)) :
    p = t.place path ∧ p.depth ≠ 0 ∧ t.entry? p ≠ some .dir ∧ t' = t.put p (.file .empty) ∧
      t'.find path = .ok (p, .file .empty) := by
  unfold createFile at h
  cases hg : t.target path with
  | error e => simp [hg, bind, Except.bind] at h
  | ok g =>
    simp only [hg, bind, Except.bind] at h
    split at h
    · cases h
    · rename_i n hn
      split_ifs at h with hs
      obtain ⟨hc, hname, hdir, hplace, ms, hms, hw⟩ := target_spec hg hn (by simpa using hs)
      cases he : t.child g.dir n with
      | error e => simp [he] at h
      | ok e =>
        obtain ⟨hlen, rfl⟩ := child_eq_ok he
        simp only [he] at h
        split at h
        · cases h
        · rename_i hnd
          cases h
          have hnd : t.entry? (g.dir.child n) ≠ some .dir := fun h => hnd h
          exact ⟨hplace.symm, Place.child_ne_root _ _, hnd, rfl, find_put_child hc hms hw hname hlen hdir hnd⟩

theorem removeFile_spec {t t' : Tree} {path : String} {p : Place} (h : t.removeFile path = .ok (t', p)) :
    p = t.place path ∧ p.depth ≠ 0 ∧ t' = t.erase p := by
  unfold removeFile at h
  cases hg : t.target path with
  | error e => simp [hg, bind, Except.bind] at h
  | ok g =>
    simp only [hg, bind, Except.bind] at h
    split at h
    · cases h
    · rename_i n hn
      cases he : t.child g.dir n with
      | error e => simp [he] at h
      | ok e =>
        simp only [he] at h
        split at h
        · cases h
        · cases h
        · split_ifs at h with hs
          obtain ⟨-, -, -, hplace, -⟩ := target_spec hg hn (by simpa using hs)
          cases h
          exact ⟨hplace.symm, Place.child_ne_root _ _, rfl⟩

/-- What is removed was a file. -/
theorem entry?_of_removeFile {t t' : Tree} {path : String} {p : Place} (h : t.removeFile path = .ok (t', p)) :
    ∃ b, t.entry? p = some (.file b) := by
  unfold removeFile at h
  cases hg : t.target path with
  | error e => simp [hg, bind, Except.bind] at h
  | ok g =>
    simp only [hg, bind, Except.bind] at h
    split at h
    · cases h
    · rename_i n hn
      cases he : t.child g.dir n with
      | error e => simp [he] at h
      | ok e =>
        simp only [he] at h
        split at h
        · cases h
        · cases h
        · rename_i b
          split_ifs at h
          cases h
          exact ⟨b, (child_eq_ok he).2.symm⟩

/-- Making a way puts a directory wherever nothing stood on it, and changes nothing else. -/
theorem makeWay_entry? {ns : List String} {t t' : Tree} {made : Bool} {p : Place}
    (h : t.makeWay made p ns = (.ok (), t')) :
    t'.work = t.work ∧
      ∀ q, t'.entry? q = if t.entry? q = none ∧ q ∈ p.way ns then some .dir else t.entry? q := by
  induction ns generalizing t made p with
  | nil =>
    cases h
    simp [Place.way]
  | cons n ns ih =>
    simp only [makeWay] at h
    simp only [Place.way]
    by_cases h1 : n = "" ∨ n = "."
    · simp only [if_pos h1] at h ⊢
      exact ih h
    by_cases h2 : n = ".."
    · simp only [if_neg h1, if_pos h2] at h ⊢
      exact ih h
    simp only [if_neg h1, if_neg h2, List.mem_cons] at h ⊢
    split at h
    · cases h
    · rename_i hc
      obtain ⟨hw, he⟩ := ih h
      have hdir := (child_eq_ok hc).2.symm
      refine ⟨hw, fun q => ?_⟩
      rw [he]
      by_cases hq : q = p.child n
      · simp [hq, hdir]
      · simp [hq]
    · cases h
    · rename_i hc
      obtain ⟨hw, he⟩ := ih h
      have hnone := (child_eq_ok hc).2.symm
      refine ⟨hw, fun q => ?_⟩
      rw [he, entry?_put _ (Place.child_ne_root _ _)]
      by_cases hq : q = p.child n
      · simp [hq, hnone]
      · simp [hq]

theorem makeDirs_entry? {t t' : Tree} {path : String} (h : t.makeDirs path = (.ok (), t')) :
    t'.work = t.work ∧
      ∀ q, t'.entry? q = if t.entry? q = none ∧ q ∈ t.way path then some .dir else t.entry? q := by
  unfold makeDirs at h
  split_ifs at h with he
  · cases h
    subst he
    refine ⟨rfl, fun q => ?_⟩
    rw [if_neg]
    rintro ⟨-, hq⟩
    simp [way, start, Path.isAbsolute, Path.pieces, Path.charPieces, Place.way] at hq
  · split at h
    · cases h
    · exact makeWay_entry? h

/-- From one tree to another nothing changes outside some places `ps`, but that directories are made where nothing
stood at some of the places `ws`. -/
structure Grows (t t' : Tree) (ps ws : List Place) : Prop where
  work : t'.work = t.work
  entry : ∀ q ∉ ps, t'.entry? q = t.entry? q ∨ t.entry? q = none ∧ t'.entry? q = some .dir ∧ q ∈ ws

theorem Grows.refl (t : Tree) (ps ws : List Place) : Grows t t ps ws := ⟨rfl, fun _ _ => .inl rfl⟩

theorem Grows.trans {t t' t'' : Tree} {ps ps' ws ws' : List Place} (h : Grows t t' ps ws) (h' : Grows t' t'' ps' ws') :
    Grows t t'' (ps ++ ps') (ws ++ ws') := by
  refine ⟨h'.work.trans h.work, fun q hq => ?_⟩
  rw [List.mem_append, not_or] at hq
  rw [List.mem_append]
  rcases h.entry q hq.1, h'.entry q hq.2 with ⟨hs | ⟨hn, hd, hw⟩, hs' | ⟨hn', hd', hw'⟩⟩
  · exact .inl (hs'.trans hs)
  · exact .inr ⟨hs ▸ hn', hd', .inr hw'⟩
  · exact .inr ⟨hn, hs'.trans hd, .inl hw⟩
  · rw [hd] at hn'
    cases hn'

theorem Grows.mono {t t' : Tree} {ps ps' ws ws' : List Place} (h : Grows t t' ps ws) (hp : ps ⊆ ps') (hw : ws ⊆ ws') :
    Grows t t' ps' ws' :=
  ⟨h.work, fun q hq => (h.entry q fun hq' => hq (hp hq')).imp_right fun ⟨hn, hd, hm⟩ => ⟨hn, hd, hw hm⟩⟩

/-- What stands outside the places stays. -/
theorem Grows.entry_of_some {t t' : Tree} {ps ws : List Place} {q : Place} {e : Entry} (h : Grows t t' ps ws)
    (hq : q ∉ ps) (he : t.entry? q = some e) : t'.entry? q = some e := by
  rcases h.entry q hq with hs | ⟨hn, -, -⟩
  · rw [hs, he]
  · rw [he] at hn
    cases hn

/-- Making a way makes directories on it and nothing else, also when it fails. -/
theorem makeWay_grows (t : Tree) (made : Bool) (p : Place) (ns : List String) :
    Grows t (t.makeWay made p ns).2 [] (p.way ns) := by
  induction ns generalizing t made p with
  | nil => exact .refl t _ _
  | cons n ns ih =>
    simp only [makeWay, Place.way]
    by_cases h1 : n = "" ∨ n = "."
    · simp only [if_pos h1]
      exact ih t made p
    by_cases h2 : n = ".."
    · simp only [if_neg h1, if_pos h2]
      exact ih t made p.parent
    simp only [if_neg h1, if_neg h2]
    split
    · exact .refl t _ _
    · exact (Grows.refl t [] [p.child n]).trans (ih t made (p.child n))
    · exact .refl t _ _
    · rename_i hc
      have hnone := (child_eq_ok hc).2.symm
      have hput : Grows t (t.put (p.child n) .dir) [] [p.child n] := by
        refine ⟨rfl, fun q _ => ?_⟩
        rw [entry?_put _ (Place.child_ne_root _ _)]
        by_cases hq : q = p.child n
        · exact .inr ⟨hq ▸ hnone, if_pos hq, by simp [hq]⟩
        · exact .inl (if_neg hq)
      exact hput.trans (ih _ true (p.child n))

theorem makeDirs_grows (t : Tree) (path : String) : Grows t (t.makeDirs path).2 [] (t.way path) := by
  unfold makeDirs
  split_ifs
  · exact .refl t _ _
  · split
    · exact .refl t _ _
    · exact makeWay_grows t false _ _

theorem entry?_of_find {t : Tree} {path : String} {p : Place} {e : Entry} (h : t.find path = .ok (p, e)) :
    t.entry? p = some e := by
  unfold find at h
  cases hc : checkPath path with
  | error f => simp [hc, bind, Except.bind] at h
  | ok u =>
    simp only [hc, bind, Except.bind] at h
    split at h
    · cases h
    · split at h
      · cases h
        assumption
      · cases h

/-- The file that a path leads to is still found, with what it holds by then, when directories have stayed. -/
theorem find_keeps {t t' : Tree} {path : String} {p : Place} {e e' : Entry} (h : t.find path = .ok (p, e))
    (hw : t'.work = t.work) (hd : ∀ r, t.entry? r = some .dir → t'.entry? r = some .dir)
    (hp : t'.entry? p = some e') : t'.find path = .ok (p, e') := by
  unfold find at h ⊢
  rw [start_congr hw]
  cases hc : checkPath path with
  | error f => simp [hc, bind, Except.bind] at h
  | ok u =>
    simp only [hc, bind, Except.bind] at h ⊢
    cases hq : t.walk (t.start path).1 (t.start path).2 with
    | error f => simp [hq] at h
    | ok q =>
      simp only [hq] at h
      split at h
      · cases h
        simp only [walk_keeps hq hd (by simp [hp]), hp]
      · cases h

theorem readFile_of_find {t : Tree} {path : String} {p : Place} {b : ByteArray}
    (h : t.find path = .ok (p, .file b)) : t.readFile path = .ok b := by
  simp only [readFile, openRead, h, Except.map, bind, Except.bind]

end Tree

end Custodian
