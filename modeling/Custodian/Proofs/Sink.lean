import Custodian.Files.Sink
import Custodian.Proofs.Tree

/-!
# What the sink of a file tree does

`FileSink.way` : the places of the directories that a file needs. `openFile_spec`, `write_spec`, `remove_spec` : what a
call that succeeds has done, place by place; everything else is unchanged. `openFile_error`, `write_error`, `remove_error` :
what one that fails leaves.
-/

namespace Custodian.FileSink

set_option autoImplicit false

/-- The places below others that lead to the directory of a file. -/
def way (t : Tree) (path : String) : List Place :=
  match Path.parent? path with
  | none => []
  | some d => t.way d

theorem way_congr {t t' : Tree} (h : t'.work = t.work) (path : String) : way t' path = way t path := by
  unfold way
  split
  · rfl
  · exact Tree.way_congr h _

theorem makeParents_entry? {t t' : Tree} {path : String} (h : makeParents t path = (.ok (), t')) :
    t'.work = t.work ∧ ∀ q, t'.entry? q = if t.entry? q = none ∧ q ∈ way t path then some .dir else t.entry? q := by
  cases hp : Path.parent? path with
  | none =>
    simp only [makeParents, hp] at h
    cases h
    simp [way, hp]
  | some d =>
    simp only [makeParents, hp] at h
    simpa only [way, hp] using Tree.makeDirs_entry? h

/-- An opened file is empty, stands at the place of its path and has the directories it needs. -/
theorem openFile_spec {path : String} {s s' : FileSink} (h : openFile path s = (.ok (), s')) :
    s'.tree.work = s.tree.work ∧ s'.file = some (.listed (s.tree.place path)) ∧
      s.tree.entry? (s.tree.place path) ≠ some .dir ∧
      s'.tree.find path = .ok (s.tree.place path, .file .empty) ∧
      ∀ q, s'.tree.entry? q =
        if q = s.tree.place path then some (.file .empty)
        else if s.tree.entry? q = none ∧ q ∈ way s.tree path then some .dir else s.tree.entry? q := by
  unfold openFile at h
  split at h
  · cases h
  · rename_i t hm
    split at h
    · cases h
    · rename_i t' p hc
      cases h
      obtain ⟨hw, he⟩ := makeParents_entry? hm
      obtain ⟨hp, hroot, hnd, rfl, hf⟩ := Tree.createFile_spec hc
      rw [Tree.place_congr hw] at hp
      subst hp
      refine ⟨hw, rfl, ?_, hf, fun q => ?_⟩
      · intro hd
        rw [he] at hnd
        simp [hd] at hnd
      · rw [Tree.entry?_put _ hroot, he]

/-- An open that succeeds changes its own place and the way to it. -/
theorem grows_of_openFile {path : String} {s s' : FileSink} (h : openFile path s = (.ok (), s')) :
    s.tree.Grows s'.tree [s.tree.place path] (way s.tree path) := by
  obtain ⟨hwork, -, -, -, hentry⟩ := openFile_spec h
  refine ⟨hwork, fun q hq => ?_⟩
  rw [hentry, if_neg (by simpa using hq)]
  split_ifs with hway
  · exact .inr ⟨hway.1, rfl, hway.2⟩
  · exact .inl rfl

theorem makeParents_grows (t : Tree) (path : String) : t.Grows (makeParents t path).2 [] (way t path) := by
  cases hp : Path.parent? path with
  | none =>
    simp only [makeParents, way, hp]
    exact .refl t _ _
  | some d =>
    simp only [makeParents, way, hp]
    exact Tree.makeDirs_grows t d

/-- An open that fails lets go of the file before, and at most makes directories. -/
theorem openFile_error {path : String} {s s' : FileSink} {f : Fault} (h : openFile path s = (.error f, s')) :
    s'.file = none ∧ s.tree.Grows s'.tree [] (way s.tree path) := by
  have hgrows := makeParents_grows s.tree path
  unfold openFile at h
  split at h
  · rename_i e t hm
    rw [hm] at hgrows
    cases h
    exact ⟨rfl, hgrows⟩
  · rename_i t hm
    rw [hm] at hgrows
    split at h
    · cases h
      exact ⟨rfl, hgrows⟩
    · cases h

theorem write_spec {s : FileSink} {p : Place} (h : s.file = some (.listed p)) (b : ByteArray) :
    write b s = (.ok (), { s with tree := s.tree.append p b }) := by
  simp [write, h]

theorem write_error {b : ByteArray} {s s' : FileSink} {f : Fault} (h : write b s = (.error f, s')) :
    f = .notOpen ∧ s' = s ∧ s.file = none := by
  unfold write at h
  split at h
  · rename_i hs
    cases h
    exact ⟨rfl, rfl, hs⟩
  · cases h
  · cases h

/-- What is removed was a file at the place of its path; if it is open, it is no longer listed. -/
theorem remove_ok {path : String} {s s' : FileSink} (h : remove path s = (.ok (), s')) :
    (∃ b, s.tree.entry? (s.tree.place path) = some (.file b)) ∧ s'.tree = s.tree.erase (s.tree.place path) ∧
      s'.file = if s.file = some (.listed (s.tree.place path)) then some .unlisted else s.file := by
  unfold remove at h
  split at h
  · cases h
  · rename_i t p hr
    cases h
    obtain ⟨b, hb⟩ := Tree.entry?_of_removeFile hr
    obtain ⟨rfl, -, rfl⟩ := Tree.removeFile_spec hr
    exact ⟨⟨b, hb⟩, rfl, rfl⟩

theorem remove_error {path : String} {s s' : FileSink} {f : Fault} (h : remove path s = (.error f, s')) : s' = s := by
  unfold remove at h
  split at h <;> cases h
  rfl

theorem remove_spec {path : String} {s s' : FileSink} (h : remove path s = (.ok (), s')) (hf : s.file = none) :
    s' = ⟨s.tree.erase (s.tree.place path), none⟩ ∧ (s.tree.place path).depth ≠ 0 := by
  unfold remove at h
  split at h
  · cases h
  · rename_i t p hr
    cases h
    obtain ⟨rfl, hroot, rfl⟩ := Tree.removeFile_spec hr
    exact ⟨by simp [hf], hroot⟩

end Custodian.FileSink
