import Custodian.Download
import Custodian.Proofs.Tree

/-!
# Names at the end of a path

* `charPieces_append_slash`, `notMem_of_mem_charPieces` : pieces and slashes;
* `isPiece_of_fileName?` : what a path ends in is one piece that names a file;
* `restorePath?_of_isPiece` : a file of that name is restored right below the target directory;
* `place_join` : and that is where the path of the restored file leads.
-/

namespace Custodian

set_option autoImplicit false

namespace Path

/-! ## Pieces -/

theorem charPieces_of_notMem {cs : List Char} (h : '/' ∉ cs) : charPieces cs = [cs] := List.splitOn_eq_singleton h

theorem charPieces_append_slash (as bs : List Char) : charPieces (as ++ '/' :: bs) = charPieces as ++ charPieces bs :=
  List.splitOn_append_cons_self as bs

theorem notMem_of_mem_charPieces {cs p : List Char} (h : p ∈ charPieces cs) : '/' ∉ p := by
  induction cs generalizing p with
  | nil =>
    have hp : p = [] := by simpa [charPieces] using h
    simp [hp]
  | cons c cs ih =>
    rw [charPieces, List.splitOn_cons_eq_if_modifyHead] at h
    split_ifs at h with hc
    · rw [List.mem_cons] at h
      obtain rfl | h := h
      · simp
      · exact ih h
    · -- the character goes to the front of the first of the pieces that follow
      have hslash : '/' ≠ c := fun h => hc (by simp [← h])
      cases hq : charPieces cs with
      | nil => exact absurd hq (charPieces_ne_nil cs)
      | cons q qs =>
        rw [charPieces] at hq
        rw [hq, List.modifyHead_cons, List.mem_cons] at h
        rw [charPieces, hq] at ih
        obtain rfl | h := h
        · simp [hslash, ih List.mem_cons_self]
        · exact ih (List.mem_cons_of_mem _ h)

/-- A single piece of a path that names a file or a directory. -/
structure IsPiece (name : String) : Prop where
  isName : IsName name
  slash : '/' ∉ name.toList

theorem component?_eq_plain {piece name : String} (h : component? piece = some (.plain name)) :
    piece = name ∧ IsName piece := by
  unfold component? at h
  split_ifs at h with h1 h2
  · cases h
  · cases h
    rw [not_or] at h1
    exact ⟨rfl, h1.1, h1.2, h2⟩

theorem component?_of_firstComponent? {absolute : Bool} {piece name : String}
    (h : firstComponent? absolute piece = some (.plain name)) : component? piece = some (.plain name) := by
  unfold firstComponent? at h
  split_ifs at h
  · cases h
  · cases h
  · exact h

/-- What a path ends in is one of its pieces. -/
theorem isPiece_of_fileName? {path name : String} (h : fileName? path = some name) : IsPiece name := by
  have hmem : Component.plain name ∈ components path := by
    unfold fileName? at h
    split at h
    · cases h
      exact List.mem_of_getLast? ‹_›
    · cases h
  have hpiece : ∃ p ∈ pieces path, component? p = some (.plain name) := by
    unfold components at hmem
    split at hmem
    · cases hmem
    · rename_i p ps hp
      rw [hp]
      rcases List.mem_append.1 hmem with h | h
      · exact ⟨p, List.mem_cons_self, component?_of_firstComponent? (Option.mem_toList.1 h)⟩
      · obtain ⟨q, hq, hc⟩ := List.mem_filterMap.1 h
        exact ⟨q, List.mem_cons_of_mem _ hq, hc⟩
  obtain ⟨p, hp, hc⟩ := hpiece
  obtain ⟨rfl, hn⟩ := component?_eq_plain hc
  obtain ⟨cs, hcs, rfl⟩ := List.mem_map.1 hp
  exact ⟨hn, by simpa using notMem_of_mem_charPieces hcs⟩

namespace IsPiece

variable {name : String}

theorem toList_ne_nil (h : IsPiece name) : name.toList ≠ [] :=
  fun hn => h.isName.1 (String.toList_inj.1 (by simpa using hn))

theorem isAbsolute (h : IsPiece name) : isAbsolute name = false := by
  obtain ⟨c, cs, hc⟩ := List.exists_cons_of_ne_nil h.toList_ne_nil
  have hs := h.slash
  rw [hc, List.mem_cons, not_or] at hs
  simpa [Path.isAbsolute, hc] using Ne.symm hs.1

theorem pieces (h : IsPiece name) : pieces name = [name] := by
  simp [Path.pieces, charPieces_of_notMem h.slash]

theorem components (h : IsPiece name) : components name = [.plain name] := by
  obtain ⟨hempty, hdot, hup⟩ := h.isName
  simp [Path.components, h.pieces, firstComponent?, h.isAbsolute, component?, hempty, hdot, hup]

end IsPiece

/-- The pieces below a directory: those of the directory, up to an empty one at its end, and those of what stands
there. -/
theorem pieces_join {dir rest : String} (hd : dir ≠ "") (h : isAbsolute rest = false) :
    isAbsolute (join dir rest) = isAbsolute dir ∧
      ∃ ms, ms ≠ [] ∧ pieces (join dir rest) = ms ++ pieces rest ∧ (pieces dir = ms ∨ pieces dir = ms ++ [""]) := by
  have hne : dir.toList ≠ [] := fun hn => hd (String.toList_inj.1 (by simpa using hn))
  unfold join
  rw [if_neg (by simp [h])]
  split_ifs with hs
  · obtain ⟨ds, hds⟩ := List.getLast?_eq_some_iff.1 (hs.resolve_left hd)
    refine ⟨?_, (charPieces ds).map String.ofList, by simp [charPieces_ne_nil], ?_, .inr ?_⟩
    · simp [isAbsolute, List.head?_append_of_ne_nil _ hne]
    · rw [pieces, String.toList_append, hds, List.append_assoc]
      show (charPieces (ds ++ '/' :: rest.toList)).map _ = _
      rw [charPieces_append_slash, List.map_append]
      rfl
    · rw [pieces, hds, charPieces_append_slash, List.map_append]
      rfl
  · refine ⟨?_, pieces dir, by simp [pieces, charPieces_ne_nil], ?_, .inl rfl⟩
    · simp [isAbsolute, List.head?_append_of_ne_nil _ hne]
    · rw [pieces, String.toList_append, String.toList_append, List.append_assoc]
      show (charPieces (dir.toList ++ '/' :: rest.toList)).map _ = _
      rw [charPieces_append_slash, List.map_append]
      rfl

end Path

/-! ## Where a file is restored -/

/-- A file with the name of a single piece is restored right below the directory. -/
theorem restorePath?_of_isPiece {name : String} (dir : String) (h : Path.IsPiece name) :
    restorePath? dir name = some (Path.join dir name) := by
  have hrest : name.toList.dropWhile (· = '/') = name.toList := by
    obtain ⟨c, cs, hc⟩ := List.exists_cons_of_ne_nil h.toList_ne_nil
    have hs := h.slash
    rw [hc, List.mem_cons, not_or] at hs
    rw [hc, List.dropWhile_cons_of_neg (by simpa using Ne.symm hs.1)]
  unfold restorePath?
  rw [hrest, String.ofList_toList, if_pos]
  simp [h.components, Path.Component.isInward]

/-- The place of a file right below a directory. -/
theorem Tree.place_join (t : Tree) {dir name : String} (h : Path.IsPiece name) :
    t.place (Path.join dir name) = (t.place dir).child name := by
  by_cases hd : dir = ""
  · subst hd
    have hj : Path.join "" name = name := by simp [Path.join, h.isAbsolute]
    have hw : t.place "" = t.work := rfl
    rw [hj, hw, place, start, if_neg (by simp [h.isAbsolute]), h.pieces]
    exact Place.follow_name _ h.isName
  · obtain ⟨ha, ms, hne, hms, hdir⟩ := Path.pieces_join hd h.isAbsolute
    rw [h.pieces] at hms
    obtain ⟨m, ms, rfl⟩ := List.exists_cons_of_ne_nil hne
    have hfollow (p : Place) (ns : List String) : p.follow (ns ++ [name]) = (p.follow ns).child name := by
      rw [Place.follow_append, Place.follow_name _ h.isName]
    have hslash (p : Place) (ns : List String) : p.follow (ns ++ [""]) = p.follow ns := by
      rw [Place.follow_append, Place.follow_empty, Place.follow]
    unfold place start
    rw [ha, hms]
    split_ifs
    · rw [List.cons_append, List.tail_cons, hfollow]
      rcases hdir with hdir | hdir
      · rw [hdir, List.tail_cons]
      · rw [hdir, List.cons_append, List.tail_cons, hslash]
    · rw [hfollow]
      rcases hdir with hdir | hdir
      · rw [hdir]
      · rw [hdir, hslash]

end Custodian
