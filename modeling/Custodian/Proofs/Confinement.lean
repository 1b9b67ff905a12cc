import Custodian.Proofs.Download
import Custodian.Proofs.Path

/-!
# Restored files stay below the target directory

* `Path.Inside` : a path goes through a directory and never leaves it again; `components_join`, `way_join` : what a
  relative path leads through below a directory;
* `restorePath?_eq_none_iff`, `way_of_restorePath?`, `inside_of_restorePath?` : which names have a place, and where;
* `Download.Reaches` : what was opened and removed between two points of a download; `Took.reaches`, `Went.reaches` :
  it all lies inside;
* `Download.run_congr` : a sink may do as it likes everywhere else.
-/

namespace Custodian

set_option autoImplicit false

namespace Path

/-- The components of a path but for the single dots. -/
def way (path : String) : List Component := (components path).filter (· ≠ .here)

/-- A path leads through all components of a directory and from there neither upwards nor to the root. -/
def Inside (dir path : String) : Prop :=
  ∃ inner, components path = components dir ++ inner ∧ ∀ c ∈ inner, c.isInward = true

/-! ## Relative paths -/

variable {dir rest path : String}

theorem component?_ne_here (piece : String) : component? piece ≠ some .here := by
  unfold component?
  split_ifs <;> simp

theorem filter_ne_here (ps : List String) :
    (ps.filterMap component?).filter (· ≠ .here) = ps.filterMap component? := by
  refine List.filter_eq_self.2 fun c hc => ?_
  obtain ⟨p, -, hp⟩ := List.mem_filterMap.1 hc
  have hne : c ≠ .here := by
    rintro rfl
    exact component?_ne_here p hp
  simpa using hne

theorem components_of_relative (h : isAbsolute path = false) : ∃ p ps, pieces path = p :: ps ∧
    components path = (firstComponent? false p).toList ++ ps.filterMap component? := by
  obtain ⟨p, ps, hp⟩ := List.exists_cons_of_ne_nil (by simp [pieces, charPieces_ne_nil] : pieces path ≠ [])
  refine ⟨p, ps, hp, ?_⟩
  rw [components, hp, h]

theorem way_of_relative (h : isAbsolute path = false) : way path = (pieces path).filterMap component? := by
  obtain ⟨p, ps, hp, hc⟩ := components_of_relative h
  rw [way, hc, hp, List.filter_append, filter_ne_here, List.filterMap_cons]
  by_cases hdot : p = "."
  · simp [hdot, firstComponent?, component?]
  · have hfirst : firstComponent? false p = component? p := by simp [firstComponent?, hdot]
    rw [hfirst]
    cases hcp : component? p with
    | none => rfl
    | some c =>
      have hne : c ≠ .here := by
        rintro rfl
        exact component?_ne_here p hcp
      simp [hne]

/-- A relative path leads on from where the directory leads to. -/
theorem components_join (hd : dir ≠ "") (h : isAbsolute rest = false) :
    components (join dir rest) = components dir ++ (pieces rest).filterMap component? := by
  obtain ⟨ha, ms, hne, hms, hdir⟩ := pieces_join hd h
  obtain ⟨m, ms, rfl⟩ := List.exists_cons_of_ne_nil hne
  have hempty : component? "" = none := by decide
  unfold components
  rw [ha, hms]
  rcases hdir with hdir | hdir <;> simp [hdir, hempty]

theorem way_join (h : isAbsolute rest = false) :
    way (join dir rest) = way dir ++ (pieces rest).filterMap component? := by
  by_cases hd : dir = ""
  · subst hd
    have hj : join "" rest = rest := by simp [join, h]
    have hw : way "" = [] := by decide
    rw [hj, hw, way_of_relative h, List.nil_append]
  · rw [way, components_join hd h, List.filter_append, filter_ne_here]
    rfl

/-! ## Inward paths -/

theorem isInward_of_component? {piece : String} {c : Component} (h : component? piece = some c) :
    c.isInward = true ↔ piece ≠ ".." := by
  unfold component? at h
  split_ifs at h with h1 h2
  · cases h
    simp [Component.isInward, h2]
  · cases h
    simp [Component.isInward, h2]

theorem all_isInward_filterMap (ps : List String) :
    (ps.filterMap component?).all Component.isInward = true ↔ ".." ∉ ps := by
  rw [List.all_eq_true]
  constructor
  · intro h hup
    have hmem : Component.up ∈ ps.filterMap component? := List.mem_filterMap.2 ⟨"..", hup, by decide⟩
    exact absurd (h _ hmem) (by decide)
  · intro h c hc
    obtain ⟨p, hp, hpc⟩ := List.mem_filterMap.1 hc
    exact (isInward_of_component? hpc).2 fun hup => h (hup ▸ hp)

theorem all_isInward_iff (h : isAbsolute path = false) :
    (components path).all Component.isInward = true ↔ ".." ∉ pieces path := by
  obtain ⟨p, ps, hp, hc⟩ := components_of_relative h
  have hfirst : (firstComponent? false p).toList.all Component.isInward = true ↔ ".." ≠ p := by
    by_cases hdot : p = "."
    · subst hdot
      decide
    · rw [show firstComponent? false p = component? p by simp [firstComponent?, hdot]]
      cases hcp : component? p with
      | none =>
        have hup : ".." ≠ p := by
          rintro rfl
          exact absurd hcp (by decide)
        simp [hup]
      | some c => simpa [ne_comm] using isInward_of_component? hcp
  rw [hc, hp, List.all_append, Bool.and_eq_true, hfirst, all_isInward_filterMap, List.mem_cons, not_or]

/-! ## Pieces -/

theorem ofList_eq_iff {cs : List Char} {s : String} : String.ofList cs = s ↔ cs = s.toList := by
  constructor
  · rintro rfl
    exact String.toList_ofList.symm
  · rintro rfl
    exact String.ofList_toList

theorem pieces_ofList (cs : List Char) : pieces (String.ofList cs) = (charPieces cs).map String.ofList := by
  rw [pieces, String.toList_ofList]

theorem up_mem_pieces_iff {cs : List Char} : ".." ∈ pieces (String.ofList cs) ↔ ['.', '.'] ∈ charPieces cs := by
  have hup (p : List Char) : String.ofList p = ".." ↔ p = ['.', '.'] := ofList_eq_iff
  simp [pieces_ofList, hup]

/-- The names among pieces that do not lead upwards. -/
theorem filterMap_component?_ofList {ps : List (List Char)} (h : ['.', '.'] ∉ ps) :
    (ps.map String.ofList).filterMap component? =
      (ps.filter fun p => p ≠ [] ∧ p ≠ ['.']).map fun p => .plain (String.ofList p) := by
  have hempty (p : List Char) : String.ofList p = "" ↔ p = [] := ofList_eq_iff
  have hdot (p : List Char) : String.ofList p = "." ↔ p = ['.'] := ofList_eq_iff
  have hup (p : List Char) : String.ofList p = ".." ↔ p = ['.', '.'] := ofList_eq_iff
  induction ps with
  | nil => rfl
  | cons p ps ih =>
    rw [List.mem_cons, not_or] at h
    rw [List.map_cons, List.filterMap_cons, List.filter_cons, ih h.2]
    by_cases hp : p = [] ∨ p = ['.']
    · simp [component?, hempty, hdot, hp, ← not_or]
    · simp [component?, hempty, hdot, hup, hp, Ne.symm h.1, ← not_or]

end Path

/-! ## Places of restored files -/

theorem isAbsolute_dropWhile (cs : List Char) :
    Path.isAbsolute (String.ofList (cs.dropWhile (· = '/'))) = false := by
  have hhead := List.head?_dropWhile_not (· = '/') cs
  rw [Path.isAbsolute, String.toList_ofList]
  cases hd : (cs.dropWhile (· = '/')).head? with
  | none => simp
  | some c =>
    rw [hd] at hhead
    simpa using hhead

theorem components_ofList_eq_nil_iff (cs : List Char) :
    Path.components (String.ofList (cs.dropWhile (· = '/'))) = [] ↔ cs.dropWhile (· = '/') = [] := by
  have hrel := isAbsolute_dropWhile cs
  generalize cs.dropWhile (· = '/') = rest at hrel
  cases rest with
  | nil => decide
  | cons c rest =>
    -- the first piece is not empty, as the first character is no slash
    have hslash : c ≠ '/' := by simpa [Path.isAbsolute] using hrel
    obtain ⟨p, ps, hp, hc⟩ := Path.components_of_relative hrel
    obtain ⟨q, qs, hq⟩ := List.exists_cons_of_ne_nil (Path.charPieces_ne_nil rest)
    have hpiece : p = String.ofList (c :: q) := by
      rw [Path.pieces_ofList, Path.charPieces, List.splitOn_cons_eq_if_modifyHead, if_neg (by simpa using hslash)] at hp
      rw [Path.charPieces] at hq
      rw [hq, List.modifyHead_cons, List.map_cons, List.cons.injEq] at hp
      exact hp.1.symm
    have hne : p ≠ "" := fun h => by simp [hpiece, Path.ofList_eq_iff] at h
    have hfirst : (Path.firstComponent? false p).toList ≠ [] := by
      unfold Path.firstComponent? Path.component?
      split_ifs <;> simp_all
    rw [hc]
    simp [hfirst]

/-- **Which names have no place.** -/
theorem restorePath?_eq_none_iff (dir name : String) :
    restorePath? dir name = none ↔
      name.toList.dropWhile (· = '/') = [] ∨ ['.', '.'] ∈ Path.charPieces (name.toList.dropWhile (· = '/')) := by
  have hnil := components_ofList_eq_nil_iff name.toList
  have hinward := Path.all_isInward_iff (isAbsolute_dropWhile name.toList)
  rw [Path.up_mem_pieces_iff] at hinward
  unfold restorePath?
  simp only [hinward, ne_eq, hnil, ite_eq_right_iff, reduceCtorEq, imp_false, not_and_or, not_not]

/-- **Where a name leads that has a place.** It goes through the target directory and then through its own pieces, empty
ones and single dots left out. -/
theorem way_of_restorePath? {dir name path : String} (h : restorePath? dir name = some path) :
    Path.way path = Path.way dir ++
      ((Path.charPieces (name.toList.dropWhile (· = '/'))).filter fun p => p ≠ [] ∧ p ≠ ['.']).map
        fun p => .plain (String.ofList p) := by
  have hplace : ¬ restorePath? dir name = none := by simp [h]
  rw [restorePath?_eq_none_iff, not_or] at hplace
  unfold restorePath? at h
  dsimp only at h
  split_ifs at h
  cases h
  rw [Path.way_join (isAbsolute_dropWhile _), Path.pieces_ofList, Path.filterMap_component?_ofList hplace.2]

theorem inside_of_restorePath? {dir name path : String} (h : restorePath? dir name = some path) :
    Path.Inside dir path := by
  have hrel := isAbsolute_dropWhile name.toList
  unfold restorePath? at h
  dsimp only at h
  split_ifs at h with hrest
  obtain ⟨-, hinward⟩ := hrest
  cases h
  generalize String.ofList (name.toList.dropWhile (· = '/')) = rest at hrel hinward
  by_cases hd : dir = ""
  · subst hd
    refine ⟨Path.components rest, ?_, List.all_eq_true.1 hinward⟩
    have hj : Path.join "" rest = rest := by simp [Path.join, hrel]
    have hc : Path.components "" = [] := by decide
    rw [hj, hc, List.nil_append]
  · refine ⟨(Path.pieces rest).filterMap Path.component?, Path.components_join hd hrel, List.all_eq_true.1 ?_⟩
    rw [Path.all_isInward_filterMap]
    exact (Path.all_isInward_iff hrel).1 hinward

namespace Download

variable {σ : Type} {sink : Sink σ} {dir : String} {p q : Progress σ} {g g' g'' : Engine σ}

/-! ## What a download reaches -/

/-- The path that a call opens or removes. -/
def Call.path? : Call → Option String
  | .openFile path | .remove path => some path
  | _ => none

/-- From one point of a download to another nothing outside the target directory was opened or removed. -/
def Reaches (dir : String) (g g' : Engine σ) : Prop :=
  ∃ steps, g'.steps.toList = g.steps.toList ++ steps ∧
    ∀ st ∈ steps, ∀ path, st.call.path? = some path → Path.Inside dir path

theorem Reaches.refl (g : Engine σ) : Reaches dir g g := ⟨[], by simp, nofun⟩

theorem Reaches.trans (h : Reaches dir g g') (h' : Reaches dir g' g'') : Reaches dir g g'' := by
  obtain ⟨steps, hs, hin⟩ := h
  obtain ⟨steps', hs', hin'⟩ := h'
  refine ⟨steps ++ steps', by rw [hs', hs, List.append_assoc], fun st hst => ?_⟩
  exact (List.mem_append.1 hst).elim (hin st) (hin' st)

theorem Reaches.called {call : Call} {failed : Bool} {s : σ}
    (h : ∀ path, call.path? = some path → Path.Inside dir path) : Reaches dir g (g.called call failed s) :=
  ⟨[⟨call, failed⟩], by simp [Engine.called], by simpa using h⟩

theorem Reaches.quiet {call : Call} {failed : Bool} {s : σ} (h : call.path? = none) :
    Reaches dir g (g.called call failed s) :=
  .called (by simp [h])

theorem Reaches.note {call : Call} {d : Digest} (h : call.path? = none) : Reaches dir g (g.note call d) :=
  ⟨[⟨call, false⟩], by simp [Engine.note], by simp [h]⟩

/-- The file that is being received lies inside the target directory. -/
def Progress.Inside (dir : String) (p : Progress σ) : Prop :=
  ∀ file, p.current = some file → Path.Inside dir file.path

/-- No piece reaches outside, and if it names a file, that lies inside again. -/
theorem Took.reaches {piece : Piece} {e : Except Error Unit} (h : Took sink dir p piece e q) (hp : p.Inside dir) :
    Reaches dir p.engine q.engine ∧ q.Inside dir := by
  cases h with
  | rejected => exact ⟨.refl _, nofun⟩
  | unopened h =>
    have hin := inside_of_restorePath? h
    exact ⟨.called (by simpa [Call.path?] using hin), hp⟩
  | opened h =>
    have hin := inside_of_restorePath? h
    refine ⟨Reaches.trans (.called (by simpa [Call.path?] using hin)) (.note rfl), fun file hf => ?_⟩
    cases hf
    exact hin
  | strayContent => exact ⟨.refl _, hp⟩
  | unwritten => exact ⟨.quiet rfl, hp⟩
  | written => exact ⟨Reaches.trans (.quiet rfl) (.note rfl), hp⟩
  | strayChecksum => exact ⟨.note rfl, hp⟩
  | unclosed => exact ⟨Reaches.trans (.note rfl) (.quiet rfl), nofun⟩
  | verified => exact ⟨Reaches.trans (.note rfl) (.quiet rfl), nofun⟩
  | @mismatched _ file _ _ _ hf =>
    refine ⟨Reaches.trans (Reaches.trans (.note rfl) (.quiet rfl)) (.called ?_), nofun⟩
    simpa [Call.path?] using hp file hf

theorem Received.reaches {ps : List Piece} (h : Received sink dir p ps q) (hp : p.Inside dir) :
    Reaches dir p.engine q.engine ∧ q.Inside dir := by
  induction h with
  | nil => exact ⟨.refl _, hp⟩
  | cons ht _ ih =>
    obtain ⟨hfirst, hq⟩ := ht.reaches hp
    obtain ⟨hrest, hr⟩ := ih hq
    exact ⟨hfirst.trans hrest, hr⟩

theorem Went.reaches {stream : List (Except Error RestoreFrame)} {r : Except Error Outcome}
    (h : Went sink dir p stream r g) (hp : p.Inside dir) : Reaches dir p.engine g := by
  cases h with
  | @finished fs q h =>
    refine (h.reaches hp).1.trans ?_
    rcases hc : sink.close q.engine.store with ⟨_ | ⟨⟨⟩⟩, s⟩ <;>
    · simp only [finish, after_eq_called, hc]
      exact .quiet rfl
  | unread fs h => exact (h.reaches hp).1.trans (.quiet rfl)
  | failed fs h _ ht =>
    obtain ⟨hfirst, hq⟩ := h.reaches hp
    exact hfirst.trans (ht.reaches hq).1

/-! ## What a download depends on -/

/-- Two sinks do the same inside a directory. -/
structure AgreeInside (dir : String) (sink sink' : Sink σ) : Prop where
  openFile : ∀ path, Path.Inside dir path → sink'.openFile path = sink.openFile path
  remove : ∀ path, Path.Inside dir path → sink'.remove path = sink.remove path
  write : sink'.write = sink.write
  close : sink'.close = sink.close

theorem take_congr {sink' : Sink σ} (h : AgreeInside dir sink sink') (hp : p.Inside dir) (piece : Piece) :
    take sink' dir piece p = take sink dir piece p := by
  cases piece with
  | name name =>
    simp only [take, takeName]
    cases hr : restorePath? dir name with
    | none => rfl
    | some path => simp only [h.openFile path (inside_of_restorePath? hr)]
  | content b => simp only [take, takeContent, h.write]
  | checksum digits =>
    simp only [take, takeChecksum, h.close]
    cases hc : p.current with
    | none => rfl
    | some file => simp only [h.remove file.path (hp file hc)]

theorem frames_congr {sink' : Sink σ} (h : AgreeInside dir sink sink') (stream : List (Except Error RestoreFrame))
    (hp : p.Inside dir) : frames sink' dir stream p = frames sink dir stream p := by
  induction stream generalizing p with
  | nil => simp only [frames, finish, h.close]
  | cons i rest ih =>
    cases i with
    | error e => simp only [frames, h.close]
    | ok f =>
      simp only [frames]
      cases f.piece? with
      | none => exact ih hp
      | some rp =>
        have ht := take_took sink dir rp.2 p
        simp only [take_congr h hp]
        rcases hq : take sink dir rp.2 p with ⟨e | ⟨⟨⟩⟩, q⟩
        · rfl
        · rw [hq] at ht
          exact ih (ht.reaches hp).2

/-- **Restored names cannot escape the target.** Whatever the frames of a stream hold, and whatever the sink does, each
path that a download opens or removes goes through all components of the target directory and after them neither upwards
nor to the root; what the sink does with any other path makes no difference. A name has no place if and only if nothing
is left of it without its leading slashes or one of its pieces leads upwards. Otherwise its place leads through the
target directory and then through the pieces of the name, single dots and empty pieces left out. -/
theorem run_inside (sink : Sink σ) (dir : String) (stream : List (Except Error RestoreFrame)) (g : Engine σ) :
    (∃ steps, (run sink dir stream g).2.steps.toList = g.steps.toList ++ steps ∧
      ∀ st ∈ steps, ∀ path, st.call = .openFile path ∨ st.call = .remove path → Path.Inside dir path) ∧
    (∀ sink' : Sink σ, AgreeInside dir sink sink' → run sink' dir stream g = run sink dir stream g) ∧
    ∀ name : String,
      let rest := name.toList.dropWhile (· = '/')
      (restorePath? dir name = none ↔ rest = [] ∨ ['.', '.'] ∈ Path.charPieces rest) ∧
        ∀ path, restorePath? dir name = some path →
          Path.Inside dir path ∧ (Path.components path).filter (· ≠ .here) =
            (Path.components dir).filter (· ≠ .here) ++
              ((Path.charPieces rest).filter fun p => p ≠ [] ∧ p ≠ ['.']).map fun p => .plain (String.ofList p) := by
  have hstart : Progress.Inside dir { engine := g : Progress σ } := nofun
  refine ⟨?_, fun sink' h => frames_congr h stream hstart, fun name => ⟨restorePath?_eq_none_iff dir name, ?_⟩⟩
  · obtain ⟨steps, hs, hin⟩ := (frames_went sink dir stream { engine := g }).reaches hstart
    refine ⟨steps, hs, fun st hst path hpath => hin st hst path ?_⟩
    rcases hpath with h | h <;> rw [h] <;> rfl
  · exact fun path h => ⟨inside_of_restorePath? h, way_of_restorePath? h⟩

end Download

end Custodian
