import Custodian.LogFilter
import Custodian.Proofs.Numbers
import Mathlib.Data.String.Basic
import Mathlib.Tactic

/-!
# Which directives decide

* `Clause`, `Clause.IsWritten` : directives as they are written; `IsWritten.parse_text` : they are read back;
* `LogFilter.pairwise_foldl_add`, `decisive?_of_applies` : of directives about the same the last stays, and of those
  that apply one with a longest target decides;
* `Clause.Decides`, `Decides.levelFor_eq` : so the last decides of the most specific directives that are written;
* `LogFilter.levelFor_ofProgram` : with a program's own directives written after those of the environment;
  `LogFilter.not_forall_variable_decides` : those of the environment do not always decide.
-/

namespace Custodian

set_option autoImplicit false

/-! ## Text -/

namespace Text

theorem exists_utf8Len_cons (a : Char) (as : List Char) : ∃ n, String.utf8Len (a :: as) = n + 1 ∧ a.utf8Size ≤ n + 1 ∧
    n + 1 - a.utf8Size = String.utf8Len as := by
  have hpos := a.utf8Size_pos
  refine ⟨String.utf8Len as + a.utf8Size - 1, ?_⟩
  rw [String.utf8Len_cons]
  omega

theorem dropBytes_append (as bs : List Char) : dropBytes (String.utf8Len as) (as ++ bs) = some bs := by
  induction as with
  | nil => exact dropBytes.eq_1 _
  | cons a as ih =>
    obtain ⟨n, hn, hle, hsize⟩ := exists_utf8Len_cons a as
    rw [hn, List.cons_append, dropBytes, if_pos hle, hsize, ih]

theorem takeBytes_self_append (as bs : List Char) : takeBytes (String.utf8Len as) (as ++ bs) = some as := by
  induction as with
  | nil => exact takeBytes.eq_1 _
  | cons a as ih =>
    obtain ⟨n, hn, hle, hsize⟩ := exists_utf8Len_cons a as
    rw [hn, List.cons_append, takeBytes, if_pos hle, hsize, ih]
    rfl

theorem trimChars_eq_self {cs : List Char} (hfirst : ∀ c ∈ cs.head?, isSpace c = false)
    (hlast : ∀ c ∈ cs.getLast?, isSpace c = false) : trimChars cs = cs := by
  have keep {ds : List Char} (h : ∀ c ∈ ds.head?, isSpace c = false) : ds.dropWhile isSpace = ds := by
    cases ds with
    | nil => rfl
    | cons d ds => rw [List.dropWhile_cons_of_neg (by simp [h d rfl])]
  rw [trimChars, keep hfirst, dropSpaceEnd, keep (by simpa using hlast), List.reverse_reverse]

/-- The code points of white space. -/
def spaces : List Nat :=
  List.range' 9 5 ++ [0x20, 0x85, 0xA0, 0x1680] ++ List.range' 0x2000 11 ++ [0x2028, 0x2029, 0x202F, 0x205F, 0x3000]

theorem toNat_mem_spaces {c : Char} (h : isSpace c = true) : c.toNat ∈ spaces := by
  simp only [isSpace, Bool.or_eq_true, Bool.and_eq_true, decide_eq_true_eq, beq_iff_eq] at h
  simp only [spaces, List.mem_append, List.mem_range'_1, List.mem_cons, List.not_mem_nil, or_false]
  omega

/-- White space is no letter and no number. -/
theorem isAlphanumeric_of_isSpace {c : Char} (h : isSpace c = true) : isAlphanumeric c = false := by
  have hspaces : ∀ n ∈ spaces, isAlphanumeric (Char.ofNat n) = false := by decide +kernel
  rw [← Char.ofNat_toNat c]
  exact hspaces _ (toNat_mem_spaces h)

/-- A text that begins with another of its size is that text. -/
theorem eq_of_begins {s t : String} (h : s.toList <+: t.toList) (hsize : s.utf8ByteSize = t.utf8ByteSize) : s = t := by
  obtain ⟨rest, hrest⟩ := h
  have ht : t = s ++ String.ofList rest := by
    apply String.toList_injective
    rw [String.toList_append, String.toList_ofList, hrest]
  rw [ht, String.utf8ByteSize_append] at hsize
  have hempty : String.ofList rest = "" := String.utf8ByteSize_eq_zero_iff.1 (by omega)
  rw [ht, hempty, String.append_empty]

end Text

/-! ## Words of directives -/

namespace Directive

/-- A sign that the first word of a directive can begin with. -/
def CanBegin (a : Char) : Prop := a = '-' ∨ a = ':' ∨ a = '_' ∨ Text.isAlphanumeric a = true

/-- A sign that does not end the first word of a directive. -/
def IsPlain (a : Char) : Prop := a ≠ '=' ∧ a ≠ '[' ∧ a ≠ ','

instance (a : Char) : Decidable (CanBegin a) := by unfold CanBegin; infer_instance

instance (a : Char) : Decidable (IsPlain a) := by unfold IsPlain; infer_instance

theorem CanBegin.of_all {as : List Char} (h : as.all (fun a => decide (CanBegin a)) = true) : ∀ a ∈ as, CanBegin a := by
  simpa using h

theorem not_isSpace_of_isAlphanumeric {a : Char} (h : Text.isAlphanumeric a = true) : Text.isSpace a = false := by
  by_contra hspace
  rw [Text.isAlphanumeric_of_isSpace (by simpa using hspace)] at h
  cases h

theorem isPlain_of_isAlphanumeric {a : Char} (h : Text.isAlphanumeric a = true) : IsPlain a := by
  refine ⟨?_, ?_, ?_⟩ <;>
  · rintro rfl
    revert h
    decide +kernel

theorem CanBegin.not_isSpace {a : Char} (h : CanBegin a) : Text.isSpace a = false := by
  obtain rfl | rfl | rfl | h := h
  · decide
  · decide
  · decide
  · exact not_isSpace_of_isAlphanumeric h

theorem CanBegin.isPlain {a : Char} (h : CanBegin a) : IsPlain a := by
  obtain rfl | rfl | rfl | h := h
  · decide
  · decide
  · decide
  · exact isPlain_of_isAlphanumeric h

end Directive

/-- A word for a level has letters and numbers in it, and plus signs. -/
theorem LogLevel.isAlphanum_of_parse? {cs : List Char} {l : LogLevel} (h : parse? cs = some l) (hne : cs ≠ [])
    {c : Char} (hc : c ∈ cs) : c.isAlphanum = true ∨ c = '+' := by
  rw [parse?] at h
  split at h
  · next hnumber =>
    obtain ⟨n, hn, -⟩ := Option.bind_eq_some_iff.1 hnumber
    obtain ⟨ds, -, hdigits, hcs, -⟩ := (Text.readNat_eq_some_iff.1 hn).1
    rw [String.toList_ofList] at hcs
    have hdigit (hc : c ∈ ds) : c.isAlphanum = true := by rw [Char.isAlphanum, hdigits c hc, Bool.or_true]
    obtain rfl | rfl := hcs
    · exact .inl (hdigit hc)
    · obtain rfl | hc := List.mem_cons.1 hc
      · exact .inr rfl
      · exact .inl (hdigit hc)
  · rw [if_neg (by simpa using hne)] at h
    have hname : l.name.toList = cs.map Char.toLower := by simpa using List.find?_some h
    have hletters : l.name.toList.all Char.isLower = true := by cases l <;> decide
    have hlower := List.all_eq_true.1 hletters c.toLower (hname ▸ List.mem_map_of_mem hc)
    left
    show ((c.isUpper || c.isLower) || c.isDigit) = true
    by_cases hupper : c.isUpper = true
    · rw [hupper, Bool.true_or, Bool.true_or]
    · have hsame : c.toLower = c := dif_neg (of_decide_eq_false (Bool.eq_false_iff.2 hupper))
      rw [hsame] at hlower
      rw [hlower, Bool.or_true, Bool.true_or]

theorem LogLevel.plain_of_parse? {cs : List Char} {l : LogLevel} (h : parse? cs = some l) (hne : cs ≠ []) {c : Char}
    (hc : c ∈ cs) : Directive.IsPlain c ∧ Text.isSpace c = false := by
  obtain hletter | rfl := isAlphanum_of_parse? h hne hc
  · have halphanumeric : Text.isAlphanumeric c = true := by rw [Text.isAlphanumeric, hletter, Bool.true_or]
    exact ⟨Directive.isPlain_of_isAlphanumeric halphanumeric, Directive.not_isSpace_of_isAlphanumeric halphanumeric⟩
  · decide

/-! ## Reading directives -/

namespace Directive

theorem readFrom_start {text cs : List Char} {a : Char} {d : Directive} (h : CanBegin a) :
    readFrom text 0 (a :: cs) .start d = readFrom text a.utf8Size cs (.levelOrTarget 0) d := by
  have hbracket := h.isPlain.2.1
  unfold CanBegin at h
  rw [readFrom, readChar, if_neg hbracket, if_pos h, Nat.zero_add]
  rfl

/-- The characters of a first word are passed one by one. -/
theorem readFrom_levelOrTarget {text cs : List Char} {k i : Nat} {d : Directive} (rest : List Char)
    (h : ∀ c ∈ cs, IsPlain c) :
    readFrom text i (cs ++ rest) (.levelOrTarget k) d =
      readFrom text (i + String.utf8Len cs) rest (.levelOrTarget k) d := by
  induction cs generalizing i with
  | nil => rfl
  | cons c cs ih =>
    obtain ⟨⟨hequals, hbracket, hcomma⟩, hcs⟩ := List.forall_mem_cons.1 h
    rw [List.cons_append, readFrom, readChar, if_neg hequals, if_neg hbracket, if_neg hcomma]
    refine (ih hcs).trans ?_
    rw [String.utf8Len_cons, Nat.add_assoc, Nat.add_comm c.utf8Size]

/-- The characters of a level are passed one by one. -/
theorem readFrom_level {text cs : List Char} {k i : Nat} {d : Directive} (h : ',' ∉ cs) :
    readFrom text i cs (.level k) d = (lastWord text k).bind d.withLevel := by
  induction cs generalizing i with
  | nil => rfl
  | cons c cs ih =>
    rw [List.mem_cons, not_or] at h
    rw [readFrom, readChar, if_neg (Ne.symm h.1)]
    exact ih h.2

/-- The first word, up to what comes after it. -/
theorem readFrom_first {text cs : List Char} {a : Char} {d : Directive} (rest : List Char) (ha : CanBegin a)
    (h : ∀ c ∈ cs, IsPlain c) : readFrom text 0 (a :: cs ++ rest) .start d =
      readFrom text (String.utf8Len (a :: cs)) rest (.levelOrTarget 0) d := by
  rw [List.cons_append, readFrom_start ha, readFrom_levelOrTarget rest h, String.utf8Len_cons, Nat.add_comm]

theorem readFrom_word {a : Char} {cs : List Char} {l : LogLevel} (ha : CanBegin a)
    (hlevel : LogLevel.parse? (a :: cs) = some l) :
    readFrom (a :: cs) 0 (a :: cs) .start {} = .ok { level := l } := by
  have hplain : ∀ c ∈ cs, IsPlain c := fun c hc =>
    (LogLevel.plain_of_parse? hlevel (by simp) (List.mem_cons_of_mem a hc)).1
  have hfirst := @readFrom_first (a :: cs) cs a {} [] ha hplain
  rw [List.append_nil] at hfirst
  rw [hfirst, readFrom, lastWord, Text.dropBytes]
  show Except.ok (ofWord {} (a :: cs)) = _
  rw [ofWord, hlevel]

theorem readFrom_target {a : Char} {cs ws : List Char} {l : LogLevel} (ha : CanBegin a) (hcs : ∀ c ∈ cs, IsPlain c)
    (hlevel : LogLevel.parse? ws = some l) (hne : ws ≠ []) :
    readFrom (a :: cs ++ '=' :: ws) 0 (a :: cs ++ '=' :: ws) .start {} =
      .ok { level := l, target := some (String.ofList (a :: cs)) } := by
  have hcomma : ',' ∉ ws := fun h => (LogLevel.plain_of_parse? hlevel hne h).1.2.2 rfl
  have htarget : word (a :: cs ++ '=' :: ws) 0 (String.utf8Len (a :: cs)) = .ok (a :: cs) := by
    rw [word, Text.slice, Text.dropBytes, Option.bind_some, Nat.sub_zero, Text.takeBytes_self_append]
  have hlast : lastWord (a :: cs ++ '=' :: ws) (String.utf8Len (a :: cs) + 1) = .ok ws := by
    have hdrop := Text.dropBytes_append (a :: cs ++ ['=']) ws
    rw [List.append_assoc, List.singleton_append, String.utf8Len_append] at hdrop
    rw [lastWord, show 1 = String.utf8Len ['='] from rfl, hdrop]
  rw [readFrom_first _ ha hcs, readFrom, readChar, if_pos rfl, htarget]
  refine (readFrom_level hcomma).trans ?_
  rw [hlast]
  simp only [Except.bind, withLevel, List.isEmpty_eq_false_iff.2 hne, Bool.false_eq_true, if_false, hlevel]
  rfl

end Directive

/-! ## Written directives -/

/-- A directive as it is written: what stands before an equals sign, if there is one, and a word for its level. -/
structure Clause where
  target : Option String := none
  word : String
  level : LogLevel

namespace Clause

/-- What it is written as. -/
def text (c : Clause) : String :=
  match c.target with
  | none => c.word
  | some t => t ++ "=" ++ c.word

/-- What it means. -/
def directive (c : Clause) : Directive := { level := c.level, target := c.target }

/-- Whether it speaks of a target. -/
def Applies (c : Clause) (target : String) : Prop := ∀ t ∈ c.target, t.toList <+: target.toList

instance (c : Clause) (target : String) : Decidable (c.Applies target) := by unfold Applies; infer_instance

/-- How long a target it names. -/
def size (c : Clause) : Nat := c.directive.targetSize

/-- It can be read: the word stands for the level, and the first word has signs in it that a first word can have. -/
structure IsWritten (c : Clause) : Prop where
  first : ∃ a ∈ (c.target.getD c.word).toList.head?, Directive.CanBegin a
  target : ∀ t ∈ c.target, ∀ a ∈ t.toList, Directive.IsPlain a
  word : c.word ≠ ""
  level : LogLevel.parse? c.word.toList = some c.level

instance (c : Clause) : Decidable c.IsWritten :=
  decidable_of_iff ((c.target.getD c.word).toList.head?.any (fun a => decide (Directive.CanBegin a)) = true ∧
    c.target.all (fun t => t.toList.all fun a => decide (Directive.IsPlain a)) = true ∧ c.word ≠ "" ∧
    LogLevel.parse? c.word.toList = some c.level)
    ⟨fun ⟨first, target, word, level⟩ =>
      ⟨by simpa [Option.any_eq_true] using first, by simpa [Option.all_eq_true] using target, word, level⟩,
      fun ⟨first, target, word, level⟩ =>
      ⟨by simpa [Option.any_eq_true] using first, by simpa [Option.all_eq_true] using target, word, level⟩⟩

theorem toList_text (c : Clause) :
    c.text.toList = (match c.target with | none => [] | some t => t.toList ++ ['=']) ++ c.word.toList := by
  unfold text
  cases c.target with
  | none => rfl
  | some t => rw [String.toList_append, String.toList_append]; rfl

theorem IsWritten.word_toList {c : Clause} (h : c.IsWritten) {a : Char} (ha : a ∈ c.word.toList) :
    Directive.IsPlain a ∧ Text.isSpace a = false :=
  LogLevel.plain_of_parse? h.level (by simpa using h.word) ha

theorem IsWritten.text_ne_nil {c : Clause} (h : c.IsWritten) : c.text.toList ≠ [] := by
  rw [toList_text]
  exact List.append_ne_nil_of_right_ne_nil _ (by simpa using h.word)

theorem IsWritten.comma_notMem {c : Clause} (h : c.IsWritten) : ',' ∉ c.text.toList := by
  rw [toList_text, List.mem_append, not_or]
  refine ⟨?_, fun hword => (h.word_toList hword).1.2.2 rfl⟩
  obtain ⟨-, htarget, -, -⟩ := h
  cases hc : c.target with
  | none => exact List.not_mem_nil
  | some t => exact fun hmem => by simpa [Directive.IsPlain] using htarget t hc ',' (by simpa using hmem)

theorem IsWritten.trimChars_text {c : Clause} (h : c.IsWritten) : Text.trimChars c.text.toList = c.text.toList := by
  apply Text.trimChars_eq_self
  · obtain ⟨a, hfirst, ha⟩ := h.first
    have hhead : c.text.toList.head? = some a := by
      rw [toList_text]
      cases hc : c.target with
      | none => simpa [hc] using hfirst
      | some t =>
        obtain ⟨cs, hcs⟩ : ∃ cs, t.toList = a :: cs := List.head?_eq_some_iff.1 (by simpa [hc] using hfirst)
        dsimp only
        rw [hcs]
        rfl
    rw [hhead]
    rintro _ ⟨⟩
    exact ha.not_isSpace
  · intro a ha
    have hword : c.word.toList ≠ [] := by simpa using h.word
    rw [toList_text, List.getLast?_append_of_ne_nil _ hword] at ha
    exact (h.word_toList (List.mem_of_getLast? ha)).2

/-- A directive that is written is read back. -/
theorem IsWritten.parse_text {c : Clause} (h : c.IsWritten) : Directive.parse c.text = .ok c.directive := by
  rw [Directive.parse, h.trimChars_text, toList_text]
  obtain ⟨⟨a, hfirst, ha⟩, htarget, hword, hlevel⟩ := h
  obtain ⟨target, word, level⟩ := c
  cases target with
  | none =>
    obtain ⟨cs, hcs⟩ : ∃ cs, word.toList = a :: cs := List.head?_eq_some_iff.1 hfirst
    dsimp only [directive] at hlevel ⊢
    rw [hcs] at hlevel ⊢
    exact Directive.readFrom_word ha hlevel
  | some t =>
    obtain ⟨cs, hcs⟩ : ∃ cs, t.toList = a :: cs := List.head?_eq_some_iff.1 hfirst
    have hplain := htarget t rfl
    have hne : word.toList ≠ [] := by simpa using hword
    dsimp only [directive]
    rw [hcs] at hplain
    rw [hcs, List.append_assoc, List.singleton_append,
      Directive.readFrom_target ha (fun b hb => hplain b (List.mem_cons_of_mem a hb)) hlevel hne, ← hcs,
      String.ofList_toList]

end Clause

namespace LogFilter

/-- What directives are written as, with commas between them. -/
def written (clauses : List Clause) : String := String.intercalate "," (clauses.map Clause.text)

theorem pieces_written {clauses : List Clause} (h : ∀ c ∈ clauses, c.IsWritten) :
    pieces (written clauses) = clauses.map Clause.text := by
  have hne : (clauses.map (·.text.toList)).filter (· ≠ []) = clauses.map (·.text.toList) :=
    List.filter_eq_self.2 fun cs hcs => by
      obtain ⟨c, hc, rfl⟩ := List.mem_map.1 hcs
      simpa using (h c hc).text_ne_nil
  have hsplit : ((written clauses).toList.splitOn ',').filter (· ≠ []) = clauses.map (·.text.toList) := by
    rw [written, String.toList_intercalate, List.map_map]
    obtain rfl | hclauses := eq_or_ne clauses []
    · rfl
    · rw [show ",".toList = [','] from rfl, List.splitOn_intercalate]
      · exact hne
      · intro cs hcs
        obtain ⟨c, hc, rfl⟩ := List.mem_map.1 hcs
        exact (h c hc).comma_notMem
      · simpa using hclauses
  rw [pieces, hsplit, List.map_map]
  exact List.map_congr_left fun c _ => String.ofList_toList

theorem readAll_text {clauses : List Clause} (h : ∀ c ∈ clauses, c.IsWritten) :
    readAll (clauses.map Clause.text) = some (clauses.map Clause.directive) := by
  induction clauses with
  | nil => rfl
  | cons c clauses ih =>
    obtain ⟨hc, hclauses⟩ := List.forall_mem_cons.1 h
    rw [List.map_cons, readAll, hc.parse_text]
    dsimp only
    rw [ih hclauses]
    rfl

theorem ofText?_written {clauses : List Clause} (h : ∀ c ∈ clauses, c.IsWritten) :
    ofText? (written clauses) = some ((clauses.map Clause.directive).foldl add []) := by
  rw [ofText?, pieces_written h, readAll_text h]
  rfl

/-! ## The directive that decides -/

theorem mem_add {f : LogFilter} {d e : Directive} : d ∈ f.add e ↔ d ∈ f ∧ d.sameScope e = false ∨ d = e := by
  simp [add]

theorem mem_foldl_add {d : Directive} {ds : List Directive} {f : LogFilter} (h : d ∈ f)
    (hds : ∀ e ∈ ds, d.sameScope e = false) : d ∈ ds.foldl add f := by
  induction ds generalizing f with
  | nil => exact h
  | cons e ds ih =>
    obtain ⟨he, hds⟩ := List.forall_mem_cons.1 hds
    exact ih (mem_add.2 (.inl ⟨h, he⟩)) hds

theorem of_mem_foldl_add {d : Directive} {ds : List Directive} {f : LogFilter} (h : d ∈ ds.foldl add f) :
    d ∈ f ∨ d ∈ ds := by
  induction ds generalizing f with
  | nil => exact .inl h
  | cons e ds ih =>
    obtain hadd | hds := ih h
    · obtain ⟨hf, -⟩ | rfl := mem_add.1 hadd
      · exact .inl hf
      · exact .inr List.mem_cons_self
    · exact .inr (List.mem_cons_of_mem e hds)

/-- A directive is added in the place of those about the same, so that no two are. -/
theorem pairwise_foldl_add {ds : List Directive} {f : LogFilter}
    (h : f.Pairwise fun d e => d.sameScope e = false) :
    (ds.foldl add f).Pairwise fun d e => d.sameScope e = false := by
  induction ds generalizing f with
  | nil => exact h
  | cons e ds ih =>
    refine ih (List.pairwise_append.2 ⟨h.filter _, List.pairwise_singleton _ _, ?_⟩)
    simp

/-- The one of two directives that decides, the other one new. -/
def better : Option Directive → Directive → Option Directive
  | none, d => some d
  | some b, d => if d.Outranks b then some d else some b

theorem decisive?_eq (f : LogFilter) (target : String) :
    f.decisive? target = (f.filter (·.applies target)).foldl better none := by
  rw [decisive?]
  congr 1
  funext best d
  cases best <;> rfl

theorem foldl_better (ds : List Directive) (a : Directive) :
    ∃ b ∈ a :: ds, ds.foldl better (some a) = some b ∧ ∀ d ∈ a :: ds, d.targetSize ≤ b.targetSize := by
  induction ds generalizing a with
  | nil => exact ⟨a, List.mem_singleton_self a, rfl, by simp⟩
  | cons e ds ih =>
    have hstep : better (some a) e = some (if e.Outranks a then e else a) := by rw [better]; split <;> rfl
    obtain ⟨b, hb, hfold, hmax⟩ := ih (if e.Outranks a then e else a)
    obtain ⟨hseed, hds⟩ := List.forall_mem_cons.1 hmax
    refine ⟨b, ?_, by rw [List.foldl_cons, hstep, hfold], ?_⟩
    · split at hb
      · exact List.mem_cons_of_mem a hb
      · simp only [List.mem_cons] at hb ⊢
        tauto
    · have hsizes : a.targetSize ≤ b.targetSize ∧ e.targetSize ≤ b.targetSize := by
        by_cases h : e.Outranks a
        · rw [if_pos h] at hseed
          unfold Directive.Outranks at h
          omega
        · rw [if_neg h] at hseed
          unfold Directive.Outranks at h
          omega
      exact List.forall_mem_cons.2 ⟨hsizes.1, List.forall_mem_cons.2 ⟨hsizes.2, hds⟩⟩

/-- If a directive applies, then one decides, and of those that apply none has a longer target. -/
theorem decisive?_of_applies {f : LogFilter} {target : String} {d : Directive} (hd : d ∈ f)
    (h : d.applies target = true) : ∃ b ∈ f, f.decisive? target = some b ∧ b.applies target = true ∧
      ∀ e ∈ f, e.applies target = true → e.targetSize ≤ b.targetSize := by
  have hmem {e : Directive} : e ∈ f.filter (·.applies target) ↔ e ∈ f ∧ e.applies target = true := List.mem_filter
  obtain ⟨a, ds, hds⟩ := List.exists_cons_of_ne_nil (List.ne_nil_of_mem (hmem.2 ⟨hd, h⟩))
  rw [hds] at hmem
  obtain ⟨b, hb, hfold, hmax⟩ := foldl_better ds a
  refine ⟨b, (hmem.1 hb).1, ?_, (hmem.1 hb).2, fun e he happlies => hmax e (hmem.2 ⟨he, happlies⟩)⟩
  rw [decisive?_eq, hds]
  exact hfold

end LogFilter

namespace Clause

/-- The clause decides on a target: it applies, and of the others that apply none names a longer target, and none that
comes after it one as long. -/
def Decides (clauses : List Clause) (target : String) (c : Clause) : Prop :=
  ∃ front back, clauses = front ++ c :: back ∧ c.Applies target ∧
    (∀ d ∈ front, d.Applies target → d.size ≤ c.size) ∧ ∀ d ∈ back, d.Applies target → d.size < c.size

theorem applies_directive {c : Clause} {target : String} : c.directive.applies target = true ↔ c.Applies target := by
  obtain ⟨_ | t, word, level⟩ := c
  · simp [directive, Directive.applies, Applies]
  · simp [directive, Directive.applies, Applies]

theorem sameScope_directive {c d : Clause} : c.directive.sameScope d.directive = true ↔ c.target = d.target := by
  simp [directive, Directive.sameScope]

theorem size_congr {c d : Clause} (h : c.target = d.target) : c.size = d.size := by
  simp only [size, directive, Directive.targetSize, h]

/-- Of the targets that one target begins with there is one of each length. -/
theorem target_eq_of_size_eq {c d : Clause} {target : String} (hc : c.Applies target) (hd : d.Applies target)
    (h : c.size = d.size) : c.target = d.target := by
  obtain ⟨_ | t, _, _⟩ := c <;> obtain ⟨_ | u, _, _⟩ := d
  · rfl
  · simp [size, directive, Directive.targetSize] at h
  · simp [size, directive, Directive.targetSize] at h
  · have hsize : t.utf8ByteSize = u.utf8ByteSize := by simpa [size, directive, Directive.targetSize] using h
    obtain h | h := List.prefix_or_prefix_of_prefix (hc t rfl) (hd u rfl)
    · exact congrArg some (Text.eq_of_begins h hsize)
    · exact congrArg some (Text.eq_of_begins h hsize.symm).symm

theorem Decides.max {clauses : List Clause} {target : String} {c d : Clause} (h : Decides clauses target c)
    (hd : d ∈ clauses) (happlies : d.Applies target) : d.size ≤ c.size := by
  obtain ⟨front, back, rfl, -, hfront, hback⟩ := h
  rw [List.mem_append, List.mem_cons] at hd
  obtain hd | rfl | hd := hd
  · exact hfront d hd happlies
  · exact Nat.le_refl _
  · exact Nat.le_of_lt (hback d hd happlies)

theorem Decides.append_right {clauses more : List Clause} {target : String} {c : Clause}
    (h : Decides clauses target c) (hmore : ∀ d ∈ more, d.Applies target → d.size < c.size) :
    Decides (clauses ++ more) target c := by
  obtain ⟨front, back, rfl, happlies, hfront, hback⟩ := h
  refine ⟨front, back ++ more, by simp, happlies, hfront, fun d hd => ?_⟩
  exact (List.mem_append.1 hd).elim (hback d) (hmore d)

theorem Decides.append_left {clauses more : List Clause} {target : String} {c : Clause}
    (h : Decides clauses target c) (hmore : ∀ d ∈ more, d.Applies target → d.size ≤ c.size) :
    Decides (more ++ clauses) target c := by
  obtain ⟨front, back, rfl, happlies, hfront, hback⟩ := h
  refine ⟨more ++ front, back, by simp, happlies, fun d hd => ?_, hback⟩
  exact (List.mem_append.1 hd).elim (hmore d) (hfront d)

/-- The directives are added in their order, and the level is that of the last of the most specific. -/
theorem Decides.levelFor_eq {clauses : List Clause} {target : String} {c : Clause} (h : Decides clauses target c) :
    LogFilter.levelFor ((clauses.map directive).foldl LogFilter.add []) target = c.level := by
  have ⟨front, back, hclauses, happlies, _, hback⟩ := h
  -- nothing after the clause takes its place
  have hkept : c.directive ∈ (clauses.map directive).foldl LogFilter.add [] := by
    rw [hclauses, List.map_append, List.map_cons, List.foldl_append, List.foldl_cons]
    refine LogFilter.mem_foldl_add (LogFilter.mem_add.2 (.inr rfl)) fun e he => ?_
    obtain ⟨d, hd, rfl⟩ := List.mem_map.1 he
    by_contra hscope
    have htarget : c.target = d.target := sameScope_directive.1 (by simpa using hscope)
    have hsmaller := hback d hd (by unfold Applies; rw [← htarget]; exact happlies)
    exact absurd (size_congr htarget) (Nat.ne_of_gt hsmaller)
  obtain ⟨b, hb, hdecides, hbapplies, hmax⟩ :=
    LogFilter.decisive?_of_applies hkept (applies_directive.2 happlies)
  obtain ⟨e, he, rfl⟩ := List.mem_map.1 ((LogFilter.of_mem_foldl_add hb).resolve_left List.not_mem_nil)
  rw [applies_directive] at hbapplies
  -- as long a target is the same, and of directives about the same there is one
  have htarget := target_eq_of_size_eq hbapplies happlies
    (Nat.le_antisymm (h.max he hbapplies) (hmax _ hkept (applies_directive.2 happlies)))
  have heq : e.directive = c.directive := by
    by_contra hne
    have hsymm : Std.Symm fun d e : Directive => d.sameScope e = false :=
      ⟨fun d e h => by simp only [Directive.sameScope, decide_eq_false_iff_not] at h ⊢; tauto⟩
    have hpairwise := @LogFilter.pairwise_foldl_add (clauses.map directive) [] List.Pairwise.nil
    have hscope := hpairwise.forall hb hkept hne
    rw [sameScope_directive.2 htarget] at hscope
    cases hscope
  rw [LogFilter.levelFor, hdecides, heq]
  rfl

end Clause

/-! ## Filters of programs -/

namespace LogFilter

/-- What is worth knowing of the targets that begin with a given one, or of all. -/
def worthKnowing (target : Option String) : Clause := { target, word := "info", level := .info }

/-- The directives of a program's own: what is worth knowing, or warnings, and what is worth knowing of a family of
agents. -/
def builtIn : Option String → List Clause
  | none => [worthKnowing none]
  | some family => { word := "warn", level := .warn } :: (agentTargets family).map fun t => worthKnowing (some t)

/-- The level that a program has of its own for a target. -/
def defaultLevel (family : Option String) (target : String) : LogLevel :=
  match family with
  | none => .info
  | some family => if ∃ t ∈ agentTargets family, t.toList <+: target.toList then .info else .warn

/-- The filter of a program about a family of agents, or about none. -/
def ofProgram? (family : Option String) (env : Environment) : Option LogFilter :=
  match family with
  | none => ofEnvironment? env
  | some family => forAgents? family env

/-- Letters and numbers, low lines and dashes. -/
def IsFamily (family : String) : Prop := ∀ a ∈ family.toList, a = '-' ∨ a = '_' ∨ Text.isAlphanumeric a = true

instance (family : String) : Decidable (IsFamily family) :=
  decidable_of_iff (family.toList.all (fun a => decide (a = '-' ∨ a = '_' ∨ Text.isAlphanumeric a = true)) = true)
    (by simp [IsFamily])

theorem isWritten_agentTarget {family target : String} (h : IsFamily family) (ht : target ∈ agentTargets family) :
    (worthKnowing (some target)).IsWritten := by
  have hname : ∀ a ∈ family.toList.map fun c => if c = '-' then '_' else c, Directive.CanBegin a := by
    intro a ha
    obtain ⟨c, hc, rfl⟩ := List.mem_map.1 ha
    split
    · exact .inr (.inr (.inl rfl))
    · next hdash =>
      obtain hc | hc | hc := h c hc
      · exact absurd hc hdash
      · exact .inr (.inr (.inl hc))
      · exact .inr (.inr (.inr hc))
  have hsigns : ∀ a ∈ target.toList, Directive.CanBegin a := by
    simp only [agentTargets, List.mem_cons, List.not_mem_nil, or_false] at ht
    obtain rfl | rfl := ht <;>
    · rw [String.toList_append, String.toList_ofList]
      exact List.forall_mem_append.2 ⟨hname, Directive.CanBegin.of_all (by decide)⟩
  have hne : target.toList ≠ [] := by
    simp only [agentTargets, List.mem_cons, List.not_mem_nil, or_false] at ht
    obtain rfl | rfl := ht <;> simp
  obtain ⟨a, as, has⟩ := List.exists_cons_of_ne_nil hne
  refine ⟨⟨a, by rw [worthKnowing, Option.getD_some, has]; rfl, hsigns a (by simp [has])⟩, ?_, ?_, ?_⟩
  · rintro _ ⟨⟩ b hb
    exact (hsigns b hb).isPlain
  · exact show "info" ≠ "" by decide
  · exact show LogLevel.parse? "info".toList = some .info by decide

theorem addTarget_eq {family target : String} (h : IsFamily family) (ht : target ∈ agentTargets family)
    (f : LogFilter) : addTarget f target = some (f.add { level := .info, target := some target }) := by
  have htext : (worthKnowing (some target)).text = target ++ "=info" := by
    show target ++ "=" ++ "info" = _
    rw [String.append_assoc]
    rfl
  rw [addTarget, ← htext, (isWritten_agentTarget h ht).parse_text]
  rfl

theorem ofProgram?_eq {family : Option String} {clauses : List Clause} {env : Environment}
    (hfamily : ∀ p ∈ family, IsFamily p) (hclauses : ∀ c ∈ clauses, c.IsWritten)
    (henv : variableText env = written clauses) :
    ofProgram? family env = some (((clauses ++ builtIn family).map Clause.directive).foldl add []) := by
  have hvariable : ofVariable? env = some ((clauses.map Clause.directive).foldl add []) := by
    rw [ofVariable?, henv, ofText?_written hclauses]
  rw [List.map_append, List.foldl_append]
  cases family with
  | none =>
    rw [ofProgram?, ofEnvironment?, hvariable]
    rfl
  | some family =>
    have hadd {target : String} := @addTarget_eq family target (hfamily family rfl)
    rw [agentTargets] at hadd
    rw [ofProgram?, forAgents?, hvariable, agentTargets]
    simp only [bind, Option.bind_some, List.foldlM_cons, List.foldlM_nil]
    rw [hadd (by simp), Option.bind_some, hadd (by simp)]
    rfl

/-- Of a program's own directives one decides, and its level is the program's own. -/
theorem decides_builtIn (family : Option String) (target : String) :
    ∃ b, Clause.Decides (builtIn family) target b ∧ b.level = defaultLevel family target := by
  cases family with
  | none => exact ⟨_, ⟨[], [], rfl, by simp [worthKnowing, Clause.Applies], by simp, by simp⟩, rfl⟩
  | some family =>
    obtain ⟨agent, tester, htargets, hsize⟩ : ∃ agent tester, agentTargets family = [agent, tester] ∧
        agent.utf8ByteSize ≤ tester.utf8ByteSize := by
      refine ⟨_, _, rfl, ?_⟩
      rw [String.utf8ByteSize_append, String.utf8ByteSize_append]
      exact Nat.add_le_add_left (by decide) _
    have happlies {t : String} : (worthKnowing (some t)).Applies target ↔ t.toList <+: target.toList := by
      simp [worthKnowing, Clause.Applies]
    simp only [builtIn, defaultLevel, htargets, List.map_cons, List.map_nil, List.mem_cons, List.not_mem_nil, or_false,
      exists_eq_or_imp, exists_eq_left]
    by_cases htester : tester.toList <+: target.toList
    · refine ⟨worthKnowing (some tester), ⟨[_, _], [], rfl, happlies.2 htester, ?_, by simp⟩,
        (if_pos (.inr htester)).symm⟩
      simp [worthKnowing, Clause.size, Clause.directive, Directive.targetSize, hsize]
    have hback : ∀ d ∈ [worthKnowing (some tester)], d.Applies target → False := by
      simpa only [List.mem_singleton, forall_eq, happlies] using htester
    by_cases hagent : agent.toList <+: target.toList
    · refine ⟨worthKnowing (some agent), ⟨[_], [_], rfl, happlies.2 hagent, ?_, ?_⟩, (if_pos (.inl hagent)).symm⟩
      · simp [Clause.size, Clause.directive, Directive.targetSize]
      · exact fun d hd h => absurd h (hback d hd)
    · refine ⟨{ word := "warn", level := .warn }, ⟨[], _, rfl, by simp [Clause.Applies], by simp, ?_⟩,
        (if_neg (by tauto)).symm⟩
      refine List.forall_mem_cons.2 ⟨fun h => absurd (happlies.1 h) hagent, fun d hd h => absurd h (hback d hd)⟩

/-- **A program's own directives stand after those of the environment.** With any prefix of identifier characters and
dashes, and with none, and with any variable of directives that are written for levels or for targets and their levels:
a target is logged at the level of the most specific directive of the variable that applies, the last of them, if that
one names a longer target than any of the program's own that apply. It is logged at the program's own level if no
directive of the variable that applies names a longer target than they all, and so if none applies. The program's own
are about all targets, or about all and about those of the family of agents. -/
theorem levelFor_ofProgram (family : Option String) (clauses : List Clause) (env : Environment)
    (hfamily : ∀ p ∈ family, IsFamily p) (hclauses : ∀ c ∈ clauses, c.IsWritten)
    (henv : variableText env = written clauses) :
    ∃ f, ofProgram? family env = some f ∧ ∀ target,
      (∀ c, Clause.Decides clauses target c → (∀ b ∈ builtIn family, b.Applies target → b.size < c.size) →
        f.levelFor target = c.level) ∧
      ((∀ c ∈ clauses, c.Applies target → ∃ b ∈ builtIn family, b.Applies target ∧ c.size ≤ b.size) →
        f.levelFor target = defaultLevel family target) := by
  refine ⟨_, ofProgram?_eq hfamily hclauses henv, fun target => ⟨fun c hdecides hlonger => ?_, fun hshort => ?_⟩⟩
  · exact (hdecides.append_right hlonger).levelFor_eq
  · obtain ⟨b, hdecides, hlevel⟩ := decides_builtIn family target
    have hmore : ∀ c ∈ clauses, c.Applies target → c.size ≤ b.size := by
      intro c hc happlies
      obtain ⟨b', hb', happlies', hle⟩ := hshort c hc happlies
      exact Nat.le_trans hle (hdecides.max hb' happlies')
    rw [(hdecides.append_left hmore).levelFor_eq, hlevel]

/-- For all targets, for one that the program has a directive of its own about, and for one that is longer. -/
theorem levelFor_ofProgram_my_bro :
    let clauses : List Clause :=
      [⟨none, "debug", .debug⟩, ⟨some "my_bro_agent", "trace", .trace⟩, ⟨some "my_bro_agent::control", "OFF", .off⟩]
    let env : Environment := fun name =>
      if name = "RUST_LOG" then some "debug,my_bro_agent=trace,my_bro_agent::control=OFF" else none
    IsFamily "my-bro" ∧ (∀ c ∈ clauses, c.IsWritten) ∧ variableText env = written clauses ∧
      ∃ f, ofProgram? (some "my-bro") env = some f ∧ f.levelFor "other" = .warn ∧ f.levelFor "my_bro_agent" = .info ∧
        f.levelFor "my_bro_agent::control" = .off := by
  intro clauses env
  have hfamily : IsFamily "my-bro" := by decide
  have hclauses : ∀ c ∈ clauses, c.IsWritten := by decide
  have henv : variableText env = written clauses := by decide +kernel
  obtain ⟨f, hf, hlevels⟩ := levelFor_ofProgram (some "my-bro") clauses env
    (by rintro _ ⟨⟩; exact hfamily) hclauses henv
  refine ⟨hfamily, hclauses, henv, f, hf, ?_, ?_, ?_⟩
  · exact (hlevels "other").2 (by decide)
  · exact (hlevels "my_bro_agent").2 (by decide)
  · exact (hlevels "my_bro_agent::control").1 clauses[2] ⟨[_, _], [], rfl, by decide, by decide, by decide⟩ (by decide)

/-- The directives of the variable do not always decide where they apply. -/
theorem not_forall_variable_decides :
    ¬ ∀ (family : Option String) (clauses : List Clause) (env : Environment), (∀ p ∈ family, IsFamily p) →
      (∀ c ∈ clauses, c.IsWritten) → variableText env = written clauses →
      ∃ f, ofProgram? family env = some f ∧ ∀ target c, Clause.Decides clauses target c →
        f.levelFor target = c.level := by
  intro h
  let debug : Clause := ⟨none, "debug", .debug⟩
  let env : Environment := fun name => if name = "RUST_LOG" then some "debug" else none
  have hwritten : ∀ c ∈ [debug], c.IsWritten := by decide
  have henv : variableText env = written [debug] := by decide +kernel
  obtain ⟨f, hf, hlevel⟩ := h none [debug] env (by rintro _ ⟨⟩) hwritten henv
  have hdebug := hlevel "other" debug ⟨[], [], rfl, by decide, by simp, by simp⟩
  rw [ofProgram?_eq (by rintro _ ⟨⟩) hwritten henv, Option.some.injEq] at hf
  rw [← hf] at hdebug
  revert hdebug
  decide

end LogFilter

end Custodian
