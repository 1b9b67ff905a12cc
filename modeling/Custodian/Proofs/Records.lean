import Custodian.Proofs.Fields

/-!
# Records

What stands on the wire, said without reading it, and that reading follows it.

* `Numeral`, `IsKey`, `Item.HasBytes` : the bytes of numbers, keys and items, numbers with more bytes than they need
  included; `readVarint?_eq_some_iff`, `readKey?_eq_some_iff`, `readItem?_eq_some_iff` : what is read from some bytes is
  what stands in front of them;
* `Record` : the bytes of one field of any layout, groups of records included; `IsRow` : records one after another;
* `Record.skipped`, `Record.exists_field`, `IsRow.exists_fields` : records in front of any bytes are read as one field
  each; `readFields?_isSome_iff` : bytes are read as fields if and only if they are a row of records.
-/

namespace Custodian.Wire

set_option autoImplicit false

/-! ## Numbers -/

/-- The number that bytes of seven bits stand for, the lowest first. -/
def bytesValue : List UInt8 → Nat
  | [] => 0
  | b :: bs => b.toNat % 128 + 128 * bytesValue bs

/-- Bytes that stand for a number: at most ten, of which the last one only has its top bit clear, and the number is
below `2 ^ 64`. There may be more of them than the number needs. -/
structure Numeral (n : Nat) (bs : List UInt8) : Prop where
  ends : ∃ ds b, bs = ds ++ [b] ∧ (∀ c ∈ ds, 128 ≤ c) ∧ b < 128
  short : bs.length ≤ 10
  value : bytesValue bs = n
  bound : n < 2 ^ 64

theorem mod_of_le {b : UInt8} (h : 128 ≤ b) : b.toNat % 128 = b.toNat - 128 := by
  have h₁ : 128 ≤ b.toNat := UInt8.le_iff_toNat_le.1 h
  have h₂ := b.toNat_lt
  omega

theorem mod_of_lt {b : UInt8} (h : b < 128) : b.toNat % 128 = b.toNat :=
  Nat.mod_eq_of_lt (UInt8.lt_iff_toNat_lt.1 h)

theorem readDigits?_append {limit : Nat} {ds : List UInt8} {b : UInt8} (hds : ∀ c ∈ ds, 128 ≤ c) (hb : b < 128)
    (hshort : ds.length ≤ limit) (hbound : bytesValue (ds ++ [b]) < 2 * 128 ^ limit) (rest : List UInt8) :
    readDigits? (limit + 1) (ds ++ b :: rest) = some (bytesValue (ds ++ [b]), rest) := by
  induction ds generalizing limit with
  | nil =>
    have hvalue : bytesValue [b] = b.toNat := mod_of_lt hb
    rw [List.nil_append, hvalue] at hbound
    have hlast : ¬(limit = 0 ∧ 2 ≤ b) := by
      rintro ⟨rfl, h⟩
      have : 2 ≤ b.toNat := UInt8.le_iff_toNat_le.1 h
      omega
    rw [List.nil_append, List.nil_append, readDigits?, if_pos hb, if_neg hlast, hvalue]
  | cons d ds ih =>
    obtain ⟨hd, hds⟩ := List.forall_mem_cons.1 hds
    have hvalue : bytesValue (d :: (ds ++ [b])) = d.toNat - 128 + 128 * bytesValue (ds ++ [b]) := by
      rw [bytesValue, mod_of_le hd]
    obtain ⟨limit, rfl⟩ : ∃ k, limit = k + 1 := Nat.exists_eq_succ_of_ne_zero (by rintro rfl; simp at hshort)
    rw [List.cons_append, hvalue, pow_succ] at hbound
    have hread := ih hds (Nat.le_of_succ_le_succ hshort) (by omega)
    rw [List.cons_append, List.cons_append, readDigits?, if_neg (UInt8.not_lt.2 hd), hread, hvalue]
    rfl

theorem exists_of_readDigits? {limit n : Nat} {bs rest : List UInt8}
    (h : readDigits? (limit + 1) bs = some (n, rest)) :
    ∃ ds b, bs = ds ++ b :: rest ∧ (∀ c ∈ ds, 128 ≤ c) ∧ b < 128 ∧ ds.length ≤ limit ∧
      bytesValue (ds ++ [b]) = n ∧ n < 2 * 128 ^ limit := by
  induction limit generalizing n bs with
  | zero =>
    cases bs with
    | nil => simp [readDigits?] at h
    | cons b bs =>
      rw [readDigits?] at h
      split_ifs at h with hb hlast
      · obtain ⟨rfl, rfl⟩ := Prod.mk.inj (Option.some.inj h)
        have hsmall : ¬2 ≤ b := fun h => hlast ⟨rfl, h⟩
        rw [UInt8.not_le, UInt8.lt_iff_toNat_lt] at hsmall
        exact ⟨[], b, rfl, by simp, hb, Nat.le_refl _, mod_of_lt hb, by simpa using hsmall⟩
      · simp [readDigits?] at h
  | succ limit ih =>
    cases bs with
    | nil => simp [readDigits?] at h
    | cons b bs =>
      rw [readDigits?] at h
      split_ifs at h with hb
      · obtain ⟨rfl, rfl⟩ := Prod.mk.inj (Option.some.inj h)
        have hbyte : b.toNat < 128 := UInt8.lt_iff_toNat_lt.1 hb
        have hpow : 0 < 128 ^ limit := by positivity
        exact ⟨[], b, rfl, by simp, hb, Nat.zero_le _, mod_of_lt hb, by rw [pow_succ]; omega⟩
      · obtain ⟨⟨k, rest'⟩, hread, heq⟩ := Option.map_eq_some_iff.1 h
        obtain ⟨rfl, rfl⟩ := Prod.mk.inj heq
        obtain ⟨ds, c, rfl, hds, hc, hshort, rfl, hbound⟩ := ih hread
        have htop : 128 ≤ b := UInt8.not_lt.1 hb
        have hbyte := b.toNat_lt
        refine ⟨b :: ds, c, rfl, List.forall_mem_cons.2 ⟨htop, hds⟩, hc, Nat.succ_le_succ hshort, ?_, ?_⟩
        · rw [List.cons_append, bytesValue, mod_of_le htop]
        · rw [pow_succ]
          omega

/-- What is read as a number stands in front, and what follows it is left. -/
theorem readVarint?_eq_some_iff {n : Nat} {bs rest : List UInt8} :
    readVarint? bs = some (n, rest) ↔ ∃ ds, bs = ds ++ rest ∧ Numeral n ds := by
  constructor
  · intro h
    obtain ⟨ds, b, rfl, hds, hb, hshort, hvalue, hbound⟩ := exists_of_readDigits? h
    exact ⟨ds ++ [b], by simp, ⟨ds, b, rfl, hds, hb⟩, by simp; omega, hvalue, by omega⟩
  · rintro ⟨_, rfl, ⟨ds, b, rfl, hds, hb⟩, hshort, rfl, hbound⟩
    rw [List.length_append, List.length_singleton] at hshort
    rw [List.append_assoc]
    exact @readDigits?_append 9 ds b hds hb (by omega) (by omega) rest

theorem numeral_varint {n : Nat} (h : n < 2 ^ 64) : Numeral n (varint n) := by
  obtain ⟨ds, heq, hds⟩ := readVarint?_eq_some_iff.1 (readVarint?_varint h [])
  rw [List.append_nil, List.append_nil] at heq
  rwa [heq]

/-! ## Keys and payloads -/

/-- Bytes that stand for a field's number and layout. -/
def IsKey (number : Nat) (layout : Layout) (bs : List UInt8) : Prop :=
  isNumber number = true ∧ Numeral (8 * number + layout.code) bs

theorem isKey_key {number : Nat} (h : isNumber number = true) (layout : Layout) :
    IsKey number layout (key number layout) := by
  obtain ⟨hpos, hlt⟩ := isNumber_iff.1 h
  have hcode := layout.code_lt
  exact ⟨h, numeral_varint (by omega)⟩

theorem Layout.ofCode?_eq_some {k : Nat} {l : Layout} (h : ofCode? k = some l) : k = l.code := by
  unfold ofCode? at h
  split at h <;> cases h <;> rfl

variable {number : Nat} {layout : Layout} {bs rest : List UInt8}

theorem readKey?_eq_some_iff :
    readKey? bs = some ((number, layout), rest) ↔ ∃ ks, bs = ks ++ rest ∧ IsKey number layout ks := by
  have hcode := layout.code_lt
  constructor
  · intro h
    unfold readKey? at h
    split at h
    · cases h
    · rename_i n r hread
      split_ifs at h with hn
      obtain ⟨l, hl, heq⟩ := Option.map_eq_some_iff.1 h
      obtain ⟨⟨rfl, rfl⟩, rfl⟩ := heq
      obtain ⟨ks, rfl, hks⟩ := readVarint?_eq_some_iff.1 hread
      have hlayout := Layout.ofCode?_eq_some hl
      refine ⟨ks, rfl, isNumber_iff.2 (by omega), ?_⟩
      rwa [← hlayout, Nat.div_add_mod]
  · rintro ⟨ks, rfl, hnumber, hks⟩
    obtain ⟨hpos, hlt⟩ := isNumber_iff.1 hnumber
    rw [readKey?, readVarint?_eq_some_iff.2 ⟨ks, rfl, hks⟩]
    dsimp only
    rw [if_pos (by omega), show (8 * number + layout.code) % 8 = layout.code by omega, Layout.ofCode?_code,
      show (8 * number + layout.code) / 8 = number by omega]
    rfl

theorem splitBytes?_eq_some_iff {n : Nat} {xs : List UInt8} :
    splitBytes? n bs = some (xs, rest) ↔ bs = xs ++ rest ∧ xs.length = n := by
  constructor
  · intro h
    unfold splitBytes? at h
    split_ifs at h with hn
    rw [List.splitAt_eq, Option.some.injEq, Prod.mk.injEq] at h
    obtain ⟨rfl, rfl⟩ := h
    exact ⟨(List.take_append_drop n bs).symm, List.length_take_of_le hn⟩
  · rintro ⟨rfl, rfl⟩
    rw [splitBytes?, if_pos (by simp), List.splitAt_eq, List.take_left, List.drop_left]

theorem readSized?_eq_some_iff {xs : List UInt8} :
    readSized? bs = some (xs, rest) ↔ ∃ ls, bs = ls ++ (xs ++ rest) ∧ Numeral xs.length ls := by
  constructor
  · intro h
    obtain ⟨⟨n, r⟩, hread, hsplit⟩ := Option.bind_eq_some_iff.1 h
    obtain ⟨ls, rfl, hls⟩ := readVarint?_eq_some_iff.1 hread
    obtain ⟨rfl, rfl⟩ := splitBytes?_eq_some_iff.1 hsplit
    exact ⟨ls, rfl, hls⟩
  · rintro ⟨ls, rfl, hls⟩
    rw [readSized?, readVarint?_eq_some_iff.2 ⟨ls, rfl, hls⟩]
    exact splitBytes?_eq_some_iff.2 ⟨rfl, rfl⟩

/-! ## Items -/

/-- The bytes that an item can stand as. -/
inductive Item.HasBytes (alwaysSized : Nat → Bool) : Item → List UInt8 → Prop
  | varint {number n : Nat} {ks ns : List UInt8} (told : alwaysSized number = false)
      (key : IsKey number .varint ks) (numeral : Numeral n ns) :
      HasBytes alwaysSized (.field ⟨number, .varint n⟩) (ks ++ ns)
  | fixed64 {number : Nat} {ks xs : List UInt8} (told : alwaysSized number = false)
      (key : IsKey number .fixed64 ks) (size : xs.length = 8) :
      HasBytes alwaysSized (.field ⟨number, .passed⟩) (ks ++ xs)
  | fixed32 {number : Nat} {ks xs : List UInt8} (told : alwaysSized number = false)
      (key : IsKey number .fixed32 ks) (size : xs.length = 4) :
      HasBytes alwaysSized (.field ⟨number, .passed⟩) (ks ++ xs)
  | sized {number : Nat} {layout : Layout} {ks ls xs : List UInt8}
      (told : alwaysSized number = true ∨ layout = .sized) (key : IsKey number layout ks)
      (numeral : Numeral xs.length ls) :
      HasBytes alwaysSized (.field ⟨number, .bytes xs⟩) (ks ++ (ls ++ xs))
  | groupStart {number : Nat} {ks : List UInt8} (told : alwaysSized number = false)
      (key : IsKey number .startGroup ks) : HasBytes alwaysSized (.groupStart number) ks
  | groupEnd {number : Nat} {ks : List UInt8} (told : alwaysSized number = false)
      (key : IsKey number .endGroup ks) : HasBytes alwaysSized (.groupEnd number) ks

/-- Behind a key stands what its layout tells, or what is sized. -/
theorem readItem?_key {alwaysSized : Nat → Bool} {ks : List UInt8} (h : IsKey number layout ks) (bs : List UInt8) :
    readItem? alwaysSized (ks ++ bs) =
      readItemBody? number (if alwaysSized number then .sized else layout) bs := by
  rw [readItem?, readKey?_eq_some_iff.2 ⟨ks, rfl, h⟩, Option.bind_some]

theorem readItem?_eq_some_iff {alwaysSized : Nat → Bool} {item : Item} :
    readItem? alwaysSized bs = some (item, rest) ↔ ∃ xs, bs = xs ++ rest ∧ item.HasBytes alwaysSized xs := by
  constructor
  · intro h
    obtain ⟨⟨⟨number, layout⟩, r⟩, hkey, hbody⟩ := Option.bind_eq_some_iff.1 h
    obtain ⟨ks, rfl, hks⟩ := readKey?_eq_some_iff.1 hkey
    dsimp only at hbody
    cases hsized : alwaysSized number with
    | true =>
      rw [hsized, if_pos rfl] at hbody
      obtain ⟨⟨xs, r'⟩, hread, heq⟩ := Option.map_eq_some_iff.1 hbody
      obtain ⟨rfl, rfl⟩ := heq
      obtain ⟨ls, rfl, hls⟩ := readSized?_eq_some_iff.1 hread
      exact ⟨ks ++ (ls ++ xs), by simp, .sized (.inl hsized) hks hls⟩
    | false =>
      rw [hsized, if_neg Bool.false_ne_true] at hbody
      cases layout with
      | varint =>
        obtain ⟨⟨n, r'⟩, hread, heq⟩ := Option.map_eq_some_iff.1 hbody
        obtain ⟨rfl, rfl⟩ := heq
        obtain ⟨ns, rfl, hns⟩ := readVarint?_eq_some_iff.1 hread
        exact ⟨ks ++ ns, by simp, .varint hsized hks hns⟩
      | fixed64 =>
        obtain ⟨⟨xs, r'⟩, hread, heq⟩ := Option.map_eq_some_iff.1 hbody
        obtain ⟨rfl, rfl⟩ := heq
        obtain ⟨rfl, hlength⟩ := splitBytes?_eq_some_iff.1 hread
        exact ⟨ks ++ xs, by simp, .fixed64 hsized hks hlength⟩
      | fixed32 =>
        obtain ⟨⟨xs, r'⟩, hread, heq⟩ := Option.map_eq_some_iff.1 hbody
        obtain ⟨rfl, rfl⟩ := heq
        obtain ⟨rfl, hlength⟩ := splitBytes?_eq_some_iff.1 hread
        exact ⟨ks ++ xs, by simp, .fixed32 hsized hks hlength⟩
      | sized =>
        obtain ⟨⟨xs, r'⟩, hread, heq⟩ := Option.map_eq_some_iff.1 hbody
        obtain ⟨rfl, rfl⟩ := heq
        obtain ⟨ls, rfl, hls⟩ := readSized?_eq_some_iff.1 hread
        exact ⟨ks ++ (ls ++ xs), by simp, .sized (.inr rfl) hks hls⟩
      | startGroup =>
        obtain ⟨rfl, rfl⟩ := Prod.mk.inj (Option.some.inj hbody)
        exact ⟨ks, rfl, .groupStart hsized hks⟩
      | endGroup =>
        obtain ⟨rfl, rfl⟩ := Prod.mk.inj (Option.some.inj hbody)
        exact ⟨ks, rfl, .groupEnd hsized hks⟩
  · rintro ⟨xs, rfl, h⟩
    cases h with
    | varint told key numeral =>
      rw [List.append_assoc, readItem?_key key, told, if_neg Bool.false_ne_true, readItemBody?,
        readVarint?_eq_some_iff.2 ⟨_, rfl, numeral⟩]
      rfl
    | fixed64 told key size =>
      rw [List.append_assoc, readItem?_key key, told, if_neg Bool.false_ne_true, readItemBody?,
        splitBytes?_eq_some_iff.2 ⟨rfl, size⟩]
      rfl
    | fixed32 told key size =>
      rw [List.append_assoc, readItem?_key key, told, if_neg Bool.false_ne_true, readItemBody?,
        splitBytes?_eq_some_iff.2 ⟨rfl, size⟩]
      rfl
    | @sized number layout ks ls xs told key numeral =>
      have hlayout : (if alwaysSized number then Layout.sized else layout) = .sized := by
        rcases told with h | rfl
        · rw [h, if_pos rfl]
        · rw [ite_self]
      rw [List.append_assoc, List.append_assoc, readItem?_key key, hlayout, readItemBody?,
        readSized?_eq_some_iff.2 ⟨_, rfl, numeral⟩]
      rfl
    | groupStart told key => rw [readItem?_key key, told, if_neg Bool.false_ne_true, readItemBody?]
    | groupEnd told key => rw [readItem?_key key, told, if_neg Bool.false_ne_true, readItemBody?]

/-! ## Records -/

/-- No field is read as sized against its layout. -/
def asTold : Nat → Bool := fun _ => false

/-- The bytes of one field with a number: a payload, or a group of such records up to its end. Items stand at most
`depth` deep in it. -/
inductive Record : (Nat → Bool) → Nat → Nat → List UInt8 → Prop
  | plain {alwaysSized : Nat → Bool} {depth : Nat} {f : Field} {bs : List UInt8}
      (bytes : (Item.field f).HasBytes alwaysSized bs) : Record alwaysSized (depth + 1) f.number bs
  | group {alwaysSized : Nat → Bool} {depth number : Nat} {starts ends : List UInt8} {rs : List (Nat × List UInt8)}
      (start : (Item.groupStart number).HasBytes alwaysSized starts) (inner : ∀ r ∈ rs, Record asTold depth r.1 r.2)
      (finish : (Item.groupEnd number).HasBytes asTold ends) :
      Record alwaysSized (depth + 1) number (starts ++ (rs.flatMap Prod.snd ++ ends))

/-- Records one after another. -/
def IsRow (alwaysSized : Nat → Bool) (depth : Nat) (bs : List UInt8) : Prop :=
  ∃ rs : List (Nat × List UInt8), (∀ r ∈ rs, Record alwaysSized depth r.1 r.2) ∧ bs = rs.flatMap Prod.snd

variable {alwaysSized : Nat → Bool} {depth g : Nat} {groups outer : List Nat} {f : Field}

/-- What is written for a field is a record. -/
theorem Field.Fits.record (h : f.Fits alwaysSized) (hsize : f.bytes.length < 2 ^ 64) :
    Record alwaysSized (depth + 1) f.number f.bytes := by
  have hread := readItem?_bytes h hsize []
  rw [List.append_nil] at hread
  obtain ⟨xs, heq, hxs⟩ := readItem?_eq_some_iff.1 hread
  rw [List.append_nil] at heq
  subst heq
  exact .plain hxs

theorem Record.isRow (h : Record alwaysSized depth number bs) : IsRow alwaysSized depth bs :=
  ⟨[(number, bs)], by simpa using h, by simp⟩

/-! ### One item -/

/-- What is read first decides how the reading goes on. -/
theorem readFields?_of_item {item : Item}
    (h : readItem? (fun n => groups.isEmpty && alwaysSized n) bs = some (item, rest)) :
    readFields? alwaysSized depth groups bs =
      match item, groups with
      | .field f, [] => (readFields? alwaysSized depth [] rest).map (f :: ·)
      | .field _, g :: outer =>
        if outer.length + 1 < depth then readFields? alwaysSized depth (g :: outer) rest else none
      | .groupStart n, groups =>
        if groups.length < depth then readFields? alwaysSized depth (n :: groups) rest else none
      | .groupEnd _, [] => none
      | .groupEnd n, g :: outer =>
        if g ≠ n then none
        else if outer.isEmpty then (readFields? alwaysSized depth [] rest).map (⟨n, .passed⟩ :: ·)
        else readFields? alwaysSized depth outer rest := by
  have hshorter : rest.length < bs.length := readItem?_shortens h
  have hbs : bs.isEmpty = false := by
    cases bs with
    | nil => simp at hshorter
    | cons => rfl
  rw [readFields?, if_neg (by simp [hbs])]
  split
  · rename_i hnone
    cases h.symm.trans hnone
  · rename_i hsome
    cases h.symm.trans hsome
    cases item <;> cases groups <;> rfl

/-- Inside a group a field is passed over. -/
theorem readFields?_of_inner_field (h : readItem? asTold bs = some (.field f, rest)) :
    readFields? alwaysSized depth (g :: outer) bs =
      if outer.length + 1 < depth then readFields? alwaysSized depth (g :: outer) rest else none :=
  @readFields?_of_item bs rest alwaysSized depth (g :: outer) _ h

theorem readFields?_of_groupStart (h : readItem? (fun n => groups.isEmpty && alwaysSized n) bs =
      some (.groupStart number, rest)) :
    readFields? alwaysSized depth groups bs =
      if groups.length < depth then readFields? alwaysSized depth (number :: groups) rest else none :=
  (readFields?_of_item h).trans (by cases groups <;> rfl)

theorem readFields?_of_groupEnd (h : readItem? asTold bs = some (.groupEnd number, rest)) :
    readFields? alwaysSized depth (g :: outer) bs =
      if g ≠ number then none
      else if outer.isEmpty then (readFields? alwaysSized depth [] rest).map (⟨number, .passed⟩ :: ·)
      else readFields? alwaysSized depth outer rest :=
  @readFields?_of_item bs rest alwaysSized depth (g :: outer) _ h

/-! ### Records are read as one field each -/

theorem readFields?_flatMap {rs : List (Nat × List UInt8)}
    (h : ∀ r ∈ rs, ∀ q, readFields? alwaysSized depth groups (r.2 ++ q) = readFields? alwaysSized depth groups q)
    (rest : List UInt8) :
    readFields? alwaysSized depth groups (rs.flatMap Prod.snd ++ rest) =
      readFields? alwaysSized depth groups rest := by
  induction rs with
  | nil => rfl
  | cons r rs ih =>
    obtain ⟨hr, hrs⟩ := List.forall_mem_cons.1 h
    rw [List.flatMap_cons, List.append_assoc, hr, ih hrs]

/-- Inside a group a record is passed over. -/
theorem Record.skipped {limit : Nat} (h : Record asTold depth number bs) (hdepth : (g :: outer).length + depth ≤ limit)
    (rest : List UInt8) :
    readFields? alwaysSized limit (g :: outer) (bs ++ rest) = readFields? alwaysSized limit (g :: outer) rest := by
  generalize hsized : asTold = sized at h
  induction h generalizing g outer rest with
  | @plain _ d f bs bytes =>
    subst hsized
    rw [List.length_cons] at hdepth
    rw [readFields?_of_inner_field (readItem?_eq_some_iff.2 ⟨bs, rfl, bytes⟩), if_pos (by omega)]
  | @group _ d number starts ends rs start inner finish ih =>
    subst hsized
    rw [List.length_cons] at hdepth
    have hstart : readItem? (fun n => (g :: outer).isEmpty && alwaysSized n)
        (starts ++ (rs.flatMap Prod.snd ++ (ends ++ rest))) =
        some (.groupStart number, rs.flatMap Prod.snd ++ (ends ++ rest)) :=
      readItem?_eq_some_iff.2 ⟨starts, rfl, start⟩
    have hlevel : (number :: g :: outer).length + d ≤ limit := by
      rw [List.length_cons, List.length_cons]
      omega
    have hinner : ∀ q, readFields? alwaysSized limit (number :: g :: outer) (rs.flatMap Prod.snd ++ q) =
        readFields? alwaysSized limit (number :: g :: outer) q :=
      readFields?_flatMap fun r hr q => ih r hr hlevel q rfl
    rw [List.append_assoc, List.append_assoc, readFields?_of_groupStart hstart, if_pos (by simp; omega), hinner,
      readFields?_of_groupEnd (readItem?_eq_some_iff.2 ⟨ends, rfl, finish⟩), if_neg (by simp)]
    rfl

/-- A record is read as one field. -/
theorem Record.exists_field {limit : Nat} (h : Record alwaysSized depth number bs) (hdepth : depth ≤ limit) :
    ∃ f : Field, f.number = number ∧ ∀ rest, readFields? alwaysSized limit [] (bs ++ rest) =
      (readFields? alwaysSized limit [] rest).map (f :: ·) := by
  cases h with
  | @plain _ d f bs bytes =>
    exact ⟨f, rfl, fun rest => readFields?_of_field (readItem?_eq_some_iff.2 ⟨bs, rfl, bytes⟩) limit⟩
  | @group _ d number starts ends rs start inner finish =>
    refine ⟨⟨number, .passed⟩, rfl, fun rest => ?_⟩
    have hstart : readItem? (fun n => ([] : List Nat).isEmpty && alwaysSized n)
        (starts ++ (rs.flatMap Prod.snd ++ (ends ++ rest))) =
        some (.groupStart number, rs.flatMap Prod.snd ++ (ends ++ rest)) :=
      readItem?_eq_some_iff.2 ⟨starts, rfl, start⟩
    have hlevel : [number].length + d ≤ limit := by
      rw [List.length_singleton]
      omega
    have hinner : ∀ q, readFields? alwaysSized limit [number] (rs.flatMap Prod.snd ++ q) =
        readFields? alwaysSized limit [number] q :=
      readFields?_flatMap fun r hr => (inner r hr).skipped hlevel
    rw [List.append_assoc, List.append_assoc, readFields?_of_groupStart hstart, if_pos (by simp; omega), hinner,
      readFields?_of_groupEnd (readItem?_eq_some_iff.2 ⟨ends, rfl, finish⟩), if_neg (by simp)]
    rfl

/-- A row of records is read as a row of fields. -/
theorem IsRow.exists_fields {limit : Nat} (h : IsRow alwaysSized depth bs) (hdepth : depth ≤ limit) :
    ∃ fs, ∀ rest, readFields? alwaysSized limit [] (bs ++ rest) =
      (readFields? alwaysSized limit [] rest).map (fs ++ ·) := by
  obtain ⟨rs, hrs, rfl⟩ := h
  induction rs with
  | nil => exact ⟨[], fun rest => Option.map_id'.symm⟩
  | cons r rs ih =>
    obtain ⟨hr, hrs⟩ := List.forall_mem_cons.1 hrs
    obtain ⟨f, -, hf⟩ := hr.exists_field hdepth
    obtain ⟨fs, hfs⟩ := ih hrs
    refine ⟨f :: fs, fun rest => ?_⟩
    rw [List.flatMap_cons, List.append_assoc, hf, hfs, Option.map_map]
    rfl

/-! ### What is read is a row of records -/

/-- What can follow while groups are open: each of them, the innermost first, goes on with records up to its end. -/
def Closes (alwaysSized : Nat → Bool) (depth : Nat) : List Nat → List UInt8 → Prop
  | [], bs => IsRow alwaysSized depth bs
  | g :: outer, bs => ∃ (rs : List (Nat × List UInt8)) (ends rest : List UInt8),
    (∀ r ∈ rs, Record asTold (depth - (outer.length + 1)) r.1 r.2) ∧ (Item.groupEnd g).HasBytes asTold ends ∧
      Closes alwaysSized depth outer rest ∧ bs = rs.flatMap Prod.snd ++ (ends ++ rest)

/-- One more record may stand in front. -/
theorem Closes.cons {r : List UInt8}
    (hr : Record (fun n => groups.isEmpty && alwaysSized n) (depth - groups.length) number r)
    (h : Closes alwaysSized depth groups bs) : Closes alwaysSized depth groups (r ++ bs) := by
  cases groups with
  | nil =>
    obtain ⟨rs, hrs, rfl⟩ := h
    exact ⟨(number, r) :: rs, List.forall_mem_cons.2 ⟨hr, hrs⟩, rfl⟩
  | cons g outer =>
    obtain ⟨rs, ends, rest, hrs, hends, hrest, rfl⟩ := h
    exact ⟨(number, r) :: rs, ends, rest, List.forall_mem_cons.2 ⟨hr, hrs⟩, hends, hrest, by simp⟩

theorem closes_of_readFields? {fs : List Field} (hdepth : 0 < depth)
    (h : readFields? alwaysSized depth groups bs = some fs) : Closes alwaysSized depth groups bs := by
  fun_induction readFields? alwaysSized depth groups bs generalizing fs with
  | case1 groups bs hbs hgroups =>
    rw [List.isEmpty_iff] at hbs hgroups
    subst hbs hgroups
    exact ⟨[], by simp, rfl⟩
  | case4 bs _ rest f hread _ _ ih =>
    obtain ⟨xs, rfl, hxs⟩ := readItem?_eq_some_iff.1 hread
    obtain ⟨fs', hfs', -⟩ := Option.map_eq_some_iff.1 h
    have hrecord : Record (fun n => ([] : List Nat).isEmpty && alwaysSized n) (depth - 1 + 1) f.number xs := .plain hxs
    rw [Nat.sub_add_cancel hdepth] at hrecord
    exact Closes.cons hrecord (ih hfs')
  | case5 bs _ rest f g outer hread hlevel _ _ ih =>
    obtain ⟨xs, rfl, hxs⟩ := readItem?_eq_some_iff.1 hread
    have hrecord : Record (fun n => (g :: outer).isEmpty && alwaysSized n) (depth - (outer.length + 1) - 1 + 1)
        f.number xs := .plain hxs
    rw [Nat.sub_add_cancel (by omega)] at hrecord
    exact Closes.cons hrecord (ih h)
  | case7 bs _ rest number groups hread hlevel _ _ ih =>
    obtain ⟨xs, rfl, hxs⟩ := readItem?_eq_some_iff.1 hread
    obtain ⟨rs, ends, rest, hrs, hends, hrest, rfl⟩ := ih h
    -- the group is one record that stands in front of the rest
    have hrecord := Record.group hxs hrs hends
    rw [show depth - (groups.length + 1) + 1 = depth - groups.length by omega] at hrecord
    simpa using Closes.cons hrecord hrest
  | case11 bs _ rest number g outer hread hg houter _ _ ih =>
    obtain ⟨xs, rfl, hxs⟩ := readItem?_eq_some_iff.1 hread
    obtain ⟨fs', hfs', -⟩ := Option.map_eq_some_iff.1 h
    obtain rfl := not_ne_iff.1 hg
    obtain rfl := List.isEmpty_iff.1 houter
    exact ⟨[], xs, rest, by simp, hxs, ih hfs', rfl⟩
  | case12 bs _ rest number g outer hread hg _ _ _ ih =>
    obtain ⟨xs, rfl, hxs⟩ := readItem?_eq_some_iff.1 hread
    obtain rfl := not_ne_iff.1 hg
    exact ⟨[], xs, rest, by simp, hxs, ih h, rfl⟩
  | case2 | case3 | case6 | case8 | case9 | case10 => cases h

/-- **Bytes are read as fields if and only if they are a row of records.** -/
theorem readFields?_isSome_iff (hdepth : 0 < depth) :
    (readFields? alwaysSized depth [] bs).isSome = true ↔ IsRow alwaysSized depth bs := by
  constructor
  · intro h
    obtain ⟨fs, hfs⟩ := Option.isSome_iff_exists.1 h
    exact closes_of_readFields? hdepth hfs
  · intro h
    obtain ⟨fs, hfs⟩ := h.exists_fields (Nat.le_refl depth)
    have hread := hfs []
    rw [List.append_nil, readFields?_nil] at hread
    rw [hread]
    rfl

end Custodian.Wire
