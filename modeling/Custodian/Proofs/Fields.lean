import Custodian.Wire.Field
import Mathlib.Tactic

/-!
# Fields are read as they were written

* `length_varint`, `length_key`, `length_sized` : the sizes told without writing are those of what is written;
* `readVarint?_varint`, `readKey?_key`, `readSized?_sized` : what stands at the front of some bytes is read back, and
  the bytes that follow are left;
* `Field.Fits` : a field that can be read; `readFields?_fieldBytes` : a row of such fields in front of any bytes is read
  back.
-/

namespace Custodian.Wire

set_option autoImplicit false

/-! ## Numbers -/

theorem log2_div_pow (n k : Nat) : (n / 2 ^ k).log2 = n.log2 - k := by
  rw [Nat.log2_eq_log_two, Nat.log2_eq_log_two, Nat.log_div_base_pow]

theorem log2_lt_of_lt {n k : Nat} (hk : 0 < k) (h : n < 2 ^ k) : n.log2 < k := by
  obtain rfl | hn := Nat.eq_zero_or_pos n
  · simpa using hk
  · exact (Nat.log2_lt (Nat.ne_of_gt hn)).2 h

theorem length_varint_eq_log2 (n : Nat) : (varint n).length = n.log2 / 7 + 1 := by
  induction n using Nat.strongRecOn with
  | ind n ih =>
    rw [varint]
    split_ifs with h
    · have hlog := log2_lt_of_lt (k := 7) (by decide) h
      rw [List.length_singleton]
      omega
    · have hlog : 7 ≤ n.log2 := (Nat.le_log2 (by omega)).2 (Nat.le_of_not_lt h)
      have hrest : (n / 128).log2 = n.log2 - 7 := log2_div_pow n 7
      rw [List.length_cons, ih (n / 128) (by omega)]
      omega

/-- The size of a number of up to 64 bits. -/
theorem length_varint {n : Nat} (h : n < 2 ^ 64) : (varint n).length = varintSize n := by
  have hlog := log2_lt_of_lt (by decide) h
  rw [length_varint_eq_log2, varintSize]
  omega

theorem toNat_toUInt8 {n : Nat} (h : n < 256) : n.toUInt8.toNat = n := by
  simp [Nat.mod_eq_of_lt h]

/-- Each byte but the last gives seven bits, the last one of those allowed one bit. -/
theorem readDigits?_varint {limit n : Nat} (h : n < 2 * 128 ^ limit) (rest : List UInt8) :
    readDigits? (limit + 1) (varint n ++ rest) = some (n, rest) := by
  induction limit generalizing n with
  | zero =>
    have hbyte := toNat_toUInt8 (n := n) (by omega)
    rw [varint, if_pos (by omega), List.singleton_append, readDigits?]
    simp only [UInt8.lt_iff_toNat_lt, UInt8.le_iff_toNat_le, hbyte]
    rw [if_pos (by simp; omega), if_neg (by simp; omega)]
  | succ limit ih =>
    rw [varint]
    split_ifs with hn
    · have hbyte := toNat_toUInt8 (n := n) (by omega)
      rw [List.singleton_append, readDigits?]
      simp only [UInt8.lt_iff_toNat_lt, hbyte]
      rw [if_pos (by simpa using hn), if_neg (by omega)]
    · have hbyte := toNat_toUInt8 (n := 128 + n % 128) (by omega)
      have hrest : n / 128 < 2 * 128 ^ limit := by
        rw [pow_succ] at h
        omega
      rw [List.cons_append, readDigits?, ih hrest]
      simp only [UInt8.lt_iff_toNat_lt, hbyte, Option.map_some]
      rw [if_neg (by simp)]
      congr 2
      omega

theorem readVarint?_varint {n : Nat} (h : n < 2 ^ 64) (rest : List UInt8) :
    readVarint? (varint n ++ rest) = some (n, rest) :=
  @readDigits?_varint 9 n (by omega) rest

/-! ## Keys and payloads -/

theorem isNumber_iff {n : Nat} : isNumber n = true ↔ 1 ≤ n ∧ n < 2 ^ 29 := by
  simp [isNumber]

theorem Layout.code_lt (l : Layout) : l.code < 8 := by cases l <;> decide

/-- The layout does not count for the size of a key. -/
theorem length_key {n : Nat} (hn : isNumber n = true) (l : Layout) : (key n l).length = keySize n := by
  obtain ⟨hpos, hlt⟩ := isNumber_iff.1 hn
  have hcode := l.code_lt
  have hlog : (8 * n + l.code).log2 = (8 * n).log2 := by
    have h₁ := log2_div_pow (8 * n + l.code) 3
    have h₂ := log2_div_pow (8 * n) 3
    have h₃ : 3 ≤ (8 * n).log2 := (Nat.le_log2 (by omega)).2 (by omega)
    have h₄ : 3 ≤ (8 * n + l.code).log2 := (Nat.le_log2 (by omega)).2 (by omega)
    rw [show (8 * n + l.code) / 2 ^ 3 = n by omega] at h₁
    rw [show 8 * n / 2 ^ 3 = n by omega] at h₂
    omega
  rw [key, length_varint (by omega), keySize, varintSize, varintSize, hlog]

theorem readKey?_key {n : Nat} (hn : isNumber n = true) (l : Layout) (rest : List UInt8) :
    readKey? (key n l ++ rest) = some ((n, l), rest) := by
  obtain ⟨hpos, hlt⟩ := isNumber_iff.1 hn
  have hcode := l.code_lt
  rw [readKey?, key, readVarint?_varint (by omega)]
  dsimp only
  rw [if_pos (by omega), show (8 * n + l.code) % 8 = l.code by omega, Layout.ofCode?_code,
    show (8 * n + l.code) / 8 = n by omega]
  rfl

theorem length_sized {bs : List UInt8} (h : bs.length < 2 ^ 64) : (sized bs).length = sizedSize bs.length := by
  rw [sized, List.length_append, length_varint h, sizedSize]

theorem readSized?_sized {bs : List UInt8} (h : bs.length < 2 ^ 64) (rest : List UInt8) :
    readSized? (sized bs ++ rest) = some (bs, rest) := by
  rw [readSized?, sized, List.append_assoc, readVarint?_varint h, Option.bind_some, splitBytes?, if_pos (by simp),
    List.splitAt_eq, List.take_left, List.drop_left]

/-! ## Rows of fields -/

/-- A field that can be written and read, if there is room for its size. -/
structure Field.Fits (alwaysSized : Nat → Bool) (f : Field) : Prop where
  number : isNumber f.number = true
  payload : match f.payload with
    | .varint n => n < 2 ^ 64 ∧ alwaysSized f.number = false
    | .bytes _ => True
    | .passed => False

variable {alwaysSized : Nat → Bool} {f : Field} {fs : List Field}

theorem length_bytes_varint {number n : Nat} (hnumber : isNumber number = true) (hn : n < 2 ^ 64) :
    (⟨number, .varint n⟩ : Field).bytes.length = keySize number + varintSize n := by
  rw [Field.bytes, List.length_append, length_key hnumber, length_varint hn]

theorem length_bytes_sized {number : Nat} {bs : List UInt8} (hnumber : isNumber number = true)
    (hbs : bs.length < 2 ^ 64) :
    (⟨number, .bytes bs⟩ : Field).bytes.length = keySize number + sizedSize bs.length := by
  rw [Field.bytes, List.length_append, length_key hnumber, length_sized hbs]

/-- A payload is no longer than its field. -/
theorem length_le_bytes (number : Nat) (bs : List UInt8) : bs.length ≤ (⟨number, .bytes bs⟩ : Field).bytes.length := by
  rw [Field.bytes, List.length_append, sized, List.length_append]
  omega

theorem readItem?_bytes (h : f.Fits alwaysSized) (hsize : f.bytes.length < 2 ^ 64) (rest : List UInt8) :
    readItem? alwaysSized (f.bytes ++ rest) = some (.field f, rest) := by
  obtain ⟨number, payload⟩ := f
  obtain ⟨hnumber, hpayload⟩ := h
  cases payload with
  | varint n =>
    obtain ⟨hn, hsized⟩ := hpayload
    rw [readItem?, Field.bytes, List.append_assoc, readKey?_key hnumber, Option.bind_some]
    dsimp only at hsized ⊢
    rw [hsized, if_neg Bool.false_ne_true, readItemBody?, readVarint?_varint hn]
    rfl
  | bytes bs =>
    have hbs : bs.length < 2 ^ 64 := Nat.lt_of_le_of_lt (length_le_bytes number bs) hsize
    rw [readItem?, Field.bytes, List.append_assoc, readKey?_key hnumber, Option.bind_some]
    dsimp only
    rw [ite_self, readItemBody?, readSized?_sized hbs]
    rfl
  | passed => exact absurd hpayload not_false

/-- A field at the front is read first. -/
theorem readFields?_of_field {bs rest : List UInt8} (h : readItem? alwaysSized bs = some (.field f, rest))
    (depth : Nat) : readFields? alwaysSized depth [] bs = (readFields? alwaysSized depth [] rest).map (f :: ·) := by
  have hshorter : rest.length < bs.length := readItem?_shortens h
  have hbs : bs.isEmpty = false := by
    cases bs with
    | nil => simp at hshorter
    | cons => rfl
  rw [readFields?, if_neg (by simp [hbs])]
  split
  · rename_i hnone
    cases h.symm.trans hnone
  · rename_i hsome
    cases h.symm.trans hsome
    rfl

theorem fieldBytes_nil : fieldBytes [] = [] := rfl

theorem fieldBytes_cons (f : Field) (fs : List Field) : fieldBytes (f :: fs) = f.bytes ++ fieldBytes fs :=
  List.flatMap_cons

theorem fieldBytes_append (fs gs : List Field) : fieldBytes (fs ++ gs) = fieldBytes fs ++ fieldBytes gs :=
  List.flatMap_append

/-- Fields in front of some bytes are read one after another. -/
theorem readFields?_fieldBytes (h : ∀ f ∈ fs, f.Fits alwaysSized) (hsize : (fieldBytes fs).length < 2 ^ 64)
    (depth : Nat) (rest : List UInt8) :
    readFields? alwaysSized depth [] (fieldBytes fs ++ rest) =
      (readFields? alwaysSized depth [] rest).map (fs ++ ·) := by
  induction fs with
  | nil => exact Option.map_id'.symm
  | cons f fs ih =>
    obtain ⟨hf, hfs⟩ := List.forall_mem_cons.1 h
    rw [fieldBytes_cons, List.length_append] at hsize
    have hitem := readItem?_bytes hf (by omega) (fieldBytes fs ++ rest)
    rw [fieldBytes_cons, List.append_assoc, readFields?_of_field hitem, ih hfs (by omega), Option.map_map]
    rfl

theorem readFields?_nil (alwaysSized : Nat → Bool) (depth : Nat) :
    readFields? alwaysSized depth [] [] = some [] := by
  rw [readFields?]
  rfl

/-- A row of fields is read back. -/
theorem readFields?_fieldBytes_self (h : ∀ f ∈ fs, f.Fits alwaysSized) (hsize : (fieldBytes fs).length < 2 ^ 64)
    (depth : Nat) : readFields? alwaysSized depth [] (fieldBytes fs) = some fs := by
  have hread := readFields?_fieldBytes h hsize depth []
  rwa [List.append_nil, readFields?_nil, Option.map_some, List.append_nil] at hread

end Custodian.Wire
