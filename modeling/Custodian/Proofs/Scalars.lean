import Custodian.Proofs.Fields
import Custodian.Wire.Schema

/-!
# Scalars are read as they were written

* `toByteArray_toList`, `fromUTF8?_toUTF8`, `toInt32_toUInt64` : bytes, texts and codes survive the form in which they
  are written;
* `Scalar.read?_payload` : a scalar is read from its payload; `Scalar.fits`, `Scalar.length_fields` : its field can be
  read, and has the size told without writing it.
-/

namespace Custodian.Wire

set_option autoImplicit false

/-! ## Bytes, texts and codes -/

theorem toList_loop (b : ByteArray) (i : Nat) (acc : List UInt8) :
    ByteArray.toList.loop b i acc = acc.reverse ++ b.data.toList.drop i := by
  induction i, acc using ByteArray.toList.loop.induct b with
  | case1 i acc h ih =>
    have hi : i < b.data.toList.length := by simpa using h
    have hget : b.get! i = b.data.toList[i] := by
      rw [Array.getElem_toList]
      exact getElem!_pos b.data i _
    rw [ByteArray.toList.loop, if_pos h, ih, List.drop_eq_getElem_cons hi, hget]
    simp
  | case2 i acc h =>
    rw [ByteArray.toList.loop, if_neg h, List.drop_eq_nil_of_le (by simpa using h), List.append_nil]

theorem toList_eq (b : ByteArray) : b.toList = b.data.toList := toList_loop b 0 []

theorem length_toList (b : ByteArray) : b.toList.length = b.size := by
  rw [toList_eq, Array.length_toList]
  rfl

theorem toByteArray_toList (b : ByteArray) : b.toList.toByteArray = b := by
  rw [toList_eq]
  exact ByteArray.ext (Array.toList_inj.1 (by simp))

theorem fromUTF8?_toUTF8 (s : String) : String.fromUTF8? s.toUTF8 = some s := by
  have h : s.toUTF8.IsValidUTF8 := s.isValidUTF8
  rw [String.fromUTF8?, dif_pos h]
  rfl

/-- The 32 bits of a code are the lowest of those that it is written in. -/
theorem toInt32_toUInt64 (c : Int32) : c.toInt64.toUInt64.toNat.toUInt32.toInt32 = c := by
  have hbits : BitVec.setWidth 32 c.toInt64.toBitVec = c.toBitVec := by
    rw [Int32.toBitVec_toInt64]
    ext i hi
    simp [BitVec.getLsbD_signExtend, hi]
    omega
  have hcode : c.toInt64.toUInt64.toNat.toUInt32 = c.toInt64.toUInt64.toUInt32 := by simp
  rw [hcode]
  exact Int32.toBitVec_inj.1 hbits

namespace Scalar

variable {β : Type}

theorem isBlank_iff (kind : Scalar β) (x : β) : kind.isBlank x = true ↔ x = kind.blank := by
  cases kind <;> simp [isBlank, blank]

theorem read?_payload (kind : Scalar β) (x : β) : kind.read? (kind.payload x) = some x := by
  cases kind with
  | text => exact (congrArg String.fromUTF8? (toByteArray_toList _)).trans (fromUTF8?_toUTF8 x)
  | raw => exact congrArg some (toByteArray_toList x)
  | code => exact congrArg some (toInt32_toUInt64 x)
  | flag => cases x <;> rfl

/-- What a scalar is written as can be read under a number that does not stand for a dictionary. -/
theorem fits (kind : Scalar β) {n : Nat} {alwaysSized : Nat → Bool} (hn : isNumber n = true)
    (ha : alwaysSized n = false) (x : β) : (⟨n, kind.payload x⟩ : Field).Fits alwaysSized := by
  refine ⟨hn, ?_⟩
  cases kind with
  | text | raw => exact trivial
  | code => exact ⟨UInt64.toNat_lt _, ha⟩
  | flag => exact ⟨by cases x <;> decide, ha⟩

/-- The size told without writing is that of what is written. -/
theorem length_fields (kind : Scalar β) {n : Nat} (hn : isNumber n = true) (x : β)
    (hsize : (fieldBytes (kind.fields n x)).length < 2 ^ 64) :
    (fieldBytes (kind.fields n x)).length = kind.size n x := by
  unfold fields size at *
  split_ifs at * with h
  · rfl
  · rw [fieldBytes_cons, fieldBytes_nil, List.append_nil] at hsize ⊢
    cases kind with
    | text =>
      have hbs := Nat.lt_of_le_of_lt (length_le_bytes _ _) hsize
      exact (length_bytes_sized hn hbs).trans (by rw [length_toList]; rfl)
    | raw =>
      have hbs := Nat.lt_of_le_of_lt (length_le_bytes _ _) hsize
      exact (length_bytes_sized hn hbs).trans (by rw [length_toList]; rfl)
    | code => exact length_bytes_varint hn (UInt64.toNat_lt _)
    | flag =>
      have hx : x = true := by simpa [isBlank] using h
      subst hx
      exact length_bytes_varint hn (by decide)

end Scalar

end Custodian.Wire
