import Custodian.Digest
import Mathlib.Tactic

/-!
# The running digest of bytes in pieces

`foldl_eq_foldl_toList` : a fold over bytes is one over the list of them. `Digest.update_append` : taking in two rows of
bytes one after the other is taking in both at once, so that a running digest depends only on the bytes put together;
`Digest.text_ne_empty` : a digest is never an empty text.
-/

namespace Custodian

set_option autoImplicit false

/-! ## Folds over bytes -/

theorem foldl_loop_drop {β : Type} (f : β → UInt8 → β) (b : ByteArray) (i j : Nat) (x : β) (h : b.size - j = i) :
    Id.run (ByteArray.foldlM.loop (m := Id) (fun y c => pure (f y c)) b b.size (Nat.le_refl _) i j x) =
      (b.data.toList.drop j).foldl f x := by
  induction i generalizing j x with
  | zero =>
    have hj : b.data.toList.length ≤ j := by simp; omega
    rw [ByteArray.foldlM.loop, List.drop_eq_nil_of_le hj]
    simp only [List.foldl_nil]
    split <;> rfl
  | succ i ih =>
    have hj : j < b.size := by omega
    have hd : b.data.toList.drop j = b[j] :: b.data.toList.drop (j + 1) := List.drop_eq_getElem_cons (by simpa using hj)
    rw [ByteArray.foldlM.loop, dif_pos hj, hd, List.foldl_cons]
    simp only [pure_bind]
    exact ih (j + 1) _ (by omega)

theorem foldl_eq_foldl_toList {β : Type} (f : β → UInt8 → β) (b : ByteArray) (x : β) :
    b.foldl f x = b.data.toList.foldl f x := by
  rw [ByteArray.foldl, ByteArray.foldlM, dif_pos (Nat.le_refl _)]
  exact foldl_loop_drop f b _ 0 x rfl

namespace Digest

/-! ## Updates -/

@[simp] theorem update_empty (g : Digest) : g.update .empty = g := by
  rw [update, foldl_eq_foldl_toList]
  rfl

theorem update_append (g : Digest) (a b : ByteArray) : g.update (a ++ b) = (g.update a).update b := by
  simp only [update, foldl_eq_foldl_toList]
  rw [ByteArray.data_append, Array.toList_append, List.foldl_append]

/-- The bytes taken in by many updates are those of all pieces together. -/
theorem foldl_update (chunks : List ByteArray) (g : Digest) (b : ByteArray) :
    chunks.foldl update (g.update b) = g.update (chunks.foldl (· ++ ·) b) := by
  induction chunks generalizing b with
  | nil => rfl
  | cons c chunks ih => rw [List.foldl_cons, List.foldl_cons, ← update_append, ih]

/-- The text of a digest that takes in all pieces, one after the other. -/
theorem text_foldl_update (chunks : List ByteArray) :
    (chunks.foldl update .empty).text = Digest.of (chunks.foldl (· ++ ·) .empty) := by
  have h := foldl_update chunks .empty .empty
  rw [update_empty] at h
  rw [h, Digest.of]

/-! ## The text of a digest -/

theorem length_text (g : Digest) : g.text.length = 32 := by
  simp [text, ChainState.text, List.length_flatMap, upperHexByte]

theorem text_ne_empty (g : Digest) : g.text ≠ "" := by
  intro h
  have hl := g.length_text
  rw [h] at hl
  simp at hl

end Digest

end Custodian
