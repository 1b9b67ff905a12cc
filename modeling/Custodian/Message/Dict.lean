/-!
# Dictionaries of text

`Dict` : keys with one value each, listed in the order of the keys. `get?_insert` says what an insertion does to every
look-up.
-/

namespace Custodian

set_option autoImplicit false

/-- Entries in strictly rising order of their keys. -/
def Dict.Sorted (l : List (String × String)) : Prop := l.Pairwise fun x y => x.1 < y.1

instance (l : List (String × String)) : Decidable (Dict.Sorted l) :=
  inferInstanceAs (Decidable (l.Pairwise fun x y => x.1 < y.1))

/-- A dictionary from text to text. -/
structure Dict where
  entries : List (String × String)
  sorted : Dict.Sorted entries := by decide
deriving DecidableEq

namespace Dict

/-- The dictionary without entries. -/
def empty : Dict := ⟨[], List.Pairwise.nil⟩

instance : Inhabited Dict := ⟨empty⟩

/-- Puts an entry at its place; one with the same key gives way. -/
def insertEntry (k v : String) : List (String × String) → List (String × String)
  | [] => [(k, v)]
  | (k', v') :: l =>
    if k < k' then (k, v) :: (k', v') :: l
    else if k' < k then (k', v') :: insertEntry k v l
    else (k, v) :: l

theorem mem_insertEntry {k v : String} {e : String × String} :
    ∀ {l : List (String × String)}, e ∈ insertEntry k v l → e = (k, v) ∨ e ∈ l
  | [], h => by simpa [insertEntry] using h
  | (k', v') :: l, h => by
    unfold insertEntry at h
    split at h
    · simpa using h
    · split at h
      · rcases List.mem_cons.1 h with h | h
        · exact .inr (by simp [h])
        · exact (mem_insertEntry h).imp id (by simp +contextual)
      · rcases List.mem_cons.1 h with h | h
        · exact .inl h
        · exact .inr (by simp [h])

theorem sorted_insertEntry (k v : String) :
    ∀ {l : List (String × String)}, Sorted l → Sorted (insertEntry k v l)
  | [], _ => by simp [insertEntry, Sorted]
  | (k', v') :: l, h => by
    obtain ⟨hk, hl⟩ := List.pairwise_cons.1 h
    unfold insertEntry
    split
    · rename_i hlt
      refine List.pairwise_cons.2 ⟨fun e he => ?_, h⟩
      rcases List.mem_cons.1 he with rfl | he
      · exact hlt
      · exact String.lt_trans hlt (hk e he)
    · split
      · rename_i hlt
        refine List.pairwise_cons.2 ⟨fun e he => ?_, sorted_insertEntry k v hl⟩
        rcases mem_insertEntry he with rfl | he
        · exact hlt
        · exact hk e he
      · rename_i h₁ h₂
        have hkk : k = k' := String.le_antisymm (String.not_lt.1 h₂) (String.not_lt.1 h₁)
        subst hkk
        exact List.pairwise_cons.2 ⟨hk, hl⟩

/-- The dictionary with `v` at `k`. -/
def insert (d : Dict) (k v : String) : Dict := ⟨insertEntry k v d.entries, sorted_insertEntry k v d.sorted⟩

/-- The dictionary that holds the last value of each key of a list. -/
def ofList (l : List (String × String)) : Dict := l.foldl (fun d e => d.insert e.1 e.2) empty

/-- The value at a key. -/
def get? (d : Dict) (k : String) : Option String := d.entries.lookup k

theorem lookup_cons_ite (k v k' : String) (l : List (String × String)) :
    ((k, v) :: l).lookup k' = if k' = k then some v else l.lookup k' := by
  by_cases h : k' = k
  · simp [h]
  · rw [List.lookup_cons, if_neg h, beq_false_of_ne h]

theorem lookup_insertEntry (k v k' : String) :
    ∀ l : List (String × String), (insertEntry k v l).lookup k' = if k' = k then some v else l.lookup k'
  | [] => by rw [insertEntry, lookup_cons_ite]
  | (k₁, v₁) :: l => by
    unfold insertEntry
    split
    · rw [lookup_cons_ite]
    · split
      · rename_i h₁ h₂
        rw [lookup_cons_ite, lookup_cons_ite, lookup_insertEntry k v k' l]
        by_cases h : k' = k₁
        · have : k' ≠ k := fun hk => String.lt_irrefl k (by rw [← h, hk] at h₂; exact h₂)
          rw [if_pos h, if_neg this, if_pos h]
        · rw [if_neg h, if_neg h]
      · rename_i h₁ h₂
        have hkk : k = k₁ := String.le_antisymm (String.not_lt.1 h₂) (String.not_lt.1 h₁)
        rw [lookup_cons_ite, lookup_cons_ite, ← hkk]
        by_cases h : k' = k
        · rw [if_pos h, if_pos h]
        · rw [if_neg h, if_neg h, if_neg h]

theorem get?_insert (d : Dict) (k v k' : String) :
    (d.insert k v).get? k' = if k' = k then some v else d.get? k' :=
  lookup_insertEntry k v k' d.entries

end Dict

end Custodian
