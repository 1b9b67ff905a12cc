import Custodian.Message.Dict
import Mathlib.Tactic

/-!
# Dictionaries and the order of insertions

* `Dict.ext_get?` : a dictionary is told by its look-ups;
* `Dict.insertAll_perm` : entries with different keys may be put in in any order; `Dict.insertAll_entries` : together
  they make the dictionary again.
-/

namespace Custodian

set_option autoImplicit false

namespace Dict

variable {d d' : Dict}

/-- Puts entries in one after another. -/
def insertAll (d : Dict) (l : List (String × String)) : Dict := l.foldl (fun d e => d.insert e.1 e.2) d

theorem mem_entries {k v : String} : (k, v) ∈ d.entries ↔ d.get? k = some v := by
  rw [get?, List.lookup_eq_some_iff]
  constructor
  · intro h
    obtain ⟨l₁, l₂, hl⟩ := List.append_of_mem h
    have hsorted : Sorted (l₁ ++ (k, v) :: l₂) := hl ▸ d.sorted
    refine ⟨l₁, l₂, hl, fun p hp => ?_⟩
    have hlt := (List.pairwise_append.1 hsorted).2.2 p hp (k, v) List.mem_cons_self
    exact bne_iff_ne.2 fun hk => String.lt_irrefl p.1 (hk ▸ hlt)
  · rintro ⟨l₁, l₂, hl, -⟩
    simp [hl]

theorem ext_entries (h : d.entries = d'.entries) : d = d' := by
  cases d
  cases d'
  cases h
  rfl

theorem ext_get? (h : ∀ k, d.get? k = d'.get? k) : d = d' := by
  have : Std.Irrefl fun x y : String × String => x.1 < y.1 := ⟨fun x => String.lt_irrefl x.1⟩
  have : Std.Antisymm fun x y : String × String => x.1 < y.1 :=
    ⟨fun x y hxy hyx => absurd hyx (String.lt_asymm hxy)⟩
  refine ext_entries (d.sorted.eq_of_mem_iff d'.sorted fun e => ?_)
  rw [← Prod.eta e, mem_entries, mem_entries, h]

theorem insert_comm {k k' : String} (h : k ≠ k') (d : Dict) (v v' : String) :
    (d.insert k v).insert k' v' = (d.insert k' v').insert k v := by
  refine ext_get? fun j => ?_
  simp only [get?_insert]
  split_ifs with h₁ h₂
  · exact absurd (h₂.symm.trans h₁) h
  all_goals rfl

/-- Different entries of a dictionary have different keys. -/
theorem eq_of_mem {x y : String × String} (hx : x ∈ d.entries) (hy : y ∈ d.entries) (h : x.1 = y.1) : x = y := by
  have hx' := mem_entries.1 hx
  have hy' := mem_entries.1 hy
  rw [h, hy'] at hx'
  exact Prod.ext h (Option.some.inj hx').symm

theorem insertAll_perm {es : List (String × String)} (h : es.Perm d.entries) (d₀ : Dict) :
    d₀.insertAll es = d₀.insertAll d.entries := by
  refine h.foldl_eq' (fun x hx y hy z => ?_) d₀
  by_cases hk : x.1 = y.1
  · rw [eq_of_mem (h.subset hx) (h.subset hy) hk]
  · exact insert_comm hk z x.2 y.2

/-- An entry behind all others goes to the end. -/
theorem insertEntry_of_lt {k v : String} {l : List (String × String)} (h : ∀ e ∈ l, e.1 < k) :
    insertEntry k v l = l ++ [(k, v)] := by
  induction l with
  | nil => rfl
  | cons e l ih =>
    obtain ⟨he, hl⟩ := List.forall_mem_cons.1 h
    rw [insertEntry, if_neg (String.lt_asymm he), if_pos he, ih hl]
    rfl

theorem entries_insertAll {l : List (String × String)} (h : Sorted (d.entries ++ l)) :
    (d.insertAll l).entries = d.entries ++ l := by
  induction l generalizing d with
  | nil => exact (List.append_nil _).symm
  | cons e l ih =>
    have hlt (x : String × String) (hx : x ∈ d.entries) : x.1 < e.1 :=
      (List.pairwise_append.1 h).2.2 x hx e List.mem_cons_self
    have hinsert : (d.insert e.1 e.2).entries = d.entries ++ [e] := insertEntry_of_lt hlt
    rw [List.append_cons] at h ⊢
    rw [← hinsert] at h ⊢
    exact ih h

theorem insertAll_entries (d : Dict) : empty.insertAll d.entries = d :=
  ext_entries (entries_insertAll d.sorted)

end Dict

end Custodian
