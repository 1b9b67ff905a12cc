import Custodian.Proofs.Dict
import Custodian.Proofs.Scalars

/-!
# Messages are read as they were written

* `Schema.Writes` : the rows of fields that a message can be written as, since the entries of a dictionary have no
  order; `Schema.writes_fields` : the one that is written;
* `Schema.merge` : what one message adds to another; `Schema.Faithful` : a message is itself when merged into one
  without fields, at every level;
* `Schema.fits_of_writes` : what is written can be read; `Schema.length_of_writes` : its size is the one told without
  writing; `Schema.absorb_of_writes` : reading it merges the message.
-/

namespace Custodian.Wire

set_option autoImplicit false

variable {α β γ : Type} {n : Nat} {fs gs hs : List Field}

/-! ## What messages are written as -/

/-- Messages, and the fields with number `n` that they are written as. -/
def MessageFields (n : Nat) (writes : β → List Field → Prop) : List β → List Field → Prop :=
  List.Forall₂ fun x f => ∃ ys, writes x ys ∧ f = messageField n ys

namespace Schema

/-- The rows of fields that a message can be written as. -/
def Writes : {α : Type} → Schema α → α → List Field → Prop
  | _, done _, _, fs => fs = []
  | _, scalar n kind slot rest, m, fs => ∃ gs, fs = kind.fields n (slot.get m) ++ gs ∧ rest.Writes m gs
  | _, message n inner get? _ rest, m, fs =>
    ∃ hs gs, fs = hs ++ gs ∧ MessageFields n inner.Writes (get? m).toList hs ∧ rest.Writes m gs
  | _, row n inner slot rest, m, fs =>
    ∃ hs gs, fs = hs ++ gs ∧ MessageFields n inner.Writes (slot.get m) hs ∧ rest.Writes m gs
  | _, dict n entry slot rest, m, fs =>
    ∃ es hs gs, fs = hs ++ gs ∧ List.Perm es (slot.get m).entries ∧ MessageFields n entry.Writes es hs ∧
      rest.Writes m gs

end Schema

theorem messageFields_map {inner : Schema β} (h : ∀ x, inner.Writes x (inner.fields x)) (n : Nat) (xs : List β) :
    MessageFields n inner.Writes xs (xs.map fun x => messageField n (inner.fields x)) :=
  List.forall₂_map_right_iff.2 (List.forall₂_same.2 fun x _ => ⟨inner.fields x, h x, rfl⟩)

theorem MessageFields.exists_bytes {writes : β → List Field → Prop} {xs : List β} (h : MessageFields n writes xs hs) :
    ∀ f ∈ hs, ∃ bs, f = ⟨n, .bytes bs⟩ := by
  induction h with
  | nil => simp
  | cons hf _ ih =>
    obtain ⟨ys, -, rfl⟩ := hf
    exact List.forall_mem_cons.2 ⟨⟨_, rfl⟩, ih⟩

/-- The row that is written is one of those that can be. -/
theorem Schema.writes_fields (s : Schema α) (m : α) : s.Writes m (s.fields m) := by
  induction s with
  | done => rfl
  | scalar n kind slot rest ih => exact ⟨_, rfl, ih m⟩
  | message n inner get? set rest ihi ih => exact ⟨_, _, rfl, messageFields_map ihi n _, ih m⟩
  | row n inner slot rest ihi ih => exact ⟨_, _, rfl, messageFields_map ihi n _, ih m⟩
  | dict n entry slot rest ihe ih => exact ⟨_, _, _, rfl, .refl _, messageFields_map ihe n _, ih m⟩

/-! ## Fields that can be read -/

/-- The fields in front have a number of their own. -/
theorem fits_append {numbers : List Nat} {alwaysSized alwaysSized' : Nat → Bool}
    (hhs : ∀ f ∈ hs, f.number = n ∧ f.Fits alwaysSized) (hgs : ∀ f ∈ gs, f.number ∈ numbers ∧ f.Fits alwaysSized')
    (hsame : ∀ k ∈ numbers, alwaysSized k = alwaysSized' k) :
    ∀ f ∈ hs ++ gs, f.number ∈ n :: numbers ∧ f.Fits alwaysSized := by
  intro f hf
  obtain hf | hf := List.mem_append.1 hf
  · obtain ⟨hn, hfits⟩ := hhs f hf
    exact ⟨hn ▸ List.mem_cons_self, hfits⟩
  · obtain ⟨hn, hnumber, hpayload⟩ := hgs f hf
    refine ⟨List.mem_cons_of_mem _ hn, hnumber, ?_⟩
    rwa [hsame _ hn]

theorem MessageFields.fits {writes : β → List Field → Prop} {xs : List β} (h : MessageFields n writes xs hs)
    (hn : isNumber n = true) (alwaysSized : Nat → Bool) : ∀ f ∈ hs, f.number = n ∧ f.Fits alwaysSized := by
  intro f hf
  obtain ⟨bs, rfl⟩ := h.exists_bytes f hf
  exact ⟨rfl, hn, trivial⟩

theorem Scalar.fits_fields (kind : Scalar β) {alwaysSized : Nat → Bool} (hn : isNumber n = true)
    (ha : alwaysSized n = false) (x : β) : ∀ f ∈ kind.fields n x, f.number = n ∧ f.Fits alwaysSized := by
  intro f hf
  rw [Scalar.fields] at hf
  split_ifs at hf
  · simp at hf
  · rw [List.mem_singleton] at hf
    subst hf
    exact ⟨rfl, kind.fits hn ha x⟩

namespace Schema

variable {m : α}

theorem isValid_scalar {kind : Scalar β} {slot : Slot α β} {rest : Schema α} :
    (scalar n kind slot rest).isValid = true ↔ isNumber n = true ∧ n ∉ rest.numbers ∧ rest.isValid = true := by
  simp [isValid, and_assoc]

theorem isValid_message {inner : Schema β} {get? : α → Option β} {set : β → α → α} {rest : Schema α} :
    (message n inner get? set rest).isValid = true ↔
      isNumber n = true ∧ n ∉ rest.numbers ∧ inner.isValid = true ∧ rest.isValid = true := by
  simp [isValid, and_assoc]

theorem isValid_row {inner : Schema β} {slot : Slot α (List β)} {rest : Schema α} :
    (row n inner slot rest).isValid = true ↔
      isNumber n = true ∧ n ∉ rest.numbers ∧ inner.isValid = true ∧ rest.isValid = true := by
  simp [isValid, and_assoc]

theorem isValid_dict {entry : Schema (String × String)} {slot : Slot α Dict} {rest : Schema α} :
    (dict n entry slot rest).isValid = true ↔
      isNumber n = true ∧ n ∉ rest.numbers ∧ entry.isValid = true ∧ rest.isValid = true := by
  simp [isValid, and_assoc]

theorem alwaysSized_of_not_mem {s : Schema α} (h : n ∉ s.numbers) : s.alwaysSized n = false := by
  induction s with
  | done => rfl
  | scalar _ _ _ _ ih | message _ _ _ _ _ _ ih | row _ _ _ _ _ ih => exact ih (List.not_mem_of_not_mem_cons h)
  | dict number entry slot rest _ ih =>
    rw [alwaysSized, ih (List.not_mem_of_not_mem_cons h), Bool.or_false, decide_eq_false_iff_not]
    exact List.ne_of_not_mem_cons h

/-- What is written has numbers of the schema and can be read. -/
theorem fits_of_writes {s : Schema α} (hs : s.isValid = true) (h : s.Writes m fs) :
    ∀ f ∈ fs, f.number ∈ s.numbers ∧ f.Fits s.alwaysSized := by
  induction s generalizing fs with
  | done =>
    subst h
    simp
  | scalar n kind slot rest ih =>
    obtain ⟨gs, rfl, hgs⟩ := h
    obtain ⟨hn, hne, hrest⟩ := isValid_scalar.1 hs
    exact fits_append (kind.fits_fields hn (alwaysSized_of_not_mem hne) _) (ih hrest hgs) fun _ _ => rfl
  | message n inner get? set rest _ ih =>
    obtain ⟨hs', gs, rfl, hhs, hgs⟩ := h
    obtain ⟨hn, hne, -, hrest⟩ := isValid_message.1 hs
    exact fits_append (hhs.fits hn _) (ih hrest hgs) fun _ _ => rfl
  | row n inner slot rest _ ih =>
    obtain ⟨hs', gs, rfl, hhs, hgs⟩ := h
    obtain ⟨hn, hne, -, hrest⟩ := isValid_row.1 hs
    exact fits_append (hhs.fits hn _) (ih hrest hgs) fun _ _ => rfl
  | dict n entry slot rest _ ih =>
    obtain ⟨es, hs', gs, rfl, -, hhs, hgs⟩ := h
    obtain ⟨hn, hne, -, hrest⟩ := isValid_dict.1 hs
    refine fits_append (hhs.fits hn _) (ih hrest hgs) fun k hk => ?_
    have hkn : k ≠ n := fun h => hne (h ▸ hk)
    simp [alwaysSized, hkn]

end Schema

/-! ## Sizes -/

theorem messagesSize_perm {xs ys : List β} (h : xs.Perm ys) (n : Nat) (size : β → Nat) :
    messagesSize n size xs = messagesSize n size ys :=
  have : LeftCommutative fun (x : β) (k : Nat) => keySize n + sizedSize (size x) + k := ⟨fun _ _ _ => by omega⟩
  h.foldr_eq 0

theorem MessageFields.length {inner : Schema β} {xs : List β} (h : MessageFields n inner.Writes xs hs)
    (hn : isNumber n = true) (hsize : (fieldBytes hs).length < 2 ^ 64)
    (ih : ∀ x ys, inner.Writes x ys → (fieldBytes ys).length < 2 ^ 64 →
      (fieldBytes ys).length = inner.encodedLength x) :
    (fieldBytes hs).length = messagesSize n inner.encodedLength xs := by
  induction h with
  | nil => rfl
  | @cons x f xs hs hf _ ihs =>
    obtain ⟨ys, hys, rfl⟩ := hf
    rw [fieldBytes_cons, List.length_append] at hsize ⊢
    have hle : (fieldBytes ys).length ≤ (messageField n ys).bytes.length := length_le_bytes n _
    have hbytes : (messageField n ys).bytes.length = keySize n + sizedSize (fieldBytes ys).length :=
      length_bytes_sized hn (by omega)
    rw [hbytes, ih x ys hys (by omega), ihs (by omega)]
    rfl

namespace Schema

variable {m : α}

/-- **The size told without writing is that of what is written.** -/
theorem length_of_writes {s : Schema α} (hs : s.isValid = true) (h : s.Writes m fs)
    (hsize : (fieldBytes fs).length < 2 ^ 64) : (fieldBytes fs).length = s.encodedLength m := by
  induction s generalizing fs with
  | done =>
    subst h
    rfl
  | scalar n kind slot rest ih =>
    obtain ⟨gs, rfl, hgs⟩ := h
    obtain ⟨hn, -, hrest⟩ := isValid_scalar.1 hs
    rw [fieldBytes_append, List.length_append] at hsize ⊢
    rw [kind.length_fields hn _ (by omega), ih hrest hgs (by omega), encodedLength]
  | message n inner get? set rest ihi ih =>
    obtain ⟨hs', gs, rfl, hhs, hgs⟩ := h
    obtain ⟨hn, -, hinner, hrest⟩ := isValid_message.1 hs
    rw [fieldBytes_append, List.length_append] at hsize ⊢
    rw [hhs.length hn (by omega) fun x ys => ihi hinner, ih hrest hgs (by omega), encodedLength]
  | row n inner slot rest ihi ih =>
    obtain ⟨hs', gs, rfl, hhs, hgs⟩ := h
    obtain ⟨hn, -, hinner, hrest⟩ := isValid_row.1 hs
    rw [fieldBytes_append, List.length_append] at hsize ⊢
    rw [hhs.length hn (by omega) fun x ys => ihi hinner, ih hrest hgs (by omega), encodedLength]
  | dict n entry slot rest ihe ih =>
    obtain ⟨es, hs', gs, rfl, hes, hhs, hgs⟩ := h
    obtain ⟨hn, -, hinner, hrest⟩ := isValid_dict.1 hs
    rw [fieldBytes_append, List.length_append] at hsize ⊢
    rw [hhs.length hn (by omega) fun x ys => ihe hinner, ih hrest hgs (by omega), encodedLength,
      messagesSize_perm hes]

end Schema

/-! ## What one message adds to another -/

namespace Scalar

/-- What a value becomes when another follows it, which does not count if it is not written. -/
def renew (kind : Scalar β) (old new : β) : β := if kind.isBlank new then old else new

theorem renew_blank (kind : Scalar β) (x : β) : kind.renew kind.blank x = x := by
  rw [renew]
  split_ifs with h
  · exact ((kind.isBlank_iff x).1 h).symm
  · rfl

@[simp]
theorem renew_text (s : String) : text.renew "" s = s := renew_blank text s

@[simp]
theorem renew_raw (b : ByteArray) : raw.renew .empty b = b := renew_blank raw b

@[simp]
theorem renew_code (c : Int32) : code.renew 0 c = c := renew_blank code c

@[simp]
theorem renew_flag (b : Bool) : flag.renew false b = b := renew_blank flag b

end Scalar

namespace Schema

/-- What is added to a message by another: values that are not blank replace those before, messages are merged, rows are
joined, and entries replace those with the same key. -/
def merge : {α : Type} → Schema α → α → α → α
  | _, done _, a, _ => a
  | _, scalar _ kind slot rest, a, b => rest.merge (slot.set (kind.renew (slot.get a) (slot.get b)) a) b
  | _, message _ inner get? set rest, a, b =>
    rest.merge (match get? b with
      | none => a
      | some y => set (inner.merge ((get? a).getD inner.blank) y) a) b
  | _, row _ _ slot rest, a, b => rest.merge (slot.set (slot.get a ++ slot.get b) a) b
  | _, dict _ _ slot rest, a, b => rest.merge (slot.set ((slot.get a).insertAll (slot.get b).entries) a) b

section
variable {m a b : α} {kind : Scalar β} {slot : Slot α β} {inner : Schema β} {get? : α → Option β} {set : β → α → α}
  {rows : Slot α (List β)} {entry : Schema (String × String)} {dicts : Slot α Dict} {rest : Schema α}

@[simp]
theorem blank_done : (done m).blank = m := rfl

@[simp]
theorem blank_scalar : (scalar n kind slot rest).blank = rest.blank := rfl

@[simp]
theorem blank_message : (message n inner get? set rest).blank = rest.blank := rfl

@[simp]
theorem blank_row : (row n inner rows rest).blank = rest.blank := rfl

@[simp]
theorem blank_dict : (dict n entry dicts rest).blank = rest.blank := rfl

@[simp]
theorem merge_done : (done m).merge a b = a := rfl

@[simp]
theorem merge_scalar :
    (scalar n kind slot rest).merge a b = rest.merge (slot.set (kind.renew (slot.get a) (slot.get b)) a) b := rfl

@[simp]
theorem merge_message_none (h : get? b = none) : (message n inner get? set rest).merge a b = rest.merge a b := by
  rw [merge, h]

@[simp]
theorem merge_message_some {y : β} (h : get? b = some y) :
    (message n inner get? set rest).merge a b =
      rest.merge (set (inner.merge ((get? a).getD inner.blank) y) a) b := by
  rw [merge, h]

@[simp]
theorem merge_row :
    (row n inner rows rest).merge a b = rest.merge (rows.set (rows.get a ++ rows.get b) a) b := rfl

@[simp]
theorem merge_dict : (dict n entry dicts rest).merge a b =
    rest.merge (dicts.set ((dicts.get a).insertAll (dicts.get b).entries) a) b := rfl

end

/-- A message is itself when it is merged into the one without fields. -/
def Rebuilds (s : Schema α) : Prop := ∀ m, s.merge s.blank m = m

/-- The messages that a message holds are themselves when they are merged into those without fields. -/
def RebuildsBelow : {α : Type} → Schema α → Prop
  | _, done _ => True
  | _, scalar _ _ _ rest => rest.RebuildsBelow
  | _, message _ inner _ _ rest => (inner.Rebuilds ∧ inner.RebuildsBelow) ∧ rest.RebuildsBelow
  | _, row _ inner _ rest => (inner.Rebuilds ∧ inner.RebuildsBelow) ∧ rest.RebuildsBelow
  | _, dict _ entry _ rest => (entry.Rebuilds ∧ entry.RebuildsBelow) ∧ rest.RebuildsBelow

/-- A message is itself when it is merged into the one without fields, at every level. -/
def Faithful (s : Schema α) : Prop := s.Rebuilds ∧ s.RebuildsBelow

theorem Faithful.merge_blank {s : Schema α} (h : s.Faithful) (m : α) : s.merge s.blank m = m := h.1 m

end Schema

/-! ## Reading -/

theorem foldlM_congr {absorb absorb' : α → Field → Option α} (h : ∀ f ∈ fs, ∀ m, absorb m f = absorb' m f) (a : α) :
    fs.foldlM absorb a = fs.foldlM absorb' a := by
  induction fs generalizing a with
  | nil => rfl
  | cons f fs ih =>
    obtain ⟨hf, hfs⟩ := List.forall_mem_cons.1 h
    rw [List.foldlM_cons, List.foldlM_cons, hf a]
    exact congrArg _ (funext fun b => ih hfs b)

/-- Fields with number `n` are read first, and the others by the rest of a schema. -/
theorem foldlM_append_of_agree {absorb absorb' : α → Field → Option α} {a a' a'' : α}
    (hhs : hs.foldlM absorb a = some a') (hgs : gs.foldlM absorb' a' = some a'')
    (hothers : ∀ f ∈ gs, f.number ≠ n) (hsame : ∀ f, f.number ≠ n → ∀ m, absorb m f = absorb' m f) :
    (hs ++ gs).foldlM absorb a = some a'' := by
  rw [List.foldlM_append, hhs, ← hgs, ← foldlM_congr fun f hf => hsame f (hothers f hf)]
  rfl

theorem MessageFields.foldlM {writes : β → List Field → Prop} {xs : List β} (h : MessageFields n writes xs hs)
    (hsize : (fieldBytes hs).length < 2 ^ 64) {absorb : α → Field → Option α} {add : α → β → α}
    (hadd : ∀ a x ys, writes x ys → (fieldBytes ys).length < 2 ^ 64 →
      absorb a (messageField n ys) = some (add a x)) (a : α) : hs.foldlM absorb a = some (xs.foldl add a) := by
  induction h generalizing a with
  | nil => rfl
  | @cons x f xs hs hf _ ih =>
    obtain ⟨ys, hys, rfl⟩ := hf
    rw [fieldBytes_cons, List.length_append] at hsize
    have hle : (fieldBytes ys).length ≤ (messageField n ys).bytes.length := length_le_bytes n _
    rw [List.foldlM_cons, hadd a x ys hys (by omega)]
    exact ih (by omega) (add a x)

/-- Values that are put into a place one after another. -/
theorem Slot.foldl_set (slot : Slot α γ) (step : γ → β → γ) (xs : List β) (a : α) :
    xs.foldl (fun a x => slot.set (step (slot.get a) x) a) a = slot.set (xs.foldl step (slot.get a)) a := by
  induction xs generalizing a with
  | nil => exact (slot.set_get a).symm
  | cons x xs ih => rw [List.foldl_cons, ih, slot.get_set, slot.set_set, List.foldl_cons]

theorem Scalar.foldlM_fields (kind : Scalar β) (slot : Slot α β) {absorb : α → Field → Option α}
    (habsorb : ∀ a f, f.number = n → absorb a f = (kind.read? f.payload).map fun x => slot.set x a) (x : β) (a : α) :
    (kind.fields n x).foldlM absorb a = some (slot.set (kind.renew (slot.get a) x) a) := by
  rw [Scalar.fields, Scalar.renew]
  split_ifs
  · exact congrArg some (slot.set_get a).symm
  · rw [List.foldlM_cons, habsorb a _ rfl, kind.read?_payload]
    rfl

namespace Schema

variable {m : α}

/-- The rest of a schema does not write the number in front of it. -/
theorem number_ne_of_writes {rest : Schema α} (hrest : rest.isValid = true) (h : rest.Writes m gs)
    (hn : n ∉ rest.numbers) : ∀ f ∈ gs, f.number ≠ n :=
  fun f hf hfn => hn (hfn ▸ (fits_of_writes hrest h f hf).1)

/-- A field that holds a message is read one level below. -/
theorem mergeField?_messageField {inner : Schema β} {depth : Nat} (hs : inner.isValid = true)
    (hd : inner.levels < depth) {x : β} (h : inner.Writes x fs) (hsize : (fieldBytes fs).length < 2 ^ 64) {b : β}
    (ih : ∀ d, inner.levels ≤ d → fs.foldlM (inner.absorb? d) b = some (inner.merge b x)) :
    mergeField? inner.alwaysSized inner.absorb? depth b (messageField n fs) = some (inner.merge b x) := by
  cases depth with
  | zero => exact absurd hd (Nat.not_lt_zero _)
  | succ d =>
    have hread := readFields?_fieldBytes_self (fun f hf => (fits_of_writes hs h f hf).2) hsize d
    change (readFields? inner.alwaysSized d [] (fieldBytes fs)).bind _ = _
    rw [hread]
    exact ih d (Nat.le_of_lt_succ hd)

/-- **A message is merged by reading the fields it is written as.** -/
theorem absorb_of_writes {s : Schema α} (hs : s.isValid = true) (hf : s.RebuildsBelow) {depth : Nat}
    (hd : s.levels ≤ depth) (h : s.Writes m fs) (hsize : (fieldBytes fs).length < 2 ^ 64) (a : α) :
    fs.foldlM (s.absorb? depth) a = some (s.merge a m) := by
  induction s generalizing fs depth with
  | done =>
    subst h
    rfl
  | scalar n kind slot rest ih =>
    obtain ⟨gs, rfl, hgs⟩ := h
    obtain ⟨hn, hne, hrest⟩ := isValid_scalar.1 hs
    rw [fieldBytes_append, List.length_append] at hsize
    exact foldlM_append_of_agree (kind.foldlM_fields slot (fun a f hf => if_pos hf) _ a)
      (ih hrest hf hd hgs (by omega) _) (number_ne_of_writes hrest hgs hne) fun f hf m => if_neg hf
  | @message α' β' n inner get? set rest ihi ih =>
    obtain ⟨hs', gs, rfl, hhs, hgs⟩ := h
    obtain ⟨hn, hne, hinner, hrest⟩ := isValid_message.1 hs
    rw [fieldBytes_append, List.length_append] at hsize
    have hadd (a : α') (x : β') (ys : List Field) (hys : inner.Writes x ys) (hy : (fieldBytes ys).length < 2 ^ 64) :
        (message n inner get? set rest).absorb? depth a (messageField n ys) =
          some (set (inner.merge ((get? a).getD inner.blank) x) a) := by
      rw [absorb?, if_pos (show (messageField n ys).number = n from rfl),
        mergeField?_messageField hinner (le_of_max_le_left hd) hys hy
        fun d hd => ihi hinner hf.1.2 hd hys hy _]
      rfl
    refine foldlM_append_of_agree ((hhs.foldlM (by omega) hadd a).trans (congrArg some ?_))
      (ih hrest hf.2 (le_of_max_le_right hd) hgs (by omega) _) (number_ne_of_writes hrest hgs hne)
      fun f hf m => if_neg hf
    cases get? m <;> rfl
  | @row α' β' n inner slot rest ihi ih =>
    obtain ⟨hs', gs, rfl, hhs, hgs⟩ := h
    obtain ⟨hn, hne, hinner, hrest⟩ := isValid_row.1 hs
    rw [fieldBytes_append, List.length_append] at hsize
    have hadd (a : α') (x : β') (ys : List Field) (hys : inner.Writes x ys) (hy : (fieldBytes ys).length < 2 ^ 64) :
        (row n inner slot rest).absorb? depth a (messageField n ys) = some (slot.set (slot.get a ++ [x]) a) := by
      rw [absorb?, if_pos (show (messageField n ys).number = n from rfl),
        mergeField?_messageField hinner (le_of_max_le_left hd) hys hy
        fun d hd => ihi hinner hf.1.2 hd hys hy _, hf.1.1 x]
      rfl
    refine foldlM_append_of_agree ((hhs.foldlM (by omega) hadd a).trans (congrArg some ?_))
      (ih hrest hf.2 (le_of_max_le_right hd) hgs (by omega) _) (number_ne_of_writes hrest hgs hne)
      fun f hf m => if_neg hf
    rw [slot.foldl_set fun xs x => xs ++ [x], List.foldl_append_eq_append, ← List.flatMap_def,
      List.flatMap_singleton']
  | @dict α' n entry slot rest ihe ih =>
    obtain ⟨es, hs', gs, rfl, hes, hhs, hgs⟩ := h
    obtain ⟨hn, hne, hentry, hrest⟩ := isValid_dict.1 hs
    rw [fieldBytes_append, List.length_append] at hsize
    have hadd (a : α') (e : String × String) (ys : List Field) (hys : entry.Writes e ys)
        (hy : (fieldBytes ys).length < 2 ^ 64) :
        (dict n entry slot rest).absorb? depth a (messageField n ys) =
          some (slot.set ((slot.get a).insert e.1 e.2) a) := by
      rw [absorb?, if_pos (show (messageField n ys).number = n from rfl),
        mergeField?_messageField hentry (le_of_max_le_left hd) hys hy
        fun d hd => ihe hentry hf.1.2 hd hys hy _, hf.1.1 e]
      rfl
    refine foldlM_append_of_agree ((hhs.foldlM (by omega) hadd a).trans (congrArg some ?_))
      (ih hrest hf.2 (le_of_max_le_right hd) hgs (by omega) _) (number_ne_of_writes hrest hgs hne)
      fun f hf m => if_neg hf
    -- the order of the entries does not matter
    rw [slot.foldl_set fun d (e : String × String) => d.insert e.1 e.2]
    exact congrArg (slot.set · a) (Dict.insertAll_perm hes _)

end Schema

end Custodian.Wire
