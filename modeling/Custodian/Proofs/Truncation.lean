import Custodian.Proofs.Messages
import Custodian.Proofs.Records

/-!
# Messages that are cut off

* `readFields?_of_cut` : a field of which bytes are missing is not read; `prefix_fieldBytes` : a cut goes between two
  fields or through one;
* `Schema.Values`, `Schema.IsPart` : the values of a message's fields, and some of them; `Schema.exists_part` : the
  first of the fields that values are written as are written for some of them;
* `Schema.Divisible`, `*_divisible` : of each type, some of the values of a message are those of a message;
* `decode?_of_cut`, `MessageType.decode_truncated` : a message that is cut off is read if and only if the cut is between
  two of its fields, as the message that is written as those before the cut.
-/

namespace Custodian.Wire

set_option autoImplicit false

variable {α β : Type} {alwaysSized : Nat → Bool} {depth n : Nat} {bs rest p : List UInt8} {f : Field}
  {fs gs hs : List Field}

/-! ## Cuts within a field -/

/-- What is read at the front of some bytes is read there whatever follows. -/
theorem readItem?_append {item : Item} (h : readItem? alwaysSized bs = some (item, rest)) (more : List UInt8) :
    readItem? alwaysSized (bs ++ more) = some (item, rest ++ more) := by
  obtain ⟨xs, rfl, hxs⟩ := readItem?_eq_some_iff.1 h
  exact readItem?_eq_some_iff.2 ⟨xs, List.append_assoc .., hxs⟩

/-- A field of which bytes are missing is not read. -/
theorem readFields?_of_cut (hf : f.Fits alwaysSized) (hsize : f.bytes.length < 2 ^ 64) (hp : p <+: f.bytes)
    (hne : p ≠ []) (hcut : p ≠ f.bytes) : readFields? alwaysSized depth [] p = none := by
  obtain ⟨more, hmore⟩ := hp
  have hitem : readItem? alwaysSized p = none := by
    by_contra hsome
    obtain ⟨⟨item, rest⟩, hread⟩ := Option.ne_none_iff_exists'.1 hsome
    -- more bytes would change nothing, but with all of them nothing is left
    have hall := readItem?_bytes hf hsize []
    rw [List.append_nil, ← hmore, readItem?_append hread] at hall
    obtain ⟨-, hnil⟩ := Prod.mk.inj (Option.some.inj hall)
    obtain ⟨-, rfl⟩ := List.append_eq_nil_iff.1 hnil
    exact hcut (by rw [← hmore, List.append_nil])
  rw [readFields?, if_neg (by simpa using hne)]
  split
  · rfl
  · rename_i hsome
    cases hitem.symm.trans hsome

/-- A cut through a row of fields goes between two of them or through one. -/
theorem prefix_fieldBytes (h : p <+: fieldBytes fs) :
    (∃ gs, gs <+: fs ∧ p = fieldBytes gs) ∨
      ∃ gs f q, gs ++ [f] <+: fs ∧ p = fieldBytes gs ++ q ∧ q <+: f.bytes ∧ q ≠ [] ∧ q ≠ f.bytes := by
  induction fs generalizing p with
  | nil => exact .inl ⟨[], List.prefix_rfl, List.prefix_nil.1 h⟩
  | cons f fs ih =>
    rw [fieldBytes_cons] at h
    obtain hp | ⟨q, rfl⟩ := List.prefix_or_prefix_of_prefix h (List.prefix_append f.bytes (fieldBytes fs))
    · by_cases hnil : p = []
      · exact .inl ⟨[], List.nil_prefix, hnil⟩
      by_cases hall : p = f.bytes
      · exact .inl ⟨[f], List.cons_prefix_cons.2 ⟨rfl, List.nil_prefix⟩, by simp [fieldBytes, hall]⟩
      · exact .inr ⟨[], f, p, List.cons_prefix_cons.2 ⟨rfl, List.nil_prefix⟩, rfl, hp, hnil, hall⟩
    · obtain ⟨gs, hgs, rfl⟩ | ⟨gs, f', q', hgs, rfl, hq⟩ := ih ((List.prefix_append_right_inj _).1 h)
      · exact .inl ⟨f :: gs, List.cons_prefix_cons.2 ⟨rfl, hgs⟩, (fieldBytes_cons f gs).symm⟩
      · refine .inr ⟨f :: gs, f', q', List.cons_prefix_cons.2 ⟨rfl, hgs⟩, ?_, hq⟩
        rw [fieldBytes_cons, List.append_assoc]

/-! ## Some of the fields of a message -/

namespace Schema

/-- The values of the fields of a message. -/
def Values : {α : Type} → Schema α → Type
  | _, done _ => Unit
  | _, @scalar _ β _ _ _ rest => β × rest.Values
  | _, @message _ β _ _ _ _ rest => Option β × rest.Values
  | _, @row _ β _ _ _ rest => List β × rest.Values
  | _, dict _ _ _ rest => Dict × rest.Values

/-- The values that a message has. -/
def values : {α : Type} → (s : Schema α) → α → s.Values
  | _, done _, _ => ()
  | _, scalar _ _ slot rest, m => (slot.get m, rest.values m)
  | _, message _ _ get? _ rest, m => (get? m, rest.values m)
  | _, row _ _ slot rest, m => (slot.get m, rest.values m)
  | _, dict _ _ slot rest, m => (slot.get m, rest.values m)

/-- The rows of fields that values can be written as. -/
def WritesValues : {α : Type} → (s : Schema α) → s.Values → List Field → Prop
  | _, done _, _, fs => fs = []
  | _, scalar n kind _ rest, v, fs => ∃ gs, fs = kind.fields n v.1 ++ gs ∧ rest.WritesValues v.2 gs
  | _, message n inner _ _ rest, v, fs =>
    ∃ hs gs, fs = hs ++ gs ∧ MessageFields n inner.Writes v.1.toList hs ∧ rest.WritesValues v.2 gs
  | _, row n inner _ rest, v, fs =>
    ∃ hs gs, fs = hs ++ gs ∧ MessageFields n inner.Writes v.1 hs ∧ rest.WritesValues v.2 gs
  | _, dict n entry _ rest, v, fs =>
    ∃ es hs gs, fs = hs ++ gs ∧ List.Perm es v.1.entries ∧ MessageFields n entry.Writes es hs ∧
      rest.WritesValues v.2 gs

/-- Of the values that are held by themselves some, and the others are left out. -/
def IsPart : {α : Type} → (s : Schema α) → s.Values → s.Values → Prop
  | _, done _, _, _ => True
  | _, scalar _ kind _ rest, w, v => (w.1 = kind.blank ∨ w.1 = v.1) ∧ rest.IsPart w.2 v.2
  | _, message _ _ _ _ rest, w, v => (w.1 = none ∨ w.1 = v.1) ∧ rest.IsPart w.2 v.2
  | _, row _ _ _ rest, w, v => rest.IsPart w.2 v.2
  | _, dict _ _ _ rest, w, v => rest.IsPart w.2 v.2

theorem writes_iff (s : Schema α) (m : α) : s.Writes m fs ↔ s.WritesValues (s.values m) fs := by
  induction s generalizing fs with
  | done => rfl
  | scalar _ _ _ _ ih => exact exists_congr fun _ => and_congr_right fun _ => ih m
  | message _ _ _ _ _ _ ih | row _ _ _ _ _ ih =>
    exact exists₂_congr fun _ _ => and_congr_right fun _ => and_congr_right fun _ => ih m
  | dict _ _ _ _ _ ih =>
    exact exists₃_congr fun _ _ _ => and_congr_right fun _ => and_congr_right fun _ => and_congr_right fun _ => ih m

end Schema

theorem exists_of_prefix_append {gs hs ks : List Field} (h : gs <+: hs ++ ks) :
    ∃ hs' ks', gs = hs' ++ ks' ∧ hs' <+: hs ∧ ks' <+: ks := by
  obtain h | ⟨ks', rfl⟩ := List.prefix_or_prefix_of_prefix h (List.prefix_append hs ks)
  · exact ⟨gs, [], (List.append_nil gs).symm, h, List.nil_prefix⟩
  · exact ⟨hs, ks', rfl, List.prefix_rfl, (List.prefix_append_right_inj hs).1 h⟩

theorem Scalar.exists_of_prefix_fields {kind : Scalar β} {x : β} (h : gs <+: kind.fields n x) :
    ∃ y, (y = kind.blank ∨ y = x) ∧ gs = kind.fields n y := by
  have hblank : kind.fields n kind.blank = [] := if_pos ((kind.isBlank_iff _).2 rfl)
  cases gs with
  | nil => exact ⟨kind.blank, .inl rfl, hblank.symm⟩
  | cons f gs =>
    refine ⟨x, .inr rfl, h.eq_of_length_le ?_⟩
    rw [fields]
    split_ifs <;> simp

theorem MessageFields.exists_of_prefix {writes : β → List Field → Prop} {xs : List β}
    (h : MessageFields n writes xs hs) (hgs : gs <+: hs) : ∃ ys, ys <+: xs ∧ MessageFields n writes ys gs := by
  rw [List.prefix_iff_eq_take] at hgs
  rw [hgs]
  exact ⟨xs.take gs.length, List.take_prefix .., List.forall₂_take gs.length h⟩

theorem exists_of_prefix_toList {o : Option β} {ys : List β} (h : ys <+: o.toList) :
    ∃ o' : Option β, (o' = none ∨ o' = o) ∧ ys = o'.toList := by
  cases ys with
  | nil => exact ⟨none, .inl rfl, rfl⟩
  | cons y ys =>
    refine ⟨o, .inr rfl, h.eq_of_length_le ?_⟩
    cases o <;> simp

/-- Some of a dictionary's entries are a dictionary. -/
theorem exists_of_prefix_entries {d : Dict} {es ys : List (String × String)} (hes : es.Perm d.entries) (h : ys <+: es) :
    ∃ d' : Dict, ys.Perm d'.entries := by
  obtain ⟨l, hl, hsub⟩ := h.sublist.subperm.trans hes.subperm
  exact ⟨⟨l, d.sorted.sublist hsub⟩, hl.symm⟩

namespace Schema

/-- A row of fields that is cut between two of them is what some of the values are written as. -/
theorem exists_part {s : Schema α} {v : s.Values} (h : s.WritesValues v fs) (hgs : gs <+: fs) :
    ∃ w, s.IsPart w v ∧ s.WritesValues w gs := by
  induction s generalizing fs gs with
  | done =>
    subst h
    exact ⟨(), trivial, List.prefix_nil.1 hgs⟩
  | scalar n kind slot rest ih =>
    obtain ⟨ks, rfl, hks⟩ := h
    obtain ⟨hs', ks', rfl, hhs', hks'⟩ := exists_of_prefix_append hgs
    obtain ⟨y, hy, rfl⟩ := Scalar.exists_of_prefix_fields hhs'
    obtain ⟨w, hw, hwrites⟩ := ih hks hks'
    exact ⟨(y, w), ⟨hy, hw⟩, ks', rfl, hwrites⟩
  | message n inner get? set rest _ ih =>
    obtain ⟨hs, ks, rfl, hhs, hks⟩ := h
    obtain ⟨hs', ks', rfl, hhs', hks'⟩ := exists_of_prefix_append hgs
    obtain ⟨ys, hys, hfields⟩ := hhs.exists_of_prefix hhs'
    obtain ⟨o, ho, rfl⟩ := exists_of_prefix_toList hys
    obtain ⟨w, hw, hwrites⟩ := ih hks hks'
    exact ⟨(o, w), ⟨ho, hw⟩, hs', ks', rfl, hfields, hwrites⟩
  | row n inner slot rest _ ih =>
    obtain ⟨hs, ks, rfl, hhs, hks⟩ := h
    obtain ⟨hs', ks', rfl, hhs', hks'⟩ := exists_of_prefix_append hgs
    obtain ⟨ys, -, hfields⟩ := hhs.exists_of_prefix hhs'
    obtain ⟨w, hw, hwrites⟩ := ih hks hks'
    exact ⟨(ys, w), hw, hs', ks', rfl, hfields, hwrites⟩
  | dict n entry slot rest _ ih =>
    obtain ⟨es, hs, ks, rfl, hes, hhs, hks⟩ := h
    obtain ⟨hs', ks', rfl, hhs', hks'⟩ := exists_of_prefix_append hgs
    obtain ⟨ys, hys, hfields⟩ := hhs.exists_of_prefix hhs'
    obtain ⟨d, hd⟩ := exists_of_prefix_entries hes hys
    obtain ⟨w, hw, hwrites⟩ := ih hks hks'
    exact ⟨(d, w), hw, ys, hs', ks', rfl, hd, hfields, hwrites⟩

/-- Some of the values of a message are the values of a message. -/
def Divisible (s : Schema α) : Prop := ∀ m w, s.IsPart w (s.values m) → ∃ x, s.values x = w

theorem Divisible.exists_writes {s : Schema α} (hs : s.Divisible) {m : α} (h : s.Writes m fs) (hgs : gs <+: fs) :
    ∃ x, s.Writes x gs := by
  obtain ⟨w, hw, hwrites⟩ := exists_part ((writes_iff s m).1 h) hgs
  obtain ⟨x, rfl⟩ := hs m w hw
  exact ⟨x, (writes_iff s x).2 hwrites⟩

end Schema

/-! ### Records -/

theorem noFields_divisible : noFieldsSchema.Divisible := fun _ _ _ => ⟨{}, rfl⟩

theorem softwareVersion_divisible : softwareVersionSchema.Divisible :=
  fun _ ⟨name, number, revision, date, description, kind, commercial, semantic, _⟩ _ =>
    ⟨⟨name, number, revision, date, description, kind, commercial, semantic⟩, rfl⟩

theorem fragment_divisible : fragmentSchema.Divisible := fun _ ⟨id, version, size, custom, _⟩ _ =>
  ⟨⟨id, version, size, custom⟩, rfl⟩

theorem metadata_divisible : metadataSchema.Divisible := fun _ ⟨agentId, fragment, backupName, _⟩ _ =>
  ⟨⟨agentId, fragment, backupName⟩, rfl⟩

/-! ### Data frames -/

theorem fileChunk_divisible : fileChunkSchema.Divisible := fun _ ⟨fileName, content, checksum, _⟩ _ =>
  ⟨⟨fileName, content, checksum⟩, rfl⟩

-- of a choice no member is there but the one that the message has
theorem backupFrame_divisible : backupFrameSchema.Divisible := by
  rintro ⟨_, body⟩ ⟨dataType, metadata, main, custom, _⟩ ⟨-, hmetadata, hmain, hcustom, -⟩
  obtain _ | d | ⟨_ | _, c⟩ := body
  · obtain ⟨rfl, rfl, rfl⟩ : metadata = none ∧ main = none ∧ custom = none :=
      ⟨or_self_iff.1 hmetadata, or_self_iff.1 hmain, or_self_iff.1 hcustom⟩
    exact ⟨⟨dataType, none⟩, rfl⟩
  · obtain ⟨rfl, rfl⟩ : main = none ∧ custom = none :=
      ⟨or_self_iff.1 hmain, or_self_iff.1 hcustom⟩
    obtain rfl | rfl := hmetadata
    · exact ⟨⟨dataType, none⟩, rfl⟩
    · exact ⟨⟨dataType, some (.metadata d)⟩, rfl⟩
  · obtain ⟨rfl, rfl⟩ : metadata = none ∧ custom = none :=
      ⟨or_self_iff.1 hmetadata, or_self_iff.1 hcustom⟩
    obtain rfl | rfl := hmain
    · exact ⟨⟨dataType, none⟩, rfl⟩
    · exact ⟨⟨dataType, some (.file .main c)⟩, rfl⟩
  · obtain ⟨rfl, rfl⟩ : metadata = none ∧ main = none :=
      ⟨or_self_iff.1 hmetadata, or_self_iff.1 hmain⟩
    obtain rfl | rfl := hcustom
    · exact ⟨⟨dataType, none⟩, rfl⟩
    · exact ⟨⟨dataType, some (.file .custom c)⟩, rfl⟩

theorem restoreFrame_divisible : restoreFrameSchema.Divisible := by
  rintro ⟨_, body⟩ ⟨dataType, main, custom, _⟩ ⟨-, hmain, hcustom, -⟩
  obtain _ | ⟨_ | _, c⟩ := body
  · obtain ⟨rfl, rfl⟩ : main = none ∧ custom = none :=
      ⟨or_self_iff.1 hmain, or_self_iff.1 hcustom⟩
    exact ⟨⟨dataType, none⟩, rfl⟩
  · obtain rfl : custom = none := or_self_iff.1 hcustom
    obtain rfl | rfl := hmain
    · exact ⟨⟨dataType, none⟩, rfl⟩
    · exact ⟨⟨dataType, some ⟨.main, c⟩⟩, rfl⟩
  · obtain rfl : main = none := or_self_iff.1 hmain
    obtain rfl | rfl := hcustom
    · exact ⟨⟨dataType, none⟩, rfl⟩
    · exact ⟨⟨dataType, some ⟨.custom, c⟩⟩, rfl⟩

/-! ### Control frames -/

theorem register_divisible : registerSchema.Divisible := fun _ ⟨agentId, version, apiVersion, scope, _⟩ _ =>
  ⟨⟨agentId, version, apiVersion, scope⟩, rfl⟩

theorem stageComplete_divisible : stageCompleteSchema.Divisible := fun _ ⟨success, message, agentId, _⟩ _ =>
  ⟨⟨success, message, agentId⟩, rfl⟩

theorem agentFrame_divisible : agentFrameSchema.Divisible := by
  rintro ⟨_, _, body⟩ ⟨action, messageType, register, report, _⟩ ⟨-, -, hregister, hreport, -⟩
  obtain _ | r | s := body
  · obtain ⟨rfl, rfl⟩ : register = none ∧ report = none :=
      ⟨or_self_iff.1 hregister, or_self_iff.1 hreport⟩
    exact ⟨⟨action, messageType, none⟩, rfl⟩
  · obtain rfl : report = none := or_self_iff.1 hreport
    obtain rfl | rfl := hregister
    · exact ⟨⟨action, messageType, none⟩, rfl⟩
    · exact ⟨⟨action, messageType, some (.register r)⟩, rfl⟩
  · obtain rfl : register = none := or_self_iff.1 hregister
    obtain rfl | rfl := hreport
    · exact ⟨⟨action, messageType, none⟩, rfl⟩
    · exact ⟨⟨action, messageType, some (.stageComplete s)⟩, rfl⟩

theorem execution_divisible : executionSchema.Divisible := fun _ ⟨backupName, version, fragments, _⟩ _ =>
  ⟨⟨backupName, version, fragments⟩, rfl⟩

theorem preparation_divisible : preparationSchema.Divisible :=
  fun _ ⟨backupName, version, fragments, backupType, _⟩ _ => ⟨⟨⟨backupName, version, fragments⟩, backupType⟩, rfl⟩

theorem acknowledgement_divisible : acknowledgementSchema.Divisible := fun _ ⟨text, _⟩ _ => ⟨⟨text⟩, rfl⟩

theorem orchestratorFrame_divisible : orchestratorFrameSchema.Divisible := by
  rintro ⟨_, _, body⟩ ⟨action, messageType, text, execution, preparation, post, cancel, _⟩
    ⟨-, -, ht, he, hp, hpost, hcancel, -⟩
  obtain _ | s | e | p | _ | _ := body
  · obtain ⟨rfl, rfl, rfl, rfl, rfl⟩ :
        text = none ∧ execution = none ∧ preparation = none ∧ post = none ∧ cancel = none :=
      ⟨or_self_iff.1 ht, or_self_iff.1 he, or_self_iff.1 hp, or_self_iff.1 hpost, or_self_iff.1 hcancel⟩
    exact ⟨⟨action, messageType, none⟩, rfl⟩
  · obtain ⟨rfl, rfl, rfl, rfl⟩ : execution = none ∧ preparation = none ∧ post = none ∧ cancel = none :=
      ⟨or_self_iff.1 he, or_self_iff.1 hp, or_self_iff.1 hpost, or_self_iff.1 hcancel⟩
    obtain rfl | rfl := ht
    · exact ⟨⟨action, messageType, none⟩, rfl⟩
    · exact ⟨⟨action, messageType, some (.acknowledge s)⟩, rfl⟩
  · obtain ⟨rfl, rfl, rfl, rfl⟩ : text = none ∧ preparation = none ∧ post = none ∧ cancel = none :=
      ⟨or_self_iff.1 ht, or_self_iff.1 hp, or_self_iff.1 hpost, or_self_iff.1 hcancel⟩
    obtain rfl | rfl := he
    · exact ⟨⟨action, messageType, none⟩, rfl⟩
    · exact ⟨⟨action, messageType, some (.execution e)⟩, rfl⟩
  · obtain ⟨rfl, rfl, rfl, rfl⟩ : text = none ∧ execution = none ∧ post = none ∧ cancel = none :=
      ⟨or_self_iff.1 ht, or_self_iff.1 he, or_self_iff.1 hpost, or_self_iff.1 hcancel⟩
    obtain rfl | rfl := hp
    · exact ⟨⟨action, messageType, none⟩, rfl⟩
    · exact ⟨⟨action, messageType, some (.preparation p)⟩, rfl⟩
  · obtain ⟨rfl, rfl, rfl, rfl⟩ : text = none ∧ execution = none ∧ preparation = none ∧ cancel = none :=
      ⟨or_self_iff.1 ht, or_self_iff.1 he, or_self_iff.1 hp, or_self_iff.1 hcancel⟩
    obtain rfl | rfl := hpost
    · exact ⟨⟨action, messageType, none⟩, rfl⟩
    · exact ⟨⟨action, messageType, some .postActions⟩, rfl⟩
  · obtain ⟨rfl, rfl, rfl, rfl⟩ : text = none ∧ execution = none ∧ preparation = none ∧ post = none :=
      ⟨or_self_iff.1 ht, or_self_iff.1 he, or_self_iff.1 hp, or_self_iff.1 hpost⟩
    obtain rfl | rfl := hcancel
    · exact ⟨⟨action, messageType, none⟩, rfl⟩
    · exact ⟨⟨action, messageType, some .cancel⟩, rfl⟩

/-! ## All types -/

namespace MessageType

theorem divisible (t : MessageType) : (WireMessage.schema : Schema t.Value).Divisible := by
  cases t with
  | noFields => exact noFields_divisible
  | softwareVersion => exact softwareVersion_divisible
  | register => exact register_divisible
  | stageComplete => exact stageComplete_divisible
  | agentFrame => exact agentFrame_divisible
  | acknowledgement => exact acknowledgement_divisible
  | execution => exact execution_divisible
  | preparation => exact preparation_divisible
  | orchestratorFrame => exact orchestratorFrame_divisible
  | fragment => exact fragment_divisible
  | metadata => exact metadata_divisible
  | fileChunk => exact fileChunk_divisible
  | backupFrame => exact backupFrame_divisible
  | restoreFrame => exact restoreFrame_divisible

end MessageType

/-- Bytes that end within a field are not read. -/
theorem decode?_of_cut [WireMessage α] {m : α} {q : List UInt8} (h : (WireMessage.schema : Schema α).Writes m fs)
    (hsize : (fieldBytes fs).length < 2 ^ 64) (hgs : gs ++ [f] <+: fs) (hq : q <+: f.bytes) (hne : q ≠ [])
    (hcut : q ≠ f.bytes) : (decode? (fieldBytes gs ++ q) : Option α) = none := by
  have hfits (g : Field) (hg : g ∈ gs ++ [f]) := (Schema.fits_of_writes WireMessage.valid h g (hgs.subset hg)).2
  obtain ⟨ks, rfl⟩ := hgs
  rw [fieldBytes_append, fieldBytes_append, fieldBytes_cons, List.length_append, List.length_append,
    List.length_append] at hsize
  have hbefore := readFields?_fieldBytes (fun g hg => hfits g (List.mem_append_left _ hg)) (by omega) maxDepth q
  rw [readFields?_of_cut (hfits f (by simp)) (by omega) hq hne hcut] at hbefore
  change (readFields? _ maxDepth [] (fieldBytes gs ++ q)).bind _ = _
  rw [hbefore]
  rfl

namespace MessageType

/-- **Messages that are cut off are refused.** Of every type, and for every row of fields that a message can be written
as: bytes up to the end of one of the fields are read as the message that is written as the fields so far, and bytes
that end within a field are not read. -/
theorem decode_truncated (t : MessageType) (m : t.Value) : Written m (encode m) ∧
    ∀ fs, (WireMessage.schema : Schema t.Value).Writes m fs → (fieldBytes fs).length < 2 ^ 64 →
      ∀ p, p <+: fieldBytes fs →
        (∀ gs, gs <+: fs → p = fieldBytes gs →
          ∃ x, (WireMessage.schema : Schema t.Value).Writes x gs ∧ decode? p = some x) ∧
        ((∀ gs, gs <+: fs → p ≠ fieldBytes gs) → (decode? p : Option t.Value) = none) := by
  refine ⟨written_encode m, fun fs hfs hsize p hp => ⟨?_, fun hcut => ?_⟩⟩
  · rintro gs hgs rfl
    obtain ⟨x, hx⟩ := t.divisible.exists_writes hfs hgs
    exact ⟨x, hx, decode?_of_written t.faithful ⟨gs, hx, rfl⟩ (Nat.lt_of_le_of_lt hp.length_le hsize)⟩
  · obtain ⟨gs, hgs, rfl⟩ | ⟨gs, f, q, hgs, rfl, hq, hne, hpart⟩ := prefix_fieldBytes hp
    · exact absurd rfl (hcut gs hgs)
    · exact decode?_of_cut hfs hsize hgs hq hne hpart

/-- A fragment whose entries are written in another order than they are kept in, up to the first entry and without the
last byte. -/
theorem decode_truncated_reversed_entries :
    let f : Fragment := { id := "f1", custom := .ofList [("a", ""), ("b", "2")] }
    let entries : List Field := [("b", "2"), ("a", "")].map fun e => messageField 4 (entrySchema.fields e)
    let fs : List Field := ⟨1, Scalar.text.payload "f1"⟩ :: entries
    fragmentSchema.Writes f fs ∧
      (∃ x, fragmentSchema.Writes x (fs.take 2) ∧ decode? (fieldBytes (fs.take 2)) = some x) ∧
        (decode? (fieldBytes fs).dropLast : Option Fragment) = none := by
  intro f entries fs
  have hf : fragmentSchema.Writes f fs :=
    ⟨_, rfl, _, rfl, _, rfl, [("b", "2"), ("a", "")], entries, [], rfl, .swap ..,
      messageFields_map entrySchema.writes_fields 4 _, rfl⟩
  have hsize : (fieldBytes fs).length < 2 ^ 64 := by decide +kernel
  have hfirst : fieldBytes (fs.take 2) <+: fieldBytes fs := by decide +kernel
  have hcut : ∀ gs, gs <+: fs → (fieldBytes fs).dropLast ≠ fieldBytes gs := by
    simp only [← List.mem_inits]
    decide +kernel
  have hread := (decode_truncated .fragment f).2 fs hf hsize
  exact ⟨hf, (hread _ hfirst).1 _ (List.take_prefix 2 fs) rfl, (hread _ (List.dropLast_prefix _)).2 hcut⟩

end MessageType

end Custodian.Wire
