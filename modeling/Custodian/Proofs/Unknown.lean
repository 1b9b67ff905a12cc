import Custodian.Proofs.Messages
import Custodian.Proofs.Records

/-!
# Fields that are not known

* `Schema.inner?` : the schema of the messages that a field holds; `Schema.absorb?_of_not_mem` : a field that is not
  known changes nothing; `Schema.absorb?_congr` : of a field that holds a message only the merging of its bytes counts;
* `Inserted` : bytes into which a record has been put that is not known where it stands, at any level;
* `Inserted.mergeBytes?_eq`, `MessageType.decode_inserted` : such a record makes no difference.
-/

namespace Custodian.Wire

set_option autoImplicit false

variable {α β : Type} {alwaysSized : Nat → Bool} {depth number : Nat} {bs bs' : List UInt8}

/-! ## Records that a message does not know -/

theorem Item.HasBytes.of_asTold {f : Field} (h : (Item.field f).HasBytes asTold bs)
    (ha : alwaysSized f.number = false) : (Item.field f).HasBytes alwaysSized bs := by
  cases h with
  | varint _ key numeral => exact .varint ha key numeral
  | fixed64 _ key size => exact .fixed64 ha key size
  | fixed32 _ key size => exact .fixed32 ha key size
  | sized told key numeral => exact .sized (.inr (told.resolve_left Bool.false_ne_true)) key numeral

theorem Record.of_asTold (h : Record asTold depth number bs) (ha : alwaysSized number = false) :
    Record alwaysSized depth number bs := by
  cases h with
  | plain bytes => exact .plain (bytes.of_asTold ha)
  | group start inner finish =>
    cases start with
    | groupStart _ key => exact .group (.groupStart ha key) inner finish

namespace Schema

/-- The schema of the messages that fields with a number hold. -/
def inner? : {α : Type} → Schema α → Nat → Option (Σ β : Type, Schema β)
  | _, done _, _ => none
  | _, scalar n _ _ rest, k => if k = n then none else rest.inner? k
  | _, message n inner _ _ rest, k => if k = n then some ⟨_, inner⟩ else rest.inner? k
  | _, row n inner _ rest, k => if k = n then some ⟨_, inner⟩ else rest.inner? k
  | _, dict n entry _ rest, k => if k = n then some ⟨_, entry⟩ else rest.inner? k

/-- A field that is not known changes nothing. -/
theorem absorb?_of_not_mem {s : Schema α} {f : Field} (h : f.number ∉ s.numbers) (depth : Nat) (m : α) :
    s.absorb? depth m f = some m := by
  induction s with
  | done => rfl
  | scalar _ _ _ _ ih | message _ _ _ _ _ _ ih | row _ _ _ _ _ ih | dict _ _ _ _ _ ih =>
    rw [absorb?, if_neg (List.ne_of_not_mem_cons h), ih (List.not_mem_of_not_mem_cons h)]

/-- Fields that hold messages are alike if their bytes are merged alike. -/
theorem absorb?_congr {s : Schema α} {inner : Schema β} (h : s.inner? number = some ⟨β, inner⟩)
    (heq : ∀ m, mergeBytes? inner.alwaysSized inner.absorb? depth m bs' =
      mergeBytes? inner.alwaysSized inner.absorb? depth m bs) (m : α) :
    s.absorb? (depth + 1) m ⟨number, .bytes bs'⟩ = s.absorb? (depth + 1) m ⟨number, .bytes bs⟩ := by
  induction s with
  | done => cases h
  | scalar n kind slot rest ih =>
    rw [inner?] at h
    split_ifs at h with hn
    rw [absorb?, absorb?, if_neg hn, if_neg hn, ih h]
  | message _ _ _ _ _ _ ih | row _ _ _ _ _ ih | dict _ _ _ _ _ ih =>
    rw [inner?] at h
    split_ifs at h with hn
    · cases h
      rw [absorb?, absorb?, if_pos hn, if_pos hn]
      exact congrArg _ (heq _)
    · rw [absorb?, absorb?, if_neg hn, if_neg hn, ih h]

end Schema

/-! ## Putting them in -/

/-- The second bytes are the first ones with a record put in that the message there does not know: between two records
of a schema, or in a message that one of them holds, whose length is then told anew. Messages and groups may go `depth`
levels down. -/
inductive Inserted : {α : Type} → Schema α → Nat → List UInt8 → List UInt8 → Prop
  | between {α : Type} {s : Schema α} {depth number : Nat} {front record back : List UInt8}
      (boundary : IsRow s.alwaysSized depth front) (wellFormed : Record asTold depth number record)
      (unknown : number ∉ s.numbers) : Inserted s depth (front ++ back) (front ++ (record ++ back))
  | within {α β : Type} {s : Schema α} {inner : Schema β} {depth number : Nat} {layout : Layout}
      {front ks ls ls' bs bs' back : List UInt8} (boundary : IsRow s.alwaysSized (depth + 1) front)
      (holds : s.inner? number = some ⟨β, inner⟩) (told : s.alwaysSized number = true ∨ layout = .sized)
      (key : IsKey number layout ks) (length : Numeral bs.length ls) (length' : Numeral bs'.length ls')
      (inserted : Inserted inner depth bs bs') :
      Inserted s (depth + 1) (front ++ (ks ++ (ls ++ bs) ++ back)) (front ++ (ks ++ (ls' ++ bs') ++ back))

/-- The message that a written field holds may have a record put in. -/
theorem Inserted.within_bytes {s : Schema α} {inner : Schema β} {front back : List UInt8}
    (boundary : IsRow s.alwaysSized (depth + 1) front) (holds : s.inner? number = some ⟨β, inner⟩)
    (hnumber : isNumber number = true) (hsize : bs.length < 2 ^ 64) (hsize' : bs'.length < 2 ^ 64)
    (inserted : Inserted inner depth bs bs') :
    Inserted s (depth + 1) (front ++ ((⟨number, .bytes bs⟩ : Field).bytes ++ back))
      (front ++ ((⟨number, .bytes bs'⟩ : Field).bytes ++ back)) :=
  .within boundary holds (.inr rfl) (isKey_key hnumber _) (numeral_varint hsize) (numeral_varint hsize') inserted

/-- **Records that are not known make no difference.** -/
theorem Inserted.mergeBytes?_eq {s : Schema α} (h : Inserted s depth bs bs') (m : α) :
    mergeBytes? s.alwaysSized s.absorb? depth m bs' = mergeBytes? s.alwaysSized s.absorb? depth m bs := by
  induction h with
  | @between α s depth number front record back boundary wellFormed unknown =>
    obtain ⟨fs, hfs⟩ := boundary.exists_fields (Nat.le_refl depth)
    have hrecord := wellFormed.of_asTold (Schema.alwaysSized_of_not_mem unknown)
    obtain ⟨f, rfl, hf⟩ := hrecord.exists_field (Nat.le_refl depth)
    rw [mergeBytes?, mergeBytes?, hfs, hfs, hf]
    cases readFields? s.alwaysSized depth [] back with
    | none => rfl
    | some gs =>
      simp only [Option.map_some, Option.bind_some, List.foldlM_append, List.foldlM_cons,
        Schema.absorb?_of_not_mem unknown]
      rfl
  | @within α β s inner depth number layout front ks ls ls' bs bs' back boundary holds told key length length' _ ih =>
    obtain ⟨fs, hfs⟩ := boundary.exists_fields (Nat.le_refl (depth + 1))
    have hread {xs ns : List UInt8} (hns : Numeral xs.length ns) := @readFields?_of_field _ _ _ back
      (readItem?_eq_some_iff.2 ⟨_, rfl, .sized told key hns⟩) (depth + 1)
    rw [mergeBytes?, mergeBytes?, hfs, hfs, hread length, hread length']
    cases readFields? s.alwaysSized (depth + 1) [] back with
    | none => rfl
    | some gs =>
      simp only [Option.map_some, Option.bind_some, List.foldlM_append, List.foldlM_cons,
        Schema.absorb?_congr holds ih]

namespace MessageType

/-- **Unknown fields are passed over.** Of every type, bytes that are read as a message are a row of records, and they
are read as the same message with a record put in that is not known where it stands: at any place between two records,
of the message itself or of one at any level within it. -/
theorem decode_inserted (t : MessageType) {bs : List UInt8} {m : t.Value} (h : decode? bs = some m) :
    IsRow (WireMessage.schema : Schema t.Value).alwaysSized maxDepth bs ∧
      ∀ bs', Inserted (WireMessage.schema : Schema t.Value) maxDepth bs bs' → decode? bs' = some m := by
  constructor
  · obtain ⟨fs, hfs, -⟩ := Option.bind_eq_some_iff.1 h
    exact (readFields?_isSome_iff (by decide)).1 (Option.isSome_of_eq_some hfs)
  · intro bs' hbs'
    exact (hbs'.mergeBytes?_eq _).trans h

/-- A group with a number of three bytes for zero and an empty group, between key and value of a fragment's entry. -/
theorem decode_inserted_entry :
    let f : Fragment := { id := "f1", custom := .ofList [("k", "v")] }
    let m : BackupFrame := { dataType := -1, body := some (.metadata { agentId := "a1", fragment := some f }) }
    let unknown : List UInt8 := [key 9 .startGroup, key 1 .varint, [0x80, 0x80, 0x00], key 2 .startGroup,
      key 2 .endGroup, key 9 .endGroup].flatten
    let text (n : Nat) (s : String) : List UInt8 := (⟨n, Scalar.text.payload s⟩ : Field).bytes
    let message (n : Nat) (bs : List UInt8) : List UInt8 := (⟨n, .bytes bs⟩ : Field).bytes ++ []
    let frame (entry : List UInt8) : List UInt8 := (⟨1, .varint 18446744073709551615⟩ : Field).bytes ++
      message 2 (text 1 "a1" ++ message 2 (text 1 "f1" ++ message 4 entry))
    let entry : List UInt8 := text 1 "k" ++ text 2 "v"
    let entry' : List UInt8 := text 1 "k" ++ (unknown ++ text 2 "v")
    decode? (frame entry) = some m ∧ decode? (frame entry') = some m := by
  intro f m unknown text message frame entry entry'
  have hm : decode? (frame entry) = some m := by
    have hframe : frame entry = encode m := by decide +kernel
    rw [hframe]
    exact decode?_of_written backupFrame_faithful (written_encode m) (by decide +kernel)
  have hunknown : Record asTold 97 9 unknown := by
    have hzero : Numeral 0 [0x80, 0x80, 0x00] :=
      ⟨⟨[0x80, 0x80], 0x00, rfl, by decide +kernel, by decide⟩, by decide, rfl, by decide⟩
    have hnumber : Record asTold 96 1 (key 1 .varint ++ [0x80, 0x80, 0x00]) :=
      .plain (.varint rfl (isKey_key (by decide) _) hzero)
    have hempty : Record asTold 96 2 (key 2 .startGroup ++ ([].flatMap Prod.snd ++ key 2 .endGroup)) :=
      .group (.groupStart rfl (isKey_key (by decide) _)) (by simp) (.groupEnd rfl (isKey_key (by decide) _))
    have hgroup : Record asTold 97 9 (key 9 .startGroup ++ ([(1, _), (2, _)].flatMap Prod.snd ++ key 9 .endGroup)) :=
      .group (.groupStart rfl (isKey_key (by decide) _)) (by simpa using ⟨hnumber, hempty⟩)
        (.groupEnd rfl (isKey_key (by decide) _))
    simpa [unknown] using hgroup
  have htext {a : Nat → Bool} {d : Nat} (s : String) (ha : a 1 = false) (hsize : (text 1 s).length < 2 ^ 64) :
      IsRow a (d + 1) (text 1 s) :=
    ((Scalar.text.fits (by decide) ha s).record hsize).isRow
  have hentry : Inserted entrySchema 97 entry entry' :=
    .between (htext "k" rfl (by decide +kernel)) hunknown (by decide)
  have hfragment : Inserted fragmentSchema 98 (text 1 "f1" ++ message 4 entry) (text 1 "f1" ++ message 4 entry') :=
    .within_bytes (htext "f1" rfl (by decide +kernel)) rfl (by decide) (by decide +kernel) (by decide +kernel) hentry
  have hmetadata : Inserted metadataSchema 99 (text 1 "a1" ++ message 2 (text 1 "f1" ++ message 4 entry))
      (text 1 "a1" ++ message 2 (text 1 "f1" ++ message 4 entry')) :=
    .within_bytes (htext "a1" rfl (by decide +kernel)) rfl (by decide) (by decide +kernel) (by decide +kernel) hfragment
  have hfits : (⟨1, .varint 18446744073709551615⟩ : Field).Fits backupFrameSchema.alwaysSized :=
    ⟨by decide, by decide, rfl⟩
  have hcode : IsRow backupFrameSchema.alwaysSized 100 (⟨1, .varint 18446744073709551615⟩ : Field).bytes :=
    (hfits.record (by decide +kernel)).isRow
  exact ⟨hm, (decode_inserted .backupFrame hm).2 _
    (.within_bytes hcode rfl (by decide) (by decide +kernel) (by decide +kernel) hmetadata)⟩

end MessageType

end Custodian.Wire
