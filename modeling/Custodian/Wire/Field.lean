/-!
# Fields on the wire

A message is written as a row of fields, each a number and a payload. `varint` and `readVarint?` write and read
numbers of seven bits a byte, lowest first; `Field.bytes` writes a field and `readFields?` takes a row of bytes apart.
`varintSize`, `keySize` and `sizedSize` tell sizes without writing.
Groups and fixed-width payloads are read past, as no message has them.
-/

namespace Custodian.Wire

set_option autoImplicit false

/-! ## Numbers -/

/-- A number in bytes of seven bits, the lowest first; every byte but the last has its top bit set. -/
def varint (n : Nat) : List UInt8 :=
  if n < 128 then [n.toUInt8] else (128 + n % 128).toUInt8 :: varint (n / 128)

/-- How many bytes a number of up to 64 bits takes, from the place of its highest bit. -/
def varintSize (n : Nat) : Nat := (9 * n.log2 + 73) / 64

/-- Reads a number of at most `limit` bytes and gives what follows it. The last byte that the limit allows may only
hold one bit, so ten bytes give a number below `2 ^ 64`. -/
def readDigits? : Nat → List UInt8 → Option (Nat × List UInt8)
  | 0, _ => none
  | _, [] => none
  | limit + 1, b :: bs =>
    if b < 128 then if limit = 0 ∧ 2 ≤ b then none else some (b.toNat, bs)
    else (readDigits? limit bs).map fun r => (b.toNat - 128 + 128 * r.1, r.2)

/-- Reads a number of up to 64 bits. -/
def readVarint? (bs : List UInt8) : Option (Nat × List UInt8) := readDigits? 10 bs

theorem readDigits?_shortens {limit : Nat} {bs : List UInt8} {r : Nat × List UInt8}
    (h : readDigits? limit bs = some r) : r.2.length < bs.length := by
  induction limit generalizing bs r with
  | zero => simp [readDigits?] at h
  | succ limit ih =>
    cases bs with
    | nil => simp [readDigits?] at h
    | cons b bs =>
      unfold readDigits? at h
      split at h
      · split at h
        · simp at h
        · obtain rfl := Option.some.inj h
          simp
      · obtain ⟨q, hq, rfl⟩ := Option.map_eq_some_iff.1 h
        exact Nat.lt_succ_of_lt (ih (r := q) hq)

theorem readVarint?_shortens {bs : List UInt8} {r : Nat × List UInt8} (h : readVarint? bs = some r) :
    r.2.length < bs.length := readDigits?_shortens h

/-! ## Fields -/

/-- What a field holds. -/
inductive Payload where
  | varint (n : Nat)
  | bytes (bs : List UInt8)
  /-- A payload of fixed width, or a group. -/
  | passed
deriving DecidableEq, Inhabited

/-- A numbered field of a message. -/
structure Field where
  number : Nat
  payload : Payload
deriving DecidableEq, Inhabited

/-- How a payload is laid out. -/
inductive Layout where
  | varint
  | fixed64
  | sized
  | startGroup
  | endGroup
  | fixed32
deriving DecidableEq, Inhabited

namespace Layout

/-- The three bits that stand for a layout. -/
def code : Layout → Nat
  | .varint => 0
  | .fixed64 => 1
  | .sized => 2
  | .startGroup => 3
  | .endGroup => 4
  | .fixed32 => 5

/-- The layout that three bits stand for; two patterns have no meaning. -/
def ofCode? : Nat → Option Layout
  | 0 => some .varint
  | 1 => some .fixed64
  | 2 => some .sized
  | 3 => some .startGroup
  | 4 => some .endGroup
  | 5 => some .fixed32
  | _ => none

theorem ofCode?_code (l : Layout) : ofCode? l.code = some l := by cases l <;> rfl

end Layout

/-- The bytes in front of a payload. -/
def key (number : Nat) (layout : Layout) : List UInt8 := varint (8 * number + layout.code)

/-- Whether a field can have a number. -/
def isNumber (n : Nat) : Bool := 1 ≤ n && n < 536870912

/-- How many bytes stand in front of a payload. -/
def keySize (number : Nat) : Nat := varintSize (8 * number)

/-- Reads a field's number and layout: at most 32 bits, and the number is not zero. -/
def readKey? (bs : List UInt8) : Option ((Nat × Layout) × List UInt8) :=
  match readVarint? bs with
  | none => none
  | some (n, r) =>
    if n < 4294967296 ∧ 8 ≤ n then (Layout.ofCode? (n % 8)).map fun l => ((n / 8, l), r) else none

theorem readKey?_shortens {bs : List UInt8} {r : (Nat × Layout) × List UInt8} (h : readKey? bs = some r) :
    r.2.length < bs.length := by
  unfold readKey? at h
  split at h
  · simp at h
  · rename_i n q hq
    split at h
    · obtain ⟨l, _, rfl⟩ := Option.map_eq_some_iff.1 h
      exact readVarint?_shortens hq
    · simp at h

/-- Takes `n` bytes off the front, if there are so many. -/
def splitBytes? (n : Nat) (bs : List UInt8) : Option (List UInt8 × List UInt8) :=
  if n ≤ bs.length then some (bs.splitAt n) else none

theorem splitBytes?_length {n : Nat} {bs : List UInt8} {r : List UInt8 × List UInt8}
    (h : splitBytes? n bs = some r) : r.2.length ≤ bs.length := by
  unfold splitBytes? at h
  split at h
  · obtain rfl := Option.some.inj h
    simp [List.splitAt_eq]
  · simp at h

/-- One thing that stands in a row of fields. -/
inductive Item where
  | field (f : Field)
  | groupStart (number : Nat)
  | groupEnd (number : Nat)
deriving DecidableEq, Inhabited

/-- Reads a payload that tells its own size. -/
def readSized? (bs : List UInt8) : Option (List UInt8 × List UInt8) :=
  (readVarint? bs).bind fun r => splitBytes? r.1 r.2

/-- Reads what follows a key. -/
def readItemBody? (number : Nat) (layout : Layout) (bs : List UInt8) : Option (Item × List UInt8) :=
  match layout with
  | .varint => (readVarint? bs).map fun r => (.field ⟨number, .varint r.1⟩, r.2)
  | .fixed64 => (splitBytes? 8 bs).map fun r => (.field ⟨number, .passed⟩, r.2)
  | .fixed32 => (splitBytes? 4 bs).map fun r => (.field ⟨number, .passed⟩, r.2)
  | .sized => (readSized? bs).map fun r => (.field ⟨number, .bytes r.1⟩, r.2)
  | .startGroup => some (.groupStart number, bs)
  | .endGroup => some (.groupEnd number, bs)

/-- Reads one item. Numbers for which `alwaysSized` holds are read as sized, whatever layout their key tells. -/
def readItem? (alwaysSized : Nat → Bool) (bs : List UInt8) : Option (Item × List UInt8) :=
  (readKey? bs).bind fun k =>
    readItemBody? k.1.1 (if alwaysSized k.1.1 then .sized else k.1.2) k.2

theorem readSized?_length {bs : List UInt8} {r : List UInt8 × List UInt8} (h : readSized? bs = some r) :
    r.2.length ≤ bs.length := by
  obtain ⟨q, hq, h⟩ := Option.bind_eq_some_iff.1 h
  exact Nat.le_trans (splitBytes?_length h) (Nat.le_of_lt (readVarint?_shortens hq))

theorem readItemBody?_length {number : Nat} {layout : Layout} {bs : List UInt8} {r : Item × List UInt8}
    (h : readItemBody? number layout bs = some r) : r.2.length ≤ bs.length := by
  cases layout <;> simp only [readItemBody?, Option.map_eq_some_iff, Option.some.injEq] at h
  case varint => obtain ⟨q, hq, rfl⟩ := h; exact Nat.le_of_lt (readVarint?_shortens hq)
  case fixed64 => obtain ⟨q, hq, rfl⟩ := h; exact splitBytes?_length hq
  case fixed32 => obtain ⟨q, hq, rfl⟩ := h; exact splitBytes?_length hq
  case sized => obtain ⟨q, hq, rfl⟩ := h; exact readSized?_length hq
  case startGroup => subst h; exact Nat.le_refl _
  case endGroup => subst h; exact Nat.le_refl _

theorem readItem?_shortens {alwaysSized : Nat → Bool} {bs : List UInt8} {r : Item × List UInt8}
    (h : readItem? alwaysSized bs = some r) : r.2.length < bs.length := by
  obtain ⟨k, hk, h⟩ := Option.bind_eq_some_iff.1 h
  exact Nat.lt_of_le_of_lt (readItemBody?_length h) (readKey?_shortens hk)

/-- Reads fields to the end of the bytes. `groups` are the numbers of the groups that are open, the innermost first;
what stands inside a group is read past, each group ends with its own number, and items stand at most `depth` deep. -/
def readFields? (alwaysSized : Nat → Bool) (depth : Nat) (groups : List Nat) (bs : List UInt8) :
    Option (List Field) :=
  if bs.isEmpty then if groups.isEmpty then some [] else none
  else
    match h : readItem? (fun n => groups.isEmpty && alwaysSized n) bs with
    | none => none
    | some (item, rest) =>
      have : rest.length < bs.length := readItem?_shortens h
      match item, groups with
      | .field f, [] => (readFields? alwaysSized depth [] rest).map (f :: ·)
      | .field _, g :: outer =>
        if outer.length + 1 < depth then readFields? alwaysSized depth (g :: outer) rest else none
      | .groupStart n, groups =>
        if groups.length < depth then readFields? alwaysSized depth (n :: groups) rest else none
      | .groupEnd _, [] => none
      | .groupEnd n, g :: outer =>
        if g ≠ n then none
        else if outer.isEmpty then (readFields? alwaysSized depth [] rest).map (⟨n, .passed⟩ :: ·)
        else readFields? alwaysSized depth outer rest
termination_by bs.length

/-! ## Writing -/

/-- A payload that tells its own size. -/
def sized (bs : List UInt8) : List UInt8 := varint bs.length ++ bs

/-- How many bytes a payload of `n` bytes takes that tells its own size. -/
def sizedSize (n : Nat) : Nat := varintSize n + n

/-- The bytes of a field; a payload that was read past has none. -/
def Field.bytes (f : Field) : List UInt8 :=
  match f.payload with
  | .varint n => key f.number .varint ++ varint n
  | .bytes bs => key f.number .sized ++ sized bs
  | .passed => []

/-- The bytes of a row of fields. -/
def fieldBytes (fs : List Field) : List UInt8 := fs.flatMap Field.bytes

end Custodian.Wire
