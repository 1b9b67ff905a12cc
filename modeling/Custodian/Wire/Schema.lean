import Custodian.Message.Dict
import Custodian.Wire.Field

/-!
# Schemas of messages

A `Schema` lists the fields of a type of message, each with the `Slot` of the record that its value is kept in: scalars,
messages that may be absent, rows of messages and dictionaries. The members of a choice are messages that are kept in
one place. `Schema.fields` writes a message and `Schema.absorb?` reads a field into one; `Schema.encodedLength` tells
the size of a message without writing it. Fields that hold their default are not written; fields with an unknown number
change nothing; a message that comes again is merged into the one before.
-/

namespace Custodian.Wire

set_option autoImplicit false

/-! ## Scalars -/

/-- The kinds of values that a field holds by itself. -/
inductive Scalar : Type → Type where
  | text : Scalar String
  | raw : Scalar ByteArray
  | code : Scalar Int32
  | flag : Scalar Bool

namespace Scalar
variable {β : Type}

/-- The value that stands for a field which is not written. -/
def blank : Scalar β → β
  | text => ""
  | raw => .empty
  | code => 0
  | flag => false

/-- Whether a value is left out. -/
def isBlank : Scalar β → β → Bool
  | text, s => s = ""
  | raw, b => b.size = 0
  | code, c => c = 0
  | flag, b => !b

/-- What a field holds; negative codes are written in 64 bits. -/
def payload : Scalar β → β → Payload
  | text, s => .bytes s.toUTF8.toList
  | raw, b => .bytes b.toList
  | code, c => .varint c.toInt64.toUInt64.toNat
  | flag, b => .varint b.toNat

/-- The value that a field holds; of a code the lowest 32 bits count. -/
def read? : Scalar β → Payload → Option β
  | text, .bytes bs => String.fromUTF8? bs.toByteArray
  | raw, .bytes bs => some bs.toByteArray
  | code, .varint n => some n.toUInt32.toInt32
  | flag, .varint n => some (n ≠ 0)
  | _, _ => none

/-- How many bytes a payload takes. -/
def payloadSize : Scalar β → β → Nat
  | text, s => sizedSize s.utf8ByteSize
  | raw, b => sizedSize b.size
  | code, c => varintSize c.toInt64.toUInt64.toNat
  | flag, _ => 1

/-- The field with a value, unless it is left out. -/
def fields (kind : Scalar β) (number : Nat) (x : β) : List Field :=
  if kind.isBlank x then [] else [⟨number, kind.payload x⟩]

/-- How many bytes a field takes. -/
def size (kind : Scalar β) (number : Nat) (x : β) : Nat :=
  if kind.isBlank x then 0 else keySize number + kind.payloadSize x

end Scalar

/-! ## Schemas -/

/-- A place in a record. -/
structure Slot (α β : Type) where
  get : α → β
  set : β → α → α
  get_set : ∀ x m, get (set x m) = x := by intros; rfl
  set_set : ∀ x y m, set x (set y m) = set x m := by intros; rfl
  set_get : ∀ m, set (get m) m = m := by intros; rfl

/-- The fields of a type of message in the order in which they are written, and the message without fields. -/
inductive Schema : Type → Type 1 where
  | done {α : Type} (blank : α) : Schema α
  | scalar {α β : Type} (number : Nat) (kind : Scalar β) (slot : Slot α β) (rest : Schema α) : Schema α
  | message {α β : Type} (number : Nat) (inner : Schema β) (get? : α → Option β) (set : β → α → α)
    (rest : Schema α) : Schema α
  | row {α β : Type} (number : Nat) (inner : Schema β) (slot : Slot α (List β)) (rest : Schema α) : Schema α
  | dict {α : Type} (number : Nat) (entry : Schema (String × String)) (slot : Slot α Dict) (rest : Schema α) : Schema α

/-- A field with a message, given the fields of the message. -/
def messageField (number : Nat) (fs : List Field) : Field := ⟨number, .bytes (fieldBytes fs)⟩

/-- How many bytes fields with messages take, given the sizes of the messages. -/
def messagesSize {β : Type} (number : Nat) (size : β → Nat) (xs : List β) : Nat :=
  xs.foldr (fun x n => keySize number + sizedSize (size x) + n) 0

/-- Merges the fields in some bytes into a message. Below `depth` further levels of messages and groups nothing is
read. -/
def mergeBytes? {α : Type} (alwaysSized : Nat → Bool) (absorb? : Nat → α → Field → Option α) (depth : Nat) (m : α)
    (bs : List UInt8) : Option α :=
  (readFields? alwaysSized depth [] bs).bind fun fs => fs.foldlM (absorb? depth) m

/-- Merges a field that holds a message into `m`. -/
def mergeField? {α : Type} (alwaysSized : Nat → Bool) (absorb? : Nat → α → Field → Option α) (depth : Nat) (m : α)
    (f : Field) : Option α :=
  match depth, f.payload with
  | depth + 1, .bytes bs => mergeBytes? alwaysSized absorb? depth m bs
  | _, _ => none

namespace Schema

/-- The message without fields. -/
def blank : {α : Type} → Schema α → α
  | _, done blank => blank
  | _, scalar _ _ _ rest | _, message _ _ _ _ rest | _, row _ _ _ rest | _, dict _ _ _ rest => rest.blank

/-- The numbers of the fields. -/
def numbers : {α : Type} → Schema α → List Nat
  | _, done _ => []
  | _, scalar n _ _ rest | _, message n _ _ _ rest | _, row n _ _ rest | _, dict n _ _ rest => n :: rest.numbers

/-- Whether the numbers of the fields are valid and differ, at every level. -/
def isValid : {α : Type} → Schema α → Bool
  | _, done _ => true
  | _, scalar n _ _ rest => isNumber n && n ∉ rest.numbers && rest.isValid
  | _, message n inner _ _ rest => isNumber n && n ∉ rest.numbers && inner.isValid && rest.isValid
  | _, row n inner _ rest => isNumber n && n ∉ rest.numbers && inner.isValid && rest.isValid
  | _, dict n entry _ rest => isNumber n && n ∉ rest.numbers && entry.isValid && rest.isValid

/-- How many levels of messages there are below a message. -/
def levels : {α : Type} → Schema α → Nat
  | _, done _ => 0
  | _, scalar _ _ _ rest => rest.levels
  | _, message _ inner _ _ rest => max (inner.levels + 1) rest.levels
  | _, row _ inner _ rest => max (inner.levels + 1) rest.levels
  | _, dict _ entry _ rest => max (entry.levels + 1) rest.levels

/-- The fields of a message. -/
def fields : {α : Type} → Schema α → α → List Field
  | _, done _, _ => []
  | _, scalar n kind slot rest, m => kind.fields n (slot.get m) ++ rest.fields m
  | _, message n inner get? _ rest, m =>
    (get? m).toList.map (fun x => messageField n (inner.fields x)) ++ rest.fields m
  | _, row n inner slot rest, m => (slot.get m).map (fun x => messageField n (inner.fields x)) ++ rest.fields m
  | _, dict n entry slot rest, m =>
    (slot.get m).entries.map (fun e => messageField n (entry.fields e)) ++ rest.fields m

/-- How many bytes a message takes. -/
def encodedLength : {α : Type} → Schema α → α → Nat
  | _, done _, _ => 0
  | _, scalar n kind slot rest, m => kind.size n (slot.get m) + rest.encodedLength m
  | _, message n inner get? _ rest, m => messagesSize n inner.encodedLength (get? m).toList + rest.encodedLength m
  | _, row n inner slot rest, m => messagesSize n inner.encodedLength (slot.get m) + rest.encodedLength m
  | _, dict n entry slot rest, m => messagesSize n entry.encodedLength (slot.get m).entries + rest.encodedLength m

/-- Numbers of fields that are read as sized, whatever layout their key tells: those of dictionaries. -/
def alwaysSized : {α : Type} → Schema α → Nat → Bool
  | _, done _, _ => false
  | _, scalar _ _ _ rest, n | _, message _ _ _ _ rest, n | _, row _ _ _ rest, n => rest.alwaysSized n
  | _, dict number _ _ rest, n => n = number || rest.alwaysSized n

/-- Reads a field into a message. -/
def absorb? : {α : Type} → Schema α → Nat → α → Field → Option α
  | _, done _, _, m, _ => some m
  | _, scalar n kind slot rest, depth, m, f =>
    if f.number = n then (kind.read? f.payload).map fun x => slot.set x m else rest.absorb? depth m f
  | _, message n inner get? set rest, depth, m, f =>
    if f.number = n then
      (mergeField? inner.alwaysSized inner.absorb? depth ((get? m).getD inner.blank) f).map fun x => set x m
    else rest.absorb? depth m f
  | _, row n inner slot rest, depth, m, f =>
    if f.number = n then
      (mergeField? inner.alwaysSized inner.absorb? depth inner.blank f).map fun x => slot.set (slot.get m ++ [x]) m
    else rest.absorb? depth m f
  | _, dict n entry slot rest, depth, m, f =>
    if f.number = n then
      (mergeField? entry.alwaysSized entry.absorb? depth entry.blank f).map fun e =>
        slot.set ((slot.get m).insert e.1 e.2) m
    else rest.absorb? depth m f

end Schema

/-! ## Types of messages -/

/-- How many levels of messages and groups are read. -/
def maxDepth : Nat := 100

/-- A type of message. -/
class WireMessage (α : Type) where
  schema : Schema α
  valid : schema.isValid = true := by rfl
  shallow : schema.levels ≤ maxDepth := by decide

section
variable {α : Type} [WireMessage α]

/-- The bytes of a message. -/
def encode (m : α) : List UInt8 := fieldBytes (WireMessage.schema.fields m)

/-- How many bytes a message takes. -/
def encodedLength (m : α) : Nat := WireMessage.schema.encodedLength m

/-- The message in some bytes. -/
def decode? (bs : List UInt8) : Option α :=
  let s : Schema α := WireMessage.schema
  mergeBytes? s.alwaysSized s.absorb? maxDepth s.blank bs

end

end Custodian.Wire
