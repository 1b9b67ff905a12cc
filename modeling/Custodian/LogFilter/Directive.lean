import Custodian.Text.Blank
import Custodian.Text.Cut
import Custodian.Text.Letters
import Custodian.Text.Number

/-!
# Log directives

`Directive` : a level, for all targets or for those that begin with a given one. `Directive.parse` reads one.
`Directive.applies` : which targets it speaks of. `Directive.Outranks` : which of two is about less.
-/

namespace Custodian

set_option autoImplicit false

/-- How much is logged. -/
inductive LogLevel where
  | off
  | error
  | warn
  | info
  | debug
  | trace
deriving DecidableEq, Inhabited

namespace LogLevel

/-- The levels by number. -/
def all : List LogLevel := [.off, .error, .warn, .info, .debug, .trace]

/-- The name of a level. -/
def name : LogLevel → String
  | .off => "off"
  | .error => "error"
  | .warn => "warn"
  | .info => "info"
  | .debug => "debug"
  | .trace => "trace"

/-- Numbers are below this bound. -/
def numberBound : Nat := 18446744073709551616

/-- A level by its number, or by its name in any case of letters; nothing at all stands for errors. -/
def parse? (cs : List Char) : Option LogLevel :=
  match (Text.readNat numberBound (String.ofList cs)).bind (all[·]?) with
  | some l => some l
  | none =>
    if cs.isEmpty then some .error
    else all.find? fun l => l.name.toList = cs.map Char.toLower

end LogLevel

/-- What is enabled where. A directive that is `narrow` is about spans, or about values of fields, and says nothing of a
target as such. One that only names fields does. -/
structure Directive where
  level : LogLevel := .trace
  target : Option String := none
  fields : List String := []
  narrow : Bool := false
deriving DecidableEq, Inhabited

/-- Why a text gives no directive. -/
inductive Misreading where
  /-- It is not written as one. -/
  | malformed
  /-- It has something else where its level should be. -/
  | noLevel
  /-- A word of it would be cut within a character. Who reads it breaks down. -/
  | miscut
deriving DecidableEq

/-- What is said of a text that gives no directive. -/
def Misreading.message : Misreading → String
  | .malformed => "invalid filter directive"
  | .noLevel =>
    "error parsing level filter: expected one of " ++
      String.join (LogLevel.all.map fun l => "\"" ++ l.name ++ "\", ") ++ "or a number 0-5"
  | .miscut => "not at the end of a character"

namespace Directive

/-- Where the reading of a directive stands, with the places where words begin. -/
inductive ReadState where
  | start
  | levelOrTarget (k : Nat)
  | span (k : Nat)
  | field (k : Nat)
  | fields
  | target
  | level (k : Nat)
  | complete

/-- The word from one place to before another. -/
def word (text : List Char) (i j : Nat) : Except Misreading (List Char) :=
  match Text.slice text i j with
  | some cs => .ok cs
  | none => .error .miscut

/-- The word from a place on. -/
def lastWord (text : List Char) (i : Nat) : Except Misreading (List Char) :=
  match Text.dropBytes i text with
  | some cs => .ok cs
  | none => .error .miscut

/-- A directive of one word: a level, or else a target with every level. -/
def ofWord (d : Directive) (cs : List Char) : Directive :=
  match LogLevel.parse? cs with
  | some l => { d with level := l, target := none }
  | none => { d with level := .trace, target := some (String.ofList cs) }

/-- With the level after an equals sign; nothing stands for every level. -/
def withLevel (d : Directive) (cs : List Char) : Except Misreading Directive :=
  match if cs.isEmpty then some .trace else LogLevel.parse? cs with
  | some l => .ok { d with level := l }
  | none => .error .noLevel

/-- With a target. -/
def withTarget (d : Directive) (cs : List Char) : Directive := { d with target := some (String.ofList cs) }

/-- With one more field, by its name or with a value after an equals sign. -/
def withField (d : Directive) (cs : List Char) : Except Misreading Directive :=
  if cs.isEmpty then .error .malformed
  else
    .ok { d with
      fields := d.fields ++ [String.ofList (cs.takeWhile (· ≠ '='))]
      narrow := d.narrow || cs.contains '=' }

/-- Goes on by the character at byte `i`. Words are cut out of `text`. -/
def readChar (text : List Char) (i : Nat) (c : Char) (s : ReadState) (d : Directive) :
    Except Misreading (ReadState × Directive) :=
  match s with
  | .start =>
    if c = '[' then return (.span (i + 1), d)
    else if c = '-' ∨ c = ':' ∨ c = '_' ∨ Text.isAlphanumeric c then return (.levelOrTarget i, d)
    else throw .malformed
  | .levelOrTarget k =>
    if c = '=' then return (.level (i + 1), d.withTarget (← word text k i))
    else if c = '[' then return (.span (i + 1), d.withTarget (← word text k i))
    else if c = ',' then return (.complete, d.ofWord (← lastWord text k))
    else return (.levelOrTarget k, d)
  | .span k => do
    if c = ']' then
      let _ ← word text k i
      return (.target, { d with narrow := true })
    else if c = '\x7b' then
      let name ← word text k i
      return (.field (i + 1), { d with narrow := !name.isEmpty })
    else return (.span k, d)
  | .field k =>
    if c = '\x7d' then return (.fields, ← d.withField (← word text k i))
    else if c = ',' then return (.field (i + 1), ← d.withField (← word text k i))
    else return (.field k, d)
  | .fields => if c = ']' then return (.target, d) else throw .malformed
  | .target => if c = '=' then return (.level (i + 1), d) else throw .malformed
  | .level k =>
    if c = ',' then return (.complete, ← d.withLevel (← word text k i))
    else return (.level k, d)
  | .complete => throw .malformed

/-- Reads the characters from byte `i` on. -/
def readFrom (text : List Char) : Nat → List Char → ReadState → Directive → Except Misreading Directive
  | _, [], s, d =>
    match s with
    | .levelOrTarget k => return d.ofWord (← lastWord text k)
    | .level k => do d.withLevel (← lastWord text k)
    | .target | .complete => return d
    | .start | .span _ | .field _ | .fields => throw .malformed
  | i, c :: cs, s, d => do
    let (s, d) ← readChar text i c s d
    readFrom text (i + c.utf8Size) cs s d

/-- Reads a directive. White space around it is not read, but places are counted without it and words are cut out with
it, so that only a directive without such space means what it says. -/
def parse (text : String) : Except Misreading Directive :=
  readFrom text.toList 0 (Text.trimChars text.toList) .start {}

/-- Whether a directive speaks of a target. -/
def applies (d : Directive) (target : String) : Bool :=
  !d.narrow && match d.target with
    | none => true
    | some t => t.toList.isPrefixOf target.toList

/-- Whether two directives are about the same, so that one takes the place of the other. -/
def sameScope (d e : Directive) : Bool := d.target = e.target ∧ d.fields = e.fields ∧ d.narrow = e.narrow

/-- How closely a directive describes its target. -/
def targetSize (d : Directive) : Nat :=
  match d.target with
  | none => 0
  | some t => t.utf8ByteSize + 1

/-- Whether a directive decides before another on what both speak of: its target is longer, or else it names more
fields, or else fields that come later in the order of text. -/
def Outranks (d e : Directive) : Prop :=
  e.targetSize < d.targetSize ∨
    e.targetSize = d.targetSize ∧ (e.fields.length < d.fields.length ∨
      e.fields.length = d.fields.length ∧ e.fields < d.fields)

instance (d e : Directive) : Decidable (d.Outranks e) := by unfold Outranks; infer_instance

end Directive

end Custodian
