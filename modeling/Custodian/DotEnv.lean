import Custodian.Settings
import Custodian.Text.Letters

/-!
# Files of variables

A file of variables has one assignment a line, with quotes, escapes, comments and other variables in the values.
`DotEnv.load?` : an environment with the assignments of a file added; it stops at the first line that cannot be read,
and a variable that is set keeps its value. There is no such environment if a value holds a NUL character.
-/

namespace Custodian.DotEnv

set_option autoImplicit false

/-! ## Lines -/

/-- The bytes of each line, with its line break. -/
def splitLines : List UInt8 → List (List UInt8)
  | [] => []
  | b :: bs =>
    if b = 10 then [b] :: splitLines bs
    else
      match splitLines bs with
      | [] => [[b]]
      | l :: ls => (b :: l) :: ls

/-- Whether a line may end where it is read to. -/
inductive LineState where
  | complete
  | escape
  | single
  | singleEscape
  | double
  | doubleEscape
  | space
deriving DecidableEq, Inhabited

/-- Goes on by one character, from outside quotes. -/
def LineState.outside (c : Char) : LineState :=
  if c = '\\' then .escape else if c = '"' then .double else if c = '\'' then .single else .complete

/-- Goes on by one character. -/
def LineState.next (s : LineState) (c : Char) : LineState :=
  match s with
  | .escape => .complete
  | .space => outside c
  | .complete => if Text.isSpace c ∧ c ≠ '\n' ∧ c ≠ '\r' then .space else outside c
  | .double => if c = '\\' then .doubleEscape else if c = '"' then .complete else .double
  | .doubleEscape => .double
  | .single => if c = '\\' then .singleEscape else if c = '\'' then .complete else .single
  | .singleEscape => .single

/-- Where a physical line leads, and what of it stands before a comment if there is one. A comment starts after white
space. -/
def scan (s : LineState) : List Char → LineState × Option (List Char)
  | [] => (s, none)
  | c :: cs =>
    if s = .space ∧ c = '#' then (s, some [])
    else
      let r := scan (s.next c) cs
      (r.1, r.2.map (c :: ·))

/-- A line without the line break at its end. -/
def dropBreak (cs : List Char) : List Char :=
  match cs.reverse with
  | '\n' :: '\r' :: r => r.reverse
  | '\n' :: r => r.reverse
  | _ => cs

/-- The logical lines, each of one physical line or more: quotes, escapes and white space at its end carry a line on.
`sofar` is what was read of a line in state `s`. Nothing stands for a line that does not end or is no text. -/
def logicalLines (sofar : List Char) (s : LineState) : List (List UInt8) → List (Option (List Char))
  | [] => if s = .complete then [] else [none]
  | l :: ls =>
    match String.fromUTF8? l.toByteArray with
    | none => [none]
    | some text =>
      let all := sofar ++ text.toList
      if (all.dropWhile Text.isSpace).head? = some '#' then some [] :: logicalLines [] .complete ls
      else
        match scan s text.toList with
        | (_, some before) => some (sofar ++ before) :: logicalLines [] .complete ls
        | (.complete, none) => some (dropBreak all) :: logicalLines [] .complete ls
        | (s, none) => logicalLines all s ls

/-! ## Values -/

/-- How the name of another variable is being read. -/
inductive Naming where
  | none
  /-- After a dollar sign. -/
  | bare
  /-- After a dollar sign and a brace. -/
  | braced
deriving DecidableEq, Inhabited

/-- Where the reading of a value stands; texts are kept backwards. -/
structure ValueState where
  single : Bool := false
  double : Bool := false
  escaped : Bool := false
  ending : Bool := false
  naming : Naming := .none
  name : List Char := []
  output : List Char := []

namespace ValueState

/-- The value of a variable. What stands after an equals sign in a name is the start of the value, up to a second such
sign, and the rest of it is meant. -/
def lookUp (env : Environment) (name : List Char) : Option String :=
  match name.dropWhile (· ≠ '=') with
  | [] => env (String.ofList name)
  | _ :: start =>
    match env (String.ofList (name.takeWhile (· ≠ '='))) with
    | some v =>
      if (start ++ ['=']).isPrefixOf v.toList then some (String.ofList (v.toList.drop (start.length + 1))) else none
    | none => none

/-- Puts the value of the variable whose name was read into the output. -/
def substitute (env : Environment) (s : ValueState) : ValueState :=
  let value := (lookUp env s.name.reverse).getD ""
  { s with name := [], naming := .none, output := value.toList.reverse ++ s.output }

/-- Appends a character. -/
def push (s : ValueState) (c : Char) : ValueState := { s with output := c :: s.output }

/-- Goes on by one character; nothing if it cannot stand there. -/
def next (env : Environment) (s : ValueState) (c : Char) : Option ValueState :=
  if s.ending then if c = ' ' ∨ c = '\t' then some s else none
  else if s.escaped then
    let s := { s with escaped := false }
    if c = '\\' ∨ c = '\'' ∨ c = '"' ∨ c = '$' ∨ c = ' ' then some (s.push c)
    else if c = 'n' then some (s.push '\n')
    else none
  else if s.single then if c = '\'' then some { s with single := false } else some (s.push c)
  else if s.naming ≠ .none ∧ Text.isAlphanumeric c then some { s with name := c :: s.name }
  else if s.naming = .bare then
    if c = '\x7b' ∧ s.name = [] then some { s with naming := .braced }
    else
      let s := s.substitute env
      if c = '$' then some { s with naming := .bare } else some (s.push c)
  else if s.naming = .braced then
    if c = '\x7d' then some (s.substitute env) else some { s with name := c :: s.name }
  else if c = '$' then some { s with naming := .bare }
  else if s.double then
    if c = '"' then some { s with double := false }
    else if c = '\\' then some { s with escaped := true }
    else some (s.push c)
  else if c = '\'' then some { s with single := true }
  else if c = '"' then some { s with double := true }
  else if c = '\\' then some { s with escaped := true }
  else if c = ' ' ∨ c = '\t' then some { s with ending := true }
  else some (s.push c)

/-- The value that was read, unless a quote or brace is open. -/
def value? (env : Environment) (s : ValueState) : Option String :=
  if s.naming = .braced ∨ s.single ∨ s.double then none
  else some (String.ofList (s.substitute env).output.reverse)

end ValueState

/-- Reads the characters of a value; after white space only a comment may follow. -/
def readValue (env : Environment) (s : ValueState) : List Char → Option String
  | [] => s.value? env
  | c :: cs =>
    if s.ending ∧ c = '#' then s.value? env
    else
      match s.next env c with
      | none => none
      | some s => readValue env s cs

/-! ## Assignments -/

/-- What a line says. -/
inductive Line where
  | nothing
  | assignment (key value : String)
  | bad
deriving DecidableEq, Inhabited

/-- The name at the start of characters, and what follows it. -/
def key? (cs : List Char) : Option (List Char × List Char) :=
  match cs with
  | [] => none
  | c :: _ =>
    if c.isAlpha ∨ c = '_' then
      let isKey := fun c : Char => c.isAlphanum || c = '_' || c = '.'
      some (cs.takeWhile isKey, cs.dropWhile isKey)
    else none

/-- The name before the equals sign, and what follows the sign. The word `export` may stand before the name. -/
def target? (cs : List Char) : Option (List Char × List Char) :=
  match key? cs with
  | none => none
  | some (k, r) =>
    match r.dropWhile Text.isSpace with
    | '=' :: r => some (k, r)
    | r =>
      if k = "export".toList then
        match key? r with
        | none => none
        | some (k, r) =>
          match r.dropWhile Text.isSpace with
          | '=' :: r => some (k, r)
          | _ => none
      else none

/-- Reads a line. -/
def readLine (env : Environment) (line : List Char) : Line :=
  let cs := Text.trimChars line
  if cs.isEmpty ∨ cs.head? = some '#' then .nothing
  else
    match target? cs with
    | none => .bad
    | some (k, r) =>
      let r := r.dropWhile Text.isSpace
      if r.isEmpty ∨ r.head? = some '#' then .assignment (String.ofList k) ""
      else
        match readValue env {} r with
        | some v => .assignment (String.ofList k) v
        | none => .bad

/-- An environment with one more variable, unless it is set. No variable can hold a NUL character. -/
def assign? (env : Environment) (key value : String) : Option Environment :=
  if (env key).isSome then some env
  else if value.toList.contains '\x00' then none
  else some fun k => if k = key then some value else env k

/-- Adds the assignments of lines up to the first that cannot be read. -/
def loadLines? (env : Environment) : List (Option (List Char)) → Option Environment
  | [] => some env
  | none :: _ => some env
  | some l :: ls =>
    match readLine env l with
    | .nothing => loadLines? env ls
    | .assignment k v => (assign? env k v).bind (loadLines? · ls)
    | .bad => some env

/-- Bytes without the mark of their encoding. -/
def skipMark (bytes : List UInt8) : List UInt8 :=
  match bytes with
  | 0xEF :: 0xBB :: 0xBF :: r => r
  | r => r

/-- An environment with the assignments of a file. -/
def load? (env : Environment) (file : ByteArray) : Option Environment :=
  loadLines? env (logicalLines [] .complete (splitLines (skipMark file.toList)))

end Custodian.DotEnv
