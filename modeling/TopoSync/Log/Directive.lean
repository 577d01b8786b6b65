import TopoSync.Log.Level
import TopoSync.Pattern.Form
import TopoSync.Text.Cut

/-!
# Log directives

A directive names a level, or a target, or a target and its level.  Behind the target it may name a
span in brackets, and a field in braces, with or without a value.

Where the parts of a directive end is found in its text without the white space around it, in bytes;
the parts are then cut out of the whole text.  A cut through a character ends the program.
-/

namespace TopoSync

/-- A field that is asked for. -/
structure FieldRule where
  name : List Char
  value : Option (List Char) := none
deriving DecidableEq, Repr

/-- What a directive says. -/
structure Directive where
  /-- What the targets of the events start with. -/
  target : List Char := []
  /-- The name of the span around them. -/
  span : Option (List Char) := none
  field : Option FieldRule := none
  /-- Up to which level they are logged. -/
  level : LogLevel := .trace
deriving DecidableEq, Repr

/-- What is wrong with a directive. -/
inductive DirectiveError
  | unreadable
  /-- A part would end inside of a character. -/
  | splitCharacter
deriving DecidableEq, Repr

namespace FieldRule

/-- Whether a text is a number with a plus sign: infinity, or digits with at most one point among them
and perhaps an exponent. -/
def isPlusNumber : List Char → Bool
  | '+' :: number =>
      let lower := number.map Char.toLower
      if ["inf", "infinity", "nan"].contains (String.ofList lower) then true
      else
        let (whole, rest) := lower.span Char.isDigit
        let (part, rest) := match rest with
          | '.' :: rest => rest.span Char.isDigit
          | rest => ([], rest)
        let exponent := match rest with
          | [] => true
          | 'e' :: '-' :: digits => !digits.isEmpty && digits.all Char.isDigit
          | 'e' :: '+' :: digits => !digits.isEmpty && digits.all Char.isDigit
          | 'e' :: digits => !digits.isEmpty && digits.all Char.isDigit
          | _ => false
        !(whole.isEmpty && part.isEmpty) && exponent
  | _ => false

/-- Whether a text can be the value of a field: a number or a pattern.  A number is a pattern too
unless it has a plus sign. -/
def isValue (text : List Char) : Bool :=
  isPlusNumber text || Pattern.isWellFormed text

/-- A field by its name, with a value behind an equals sign. -/
def ofText? (text : List Char) : Option FieldRule :=
  match text.splitOn '=' with
  | name :: value :: _ => if isValue value then some { name, value := some value } else none
  | name :: [] => some { name }
  | [] => none

end FieldRule

namespace Directive

/-- The part of a directive in which a character stands; a part that opened before the character
starts at a position. -/
inductive Part
  | start
  | target
  | span (opened : Nat)
  | field (opened : Nat)
  | fieldEnd
  | spanEnd
  | level (opened : Nat)
deriving DecidableEq, Repr

/-- A directive of which some characters have been read. -/
structure Draft where
  part : Part := .start
  directive : Directive := {}
deriving DecidableEq, Repr

/-- Whether a target may start with a character. -/
def starts (c : Char) : Bool :=
  c == '-' || c == ':' || c == '_' || Letter.isLetterOrDigit c

/-- A text without the white space around it. -/
def trim (text : List Char) : List Char :=
  ((text.dropWhile Letter.isBlank).reverse.dropWhile Letter.isBlank).reverse

/-- A part of a text. -/
def cut (text : List Char) (start stop : Nat) : Except DirectiveError (List Char) :=
  (Cut.between? text start stop).elim (.error .splitCharacter) .ok

/-- What follows in a text. -/
def cutAfter (text : List Char) (start : Nat) : Except DirectiveError (List Char) :=
  (Cut.after? text start).elim (.error .splitCharacter) .ok

/-- A field in a text that is not empty. -/
def readField (text : List Char) : Except DirectiveError FieldRule :=
  if text.isEmpty then .error .unreadable
  else (FieldRule.ofText? text).elim (.error .unreadable) .ok

/-- The level behind an equals sign; nothing stands for everything. -/
def readLevel (text : List Char) : Except DirectiveError LogLevel :=
  if text.isEmpty then .ok .trace
  else (LogLevel.ofText? text).elim (.error .unreadable) .ok

/-- Goes on to another part. -/
def Draft.goOn (d : Draft) (part : Part) : Except DirectiveError Draft :=
  .ok { d with part }

/-- Reads one character, at a position. -/
def Draft.step (text : List Char) (d : Draft) (i : Nat) (c : Char) : Except DirectiveError Draft :=
  match d.part with
  | .start =>
      if c = '[' then d.goOn (.span (i + 1))
      else if starts c then d.goOn .target
      else .error .unreadable
  | .target =>
      if c = '=' ∨ c = '[' then do
        let target ← cut text 0 i
        return {
          part := if c = '=' then .level (i + 1) else .span (i + 1)
          directive := { d.directive with target } }
      else .ok d
  | .span opened =>
      if c = ']' then do
        let name ← cut text opened i
        return { part := .spanEnd, directive := { d.directive with span := some name } }
      else if c = '\x7b' then do
        let name ← cut text opened i
        let span := if name.isEmpty then none else some name
        return { part := .field (i + 1), directive := { d.directive with span } }
      else .ok d
  | .field opened =>
      if c = '\x7d' then do
        let field ← readField (← cut text opened i)
        return { part := .fieldEnd, directive := { d.directive with field := some field } }
      else .ok d
  | .fieldEnd => if c = ']' then d.goOn .spanEnd else .error .unreadable
  | .spanEnd => if c = '=' then d.goOn (.level (i + 1)) else .error .unreadable
  | .level _ => .ok d

/-- Reads some characters, from a position on. -/
def Draft.advance (text : List Char) : Draft → Nat → List Char → Except DirectiveError Draft
  | d, _, [] => .ok d
  | d, i, c :: rest =>
      match d.step text i c with
      | .error e => .error e
      | .ok d => advance text d (i + c.utf8Size) rest

/-- The directive that has been read.  Without brackets or equals sign it is a level, or else a target
of which everything is logged. -/
def Draft.finish (text : List Char) (d : Draft) : Except DirectiveError Directive :=
  match d.part with
  | .target => .ok <|
      match LogLevel.ofText? text with
      | some level => { level }
      | none => { target := text }
  | .level opened => do
      let level ← readLevel (← cutAfter text opened)
      return { d.directive with level }
  | .spanEnd => .ok d.directive
  | _ => .error .unreadable

/-- Reads a directive. -/
def ofText (text : List Char) : Except DirectiveError Directive :=
  match Draft.advance text {} 0 (trim text) with
  | .error e => .error e
  | .ok d => d.finish text

/-- Whether a directive concerns events wherever they happen and whatever their fields hold. -/
def isGeneral (d : Directive) : Bool :=
  d.span.isNone && d.field.all fun f => f.value.isNone

/-- Whether a directive concerns the events of a target that have the given fields. -/
def concerns (d : Directive) (target : List Char) (fields : List (List Char)) : Bool :=
  d.isGeneral && d.target.isPrefixOf target && d.field.all fun f => fields.contains f.name

/-- Whether a directive says as much about an event as another one. -/
def isAsExact (d other : Directive) : Bool :=
  let size := d.target.length
  let otherSize := other.target.length
  otherSize < size || otherSize == size && (other.field.isNone || d.field.isSome)

end Directive

end TopoSync
