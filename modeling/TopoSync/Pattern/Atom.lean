import TopoSync.Pattern.Mode
import TopoSync.Text.Numeral

/-!
# Atoms of a pattern

An atom is one character of a pattern or an escape: a character that stands for itself, a class of
characters, or a place between characters.
-/

namespace TopoSync

namespace Pattern

/-- A part of a pattern without parts. -/
inductive Atom
  /-- One character, which may be written as the number of a byte. -/
  | char (c : Char) (asByte : Bool)
  /-- Any character. -/
  | any
  /-- The digits, the blanks or the letters, or all others. -/
  | kind (negated : Bool)
  /-- The start or the end of a line or of the text. -/
  | edge
  /-- A place where a word starts or ends, or does not. -/
  | wordEdge
deriving DecidableEq, Repr

namespace Atom

/-- Whether a character outside of brackets can be told. -/
def tellsChar (m : Mode) (c : Char) (asByte : Bool) : Bool :=
  if m.wide then !m.ignoreCase
  else c.toNat < 0x80 || !asByte && !m.ignoreCase

/-- Whether a character inside of brackets can be told. -/
def tellsMember (m : Mode) (c : Char) : Bool :=
  if m.wide then !m.ignoreCase else c.toNat < 0x80

/-- Whether a class of characters can be told: only among the bytes of characters that have one. -/
def tellsKind (m : Mode) (negated : Bool) : Bool :=
  !m.wide && !negated

/-- Whether an atom can stand outside of brackets. -/
def standsAlone (m : Mode) : Atom → Bool
  | char c asByte => tellsChar m c asByte
  | any => m.wide
  | kind negated => tellsKind m negated
  | edge => true
  | wordEdge => !m.wide

/-- Whether an atom can stand inside of brackets. -/
def standsInside (m : Mode) : Atom → Bool
  | char c _ => tellsMember m c
  | kind negated => tellsKind m negated
  | _ => false

/-- Whether two atoms are the ends of a range of characters. -/
def spans (m : Mode) : Atom → Atom → Bool
  | char c _, char d _ => c.toNat ≤ d.toNat && tellsMember m c && tellsMember m d
  | _, _ => false

end Atom

/-- The punctuation that may be escaped: all of it but the angle brackets, which are edges of words. -/
def isMark (c : Char) : Bool :=
  c.toNat < 0x80 && !c.isAlphanum && c != '<' && c != '>'

/-- The control character that a letter stands for. -/
def control? : Char → Option Char
  | 'a' => some '\x07'
  | 't' => some '\t'
  | 'n' => some '\n'
  | 'v' => some '\x0b'
  | 'f' => some '\x0c'
  | 'r' => some '\r'
  | _ => none

/-- A number of a fixed count of hexadecimal digits, which blanks may follow. -/
def readHex (m : Mode) : (count : Nat) → (n : Nat) → List Char → Option (Nat × List Char)
  | 0, n, cs => some (n, cs)
  | _ + 1, _, [] => none
  | count + 1, n, c :: rest =>
      (Numeral.hexValue? c).bind fun d => readHex m count (n * 16 + d) (m.skip rest)

/-- A character by its number. -/
def readCode (m : Mode) (count : Nat) (cs : List Char) : Option (Atom × List Char) :=
  (readHex m count 0 (m.skip cs)).bind fun (n, rest) =>
    if n.isValidChar then some (.char (Char.ofNat n) (count == 2), rest) else none

/-- What stands behind a backslash. -/
def readEscape (m : Mode) : List Char → Option (Atom × List Char)
  | [] => none
  | c :: rest =>
      match c with
      | 'x' => readCode m 2 rest
      | 'u' => readCode m 4 rest
      | 'U' => readCode m 8 rest
      | 'd' | 's' | 'w' => some (.kind false, rest)
      | 'D' | 'S' | 'W' => some (.kind true, rest)
      | 'A' | 'z' => some (.edge, rest)
      | 'b' | 'B' | '<' | '>' => some (.wordEdge, rest)
      | c =>
          if isMark c then some (.char c false, rest)
          else (control? c).map fun c => (.char c false, rest)

/-- One atom outside of brackets. -/
def readAtom (m : Mode) : List Char → Option (Atom × List Char)
  | [] => none
  | '\\' :: rest => readEscape m rest
  | '.' :: rest => some (.any, rest)
  | '^' :: rest => some (.edge, rest)
  | '$' :: rest => some (.edge, rest)
  | c :: rest => some (.char c false, rest)

/-- One atom inside of brackets. -/
def readMember (m : Mode) : List Char → Option (Atom × List Char)
  | [] => none
  | '\\' :: rest => readEscape m rest
  | c :: rest => some (.char c false, rest)

end Pattern

end TopoSync
