import TopoSync.Text.Letter

/-!
# Modes of a pattern

How the characters of a pattern are read may change inside of it: blanks and comments may be skipped,
and what the pattern stands for may be characters or bytes, with or without regard to case.
-/

namespace TopoSync

namespace Pattern

/-- How a part of a pattern is read. -/
structure Mode where
  /-- Whether it stands for characters of all scripts; otherwise it stands for bytes. -/
  wide : Bool := true
  ignoreCase : Bool := false
  /-- Whether blanks and comments are skipped. -/
  spaced : Bool := false
deriving DecidableEq, Repr

/-- A pattern without the blanks and comments in front; a comment reaches to the end of its line. -/
def dropBlanks : (comment : Bool) → List Char → List Char
  | _, [] => []
  | true, c :: rest => dropBlanks (c != '\n') rest
  | false, c :: rest =>
      if Letter.isBlank c then dropBlanks false rest
      else if c == '#' then dropBlanks true rest
      else c :: rest

theorem length_dropBlanks_le (comment : Bool) (cs : List Char) :
    (dropBlanks comment cs).length ≤ cs.length := by
  induction cs generalizing comment with
  | nil => simp [dropBlanks]
  | cons c rest ih =>
      cases comment with
      | true =>
          simp only [dropBlanks, List.length_cons]
          exact Nat.le_succ_of_le (ih _)
      | false =>
          simp only [dropBlanks]
          split
          · exact Nat.le_succ_of_le (ih _)
          · split
            · exact Nat.le_succ_of_le (ih _)
            · exact Nat.le_refl _

/-- The character that is looked at beyond the next one, where blanks are skipped.  A number sign is
passed over once, and all blanks are; if nothing else follows it is the next character itself. -/
def glimpseFrom : (passed : Bool) → List Char → Option Char
  | _, [] => none
  | passed, c :: rest =>
      if Letter.isBlank c then glimpseFrom passed rest
      else if c == '#' && !passed then glimpseFrom true rest
      else some c

namespace Mode

/-- A pattern from the next character that means something. -/
def skip (m : Mode) (cs : List Char) : List Char :=
  if m.spaced then dropBlanks false cs else cs

theorem length_skip_le (m : Mode) (cs : List Char) : (m.skip cs).length ≤ cs.length := by
  unfold skip
  split
  · exact length_dropBlanks_le false cs
  · exact Nat.le_refl _

/-- The character that is looked at before the next one is taken. -/
def glimpse (m : Mode) (cs : List Char) : Option Char :=
  if m.spaced then (glimpseFrom false cs).or cs.head? else cs.head?

/-- The letters that change a mode, and the sign that turns them off. -/
def signs : List Char :=
  ['i', 'm', 's', 'U', 'u', 'R', 'x', '-']

/-- A mode with one property turned on or off. -/
def change (on : Bool) (m : Mode) : Char → Mode
  | 'i' => { m with ignoreCase := on }
  | 'u' => { m with wide := on }
  | 'x' => { m with spaced := on }
  | _ => m

/-- A mode after a row of changes: letters behind the minus sign turn properties off. -/
def changeAll (m : Mode) (letters : List Char) : Mode :=
  let (on, off) := letters.span (· != '-')
  (off.tail).foldl (change false) (on.foldl (change true) m)

/-- Whether a row of letters changes a mode: none stands there twice and the minus sign not last. -/
def areChanges (letters : List Char) : Bool :=
  letters.all signs.contains && letters.eraseDups == letters && letters.getLast? != some '-'

end Mode

end Pattern

end TopoSync
