/-!
# Cuts

A text can be cut at a position counted in bytes if no character lies across it.
-/

namespace TopoSync

namespace Cut

/-- What is left of a text after a number of bytes. -/
def after? : List Char → Nat → Option (List Char)
  | cs, 0 => some cs
  | [], _ + 1 => none
  | c :: rest, n + 1 => if c.utf8Size ≤ n + 1 then after? rest (n + 1 - c.utf8Size) else none

/-- The first bytes of a text. -/
def upTo? : List Char → Nat → Option (List Char)
  | _, 0 => some []
  | [], _ + 1 => none
  | c :: rest, n + 1 =>
      if c.utf8Size ≤ n + 1 then (upTo? rest (n + 1 - c.utf8Size)).map (c :: ·) else none

/-- The part of a text between two positions. -/
def between? (cs : List Char) (start stop : Nat) : Option (List Char) :=
  (after? cs start).bind fun rest => upTo? rest (stop - start)

end Cut

end TopoSync
