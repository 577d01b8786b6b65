import TopoSync.Text.Numeral

/-!
# Internet addresses

An address has four bytes or eight groups of sixteen bits.  It is written with as few characters as
the usual notation allows: no leading zeros, and the first longest run of two or more zero groups
replaced by a gap.  Addresses that embed four bytes behind the group `ffff` show these as bytes.
-/

namespace TopoSync

/-- Eight groups of sixteen bits. -/
structure Groups where
  list : List UInt16
  length_eq : list.length = 8
deriving DecidableEq, Repr

/-- An internet address. -/
inductive IpAddress
  | v4 (a b c d : UInt8)
  | v6 (groups : Groups)
deriving DecidableEq, Repr

namespace IpAddress

/-- The address that stands for every local one. -/
def unspecified : IpAddress :=
  v4 0 0 0 0

/-- The texts around the first gap, which is written as two colons. -/
def cutGap : List Char → Option (List Char × List Char)
  | ':' :: ':' :: rest => some ([], rest)
  | c :: rest => (cutGap rest).map fun cut => (c :: cut.1, cut.2)
  | [] => none

/-- A byte in decimal: at most three digits and no leading zero. -/
def byte? (cs : List Char) : Option UInt8 :=
  if 3 < cs.length ∨ (1 < cs.length ∧ cs.head? = some '0') then none
  else (Numeral.value? 10 cs).bind fun n => if n < 256 then some (UInt8.ofNat n) else none

/-- A group in hexadecimal: at most four digits. -/
def group? (cs : List Char) : Option UInt16 :=
  if 4 < cs.length then none else (Numeral.value? 16 cs).map UInt16.ofNat

/-- Four bytes with dots between them. -/
def ofDotted? (cs : List Char) : Option (UInt8 × UInt8 × UInt8 × UInt8) :=
  match cs.splitOn '.' with
  | [a, b, c, d] => do return (← byte? a, ← byte? b, ← byte? c, ← byte? d)
  | _ => none

/-- The group of two bytes. -/
def pair (a b : UInt8) : UInt16 :=
  UInt16.ofNat (a.toNat * 256 + b.toNat)

/-- Groups with colons between them, of which the last two may be written as four bytes. -/
def lastGroups? : List (List Char) → Option (List UInt16)
  | [] => some []
  | [last] =>
      match ofDotted? last with
      | some (a, b, c, d) => some [pair a b, pair c d]
      | none => (group? last).map fun g => [g]
  | part :: rest => do return (← group? part) :: (← lastGroups? rest)

/-- The groups on one side of a gap, possibly none. -/
def sideGroups? (read : List (List Char) → Option (List UInt16)) (cs : List Char) :
    Option (List UInt16) :=
  if cs.isEmpty then some [] else read (cs.splitOn ':')

/-- All groups of an address.  A gap stands for at least one of them. -/
def allGroups? (cs : List Char) : Option (List UInt16) :=
  match cutGap cs with
  | none => lastGroups? (cs.splitOn ':')
  | some (front, back) => do
      let head ← sideGroups? (fun parts => parts.mapM group?) front
      let tail ← sideGroups? lastGroups? back
      if head.length + tail.length < 8 then
        some (head ++ List.replicate (8 - head.length - tail.length) 0 ++ tail)
      else none

/-- Reads an address. -/
def ofText? (text : String) : Option IpAddress :=
  match ofDotted? text.toList with
  | some (a, b, c, d) => some (v4 a b c d)
  | none => do
      let groups ← allGroups? text.toList
      if h : groups.length = 8 then some (v6 ⟨groups, h⟩) else none

/-- Four bytes with dots between them. -/
def dotted (a b c d : UInt8) : List Char :=
  ['.'].intercalate ([a, b, c, d].map fun n => Numeral.digits 10 n.toNat)

/-- Groups with colons between them. -/
def colonList (groups : List UInt16) : List Char :=
  [':'].intercalate (groups.map fun g => Numeral.digits 16 g.toNat)

/-- How many zero groups follow from a position on. -/
def zerosAt (groups : List UInt16) (position : Nat) : Nat :=
  ((groups.drop position).takeWhile (· == 0)).length

/-- The first position from which most zero groups follow. -/
def gapStart (groups : List UInt16) : Nat :=
  (List.range groups.length).foldl
    (fun best i => if zerosAt groups best < zerosAt groups i then i else best) 0

/-- The text of eight groups. -/
def groupText (groups : List UInt16) : List Char :=
  match groups with
  | [0, 0, 0, 0, 0, 0xFFFF, high, low] =>
      "::ffff:".toList ++ dotted (UInt8.ofNat (high.toNat / 256)) (UInt8.ofNat high.toNat)
        (UInt8.ofNat (low.toNat / 256)) (UInt8.ofNat low.toNat)
  | _ =>
      let start := gapStart groups
      let length := zerosAt groups start
      if 1 < length then
        colonList (groups.take start) ++ [':', ':'] ++ colonList (groups.drop (start + length))
      else colonList groups

/-- Writes an address. -/
def text : IpAddress → String
  | v4 a b c d => String.ofList (dotted a b c d)
  | v6 groups => String.ofList (groupText groups.list)

end IpAddress

end TopoSync
