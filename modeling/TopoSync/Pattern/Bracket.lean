import TopoSync.Pattern.Atom

/-!
# Brackets of a pattern

Brackets hold a set of characters: members, ranges, named classes and further brackets, with operators
between sets.  Reading brackets yields how deep they are nested.
-/

namespace TopoSync

namespace Pattern

/-- The depth of some parts side by side, of which each has a depth. -/
def depthBeside (depths : List Nat) : Nat :=
  depths.foldl max 0 + if 2 ≤ depths.length then 1 else 0

/-- What has been read between two brackets. -/
structure SetDraft where
  /-- The depth of what stands before the last operator. -/
  before : Option Nat := none
  /-- The depths of the parts behind it, the last one first. -/
  parts : List Nat := []
deriving DecidableEq, Repr

namespace SetDraft

/-- The depth of what has been read. -/
def depth (d : SetDraft) : Nat :=
  match d.before with
  | none => depthBeside d.parts
  | some n => max n (depthBeside d.parts) + 1

/-- With one more part. -/
def add (d : SetDraft) (depth : Nat) : SetDraft :=
  { d with parts := depth :: d.parts }

/-- With an operator behind it. -/
def operate (d : SetDraft) : SetDraft :=
  { before := some d.depth }

end SetDraft

/-- The names of the classes of characters. -/
def classNames : List String :=
  ["alnum", "alpha", "ascii", "blank", "cntrl", "digit", "graph", "lower", "print", "punct", "space",
    "upper", "word", "xdigit"]

/-- A named class, behind its bracket: whether it stands for all other characters, and what follows. -/
def namedClass? : List Char → Option (Bool × List Char)
  | ':' :: rest =>
      let negated := rest.head? == some '^'
      match (if negated then rest.tail else rest).span (· != ':') with
      | (name, ':' :: ']' :: after) =>
          if classNames.contains (String.ofList name) then some (negated, after) else none
      | _ => none
  | _ => none

/-- Whether a named class can be told. -/
def tellsClass (m : Mode) (negated : Bool) : Bool :=
  if m.wide then !m.ignoreCase else !negated

/-- The hyphens in front, which stand for themselves, and what follows them. -/
def readHyphens (m : Mode) (cs : List Char) : Nat × List Char :=
  match cs with
  | '-' :: rest =>
      let (count, after) := readHyphens m (m.skip rest)
      (count + 1, after)
  | cs => (0, cs)
termination_by cs.length
decreasing_by
  exact Nat.lt_succ_of_le (m.length_skip_le rest)

/-- What opens a set behind its bracket: a caret for all other characters, and hyphens or a closing
bracket that stand for themselves. -/
def openSet? (m : Mode) (cs : List Char) : Option (SetDraft × List Char) :=
  let cs := m.skip cs
  let negated := cs.head? == some '^'
  let (hyphens, cs) := readHyphens m (if negated then m.skip cs.tail else cs)
  let (members, cs) := match hyphens, cs with
    | 0, ']' :: rest => (1, m.skip rest)
    | count, cs => (count, cs)
  if (m.wide || !negated) && (members == 0 || Atom.tellsMember m '-') then
    some ({ parts := List.replicate members 0 }, cs)
  else none

/-- One member or one range; the result is what follows it. -/
def readRange (m : Mode) (cs : List Char) : Option (List Char) :=
  (readMember m cs).bind fun (a, rest) =>
    let alone := if a.standsInside m then some (m.skip rest) else none
    match m.skip rest with
    | '-' :: after =>
        if m.glimpse after == some ']' || m.glimpse after == some '-' then alone
        else
          (readMember m (m.skip after)).bind fun (b, rest) =>
            if a.spans m b then some rest else none
    | _ => alone

/-- The rest of a set up to its bracket: its depth and what follows it. -/
def readSet : (fuel : Nat) → Mode → SetDraft → List Char → Option (Nat × List Char)
  | 0, _, _, _ => none
  | fuel + 1, m, d, cs =>
      match m.skip cs with
      | [] => none
      | ']' :: rest => some (d.depth, rest)
      | '[' :: rest =>
          match namedClass? rest with
          | some (negated, rest) =>
              if tellsClass m negated then readSet fuel m (d.add 0) rest else none
          | none =>
              (openSet? m rest).bind fun (inner, rest) =>
                (readSet fuel m inner rest).bind fun (depth, rest) =>
                  readSet fuel m (d.add (depth + 1)) rest
      | '&' :: '&' :: rest => readSet fuel m d.operate rest
      | '-' :: '-' :: rest => readSet fuel m d.operate rest
      | '~' :: '~' :: rest => readSet fuel m d.operate rest
      | cs => (readRange m cs).bind fun rest => readSet fuel m (d.add 0) rest

/-- A set behind its bracket: its depth and what follows it. -/
def readBrackets (m : Mode) (cs : List Char) : Option (Nat × List Char) :=
  (openSet? m cs).bind fun (d, rest) =>
    (readSet (rest.length + 1) m d rest).map fun (depth, rest) => (depth + 1, rest)

end Pattern

end TopoSync
