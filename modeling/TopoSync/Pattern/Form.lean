import TopoSync.Pattern.Bracket

/-!
# Well formed patterns

A pattern is a regular expression: atoms and brackets one after another, repeated or not, with
alternatives between them and groups around them.  Main definition: which texts are patterns.
-/

namespace TopoSync

namespace Pattern

/-- A part of a pattern that has been read. -/
structure Item where
  depth : Nat
  /-- Whether it stands for something that can be repeated. -/
  repeatable : Bool := true
deriving DecidableEq, Repr

/-- What has been read of a group. -/
structure GroupDraft where
  /-- The depths of the alternatives that are finished. -/
  finished : List Nat := []
  /-- The parts of the last alternative, the last one first. -/
  items : List Item := []
deriving DecidableEq, Repr

namespace GroupDraft

/-- With one more part. -/
def add (d : GroupDraft) (item : Item) : GroupDraft :=
  { d with items := item :: d.items }

/-- With the last part repeated, if there is one. -/
def repeatLast? (d : GroupDraft) : Option GroupDraft :=
  match d.items with
  | { depth, repeatable := true } :: rest => some { d with items := ⟨depth + 1, true⟩ :: rest }
  | _ => none

/-- The last alternative is finished. -/
def finish (d : GroupDraft) : GroupDraft :=
  { finished := depthBeside (d.items.map Item.depth) :: d.finished }

/-- The depth of what has been read. -/
def depth (d : GroupDraft) : Nat :=
  depthBeside d.finish.finished

end GroupDraft

/-- What opens a group. -/
inductive Opening
  /-- No group, but other modes for the rest of the group around. -/
  | modes (m : Mode)
  | group (m : Mode) (name : Option (List Char))
deriving DecidableEq, Repr

/-- Whether a text is the name of a group. -/
def isName : List Char → Bool
  | [] => false
  | c :: rest =>
      (c == '_' || Letter.isLetter c) &&
        rest.all fun c => c == '_' || c == '.' || c == '[' || c == ']' || Letter.isLetterOrDigit c

/-- A name up to its angle bracket, and what follows. -/
def readName (m : Mode) (cs : List Char) : Option (Opening × List Char) :=
  match cs.span (· != '>') with
  | (name, _ :: rest) => if isName name then some (.group m (some name), rest) else none
  | _ => none

/-- Changes of modes behind a question mark, and what follows. -/
def readModes (m : Mode) (cs : List Char) : Option (Opening × List Char) :=
  match cs.span fun c => c != ':' && c != ')' with
  | (letters, stop :: rest) =>
      if !Mode.areChanges letters then none
      else if stop == ':' then some (.group (m.changeAll letters) none, rest)
      else if letters.isEmpty then none
      else some (.modes (m.changeAll letters), rest)
  | _ => none

/-- What opens a group behind its parenthesis. -/
def readOpening (m : Mode) (cs : List Char) : Option (Opening × List Char) :=
  match m.skip cs with
  | '?' :: 'P' :: '<' :: rest => readName m rest
  | '?' :: '<' :: rest => readName m rest
  | '?' :: rest => readModes m rest
  | cs => some (.group m none, cs)

/-- What has been read of a group and what follows it. -/
structure Reading where
  depth : Nat
  /-- The names of all groups so far. -/
  names : List (List Char)
  rest : List Char
deriving DecidableEq, Repr

/-- What follows a sign of repetition: a question mark belongs to it. -/
def afterRepeat : List Char → List Char
  | '?' :: rest => rest
  | cs => cs

/-- The rest of a group up to its parenthesis, or of the whole pattern up to its end. -/
def readGroup : (fuel : Nat) → (inside : Bool) → Mode → (names : List (List Char)) → GroupDraft →
    List Char → Option Reading
  | 0, _, _, _, _, _ => none
  | fuel + 1, inside, m, names, d, cs =>
      match m.skip cs with
      | [] => if inside then none else some ⟨d.depth, names, []⟩
      | ')' :: rest => if inside then some ⟨d.depth, names, rest⟩ else none
      | '|' :: rest => readGroup fuel inside m names d.finish rest
      | '[' :: rest =>
          (readBrackets m rest).bind fun (depth, rest) =>
            readGroup fuel inside m names (d.add { depth }) rest
      | '\x7b' :: _ => none
      | '(' :: rest =>
          match readOpening m rest with
          | none => none
          | some (.modes m, rest) =>
              readGroup fuel inside m names (d.add { depth := 0, repeatable := false }) rest
          | some (.group inner name, rest) =>
              if name.any names.contains then none
              else
                (readGroup fuel true inner (name.toList ++ names) {} rest).bind fun r =>
                  readGroup fuel inside m r.names (d.add { depth := r.depth + 1 }) r.rest
      | c :: rest =>
          if c == '?' || c == '*' || c == '+' then
            d.repeatLast?.bind fun d => readGroup fuel inside m names d (afterRepeat rest)
          else
            (readAtom m (c :: rest)).bind fun (a, rest) =>
              if a.standsAlone m then readGroup fuel inside m names (d.add { depth := 0 }) rest
              else none

/-- How deep the parts of a pattern may be nested. -/
def maxDepth : Nat := 250

/-- Whether a text is a pattern. -/
def isWellFormed (cs : List Char) : Bool :=
  (readGroup (cs.length + 1) false {} [] {} cs).any fun r => r.depth ≤ maxDepth

end Pattern

end TopoSync
