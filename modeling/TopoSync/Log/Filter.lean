import TopoSync.Log.Directive

/-!
# Log filters

A filter is a list of directives with commas between them.  Of the directives that concern an event
the one with the longest target decides; of those the one that names a field; of those the last.
-/

namespace TopoSync

/-- The directives of a log. -/
structure LogFilter where
  directives : List Directive
deriving DecidableEq, Repr

namespace LogFilter

/-- What is logged if nothing readable is asked for. -/
def fallback : LogFilter :=
  ⟨[{ level := .info }]⟩

/-- What is logged if nothing is asked for. -/
def quiet : LogFilter :=
  ⟨[{ level := .error }]⟩

/-- Reads a filter.  One directive that cannot be read spoils all of them; one that would be cut inside
of a character leaves no filter at all. -/
def ofText? (text : String) : Option LogFilter :=
  match (text.toList.splitOn ',').filter fun part => !part.isEmpty with
  | [] => some quiet
  | parts =>
      match parts.mapM Directive.ofText with
      | .ok directives => some ⟨directives⟩
      | .error .unreadable => some fallback
      | .error .splitCharacter => none

/-- The fields that every event has. -/
def eventFields : List (List Char) :=
  ["message".toList]

/-- The better of two directives for the events of a target. -/
def better (target : List Char) (best : Option Directive) (d : Directive) : Option Directive :=
  if d.concerns target eventFields && best.all d.isAsExact then some d else best

/-- The level up to which events of a target are logged. -/
def levelFor (filter : LogFilter) (target : String) : LogLevel :=
  ((filter.directives.foldl (better target.toList) none).map Directive.level).getD .off

/-- Whether an event is logged. -/
def enables (filter : LogFilter) (target : String) (level : LogLevel) : Bool :=
  level.rank ≤ (filter.levelFor target).rank

end LogFilter

end TopoSync
