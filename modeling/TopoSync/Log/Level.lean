import TopoSync.Text.Numeral

/-!
# Log levels

How much is logged, from nothing to everything.
-/

namespace TopoSync

/-- How much is logged. -/
inductive LogLevel
  | off
  | error
  | warn
  | info
  | debug
  | trace
deriving DecidableEq, Repr

namespace LogLevel

/-- The levels, from nothing to everything. -/
def all : List LogLevel :=
  [off, error, warn, info, debug, trace]

/-- The position of a level among the levels. -/
def rank : LogLevel → Nat
  | off => 0
  | error => 1
  | warn => 2
  | info => 3
  | debug => 4
  | trace => 5

/-- The name of a level. -/
def name : LogLevel → String
  | off => "off"
  | error => "error"
  | warn => "warn"
  | info => "info"
  | debug => "debug"
  | trace => "trace"

/-- A level by its position, which may have a plus sign. -/
def ofNumeral? (text : List Char) : Option LogLevel :=
  (Numeral.value? 10 (if text.head? = some '+' then text.tail else text)).bind fun n => all[n]?

/-- A level by its name, in letters of either case. -/
def ofName? (text : List Char) : Option LogLevel :=
  all.find? fun level => level.name.toList = text.map Char.toLower

/-- A level by its position or its name. -/
def ofText? (text : List Char) : Option LogLevel :=
  (ofNumeral? text).or (ofName? text)

end LogLevel

end TopoSync
