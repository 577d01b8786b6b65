/-!
# Commands

Requests and notifications share one numbering.  Every command has a code, a name and the least
number of bytes that a request of its kind takes up, header included.
-/

namespace TopoSync

/-- What a frame is about. -/
inductive Command
  | login
  | getMapList
  | openMap
  | closeMap
  | addMap
  | renameMap
  | deleteMap
  | addSymbol
  | renameSymbol
  | deleteSymbol
  | translateSymbol
  | addConnection
  | renameConnection
  | deleteConnection
  | editConnection
  | addNode
  | deleteNode
  | openNode
  | closeNode
  | setNode
  | updateNode
  | lockNode
  | unlockNode
deriving DecidableEq, Repr

namespace Command

/-- Every command, in the order of the codes. -/
def all : List Command :=
  [login, getMapList, openMap, closeMap, addMap, renameMap, deleteMap, addSymbol, renameSymbol,
    deleteSymbol, translateSymbol, addConnection, renameConnection, deleteConnection,
    editConnection, addNode, deleteNode, openNode, closeNode, setNode, updateNode, lockNode,
    unlockNode]

/-- The code of a command. -/
def code : Command → UInt32
  | login => 1
  | getMapList => 2
  | openMap => 3
  | closeMap => 4
  | addMap => 5
  | renameMap => 6
  | deleteMap => 7
  | addSymbol => 8
  | renameSymbol => 9
  | deleteSymbol => 10
  | translateSymbol => 11
  | addConnection => 12
  | renameConnection => 13
  | deleteConnection => 14
  | editConnection => 15
  | addNode => 16
  | deleteNode => 17
  | openNode => 18
  | closeNode => 19
  | setNode => 20
  | updateNode => 21
  | lockNode => 22
  | unlockNode => 23

/-- The command with a given code. -/
def ofCode? (code : UInt32) : Option Command :=
  all.find? fun c => c.code == code

theorem mem_all (c : Command) : c ∈ all := by
  cases c <;> decide

theorem ofCode?_code (c : Command) : ofCode? c.code = some c := by
  cases c <;> decide

theorem code_of_ofCode? {code : UInt32} {c : Command} (h : ofCode? code = some c) :
    c.code = code := by
  simpa using List.find?_some h

/-- The name of a command. -/
def name : Command → String
  | login => "LOGIN"
  | getMapList => "GET_MAPLIST"
  | openMap => "OPEN_MAP"
  | closeMap => "CLOSE_MAP"
  | addMap => "ADD_MAP"
  | renameMap => "RENAME_MAP"
  | deleteMap => "DELETE_MAP"
  | addSymbol => "ADD_SYMBOL"
  | renameSymbol => "RENAME_SYMBOL"
  | deleteSymbol => "DELETE_SYMBOL"
  | translateSymbol => "TRANSLATE_SYMBOL"
  | addConnection => "ADD_CONNECTION"
  | renameConnection => "RENAME_CONNECTION"
  | deleteConnection => "DELETE_CONNECTION"
  | editConnection => "EDIT_CONNECTION"
  | addNode => "ADD_NODE"
  | deleteNode => "DELETE_NODE"
  | openNode => "OPEN_NODE"
  | closeNode => "CLOSE_NODE"
  | setNode => "SET_NODE"
  | updateNode => "UPDATE_NODE"
  | lockNode => "LOCK_NODE"
  | unlockNode => "UNLOCK_NODE"

/-- The least length of a request, header included. -/
def minFrameSize : Command → Nat
  | openMap | closeMap | openNode | closeNode | setNode | lockNode | unlockNode => 12
  | deleteSymbol | deleteConnection => 16
  | renameSymbol | renameConnection => 20
  | addSymbol | translateSymbol | addConnection => 24
  | login | getMapList | addMap | renameMap | deleteMap | editConnection | addNode | deleteNode
  | updateNode => 8

end Command

/-- The lock of a node as one session sees it. -/
inductive LockKind
  | unlocked
  | lockedLocal
  | lockedRemote
  | notFound
deriving DecidableEq, Repr

namespace LockKind

/-- The code of a lock kind. -/
def code : LockKind → UInt8
  | unlocked => 0
  | lockedLocal => 1
  | lockedRemote => 2
  | notFound => 3

/-- The code as a word. -/
def word (kind : LockKind) : UInt32 :=
  kind.code.toUInt32

/-- The lock kind with a given code. -/
def ofCode? (code : UInt32) : Option LockKind :=
  [unlocked, lockedLocal, lockedRemote, notFound].find? fun k => k.word == code

theorem ofCode?_word (kind : LockKind) : ofCode? kind.word = some kind := by
  cases kind <;> decide

/-- Whether the node is locked by somebody. -/
def isLocked : LockKind → Bool
  | lockedLocal | lockedRemote => true
  | unlocked | notFound => false

end LockKind

end TopoSync
