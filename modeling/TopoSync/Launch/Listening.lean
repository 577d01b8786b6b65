import TopoSync.Config.Address

/-!
# Listening

A server listens at an address of its own machine.  Those that every machine has are the unspecified
address and the ones that lead back to it; the addresses of groups of machines are nobody's own, yet
four bytes may name one.
-/

namespace TopoSync

/-- Why a server cannot listen at an address. -/
inductive ListenError
  | notLocal
  /-- The address means nothing without the name of a network. -/
  | ambiguous
deriving DecidableEq, Repr

/-- The text of a listen error. -/
def ListenError.message : ListenError → String
  | notLocal => "Cannot assign requested address (os error 99)"
  | ambiguous => "Invalid argument (os error 22)"

namespace IpAddress

/-- Whether a server can listen at an address of four bytes. -/
def isLocal (a b c d : UInt8) : Bool :=
  a == 127 || (a == 0 && b == 0 && c == 0 && d == 0) || (224 ≤ a && a < 240) ||
    (a == 255 && b == 255 && c == 255 && d == 255)

/-- What stands in the way of listening at an address. -/
def listenError? : IpAddress → Option ListenError
  | v4 a b c d => if isLocal a b c d then none else some .notLocal
  | v6 groups =>
      match groups.list with
      | [0, 0, 0, 0, 0, 0, 0, 0] => none
      | [0, 0, 0, 0, 0, 0, 0, 1] => none
      | [0, 0, 0, 0, 0, 0xFFFF, high, low] =>
          if isLocal (UInt8.ofNat (high.toNat / 256)) (UInt8.ofNat high.toNat)
              (UInt8.ofNat (low.toNat / 256)) (UInt8.ofNat low.toNat) then none
          else some .notLocal
      | first :: _ =>
          if first.toNat / 0x40 = 0xFE80 / 0x40 ∨ first.toNat / 0x100 = 0xFF then some .ambiguous
          else some .notLocal
      | [] => some .notLocal

end IpAddress

end TopoSync
