import TopoSync.Wire.Word

/-!
# Fields

A payload is a sequence of typed fields with nothing between them.  A block or a text is announced
by a word that counts its bytes.  Bytes already written can be overwritten in place.
-/

namespace TopoSync

/-- One value as it stands in a payload. -/
inductive Field
  | byte (b : UInt8)
  | word (n : UInt32)
  | signed (n : Int32)
  | block (bytes : Bytes)
  | text (s : String)
deriving DecidableEq, Repr

namespace Field

/-- The longest block that a length word can announce. -/
def maxBlock : Nat := 0xFFFFFFFF

/-- A length word and the bytes it counts; bytes that no length word can count are left out. -/
def encodeBlock (bytes : Bytes) : Bytes :=
  let kept := bytes.take maxBlock
  Word.toBytes (UInt32.ofNat kept.length) ++ kept

/-- The bytes of a field. -/
def encode : Field → Bytes
  | byte b => [b]
  | word n => Word.toBytes n
  | signed n => Word.toBytes (Word.ofSigned n)
  | block bytes => encodeBlock bytes
  | text s => encodeBlock (Utf8.encode s)

/-- The bytes of a sequence of fields. -/
def encodeAll (fields : List Field) : Bytes :=
  fields.flatMap encode

theorem encodeBlock_of_length_le {bytes : Bytes} (h : bytes.length ≤ maxBlock) :
    encodeBlock bytes = Word.toBytes (UInt32.ofNat bytes.length) ++ bytes := by
  simp [encodeBlock, List.take_of_length_le h]

@[simp] theorem encodeAll_nil : encodeAll [] = [] := rfl

@[simp] theorem encodeAll_cons (f : Field) (rest : List Field) :
    encodeAll (f :: rest) = f.encode ++ encodeAll rest := rfl

@[simp] theorem encodeAll_append (xs ys : List Field) :
    encodeAll (xs ++ ys) = encodeAll xs ++ encodeAll ys :=
  List.flatMap_append

end Field

namespace Bytes

/-- The largest number of bytes that memory can be set aside for. -/
def maxReserve : Nat := 0x7FFFFFFFFFFFFFFF

/-- No bytes yet, with memory set aside for some. -/
def reserve? (capacity : Nat) : Option Bytes :=
  if capacity ≤ maxReserve then some [] else none

/-- Overwrites one byte that is already there. -/
def overwriteByte? (bytes : Bytes) (offset : Nat) (b : UInt8) : Option Bytes :=
  if offset < bytes.length then some (bytes.set offset b) else none

/-- Overwrites four bytes that are already there. -/
def overwriteWord? (bytes : Bytes) (offset : Nat) (n : UInt32) : Option Bytes :=
  if offset + 4 ≤ bytes.length then
    some (bytes.take offset ++ Word.toBytes n ++ bytes.drop (offset + 4))
  else none

end Bytes

end TopoSync
