import Mathlib.Algebra.Ring.Nat
import TopoSync.Checked.Reader
import TopoSync.Checked.Words
import TopoSync.Proofs.Wire.Layouts

/-!
# Values one after the other

Values of any types are written one after the other and read back by asking for the same types in the
same order: each of the values takes up a number of bytes that depends on it alone, and a reader that is
asked for its type stops where the next value begins.
-/

namespace TopoSync

/-- What can be asked of a reader. -/
inductive Getter
  | byte
  | word
  | signed
  | block
  | text
  /-- A text for a column of some bytes. -/
  | boundedText (capacity : Nat)
deriving DecidableEq, Repr

namespace Getter

/-- Reads what is asked for. -/
def read : Getter → Read Field
  | byte => return .byte (← Read.byte)
  | word => return .word (← Read.word)
  | signed => return .signed (← Read.signed)
  | block => return .block (← Read.block)
  | text => return .text (← Read.text)
  | boundedText capacity => return .text (← Read.boundedText capacity)

/-- Reads what is asked for in place. -/
def scan : Getter → Scan Field
  | byte => return .byte (← Scan.byte)
  | word => return .word (← Scan.word)
  | signed => return .signed (← Scan.signed)
  | block => return .block (← Scan.block)
  | text => return .text (← Scan.text)
  | boundedText capacity => return .text (← Scan.boundedText capacity)

theorem follows_scan (g : Getter) : g.scan.Follows g.read := by
  cases g with
  | byte => exact Scan.follows_byte.bind fun b => Scan.follows_pure (Field.byte b)
  | word => exact Scan.follows_word.bind fun n => Scan.follows_pure (Field.word n)
  | signed => exact Scan.follows_signed.bind fun n => Scan.follows_pure (Field.signed n)
  | block => exact Scan.follows_block.bind fun bytes => Scan.follows_pure (Field.block bytes)
  | text => exact Scan.follows_text.bind fun s => Scan.follows_pure (Field.text s)
  | boundedText capacity =>
      exact (Scan.follows_boundedText capacity).bind fun s => Scan.follows_pure (Field.text s)

end Getter

/-- The word of a signed number has the same bits. -/
theorem Word.ofSigned_eq_toUInt32 (n : Int32) : ofSigned n = n.toUInt32 := by
  have back : toSigned n.toUInt32 = n := by
    rw [toSigned_eq_toInt32, Int32.toInt32_toUInt32]
  rw [← ofSigned_toSigned n.toUInt32, back]

namespace Field

/-- What a reader is asked for to get a value back. -/
def getter : Field → Getter
  | byte _ => .byte
  | word _ => .word
  | signed _ => .signed
  | block _ => .block
  | text _ => .text

/-- How many bytes a value takes up. -/
def size : Field → Nat
  | byte _ => 1
  | word _ | signed _ => 4
  | block bytes => 4 + bytes.length
  | text s => 4 + (Utf8.encode s).length

/-- Writes some values behind what has been written. -/
def write (written : Bytes) (values : List Field) : Bytes :=
  values.foldl (fun written v => written ++ v.encode) written

theorem write_eq (written : Bytes) (values : List Field) :
    write written values = written ++ encodeAll values := by
  induction values generalizing written with
  | nil => exact (List.append_nil _).symm
  | cons v rest ih => exact (ih (written ++ v.encode)).trans (List.append_assoc _ _ _)

theorem length_encodeBlock {bytes : Bytes} (fits : bytes.length ≤ maxBlock) :
    (encodeBlock bytes).length = 4 + bytes.length := by
  rw [encodeBlock_of_length_le fits, List.length_append, Word.length_toBytes]

theorem length_encode {v : Field} (fits : v.Fits) : v.encode.length = v.size := by
  cases v with
  | byte | word | signed => rfl
  | block bytes => exact length_encodeBlock fits
  | text s => exact length_encodeBlock fits

theorem length_encodeAll {values : List Field} (fits : ∀ v ∈ values, v.Fits) :
    (encodeAll values).length = (values.map size).sum := by
  induction values with
  | nil => rfl
  | cons v rest ih =>
      obtain ⟨first, others⟩ := List.forall_mem_cons.mp fits
      rw [encodeAll_cons, List.length_append, length_encode first, ih others, List.map_cons,
        List.sum_cons]

/-- The bytes of a signed number are the four bytes of its bits in two's complement, the highest bits
first. -/
theorem encode_signed (n : Int32) :
    encode (.signed n) =
      [24, 16, 8, 0].map fun low => UInt8.ofBitVec (n.toBitVec.extractLsb' low 8) := by
  have bits : (Word.ofSigned n).toNat = n.toBitVec.toNat := by
    rw [Word.ofSigned_eq_toUInt32]
    rfl
  have byte : ∀ low, UInt8.ofBitVec (n.toBitVec.extractLsb' low 8) =
      UInt8.ofNat ((Word.ofSigned n).toNat / 2 ^ low) := by
    intro low
    apply UInt8.toNat_inj.mp
    rw [UInt8.toNat_ofBitVec, BitVec.extractLsb'_toNat, Nat.shiftRight_eq_div_pow, UInt8.toNat_ofNat',
      bits]
  rw [List.map_congr_left fun low _ => byte low]
  have last : (Word.ofSigned n).toNat / 2 ^ 0 = (Word.ofSigned n).toNat := Nat.div_one _
  rw [List.map_cons, List.map_cons, List.map_cons, List.map_cons, last]
  rfl

end Field

namespace Read

/-- Values one after the other. -/
def values : List Getter → Read (List Field)
  | [] => pure []
  | g :: rest => do
      let first ← g.read
      let others ← values rest
      return first :: others

/-- Who asks for the type of a value gets the value and stops behind it. -/
theorem takes_getter {v : Field} (fits : v.Fits) : Takes v.getter.read v.encode v := by
  cases v with
  | byte b => exact (takes_byte b).map Field.byte
  | word n => exact (takes_word n).map Field.word
  | signed n => exact (takes_signed n).map Field.signed
  | block bytes => exact (takes_block fits).map Field.block
  | text s => exact (takes_text fits).map Field.text

theorem reads_values {written : List Field} (fits : ∀ v ∈ written, v.Fits) :
    Reads (values (written.map Field.getter)) written written := by
  induction written with
  | nil => exact reads_pure []
  | cons v rest ih =>
      obtain ⟨first, others⟩ := List.forall_mem_cons.mp fits
      exact .cons (takes_getter first) ((ih others).map fun others => v :: others)

end Read

/-- Values of any types, with blocks and texts whose length can be announced, are read back by asking
for their types in the order in which they were written; nothing is left then, and what was written is
as long as the sizes of the values come to.  A signed number is written as its bits in two's complement,
the highest first; its conversion to a word and the conversion of a word back undo each other, and
neither overflows in a step or loses a bit of the result. -/
theorem values_read_back {values : List Field} (fits : ∀ v ∈ values, v.Fits) :
    (∃ last : Cursor,
      Read.values (values.map Field.getter) (Cursor.start (Field.write [] values)) =
        (.ok values, last) ∧
      last.position = (Field.write [] values).length ∧ last.remaining = 0) ∧
    (Field.write [] values).length = (values.map Field.size).sum ∧
    (∀ n : Int32,
      Field.encode (.signed n) =
        ([24, 16, 8, 0].map fun low => UInt8.ofBitVec (n.toBitVec.extractLsb' low 8)) ∧
      Word.ofSigned? n = some (Word.ofSigned n) ∧ Word.toSigned (Word.ofSigned n) = n) ∧
    ∀ m : UInt32,
      Word.toSigned? m = some (Word.toSigned m) ∧ Word.ofSigned (Word.toSigned m) = m := by
  have written : Field.write [] values = Field.encodeAll values := Field.write_eq [] values
  rw [written]
  refine ⟨?_, Field.length_encodeAll fits, fun n => ?_, fun m => ?_⟩
  · have read := Read.reads_values fits 0 []
    rw [List.append_nil, Nat.zero_add] at read
    exact ⟨_, read, rfl, rfl⟩
  · exact ⟨Field.encode_signed n, Word.ofSigned?_eq n, Word.toSigned_ofSigned n⟩
  · exact ⟨Word.toSigned?_eq m, Word.ofSigned_toSigned m⟩

/-- Seven values of all five types, among them a negative number, an empty text and one beyond ASCII. -/
theorem values_read_back_routerAndLink :
    let values : List Field :=
      [.text "router-1", .signed (-20), .block [0, 0xFF], .text "", .byte 7, .word 99, .text "é"]
    (∀ v ∈ values, v.Fits) ∧ (Field.write [] values).length = 37 ∧
      ∃ last : Cursor,
        Read.values [.text, .signed, .block, .text, .byte, .word, .text]
          (Cursor.start (Field.write [] values)) = (.ok values, last) ∧ last.remaining = 0 := by
  intro values
  have fits : ∀ v ∈ values, v.Fits := by
    intro v member
    have short : v.encode.length ≤ Field.maxBlock := by
      simp only [values, List.mem_cons, List.not_mem_nil, or_false] at member
      rcases member with rfl | rfl | rfl | rfl | rfl | rfl | rfl <;> decide
    exact Field.fits_of_length short
  obtain ⟨⟨last, read, _, rest⟩, length, _⟩ := values_read_back fits
  exact ⟨fits, length.trans (by decide), last, read, rest⟩

end TopoSync
