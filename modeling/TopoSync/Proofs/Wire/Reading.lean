import TopoSync.Wire.Cursor
import TopoSync.Wire.Field
import TopoSync.Wire.Notification

/-!
# Reading back what was written

A reading step reads some fields if it takes exactly their bytes, whatever comes after them, and
gives the value that was written.  Steps that do so can be put one after the other, like the fields
that they read.
-/

namespace TopoSync

namespace Field

/-- Whether the length of a field can be announced in full. -/
def Fits : Field → Prop
  | byte _ | word _ | signed _ => True
  | block bytes => bytes.length ≤ maxBlock
  | text s => (Utf8.encode s).length ≤ maxBlock

theorem length_encodeBlock_le {bytes : Bytes} (short : (encodeBlock bytes).length ≤ maxBlock) :
    bytes.length ≤ maxBlock := by
  have length : (encodeBlock bytes).length = 4 + min maxBlock bytes.length := by
    simp [encodeBlock]
  omega

/-- A field that takes up few bytes fits. -/
theorem fits_of_length {f : Field} (short : f.encode.length ≤ maxBlock) : f.Fits := by
  cases f with
  | byte b => trivial
  | word n => trivial
  | signed n => trivial
  | block bytes => exact length_encodeBlock_le short
  | text s => exact length_encodeBlock_le short

theorem one_le_length_encode (f : Field) : 1 ≤ f.encode.length := by
  cases f with
  | byte b => exact Nat.le_refl 1
  | word n => exact Nat.le_add_left 1 3
  | signed n => exact Nat.le_add_left 1 3
  | block bytes => simp only [encode, encodeBlock, List.length_append, Word.length_toBytes]; omega
  | text s => simp only [encode, encodeBlock, List.length_append, Word.length_toBytes]; omega

/-- Every field takes up a byte at least. -/
theorem length_le_length_encodeAll (fields : List Field) :
    fields.length ≤ (encodeAll fields).length := by
  induction fields with
  | nil => exact Nat.le_refl 0
  | cons f rest ih =>
      have one := f.one_le_length_encode
      rw [encodeAll_cons, List.length_append, List.length_cons]
      omega

theorem length_encode_le_of_mem {f : Field} {fields : List Field} (member : f ∈ fields) :
    f.encode.length ≤ (encodeAll fields).length := by
  induction fields with
  | nil => cases member
  | cons g rest ih =>
      rw [encodeAll_cons, List.length_append]
      rcases List.mem_cons.mp member with rfl | later
      · exact Nat.le_add_right _ _
      · exact Nat.le_trans (ih later) (Nat.le_add_left _ _)

end Field

namespace Read

/-- As many items as told, one after the other. -/
def many {α : Type} (item : Read α) : Nat → Read (List α)
  | 0 => pure []
  | n + 1 => do
      let first ← item
      let rest ← many item n
      return first :: rest

/-- A list on the wire: its length and its items. -/
def counted {α : Type} (item : Read α) : Read (List α) := do
  let count ← word
  many item count.toNat

/-- Whether a step takes exactly some bytes and gives a value. -/
def Takes {α : Type} (step : Read α) (bytes : Bytes) (a : α) : Prop :=
  ∀ position rest, step ⟨position, bytes ++ rest⟩ = (.ok a, ⟨position + bytes.length, rest⟩)

/-- Whether a step reads some fields and gives a value. -/
def Reads {α : Type} (step : Read α) (fields : List Field) (a : α) : Prop :=
  Takes step (Field.encodeAll fields) a

section Takes

variable {α β : Type} {a : α} {b : β}

theorem takes_pure (a : α) : Takes (pure a : Read α) [] a :=
  fun _ _ => rfl

theorem Takes.bind {step : Read α} {next : α → Read β} {first second : Bytes}
    (one : Takes step first a) (two : Takes (next a) second b) :
    Takes (step >>= next) (first ++ second) b := by
  intro position rest
  rw [List.append_assoc, bind_apply, one position (second ++ rest)]
  dsimp only
  rw [two, List.length_append, Nat.add_assoc]

/-- A step whose value is only worked on takes the same bytes. -/
theorem Takes.map {step : Read α} {bytes : Bytes} (one : Takes step bytes a) (f : α → β) :
    Takes (step >>= fun x => pure (f x)) bytes (f a) := by
  have both : Takes (step >>= fun x => pure (f x)) (bytes ++ []) (f a) :=
    one.bind (takes_pure (f a))
  rwa [List.append_nil] at both

theorem takes_take (bytes : Bytes) : Takes (take bytes.length) bytes bytes := by
  intro position rest
  have enough : bytes.length ≤ (⟨position, bytes ++ rest⟩ : Cursor).remaining := by
    simp [Cursor.remaining]
  rw [take_of_le enough, List.take_left, List.drop_left]

theorem takes_byte (b : UInt8) : Takes byte [b] b :=
  (takes_take [b]).map fun bytes => bytes.headD 0

theorem takes_word (n : UInt32) : Takes word (Word.toBytes n) n := by
  have read := (takes_take (Word.toBytes n)).map Word.ofBytes
  rwa [Word.ofBytes_toBytes] at read

theorem takes_signed (n : Int32) : Takes signed (Word.toBytes (Word.ofSigned n)) n := by
  have read := (takes_word (Word.ofSigned n)).map Word.toSigned
  rwa [Word.toSigned_ofSigned] at read

theorem takes_block {bytes : Bytes} (fits : bytes.length ≤ Field.maxBlock) :
    Takes block (Field.encodeBlock bytes) bytes := by
  have announced : (UInt32.ofNat bytes.length).toNat = bytes.length := by
    rw [UInt32.toNat_ofNat']
    simp only [Field.maxBlock] at fits
    omega
  have rest : Takes (take (UInt32.ofNat bytes.length).toNat) bytes bytes := by
    rw [announced]
    exact takes_take bytes
  rw [Field.encodeBlock_of_length_le fits]
  exact (takes_word _).bind rest

theorem takes_text {s : String} (fits : (Utf8.encode s).length ≤ Field.maxBlock) :
    Takes text (Field.encodeBlock (Utf8.encode s)) s := by
  have read := (takes_block fits).map Utf8.lossy
  rwa [Utf8.lossy_encode] at read

end Takes

section Reads

variable {α β : Type} {a : α} {b : β} {step : Read α} {next : α → Read β}

theorem reads_pure (a : α) : Reads (pure a : Read α) [] a :=
  takes_pure a

/-- A step whose value is only worked on reads the same fields. -/
theorem Reads.map {fields : List Field} (one : Reads step fields a) (f : α → β) :
    Reads (step >>= fun x => pure (f x)) fields (f a) :=
  Takes.map one f

/-- One step after another reads the fields of both. -/
theorem Reads.append {first second : List Field} (one : Reads step first a)
    (two : Reads (next a) second b) : Reads (step >>= next) (first ++ second) b := by
  rw [Reads, Field.encodeAll_append]
  exact Takes.bind one two

theorem Reads.cons {f : Field} {fields : List Field} (one : Takes step f.encode a)
    (two : Reads (next a) fields b) : Reads (step >>= next) (f :: fields) b :=
  Takes.bind one two

theorem Reads.byte {x : UInt8} {next : UInt8 → Read β} {fields : List Field}
    (two : Reads (next x) fields b) : Reads (byte >>= next) (.byte x :: fields) b :=
  .cons (takes_byte x) two

theorem Reads.word {n : UInt32} {next : UInt32 → Read β} {fields : List Field}
    (two : Reads (next n) fields b) : Reads (word >>= next) (.word n :: fields) b :=
  .cons (takes_word n) two

theorem Reads.signed {n : Int32} {next : Int32 → Read β} {fields : List Field}
    (two : Reads (next n) fields b) : Reads (signed >>= next) (.signed n :: fields) b :=
  .cons (takes_signed n) two

theorem Reads.text {s : String} {next : String → Read β} {fields : List Field}
    (fits : (Field.text s).Fits) (two : Reads (next s) fields b) :
    Reads (text >>= next) (.text s :: fields) b :=
  .cons (takes_text fits) two

/-- The items of a list are read one after the other. -/
theorem reads_many {item : Read α} {write : α → List Field} {items : List α}
    (each : ∀ x ∈ items, Reads item (write x) x) :
    Reads (many item items.length) (items.flatMap write) items := by
  induction items with
  | nil => exact reads_pure []
  | cons x rest ih =>
      have first := each x List.mem_cons_self
      have others := ih fun y member => each y (List.mem_cons_of_mem _ member)
      exact first.append (others.map fun rest => x :: rest)

/-- A list is read if its items are, as far as they fit. -/
theorem reads_counted {item : Read α} {write : α → List Field} {items : List α}
    (countable : items.length ≤ Field.maxBlock)
    (fits : ∀ f ∈ countedFields write items, f.Fits)
    (each : ∀ x, (∀ f ∈ write x, f.Fits) → Reads item (write x) x) :
    Reads (counted item) (countedFields write items) items := by
  have count : (countWord items.length).toNat = items.length := by
    rw [countWord, UInt32.toNat_ofNat']
    simp only [Field.maxBlock] at countable
    omega
  apply Reads.word
  rw [count]
  apply reads_many
  intro x member
  apply each
  intro f written
  exact fits f (List.mem_cons_of_mem _ (List.mem_flatMap.mpr ⟨x, member, written⟩))

end Reads

end Read

end TopoSync
