import Mathlib.Data.List.Forall2
import TopoSync.Proofs.Wire.Reading

/-!
# Layouts

A layout names the shapes of the fields that a payload is made of.  The bytes of a payload either
begin with fields of these shapes, or fall short of one of them; reading field by field tells the two
apart, and gives the fields or the field that is missing something.
-/

namespace TopoSync

namespace Word

/-- Four bytes are the bytes of the word that they spell. -/
theorem toBytes_ofBytes {bytes : Bytes} (four : bytes.length = 4) : toBytes (ofBytes bytes) = bytes := by
  obtain ⟨a, b, c, d, rfl⟩ := List.length_eq_four.mp four
  have bounds := And.intro (And.intro a.toNat_lt b.toNat_lt) (And.intro c.toNat_lt d.toNat_lt)
  simp only [ofBytes, toBytes, List.foldl_cons, List.foldl_nil, UInt32.toNat_ofNat', List.cons.injEq,
    and_true, ← UInt8.toNat_inj, UInt8.toNat_ofNat']
  omega

/-- A signed word is read as two's complement. -/
theorem toSigned_eq_toInt32 (n : UInt32) : toSigned n = n.toInt32 := by
  apply Int32.toInt_inj.mp
  have bits : n.toInt32.toInt = (n.toNat : Int).bmod Int32.size :=
    BitVec.toInt_eq_toNat_bmod n.toBitVec
  rw [bits, toSigned, Int32.toInt_ofInt]
  by_cases small : n.toNat ≤ 0x7FFFFFFF
  · rw [if_pos small]
  · have down : (-(0xFFFFFFFF - n.toNat) - 1 : Int) = n.toNat - Int32.size := by
      simp only [Int32.size]
      omega
    rw [if_neg small, down, Int.sub_bmod_right]

end Word

/-- What kind of field stands somewhere in a payload. -/
inductive Shape
  | byte
  | word
  /-- A length word and the bytes that it counts. -/
  | block
deriving DecidableEq, Repr

namespace Shape

/-- The fields of a shape; a block is no longer than its length word can say. -/
inductive Admits : Shape → Field → Prop
  | byte (b : UInt8) : Admits byte (.byte b)
  | word (n : UInt32) : Admits word (.word n)
  | block {bytes : Bytes} (fits : bytes.length ≤ Field.maxBlock) : Admits block (.block bytes)

/-- How the bytes that follow a position fall short of a shape. -/
inductive Lacks : Shape → Nat → Bytes → Truncated → Prop
  | byte {position : Nat} : Lacks byte position [] ⟨position, 1, 0⟩
  | word {position : Nat} {bytes : Bytes} (short : bytes.length < 4) :
      Lacks word position bytes ⟨position, 4, bytes.length⟩
  | length {position : Nat} {bytes : Bytes} (short : bytes.length < 4) :
      Lacks block position bytes ⟨position, 4, bytes.length⟩
  | contents {position : Nat} {n : UInt32} {rest : Bytes} (short : rest.length < n.toNat) :
      Lacks block position (Word.toBytes n ++ rest) ⟨position + 4, n.toNat, rest.length⟩

/-- Some bytes begin with a field of a shape or fall short of one. -/
theorem admits_or_lacks (s : Shape) (position : Nat) (bytes : Bytes) :
    (∃ f rest, s.Admits f ∧ bytes = f.encode ++ rest) ∨ ∃ e, s.Lacks position bytes e := by
  by_cases short : bytes.length < 4
  case pos =>
    cases s with
    | byte =>
        cases bytes with
        | nil => exact .inr ⟨_, .byte⟩
        | cons b rest => exact .inl ⟨.byte b, rest, .byte b, rfl⟩
    | word => exact .inr ⟨_, .word short⟩
    | block => exact .inr ⟨_, .length short⟩
  case neg =>
    -- The bytes begin with a word.
    obtain ⟨n, rest, rfl⟩ : ∃ n rest, bytes = Word.toBytes n ++ rest := by
      refine ⟨Word.ofBytes (bytes.take 4), bytes.drop 4, ?_⟩
      rw [Word.toBytes_ofBytes (List.length_take_of_le (Nat.le_of_not_lt short)),
        List.take_append_drop]
    cases s with
    | byte => exact .inl ⟨.byte _, _, .byte _, rfl⟩
    | word => exact .inl ⟨.word n, rest, .word n, rfl⟩
    | block =>
        by_cases missing : rest.length < n.toNat
        · exact .inr ⟨_, .contents missing⟩
        · have counted : (rest.take n.toNat).length = n.toNat :=
            List.length_take_of_le (Nat.le_of_not_lt missing)
          have fits : (rest.take n.toNat).length ≤ Field.maxBlock := by
            have bound := n.toNat_lt
            rw [counted, Field.maxBlock]
            omega
          refine .inl ⟨.block (rest.take n.toNat), rest.drop n.toNat, .block fits, ?_⟩
          rw [Field.encode, Field.encodeBlock_of_length_le fits, counted, UInt32.ofNat_toNat,
            List.append_assoc, List.take_append_drop]

end Shape

/-- The shapes of the fields of a payload, in order. -/
abbrev Layout : Type :=
  List Shape

namespace Layout

/-- Whether some fields are an instance of a layout. -/
def Admits (layout : Layout) (fields : List Field) : Prop :=
  List.Forall₂ Shape.Admits layout fields

/-- Fields that a layout admits can be announced in full. -/
theorem Admits.fits {layout : Layout} {found : List Field} (ok : layout.Admits found) :
    ∀ f ∈ found, f.Fits := by
  induction ok with
  | nil => simp
  | cons first _ ih =>
      refine List.forall_mem_cons.mpr ⟨?_, ih⟩
      cases first with
      | byte | word => trivial
      | block fits => exact fits

/-- How the bytes that follow a position fall short of a layout: its first fields are there, and the
next one does not fit. -/
inductive Lacks : Layout → Nat → Bytes → Truncated → Prop
  | here {s : Shape} {layout : Layout} {position : Nat} {bytes : Bytes} {e : Truncated}
      (short : s.Lacks position bytes e) : Lacks (s :: layout) position bytes e
  | later {s : Shape} {layout : Layout} {position : Nat} {f : Field} {bytes : Bytes} {e : Truncated}
      (first : s.Admits f) (others : Lacks layout (position + f.encode.length) bytes e) :
      Lacks (s :: layout) position (f.encode ++ bytes) e

/-- Some bytes begin with an instance of a layout or fall short of it. -/
theorem admits_or_lacks (layout : Layout) (position : Nat) (bytes : Bytes) :
    (∃ fields rest, layout.Admits fields ∧ bytes = Field.encodeAll fields ++ rest) ∨
      ∃ e, layout.Lacks position bytes e := by
  induction layout generalizing position bytes with
  | nil => exact .inl ⟨[], bytes, .nil, rfl⟩
  | cons s layout ih =>
      rcases s.admits_or_lacks position bytes with ⟨f, rest, first, rfl⟩ | ⟨e, short⟩
      · rcases ih (position + f.encode.length) rest with ⟨fields, more, others, rfl⟩ | ⟨e, short⟩
        · refine .inl ⟨f :: fields, more, .cons first others, ?_⟩
          rw [Field.encodeAll_cons, List.append_assoc]
        · exact .inr ⟨e, .later first short⟩
      · exact .inr ⟨e, .here short⟩

end Layout

namespace Read

/-- A field of the given shape. -/
def field : Shape → Read Field
  | .byte => return .byte (← byte)
  | .word => return .word (← word)
  | .block => return .block (← block)

/-- The fields of a layout, one after the other. -/
def fields : Layout → Read (List Field)
  | [] => pure []
  | s :: layout => do
      let first ← field s
      let others ← fields layout
      return first :: others

instance : LawfulMonad Read := by
  refine .mk' Read (fun step => funext fun c => ?_) (fun _ _ => rfl)
    (fun step next last => funext fun c => ?_)
  · change (step >>= pure) c = step c
    rw [bind_apply]
    rcases step c with ⟨_ | _, _⟩ <;> rfl
  · simp only [bind_apply]
    rcases step c with ⟨_ | _, _⟩ <;> rfl

section Outcomes

variable {position : Nat} {bytes : Bytes} {e : Truncated}

/-- A failing step fails whatever comes after it. -/
theorem bind_of_error {α β : Type} {step : Read α} {c c' : Cursor} (fails : step c = (.error e, c'))
    (next : α → Read β) : (step >>= next) c = (.error e, c') := by
  rw [bind_apply, fails]

/-- A field of the right shape is read, whatever comes after it. -/
theorem takes_field {s : Shape} {f : Field} (ok : s.Admits f) : Takes (field s) f.encode f := by
  cases ok with
  | byte b => exact (takes_byte b).map Field.byte
  | word n => exact (takes_word n).map Field.word
  | block fits => exact (takes_block fits).map Field.block

theorem word_of_short (short : bytes.length < 4) :
    word ⟨position, bytes⟩ = (.error ⟨position, 4, bytes.length⟩, ⟨position, bytes⟩) :=
  bind_of_error (take_of_lt short) _

/-- Bytes that fall short of a shape are reported as they do. -/
theorem field_of_lacks {s : Shape} (short : s.Lacks position bytes e) :
    ∃ c, field s ⟨position, bytes⟩ = (.error e, c) := by
  cases short with
  | byte => exact ⟨⟨position, []⟩, rfl⟩
  | word short => exact ⟨_, bind_of_error (word_of_short short) _⟩
  | length short =>
      have fails : block ⟨position, bytes⟩ =
          (.error ⟨position, 4, bytes.length⟩, ⟨position, bytes⟩) :=
        bind_of_error (word_of_short short) fun n => take n.toNat
      exact ⟨_, bind_of_error fails _⟩
  | @contents _ n rest short =>
      have fails : block ⟨position, Word.toBytes n ++ rest⟩ =
          (.error ⟨position + 4, n.toNat, rest.length⟩, ⟨position + 4, rest⟩) := by
        rw [block, bind_apply, takes_word n position rest]
        exact take_of_lt short
      exact ⟨_, bind_of_error fails _⟩

/-- An instance of a layout is read. -/
theorem reads_fields {layout : Layout} {made : List Field} (ok : layout.Admits made) :
    Reads (fields layout) made made := by
  induction ok with
  | nil => exact reads_pure []
  | @cons s f layout others first _ ih =>
      exact .cons (takes_field first) (ih.map fun others => f :: others)

/-- Bytes that fall short of a layout are reported as they do. -/
theorem fields_of_lacks {layout : Layout} (short : layout.Lacks position bytes e) :
    ∃ c, fields layout ⟨position, bytes⟩ = (.error e, c) := by
  induction short with
  | here short =>
      obtain ⟨c, fails⟩ := field_of_lacks short
      exact ⟨c, bind_of_error fails _⟩
  | @later s layout position f bytes e first _ ih =>
      obtain ⟨c, fails⟩ := ih
      refine ⟨c, ?_⟩
      rw [fields, bind_apply, takes_field first position bytes]
      exact bind_of_error fails _

end Outcomes

section Obeys

variable {α β : Type} {layout : Layout} {value : List Field → Option β}

/-- Whether a step reads a layout, makes a value of what it finds, and fails as the layout does. -/
def Obeys (step : Read α) (layout : Layout) (value : List Field → Option α) : Prop :=
  ∀ c, match (fields layout c).1 with
    | .ok found => ∃ a, value found = some a ∧ (step c).1 = .ok a
    | .error e => (step c).1 = .error e

theorem Obeys.pure {a : β} (means : value [] = some a) : Obeys (pure a : Read β) [] value :=
  fun _ => ⟨a, means, rfl⟩

/-- A step obeys a layout if it reads the first field and obeys the other shapes with what it has
read. -/
theorem Obeys.cons {s : Shape} {step : Read α} {made : α → Field}
    (first : field s = step >>= fun a => Pure.pure (made a)) {next : α → Read β}
    (others : ∀ a, Obeys (next a) layout fun found => value (made a :: found)) :
    Obeys (step >>= next) (s :: layout) value := by
  intro c
  rw [fields, first, bind_apply, bind_apply, bind_apply]
  rcases step c with ⟨e | a, c'⟩
  · rfl
  · have rest := others a c'
    dsimp only [pure_apply] at rest ⊢
    rw [bind_apply]
    rcases outcome : fields layout c' with ⟨e | found, c''⟩ <;> rw [outcome] at rest <;> exact rest

theorem Obeys.byte {next : UInt8 → Read β}
    (others : ∀ b, Obeys (next b) layout fun found => value (.byte b :: found)) :
    Obeys (Read.byte >>= next) (.byte :: layout) value :=
  .cons rfl others

theorem Obeys.word {next : UInt32 → Read β}
    (others : ∀ n, Obeys (next n) layout fun found => value (.word n :: found)) :
    Obeys (Read.word >>= next) (.word :: layout) value :=
  .cons rfl others

theorem Obeys.signed {next : Int32 → Read β}
    (others : ∀ n : UInt32, Obeys (next n.toInt32) layout fun found => value (.word n :: found)) :
    Obeys (Read.signed >>= next) (.word :: layout) value := by
  have regrouped : Read.signed >>= next = Read.word >>= fun n => next n.toInt32 := by
    rw [Read.signed, bind_assoc]
    simp only [Word.toSigned_eq_toInt32, pure_bind]
  rw [regrouped]
  exact .word others

theorem Obeys.boundedText {capacity : Nat} {next : String → Read β}
    (others : ∀ bytes, Obeys (next (Utf8.lossy (bytes.take (capacity - 1)))) layout
      fun found => value (.block bytes :: found)) :
    Obeys (Read.boundedText capacity >>= next) (.block :: layout) value := by
  have regrouped : Read.boundedText capacity >>= next =
      block >>= fun bytes => next (Utf8.lossy (bytes.take (capacity - 1))) := by
    rw [Read.boundedText, bind_assoc]
    simp only [pure_bind]
  rw [regrouped]
  exact .cons rfl others

end Obeys

end Read

end TopoSync
