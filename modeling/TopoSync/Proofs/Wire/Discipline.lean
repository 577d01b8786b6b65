import TopoSync.Proofs.Wire.Getters

/-!
# Reading whatever there is

A reader is asked for this and that, on a buffer that may hold anything, and goes on after it has failed.
It never leaves the buffer and never goes back.  What it gives is made of the bytes between its old and
its new position; where it fails, it reports what is missing at the position where it then stands.
-/

namespace TopoSync

namespace Word

/-- The number that the first word of some bytes announces. -/
def announced (bytes : Bytes) : Nat :=
  (ofBytes (bytes.take 4)).toNat

end Word

namespace Getter

/-- Whether a length word comes first. -/
def hasLength : Getter → Bool
  | byte | word | signed => false
  | block | text | boundedText _ => true

/-- How many bytes are taken first. -/
def head : Getter → Nat
  | byte => 1
  | word | signed | block | text | boundedText _ => 4

/-- How many bytes are taken in all, of the bytes that follow. -/
def width (g : Getter) (bytes : Bytes) : Nat :=
  if g.hasLength then 4 + Word.announced bytes else g.head

/-- What is given for the bytes that are taken. -/
def value (g : Getter) (taken : Bytes) : Field :=
  match g with
  | byte => .byte (taken.headD 0)
  | word => .word (Word.ofBytes taken)
  | signed => .signed (Word.toSigned (Word.ofBytes taken))
  | block => .block (taken.drop 4)
  | text => .text (Utf8.lossy (taken.drop 4))
  | boundedText capacity => .text (Utf8.lossy ((taken.drop 4).take (capacity - 1)))

end Getter

namespace Read

variable {position : Nat} {bytes : Bytes}

theorem word_of_enough (enough : 4 ≤ bytes.length) :
    word ⟨position, bytes⟩ = (.ok (Word.ofBytes (bytes.take 4)), ⟨position + 4, bytes.drop 4⟩) := by
  rw [word, bind_apply, take_of_le enough]
  rfl

/-- A block is read if there are a length word and as many bytes behind it as it says. -/
theorem block_of_enough (enough : 4 + Word.announced bytes ≤ bytes.length) :
    block ⟨position, bytes⟩ =
      (.ok ((bytes.take (4 + Word.announced bytes)).drop 4),
        ⟨position + (4 + Word.announced bytes), bytes.drop (4 + Word.announced bytes)⟩) := by
  have behind : Word.announced bytes ≤ (bytes.drop 4).length := by
    rw [List.length_drop]
    omega
  rw [block, bind_apply, word_of_enough (Nat.le_of_add_right_le enough)]
  dsimp only
  rw [← Word.announced, take_of_le behind, List.drop_take, List.drop_drop, Nat.add_assoc,
    Nat.add_sub_cancel_left]

theorem block_of_no_length (short : bytes.length < 4) :
    block ⟨position, bytes⟩ = (.error ⟨position, 4, bytes.length⟩, ⟨position, bytes⟩) :=
  bind_of_error (word_of_short short) _

/-- If only the bytes behind the length word are missing, the length word stays read. -/
theorem block_of_no_body (length : 4 ≤ bytes.length)
    (short : bytes.length < 4 + Word.announced bytes) :
    block ⟨position, bytes⟩ =
      (.error ⟨position + 4, Word.announced bytes, bytes.length - 4⟩,
        ⟨position + 4, bytes.drop 4⟩) := by
  have behind : (bytes.drop 4).length < Word.announced bytes := by
    rw [List.length_drop]
    omega
  rw [block, bind_apply, word_of_enough length]
  dsimp only
  rw [← Word.announced, take_of_lt behind, Cursor.remaining, List.length_drop]

end Read

namespace Getter

/-- What comes of a call, given the bytes that follow the position. -/
inductive Outcome (g : Getter) (position : Nat) (bytes : Bytes) : Except Truncated Field × Cursor → Prop
  /-- All bytes are there. -/
  | given (enough : g.width bytes ≤ bytes.length) :
      Outcome g position bytes
        (.ok (g.value (bytes.take (g.width bytes))),
          ⟨position + g.width bytes, bytes.drop (g.width bytes)⟩)
  /-- The first bytes are not there. -/
  | noHead (short : bytes.length < g.head) :
      Outcome g position bytes (.error ⟨position, g.head, bytes.length⟩, ⟨position, bytes⟩)
  /-- The length word is there, the bytes that it announces are not. -/
  | noBody (lengthFirst : g.hasLength = true) (length : 4 ≤ bytes.length)
      (short : bytes.length < 4 + Word.announced bytes) :
      Outcome g position bytes
        (.error ⟨position + 4, Word.announced bytes, bytes.length - 4⟩,
          ⟨position + 4, bytes.drop 4⟩)

/-- A getter that takes a fixed number of bytes has them or falls short of them. -/
theorem outcome_of_fixed {g : Getter} (noLength : g.hasLength = false)
    (reads : g.read = Read.take g.head >>= fun taken => pure (g.value taken)) (position : Nat)
    (bytes : Bytes) :
    g.Outcome position bytes (g.read ⟨position, bytes⟩) := by
  have width : g.width bytes = g.head := by
    rw [Getter.width, noLength]
    rfl
  rw [reads]
  by_cases short : bytes.length < g.head
  case pos =>
    rw [Read.bind_of_error (Read.take_of_lt short)]
    exact .noHead short
  case neg =>
    have enough := Nat.not_lt.mp short
    rw [Read.bind_apply, Read.take_of_le enough]
    dsimp only [Read.pure_apply]
    rw [← width] at enough ⊢
    exact .given enough

/-- A getter that works on a block has the block or falls short of it. -/
theorem outcome_of_block {g : Getter} (lengthFirst : g.hasLength = true) (four : g.head = 4)
    {made : Bytes → Field} (reads : g.read = Read.block >>= fun bytes => pure (made bytes))
    (means : ∀ taken, g.value taken = made (taken.drop 4)) (position : Nat) (bytes : Bytes) :
    g.Outcome position bytes (g.read ⟨position, bytes⟩) := by
  have width : g.width bytes = 4 + Word.announced bytes := if_pos lengthFirst
  rw [reads]
  by_cases head : bytes.length < 4
  case pos =>
    rw [Read.bind_of_error (Read.block_of_no_length head)]
    rw [← four] at head ⊢
    exact .noHead head
  case neg =>
    by_cases body : bytes.length < 4 + Word.announced bytes
    case pos =>
      rw [Read.bind_of_error (Read.block_of_no_body (Nat.not_lt.mp head) body)]
      exact .noBody lengthFirst (Nat.not_lt.mp head) body
    case neg =>
      have enough := Nat.not_lt.mp body
      rw [Read.bind_apply, Read.block_of_enough enough]
      dsimp only [Read.pure_apply]
      rw [← width] at enough ⊢
      rw [← means]
      exact .given enough

theorem outcome_read (g : Getter) (position : Nat) (bytes : Bytes) :
    g.Outcome position bytes (g.read ⟨position, bytes⟩) := by
  cases g with
  | byte =>
      apply outcome_of_fixed rfl
      simp only [read, Read.byte, bind_assoc, pure_bind]
      rfl
  | word =>
      apply outcome_of_fixed rfl
      simp only [read, Read.word, bind_assoc, pure_bind]
      rfl
  | signed =>
      apply outcome_of_fixed rfl
      simp only [read, Read.signed, Read.word, bind_assoc, pure_bind]
      rfl
  | block => exact outcome_of_block rfl rfl rfl (fun _ => rfl) position bytes
  | text =>
      have reads : text.read = Read.block >>= fun bytes => pure (.text (Utf8.lossy bytes)) := by
        simp only [read, Read.text, bind_assoc, pure_bind]
      exact outcome_of_block rfl rfl reads (fun _ => rfl) position bytes
  | boundedText capacity =>
      have reads : (boundedText capacity).read =
          Read.block >>= fun bytes => pure (.text (Utf8.lossy (bytes.take (capacity - 1)))) := by
        simp only [read, Read.boundedText, bind_assoc, pure_bind]
      exact outcome_of_block rfl rfl reads (fun _ => rfl) position bytes

end Getter

namespace Scan

/-- Whether a step in place leaves the buffer as it is. -/
def KeepsBuffer {α : Type} (scan : Scan α) : Prop :=
  ∀ r answer r', scan.run.run r = some (answer, r') → r'.buffer = r.buffer

section Keeping

variable {α β : Type}

theorem keepsBuffer_pure (a : α) : KeepsBuffer (pure a : Scan α) := by
  rintro r answer r' ⟨⟩
  rfl

theorem KeepsBuffer.bind {scan : Scan α} (first : scan.KeepsBuffer) {next : α → Scan β}
    (rest : ∀ a, (next a).KeepsBuffer) : KeepsBuffer (scan >>= next) := by
  intro r answer r' scanned
  have opened : (scan >>= next).run.run r =
      (scan.run.run r).bind fun e => (ExceptT.bindCont next e.1).run e.2 := rfl
  rw [opened, Option.bind_eq_some_iff] at scanned
  obtain ⟨⟨_ | a, r₁⟩, one, two⟩ := scanned
  · cases two
    exact first r _ _ one
  · exact (rest a r₁ answer r' two).trans (first r _ _ one)

theorem keepsBuffer_take (n : Nat) : (take n).KeepsBuffer := by
  intro r answer r' scanned
  simp only [take, ExceptT.run, StateT.run, Option.bind_eq_bind, Option.bind_eq_some_iff] at scanned
  obtain ⟨left, _, scanned⟩ := scanned
  split at scanned
  · cases scanned
    rfl
  · simp only [Option.bind_eq_some_iff] at scanned
    obtain ⟨stop, _, bytes, _, moved⟩ := scanned
    cases moved
    rfl

theorem keepsBuffer_lift (a : Option α) : KeepsBuffer (liftM a) := by
  intro r answer r' scanned
  cases a with
  | none => cases scanned
  | some a =>
      cases scanned
      rfl

theorem keepsBuffer_word : word.KeepsBuffer :=
  (keepsBuffer_take 4).bind fun _ => keepsBuffer_lift _

theorem keepsBuffer_block : block.KeepsBuffer :=
  keepsBuffer_word.bind fun length => keepsBuffer_take length.toNat

/-- No call changes the buffer. -/
theorem keepsBuffer_scan (g : Getter) : g.scan.KeepsBuffer := by
  cases g with
  | byte =>
      exact ((keepsBuffer_take 1).bind fun _ => keepsBuffer_lift _).bind fun _ => keepsBuffer_pure _
  | word => exact keepsBuffer_word.bind fun _ => keepsBuffer_pure _
  | signed =>
      exact (keepsBuffer_word.bind fun _ => keepsBuffer_pure _).bind fun _ => keepsBuffer_pure _
  | block => exact keepsBuffer_block.bind fun _ => keepsBuffer_pure _
  | text =>
      exact (keepsBuffer_block.bind fun _ => keepsBuffer_pure _).bind fun _ => keepsBuffer_pure _
  | boundedText capacity =>
      exact (keepsBuffer_block.bind fun _ => (keepsBuffer_lift _).bind fun _ =>
        keepsBuffer_pure _).bind fun _ => keepsBuffer_pure _

end Keeping

end Scan

namespace Reader

/-- The reader after some calls, whether they succeeded or not. -/
def after? (r : Reader) (calls : List Getter) : Option Reader :=
  calls.foldlM (fun r g => (g.scan.run.run r).map Prod.snd) r

/-- The bytes between two positions. -/
def between (r : Reader) (first stop : Nat) : Bytes :=
  (r.buffer.drop first).take (stop - first)

/-- Whether a call is answered as it should be, with the reader as it is then.  What is given is made of
the bytes between the positions; where bytes are missing, the reader stands where they should be. -/
def Answers (r : Reader) (g : Getter) (answer : Except Truncated Field) (r' : Reader) : Prop :=
  r'.buffer = r.buffer ∧ r.position ≤ r'.position ∧ r'.position ≤ r.buffer.length ∧
    match answer with
    | .ok v =>
        r'.position = r.position + g.width (r.buffer.drop r.position) ∧
          v = g.value (r.between r.position r'.position)
    | .error e =>
        (r'.position = r.position ∧ e.needed = g.head ∨
          g.hasLength = true ∧ r'.position = r.position + 4 ∧
            e.needed = Word.announced (r.buffer.drop r.position)) ∧
          e.offset = r'.position ∧ e.available = r.buffer.length - e.offset ∧
          e.available < e.needed

variable {r : Reader}

/-- Every call on a reader within its buffer is answered as it should be, and leaves it within. -/
theorem answers_scan (inside : r.Within) (g : Getter) :
    ∃ answer r', g.scan.run.run r = some (answer, r') ∧ r.Answers g answer r' ∧ r'.Within := by
  obtain ⟨r', scanned, cursor, within⟩ := g.follows_scan r inside
  refine ⟨_, r', scanned, ⟨Scan.keepsBuffer_scan g _ _ _ scanned, ?_⟩, within⟩
  have inside := inside.position_le
  have length : (r.buffer.drop r.position).length = r.buffer.length - r.position := List.length_drop
  have position : r'.position = (g.read r.cursor).2.position := congrArg Cursor.position cursor
  have outcome : g.Outcome r.position (r.buffer.drop r.position) (g.read r.cursor) :=
    g.outcome_read r.position (r.buffer.drop r.position)
  generalize g.read r.cursor = made at outcome position ⊢
  cases outcome with
  | given enough =>
      dsimp only at position ⊢
      refine ⟨by omega, by omega, position, ?_⟩
      rw [between, position, Nat.add_sub_cancel_left]
  | noHead short =>
      dsimp only at position ⊢
      exact ⟨by omega, by omega, .inl ⟨position, rfl⟩, position.symm, by omega, by omega⟩
  | noBody lengthFirst four short =>
      dsimp only at position ⊢
      exact ⟨by omega, by omega, .inr ⟨lengthFirst, position, rfl⟩, position.symm, by omega, by omega⟩

theorem within_after? (inside : r.Within) (calls : List Getter) :
    ∃ r', r.after? calls = some r' ∧ r'.buffer = r.buffer ∧ r.position ≤ r'.position ∧ r'.Within := by
  induction calls generalizing r with
  | nil => exact ⟨r, rfl, rfl, Nat.le_refl _, inside⟩
  | cons g rest ih =>
      obtain ⟨answer, r₁, scanned, ⟨buffer, forward, _⟩, within⟩ := answers_scan inside g
      obtain ⟨r', done, kept, further, last⟩ := ih within
      refine ⟨r', ?_, kept.trans buffer, Nat.le_trans forward further, last⟩
      rw [after?, List.foldlM_cons, scanned]
      exact done

end Reader

namespace Scan

/-- Whether a step in place makes some calls, one after the other, until one of them fails; it then fails
for the same reason and stops where that call does. -/
def Performs {α : Type} (scan : Scan α) (calls : List Getter) (r : Reader) : Prop :=
  ∃ answer r', scan.run.run r = some (answer, r') ∧
    match answer with
    | .ok _ => r.after? calls = some r'
    | .error e => ∃ before g r₀, before ++ [g] <+: calls ∧ r.after? before = some r₀ ∧
        g.scan.run.run r₀ = some (.error e, r')

section Performing

variable {α β : Type} {calls : List Getter} {r : Reader}

theorem performs_pure (a : β) (r : Reader) : Performs (pure a : Scan β) [] r :=
  ⟨.ok a, r, rfl, rfl⟩

/-- A step performs some calls if it makes the first of them and performs the others with what it has
read. -/
theorem Performs.cons {g : Getter} {step : Scan α} {made : α → Field}
    (first : g.scan = step >>= fun a => pure (made a)) {next : α → Scan β}
    (others : ∀ a r, r.Within → (next a).Performs calls r) (inside : r.Within) :
    Performs (step >>= next) (g :: calls) r := by
  obtain ⟨answer, r₁, scanned, _, within⟩ := Reader.answers_scan inside g
  have opened : ∀ {γ : Type} (later : α → Scan γ), (step >>= later).run.run r =
      (step.run.run r).bind fun e => (ExceptT.bindCont later e.1).run e.2 := fun _ => rfl
  have one := scanned
  rw [first, opened, Option.bind_eq_some_iff] at one
  obtain ⟨⟨reason | a, r₂⟩, stepped, rest⟩ := one
  · cases rest
    refine ⟨.error reason, r₂, ?_, [], g, r, ⟨calls, rfl⟩, rfl, scanned⟩
    rw [opened, stepped]
    rfl
  · cases rest
    obtain ⟨answer, r', last, ending⟩ := others a r₂ within
    have moved : ∀ calls, r.after? (g :: calls) = r₂.after? calls := by
      intro calls
      rw [Reader.after?, List.foldlM_cons, scanned]
      rfl
    refine ⟨answer, r', ?_, ?_⟩
    · rw [opened, stepped]
      exact last
    · cases answer with
      | ok b => exact (moved calls).trans ending
      | error e =>
          obtain ⟨before, g', r₀, made, reached, failed⟩ := ending
          exact ⟨g :: before, g', r₀, List.cons_prefix_cons.mpr ⟨rfl, made⟩, (moved before).trans reached,
            failed⟩

theorem Performs.word {next : UInt32 → Scan β}
    (others : ∀ n r, r.Within → (next n).Performs calls r) (inside : r.Within) :
    Performs (Scan.word >>= next) (.word :: calls) r :=
  Performs.cons (g := .word) rfl others inside

theorem Performs.byte {next : UInt8 → Scan β}
    (others : ∀ b r, r.Within → (next b).Performs calls r) (inside : r.Within) :
    Performs (Scan.byte >>= next) (.byte :: calls) r :=
  Performs.cons (g := .byte) rfl others inside

theorem Performs.text {next : String → Scan β}
    (others : ∀ s r, r.Within → (next s).Performs calls r) (inside : r.Within) :
    Performs (Scan.text >>= next) (.text :: calls) r :=
  Performs.cons (g := .text) rfl others inside

theorem Performs.boundedText {capacity : Nat} {next : String → Scan β}
    (others : ∀ s r, r.Within → (next s).Performs calls r) (inside : r.Within) :
    Performs (Scan.boundedText capacity >>= next) (.boundedText capacity :: calls) r :=
  Performs.cons (g := .boundedText capacity) rfl others inside

end Performing

end Scan

namespace Getter

/-- The calls for the editable fields of a node. -/
def nodeFields : List Getter :=
  List.replicate 5 (boundedText textCapacity) ++
    [byte, boundedText addressCapacity, word, word]

/-- The calls for one interface of a node. -/
def interface : List Getter :=
  [word, word, word, text, word, text, word, text]

end Getter

namespace Scan

variable {r : Reader}

theorem performs_nodeFields (inside : r.Within) : nodeFields.Performs Getter.nodeFields r := by
  refine .boundedText (fun _ _ => ?_) inside
  refine .boundedText fun _ _ => ?_
  refine .boundedText fun _ _ => ?_
  refine .boundedText fun _ _ => ?_
  refine .boundedText fun _ _ => ?_
  refine .byte fun _ _ => ?_
  refine .boundedText fun _ _ => ?_
  refine .word fun _ _ => ?_
  refine .word fun _ r _ => ?_
  exact performs_pure _ r

theorem performs_interface (inside : r.Within) : interface.Performs Getter.interface r := by
  refine .word (fun _ _ => ?_) inside
  refine .word fun _ _ => ?_
  refine .word fun _ _ => ?_
  refine .text fun _ _ => ?_
  refine .word fun _ _ => ?_
  refine .text fun _ _ => ?_
  refine .word fun _ _ => ?_
  refine .text fun _ r _ => ?_
  exact performs_pure _ r

end Scan

/-- Whatever a buffer holds, wherever a reader is set on it, also behind its end, and whatever it has
been asked before, successfully or not: no step of it has failed, it stands within the buffer, not before
the place where it was set, and knows how much is left.  Any call is then answered.  A call that succeeds
moves the reader on by one byte, by four, or by four and the number announced there, and gives what is
made of the bytes that it passes.  A call that fails leaves it where it was, or just behind a length word
if only the bytes announced there are missing; the report names this place, what is left there and what
was needed, which is more.  The fields and the interfaces of nodes are read by such calls, up to the
first that fails. -/
theorem reader_keeps_within {buffer : Bytes} (small : buffer.length ≤ Checked.maxCount) (offset : Nat)
    (calls : List Getter) :
    ∃ r, (Reader.atOffset buffer offset).after? calls = some r ∧
      r.buffer = buffer ∧ min offset buffer.length ≤ r.position ∧ r.position ≤ buffer.length ∧
      r.remaining? = some (buffer.length - r.position) ∧
      (∀ g : Getter, ∃ answer r', g.scan.run.run r = some (answer, r') ∧ r.Answers g answer r') ∧
      Scan.nodeFields.Performs Getter.nodeFields r ∧ Scan.interface.Performs Getter.interface r := by
  obtain ⟨r, reached, kept, forward, within⟩ :=
    Reader.within_after? (Reader.within_atOffset small offset) calls
  have same : r.buffer = buffer := kept
  refine ⟨r, reached, same, forward, same ▸ within.position_le, ?_, fun g => ?_,
    Scan.performs_nodeFields within, Scan.performs_interface within⟩
  · rw [Reader.remaining?_of_within within, Cursor.remaining, Reader.cursor, List.length_drop, same]
  · obtain ⟨answer, r', scanned, answered, _⟩ := Reader.answers_scan within g
    exact ⟨answer, r', scanned, answered⟩

/-- A text that is announced with two bytes and has one. -/
def cutText : Bytes :=
  [0, 0, 0, 2, 0x61]

theorem reader_keeps_within_cutText :
    cutText.length ≤ Checked.maxCount ∧
      (Reader.atOffset cutText 0).after? [.text, .word, .boundedText 0] = some ⟨cutText, 4⟩ ∧
      ∃ answer r', Getter.byte.scan.run.run ⟨cutText, 4⟩ = some (answer, r') ∧
        Reader.Answers ⟨cutText, 4⟩ .byte answer r' := by
  have small : cutText.length ≤ Checked.maxCount := by decide
  have there : (Reader.atOffset cutText 0).after? [.text, .word, .boundedText 0] =
      some ⟨cutText, 4⟩ := by decide
  obtain ⟨r, reached, _, _, _, _, answered, _⟩ :=
    reader_keeps_within small 0 [.text, .word, .boundedText 0]
  obtain rfl : ⟨cutText, 4⟩ = r := Option.some.inj (there.symm.trans reached)
  exact ⟨small, there, answered .byte⟩

end TopoSync
