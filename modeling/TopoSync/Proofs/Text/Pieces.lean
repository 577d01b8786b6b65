import Mathlib
import TopoSync.Text.Utf8

/-!
# Pieces of bytes that become text

Lossy reading cuts bytes into pieces, each of which becomes one character: the bytes of a character, or
an ill-formed run of at most three bytes that a replacement stands for.  So the text takes up as many
bytes as it was read from, and more by what the replacements are longer than the runs.
-/

namespace TopoSync

namespace Utf8

/-- Bytes that are read as one character. -/
inductive Piece
  /-- The bytes of a character. -/
  | whole (c : Char)
  /-- An ill-formed run, for which a replacement stands. -/
  | broken (run : Bytes)
deriving DecidableEq, Repr

namespace Piece

/-- The bytes of a piece. -/
def bytes : Piece → Bytes
  | whole c => encodeChar c
  | broken run => run

/-- The character that a piece is read as. -/
def char : Piece → Char
  | whole c => c
  | broken _ => replacement

/-- How much longer the character is than the bytes that it was read from. -/
def excess : Piece → Nat
  | whole _ => 0
  | broken run => 3 - run.length

/-- Whether a piece is no longer than a replacement, and not empty. -/
def Short : Piece → Prop
  | whole _ => True
  | broken run => 1 ≤ run.length ∧ run.length ≤ 3

theorem length_encodeChar_char {p : Piece} (short : p.Short) :
    (encodeChar p.char).length = p.bytes.length + p.excess := by
  cases p with
  | whole c => rfl
  | broken run =>
      have three : (encodeChar replacement).length = 3 := by decide
      have most : run.length ≤ 3 := short.2
      simp only [char, bytes, excess, three]
      omega

theorem excess_le {p : Piece} (short : p.Short) : p.excess ≤ 2 * p.bytes.length := by
  cases p with
  | whole c => exact Nat.zero_le _
  | broken run =>
      have least : 1 ≤ run.length := short.1
      simp only [excess, bytes]
      omega

end Piece

/-- The piece that a step of reading completes, or the unfinished character with its bytes so far. -/
def Progress.pieces (bytes : Bytes) : Progress → List Piece × Option (Partial × Bytes)
  | .char c => ([.whole c], none)
  | .owing p => ([], some (p, bytes))

/-- One byte of reading in pieces. -/
def pieceStep (unfinished : Option (Partial × Bytes)) (b : UInt8) :
    List Piece × Option (Partial × Bytes) :=
  let fresh := match first? b with
    | some progress => progress.pieces [b]
    | none => ([.broken [b]], none)
  match unfinished with
  | none => fresh
  | some (p, seen) =>
      match p.next? b with
      | some progress => progress.pieces (seen ++ [b])
      | none => (.broken seen :: fresh.1, fresh.2)

/-- The pieces of some bytes from a given point on. -/
def piecesFrom : Option (Partial × Bytes) → Bytes → List Piece
  | none, [] => []
  | some (_, seen), [] => [.broken seen]
  | unfinished, b :: rest =>
      let step := pieceStep unfinished b
      step.1 ++ piecesFrom step.2 rest

/-- The pieces that bytes are read as. -/
def pieces (bytes : Bytes) : List Piece :=
  piecesFrom none bytes

/-- How much longer a text is than the bytes that it was read from. -/
def excess (bytes : Bytes) : Nat :=
  ((pieces bytes).map Piece.excess).sum

theorem char_pieceStep (unfinished : Option (Partial × Bytes)) (b : UInt8) :
    (pieceStep unfinished b).1.map Piece.char = (lossyStep (unfinished.map Prod.fst) b).1 ∧
      (pieceStep unfinished b).2.map Prod.fst = (lossyStep (unfinished.map Prod.fst) b).2 := by
  have each : ∀ (progress : Progress) bytes,
      (progress.pieces bytes).1.map Piece.char = progress.split.1 ∧
        (progress.pieces bytes).2.map Prod.fst = progress.split.2 := by
    intro progress bytes
    cases progress <;> exact ⟨rfl, rfl⟩
  cases unfinished with
  | none =>
      simp only [pieceStep, lossyStep, Option.map_none]
      cases first? b with
      | none => exact ⟨rfl, rfl⟩
      | some progress => exact each progress [b]
  | some u =>
      simp only [pieceStep, lossyStep, Option.map_some]
      cases u.1.next? b with
      | some progress => exact each progress (u.2 ++ [b])
      | none =>
          cases first? b with
          | none => exact ⟨rfl, rfl⟩
          | some progress =>
              obtain ⟨chars, left⟩ := each progress [b]
              exact ⟨congrArg (replacement :: ·) chars, left⟩

/-- The pieces are read as the characters of the text. -/
theorem char_piecesFrom (unfinished : Option (Partial × Bytes)) (bytes : Bytes) :
    (piecesFrom unfinished bytes).map Piece.char = lossyFrom (unfinished.map Prod.fst) bytes := by
  induction bytes generalizing unfinished with
  | nil => cases unfinished <;> rfl
  | cons b rest ih =>
      obtain ⟨chars, left⟩ := char_pieceStep unfinished b
      have here : piecesFrom unfinished (b :: rest) =
          (pieceStep unfinished b).1 ++ piecesFrom (pieceStep unfinished b).2 rest := by
        cases unfinished <;> rfl
      have there : lossyFrom (unfinished.map Prod.fst) (b :: rest) =
          (lossyStep (unfinished.map Prod.fst) b).1 ++
            lossyFrom (lossyStep (unfinished.map Prod.fst) b).2 rest := by
        cases unfinished <;> rfl
      rw [here, there, List.map_append, chars, ih, left]

/-- Whether some bytes are the beginning of a character of which what is owed is still missing. -/
inductive Owes : Partial → Bytes → Prop
  | two {v : Nat} (range : 2 ≤ v ∧ v < 0x20) :
      Owes ⟨v, 0x80, 0xBF, 0⟩ [UInt8.ofNat (0xC0 + v)]
  | three {v : Nat} (range : v < 0x10) :
      Owes ⟨v, if v = 0 then 0xA0 else 0x80, if v = 0xD then 0x9F else 0xBF, 1⟩
        [UInt8.ofNat (0xE0 + v)]
  | threeSecond {v : Nat} (range : 0x20 ≤ v ∧ v < 0x400) (scalar : v < 0x360 ∨ 0x380 ≤ v) :
      Owes ⟨v, 0x80, 0xBF, 0⟩ [UInt8.ofNat (0xE0 + v / 0x40), UInt8.ofNat (0x80 + v % 0x40)]
  | four {v : Nat} (range : v < 5) :
      Owes ⟨v, if v = 0 then 0x90 else 0x80, if v = 4 then 0x8F else 0xBF, 2⟩
        [UInt8.ofNat (0xF0 + v)]
  | fourSecond {v : Nat} (range : 0x10 ≤ v ∧ v < 0x110) :
      Owes ⟨v, 0x80, 0xBF, 1⟩ [UInt8.ofNat (0xF0 + v / 0x40), UInt8.ofNat (0x80 + v % 0x40)]
  | fourThird {v : Nat} (range : 0x400 ≤ v ∧ v < 0x4400) :
      Owes ⟨v, 0x80, 0xBF, 0⟩
        [UInt8.ofNat (0xF0 + v / 0x1000), UInt8.ofNat (0x80 + v / 0x40 % 0x40),
          UInt8.ofNat (0x80 + v % 0x40)]

theorem eq_ofNat_of_toNat {b : UInt8} {n : Nat} (value : b.toNat = n) : b = UInt8.ofNat n := by
  rw [← value, UInt8.ofNat_toNat]

/-- The first byte of a character of several bytes. -/
theorem owes_first {b : UInt8} {p : Partial} (first : first? b = some (.owing p)) :
    Owes p [b] := by
  have two : ∀ v, 0xC0 + v = b.toNat → 2 ≤ v ∧ v < 0x20 → Owes ⟨v, 0x80, 0xBF, 0⟩ [b] := by
    intro v value range
    rw [eq_ofNat_of_toNat value.symm]
    exact .two range
  have three : ∀ v low high, 0xE0 + v = b.toNat → v < 0x10 →
      low = (if v = 0 then 0xA0 else 0x80) → high = (if v = 0xD then 0x9F else 0xBF) →
        Owes ⟨v, low, high, 1⟩ [b] := by
    rintro v _ _ value range rfl rfl
    rw [eq_ofNat_of_toNat value.symm]
    exact .three range
  have four : ∀ v low high, 0xF0 + v = b.toNat → v < 5 →
      low = (if v = 0 then 0x90 else 0x80) → high = (if v = 4 then 0x8F else 0xBF) →
        Owes ⟨v, low, high, 2⟩ [b] := by
    rintro v _ _ value range rfl rfl
    rw [eq_ofNat_of_toNat value.symm]
    exact .four range
  unfold first? at first
  dsimp only at first
  generalize b.toNat = n at first two three four
  split at first
  · cases Option.some.inj first
  split at first
  · cases first
  split at first
  · obtain rfl := Progress.owing.inj (Option.some.inj first)
    exact two _ (by omega) (by omega)
  split at first
  · obtain rfl := Progress.owing.inj (Option.some.inj first)
    exact three _ _ _ (by omega) (by omega) rfl rfl
  split at first
  · obtain rfl := Progress.owing.inj (Option.some.inj first)
    exact three _ _ _ (by omega) (by omega) rfl rfl
  split at first
  · obtain rfl := Progress.owing.inj (Option.some.inj first)
    exact three _ _ _ (by omega) (by omega) (by rw [if_neg (by omega)]) (by rw [if_neg (by omega)])
  split at first
  · obtain rfl := Progress.owing.inj (Option.some.inj first)
    exact four _ _ _ (by omega) (by omega) rfl rfl
  split at first
  · obtain rfl := Progress.owing.inj (Option.some.inj first)
    exact four _ _ _ (by omega) (by omega) (by rw [if_neg (by omega)]) (by rw [if_neg (by omega)])
  split at first
  · obtain rfl := Progress.owing.inj (Option.some.inj first)
    exact four _ _ _ (by omega) (by omega) rfl rfl
  · cases first

theorem toNat_ofNat {n : Nat} (valid : n < 0xD800 ∨ 0xDFFF < n ∧ n < 0x110000) :
    (Char.ofNat n).toNat = n := by
  have valid : n.isValidChar := valid
  rw [Char.ofNat, dif_pos valid]
  rfl

/-- A character of one byte. -/
theorem encodeChar_first {b : UInt8} {c : Char} (first : first? b = some (.char c)) :
    encodeChar c = [b] := by
  unfold first? at first
  dsimp only at first
  split at first
  · rename_i small
    obtain rfl := Progress.char.inj (Option.some.inj first)
    rw [encodeChar, toNat_ofNat (by omega)]
    simp only [if_pos small, UInt8.ofNat_toNat]
  · repeat' split at first
    all_goals cases first

/-- What a byte says that continues a character. -/
theorem next?_cases {p : Partial} (range : 0x80 ≤ p.low ∧ p.high ≤ 0xBF) {b : UInt8}
    {progress : Progress} (next : p.next? b = some progress) :
    ∃ x, x < 0x40 ∧ b = UInt8.ofNat (0x80 + x) ∧ p.low ≤ 0x80 + x ∧ 0x80 + x ≤ p.high ∧
      (p.more = 0 ∧ progress = .char (Char.ofNat (p.value * 0x40 + x)) ∨
        ∃ more, p.more = more + 1 ∧
          progress = .owing ⟨p.value * 0x40 + x, 0x80, 0xBF, more⟩) := by
  unfold Partial.next? at next
  dsimp only at next
  split at next
  · rename_i admissible
    have value : 0x80 + (b.toNat - 0x80) = b.toNat := by omega
    refine ⟨b.toNat - 0x80, by omega, eq_ofNat_of_toNat value.symm, by omega, by omega, ?_⟩
    split at next
    · rename_i last
      exact .inl ⟨last, (Option.some.inj next).symm⟩
    · rename_i more rest
      exact .inr ⟨more, rest, (Option.some.inj next).symm⟩
  · cases next

namespace Owes

variable {p : Partial} {seen : Bytes} (owes : Owes p seen)

include owes

theorem length : 1 ≤ seen.length ∧ seen.length ≤ 3 := by
  cases owes <;> simp

theorem range : 0x80 ≤ p.low ∧ p.high ≤ 0xBF := by
  cases owes <;> dsimp only <;> (try split) <;> (try split) <;> omega

/-- A byte that does not complete the character leaves less to be owed. -/
theorem next {b : UInt8} {p' : Partial} (owing : p.next? b = some (.owing p')) :
    Owes p' (seen ++ [b]) := by
  obtain ⟨x, small, rfl, low, high, ⟨_, other⟩ | ⟨more, rest, same⟩⟩ := next?_cases owes.range owing
  · cases other
  · obtain rfl := Progress.owing.inj same
    cases owes with
    | two | threeSecond | fourThird => cases rest
    | @three v range =>
        obtain rfl : more = 0 := by simpa using rest.symm
        dsimp only at low high
        have least : 0x20 ≤ v * 0x40 + x := by
          by_cases zero : v = 0
          · rw [if_pos zero] at low
            omega
          · omega
        have scalar : v * 0x40 + x < 0x360 ∨ 0x380 ≤ v * 0x40 + x := by
          by_cases surrogate : v = 0xD
          · rw [if_pos surrogate] at high
            omega
          · omega
        have made := threeSecond ⟨least, by omega⟩ scalar
        rwa [show (v * 0x40 + x) / 0x40 = v by omega,
          show (v * 0x40 + x) % 0x40 = x by omega] at made
    | @four v range =>
        obtain rfl : more = 1 := by simpa using rest.symm
        dsimp only at low high
        have least : 0x10 ≤ v * 0x40 + x := by
          by_cases zero : v = 0
          · rw [if_pos zero] at low
            omega
          · omega
        have most : v * 0x40 + x < 0x110 := by
          by_cases last : v = 4
          · rw [if_pos last] at high
            omega
          · omega
        have made := fourSecond ⟨least, most⟩
        rwa [show (v * 0x40 + x) / 0x40 = v by omega,
          show (v * 0x40 + x) % 0x40 = x by omega] at made
    | @fourSecond v range =>
        obtain rfl : more = 0 := by simpa using rest.symm
        have range' : 0x400 ≤ v * 0x40 + x ∧ v * 0x40 + x < 0x4400 := by omega
        have made := fourThird range'
        rwa [show (v * 0x40 + x) / 0x1000 = v / 0x40 by omega,
          show (v * 0x40 + x) / 0x40 = v by omega,
          show (v * 0x40 + x) % 0x40 = x by omega] at made

/-- A byte that completes the character ends its bytes. -/
theorem encodeChar_next {b : UInt8} {c : Char} (completed : p.next? b = some (.char c)) :
    encodeChar c = seen ++ [b] := by
  obtain ⟨x, small, rfl, low, high, ⟨last, same⟩ | ⟨_, _, other⟩⟩ :=
    next?_cases owes.range completed
  · obtain rfl := Progress.char.inj same
    cases owes with
    | three | four | fourSecond => cases last
    | @two v range =>
        dsimp only
        rw [encodeChar, toNat_ofNat (by omega)]
        rw [if_neg (by omega), if_pos (by omega), show (v * 0x40 + x) / 0x40 = v by omega,
          show (v * 0x40 + x) % 0x40 = x by omega]
        rfl
    | @threeSecond v range scalar =>
        dsimp only
        rw [encodeChar, toNat_ofNat (by omega)]
        rw [if_neg (by omega), if_neg (by omega), if_pos (by omega),
          show (v * 0x40 + x) / 0x1000 = v / 0x40 by omega,
          show (v * 0x40 + x) / 0x40 = v by omega, show (v * 0x40 + x) % 0x40 = x by omega]
        rfl
    | @fourThird v range =>
        dsimp only
        rw [encodeChar, toNat_ofNat (by omega)]
        rw [if_neg (by omega), if_neg (by omega), if_neg (by omega),
          show (v * 0x40 + x) / 0x40000 = v / 0x1000 by omega,
          show (v * 0x40 + x) / 0x1000 = v / 0x40 by omega,
          show (v * 0x40 + x) / 0x40 = v by omega, show (v * 0x40 + x) % 0x40 = x by omega]
        rfl
  · cases other

end Owes

/-- The bytes of an unfinished character so far. -/
def seen (unfinished : Option (Partial × Bytes)) : Bytes :=
  (unfinished.map Prod.snd).getD []

/-- Whether an unfinished character is the beginning of one. -/
def Tracked (unfinished : Option (Partial × Bytes)) : Prop :=
  ∀ u, unfinished = some u → Owes u.1 u.2

/-- Whether a step from an unfinished character puts its bytes and one more into short pieces and what
is unfinished then. -/
structure Steps (unfinished : Option (Partial × Bytes)) (b : UInt8)
    (step : List Piece × Option (Partial × Bytes)) : Prop where
  tracked : Tracked step.2
  short : ∀ p ∈ step.1, p.Short
  bytes : step.1.flatMap Piece.bytes ++ seen step.2 = seen unfinished ++ [b]

theorem steps_first (b : UInt8) : Steps none b (pieceStep none b) := by
  simp only [pieceStep]
  cases first : first? b with
  | none => exact ⟨nofun, by simp [Piece.Short], rfl⟩
  | some progress =>
      cases progress with
      | char c =>
          refine ⟨nofun, by simp [Progress.pieces, Piece.Short], ?_⟩
          simp [Progress.pieces, Piece.bytes, seen, encodeChar_first first]
      | owing p =>
          refine ⟨?_, by simp [Progress.pieces], rfl⟩
          rintro _ ⟨⟩
          exact owes_first first

theorem steps_pieceStep {unfinished : Option (Partial × Bytes)} (tracked : Tracked unfinished)
    (b : UInt8) : Steps unfinished b (pieceStep unfinished b) := by
  cases unfinished with
  | none => exact steps_first b
  | some u =>
      obtain ⟨p, seenSoFar⟩ := u
      have owes : Owes p seenSoFar := tracked _ rfl
      have fresh := steps_first b
      simp only [pieceStep] at fresh ⊢
      cases next : p.next? b with
      | some progress =>
          cases progress with
          | char c =>
              refine ⟨nofun, by simp [Progress.pieces, Piece.Short], ?_⟩
              simp [Progress.pieces, Piece.bytes, seen, owes.encodeChar_next next]
          | owing p' =>
              refine ⟨?_, by simp [Progress.pieces], rfl⟩
              rintro _ ⟨⟩
              exact owes.next next
      | none =>
          refine ⟨fresh.tracked, ?_, ?_⟩
          · intro piece member
            rcases List.mem_cons.mp member with rfl | member
            · exact owes.length
            · exact fresh.short piece member
          · have bytes := fresh.bytes
            rw [List.flatMap_cons, List.append_assoc, bytes]
            rfl

/-- The pieces are short and made of the bytes in their order. -/
theorem bytes_piecesFrom {unfinished : Option (Partial × Bytes)} (tracked : Tracked unfinished)
    (bytes : Bytes) :
    (piecesFrom unfinished bytes).flatMap Piece.bytes = seen unfinished ++ bytes ∧
      ∀ p ∈ piecesFrom unfinished bytes, p.Short := by
  induction bytes generalizing unfinished with
  | nil =>
      cases unfinished with
      | none => exact ⟨rfl, by simp [piecesFrom]⟩
      | some u =>
          refine ⟨by simp [piecesFrom, Piece.bytes, seen], fun p member => ?_⟩
          obtain rfl := List.mem_singleton.mp member
          exact (tracked u rfl).length
  | cons b rest ih =>
      have here : piecesFrom unfinished (b :: rest) =
          (pieceStep unfinished b).1 ++ piecesFrom (pieceStep unfinished b).2 rest := by
        cases unfinished <;> rfl
      have step := steps_pieceStep tracked b
      obtain ⟨later, short⟩ := ih step.tracked
      rw [here]
      constructor
      · calc
          ((pieceStep unfinished b).1 ++ piecesFrom (pieceStep unfinished b).2 rest).flatMap
              Piece.bytes =
            ((pieceStep unfinished b).1.flatMap Piece.bytes ++ seen (pieceStep unfinished b).2) ++
              rest := by rw [List.flatMap_append, later, List.append_assoc]
          _ = seen unfinished ++ b :: rest := by
            rw [step.bytes, List.append_assoc, List.singleton_append]
      · intro p member
        rcases List.mem_append.mp member with member | member
        · exact step.short p member
        · exact short p member

theorem tracked_none : Tracked none := nofun

/-- The pieces of some bytes. -/
theorem flatMap_bytes_pieces (bytes : Bytes) : (pieces bytes).flatMap Piece.bytes = bytes :=
  (bytes_piecesFrom tracked_none bytes).1

theorem short_of_mem_pieces {bytes : Bytes} {p : Piece} (member : p ∈ pieces bytes) : p.Short :=
  (bytes_piecesFrom tracked_none bytes).2 p member

theorem lossy_eq_pieces (bytes : Bytes) :
    lossy bytes = String.ofList ((pieces bytes).map Piece.char) :=
  congrArg String.ofList (char_piecesFrom none bytes).symm

/-- The length of a text is that of the bytes that it was read from and the excess. -/
theorem length_encode_lossy (bytes : Bytes) :
    (encode (lossy bytes)).length = bytes.length + excess bytes := by
  have sum : ∀ ps : List Piece, (∀ p ∈ ps, p.Short) →
      ((ps.map Piece.char).flatMap encodeChar).length =
        (ps.flatMap Piece.bytes).length + (ps.map Piece.excess).sum := by
    intro ps short
    induction ps with
    | nil => rfl
    | cons p ps ih =>
        have one := Piece.length_encodeChar_char (short p List.mem_cons_self)
        have others := ih fun q member => short q (List.mem_cons_of_mem _ member)
        simp only [List.map_cons, List.flatMap_cons, List.length_append, List.sum_cons]
        omega
  rw [lossy_eq_pieces, encode_ofList, sum _ fun p => short_of_mem_pieces, flatMap_bytes_pieces,
    excess]

/-- A text is at most three times as long as the bytes that it was read from. -/
theorem excess_le (bytes : Bytes) : excess bytes ≤ 2 * bytes.length := by
  have sum : ∀ ps : List Piece, (∀ p ∈ ps, p.Short) →
      (ps.map Piece.excess).sum ≤ 2 * (ps.flatMap Piece.bytes).length := by
    intro ps short
    induction ps with
    | nil => exact Nat.zero_le _
    | cons p ps ih =>
        have one := Piece.excess_le (short p List.mem_cons_self)
        have others := ih fun q member => short q (List.mem_cons_of_mem _ member)
        simp only [List.map_cons, List.flatMap_cons, List.length_append, List.sum_cons]
        omega
  have all := sum (pieces bytes) fun p => short_of_mem_pieces
  rwa [flatMap_bytes_pieces] at all

end Utf8

end TopoSync
