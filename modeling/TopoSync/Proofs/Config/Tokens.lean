import Mathlib.Tactic.IntervalCases
import TopoSync.Config.Json
import TopoSync.Proofs.Text.Digits

/-!
# Tokens of written values

A quoted text, a number and a truth value are each scanned as one token, whatever comes after a text and
whatever cannot continue a number.  Characters that are written as escapes come back, so the pieces of a
quoted text join to the text.
-/

namespace TopoSync

namespace Piece

/-- How a character of a quoted text is scanned. -/
def written (c : Char) : Piece :=
  if c.toNat < 0x20 ∧ c.toNat ∉ [8, 9, 10, 12, 13] then .unit c.toNat else .char c

/-- A unit outside of the pairs stands for a character of its own. -/
theorem join?_unit {n : Nat} (single : n < 0xD800) (rest : List Piece) :
    join? (.unit n :: rest) = (join? rest).map (Char.ofNat n :: ·) := by
  rw [join?.eq_def]
  exact if_pos (.inl single)

theorem join?_written (cs : List Char) : join? (cs.map written) = some cs := by
  induction cs with
  | nil => rfl
  | cons c rest ih =>
      rw [List.map_cons, written]
      split
      · rename_i control
        rw [join?_unit (by omega), ih, Option.map_some, Char.ofNat_toNat]
      · rw [join?, ih, Option.map_some]

end Piece

namespace Token

open Numeral

variable (rest : List Char)

theorem scanText_plain {c : Char} (printable : 0x20 ≤ c.toNat) (noQuote : c ≠ '"')
    (noEscape : c ≠ '\\') :
    scanText (c :: rest) = (scanText rest).map fun s => (.char c :: s.1, s.2) := by
  have allowed : ¬ (c.toNat < 0x20 ∨ c = '\\') := by
    rintro (control | escape)
    · omega
    · exact noEscape escape
  rw [scanText]
  · rw [if_neg allowed]
    cases scanText rest <;> rfl
  · exact noQuote
  · exact fun _ _ _ _ _ escape _ => noEscape escape
  · exact fun _ _ escape _ => noEscape escape

theorem scanText_letter {e c : Char} (letter : escaped? e = some c) (short : e ≠ 'u') :
    scanText ('\\' :: e :: rest) = (scanText rest).map fun s => (.char c :: s.1, s.2) := by
  rw [scanText]
  · rw [letter]
    cases scanText rest <;> rfl
  · exact fun _ _ _ _ _ unit _ => short unit

theorem value?_two {n : Nat} (small : n < 0x20) :
    value? 16 ['0', '0', digit (n / 16), digit (n % 16)] = some n := by
  interval_cases n <;> rfl

theorem scanText_unit {n : Nat} (small : n < 0x20) :
    scanText ('\\' :: 'u' :: '0' :: '0' :: digit (n / 16) :: digit (n % 16) :: rest) =
      (scanText rest).map fun s => (.unit n :: s.1, s.2) := by
  rw [scanText, value?_two small]
  cases scanText rest <;> rfl

/-- A written character is scanned as one piece. -/
theorem scanText_escape (c : Char) :
    scanText (Json.escape c ++ rest) =
      (scanText rest).map fun s => (Piece.written c :: s.1, s.2) := by
  unfold Json.escape
  split
  -- the characters with an escape of one letter that are told by themselves
  iterate 5 exact scanText_letter rest rfl (by decide)
  rename_i noQuote noEscape noLine noReturn noTab
  have other : ∀ d : Char, c ≠ d → c.toNat ≠ d.toNat := fun d differs same =>
    differs (Char.toNat_inj.mp same)
  dsimp only
  by_cases back : c.toNat = 8
  · obtain rfl : c = Char.ofNat 8 := Char.toNat_inj.mp back
    exact scanText_letter rest rfl (by decide)
  by_cases feed : c.toNat = 12
  · obtain rfl : c = Char.ofNat 12 := Char.toNat_inj.mp feed
    exact scanText_letter rest rfl (by decide)
  rw [if_neg back, if_neg feed]
  by_cases control : c.toNat < 0x20
  case pos =>
    have listed : c.toNat ∉ [8, 9, 10, 12, 13] := by
      simp only [List.mem_cons, List.not_mem_nil, or_false, not_or]
      exact ⟨back, other '\t' noTab, other '\n' noLine, feed, other '\r' noReturn⟩
    rw [if_pos control, Piece.written, if_pos ⟨control, listed⟩]
    exact scanText_unit rest control
  case neg =>
    rw [if_neg control, Piece.written, if_neg fun both => control both.1]
    exact scanText_plain rest (Nat.not_lt.mp control) noQuote noEscape

/-- A quoted text is scanned up to its closing quote. -/
theorem scanText_quoted (cs : List Char) :
    scanText (cs.flatMap Json.escape ++ '"' :: rest) = some (cs.map Piece.written, rest) := by
  induction cs with
  | nil => rfl
  | cons c cs ih => rw [List.flatMap_cons, List.append_assoc, scanText_escape, ih]; rfl

theorem scan_quote (s : String) :
    scan (Json.quote s ++ rest) = some (.text (s.toList.map Piece.written), rest) := by
  have quoted : Json.quote s ++ rest = '"' :: (s.toList.flatMap Json.escape ++ '"' :: rest) := by
    simp [Json.quote]
  rw [quoted, scan, scanText_quoted]
  rfl

theorem scan_bool (b : Bool) :
    scan ((if b then "true" else "false").toList ++ rest) = some (.bool b, rest) := by
  cases b <;> rfl

/-- A text that begins with a digit can only begin with a number. -/
theorem scan_digit {d : Nat} (small : d < 10) :
    scan (digit d :: rest) = (scanUnsigned (digit d :: rest)).map fun s => (number s.1, s.2) := by
  interval_cases d <;> rfl

theorem takeWhile_digits (n : Nat) {c : Char} (stop : isDigit 10 c = false) :
    (digits 10 n ++ c :: rest).takeWhile (isDigit 10) = digits 10 n ∧
      (digits 10 n ++ c :: rest).dropWhile (isDigit 10) = c :: rest := by
  have each : ∀ d ∈ digits 10 n, isDigit 10 d = true := fun d member =>
    isDigit_of_mem_digits (by decide) (by decide) member
  constructor
  · rw [List.takeWhile_append_of_pos each, List.takeWhile_cons_of_neg (by simp [stop]), List.append_nil]
  · rw [List.dropWhile_append_of_pos each, List.dropWhile_cons_of_neg (by simp [stop])]

/-- The digits of a number end where a comma or the end of the line comes. -/
theorem scanUnsigned_digits (n : Nat) {c : Char} (stop : c = ',' ∨ c = '\n') :
    scanUnsigned (digits 10 n ++ c :: rest) = some (some n, c :: rest) := by
  have noDigit : isDigit 10 c = false := by
    rcases stop with rfl | rfl <;> rfl
  have noFraction : scanFraction (c :: rest) = some (false, c :: rest) := by
    rcases stop with rfl | rfl <;> rfl
  have noExponent : scanExponent (c :: rest) = some (false, c :: rest) := by
    rcases stop with rfl | rfl <;> rfl
  have single : ¬ ((digits 10 n).head? = some '0' ∧ 1 < (digits 10 n).length) := by
    rintro ⟨zero, several⟩
    rw [eq_zero_of_head? (by decide) (by decide) zero, digits_of_lt (by decide)] at several
    exact absurd several (by decide)
  have scanned : scanDigits (digits 10 n ++ c :: rest) = some (digits 10 n, c :: rest) := by
    obtain ⟨taken, dropped⟩ := takeWhile_digits rest n noDigit
    rw [scanDigits, taken, dropped, if_neg (by simpa using digits_ne_nil 10 n)]
  simp only [scanUnsigned, scanned, Option.bind_eq_bind, Option.bind_some, if_neg single, noFraction,
    noExponent, value?_digits (show 2 ≤ 10 by decide) (show 10 ≤ 16 by decide)]
  rfl

/-- A number is scanned up to a comma or the end of its line. -/
theorem scan_digits (n : Nat) {c : Char} (stop : c = ',' ∨ c = '\n') :
    scan (digits 10 n ++ c :: rest) = some (.number (some n), c :: rest) := by
  have whole := scanUnsigned_digits rest n stop
  obtain ⟨first, others, begins⟩ := List.exists_cons_of_ne_nil (digits_ne_nil 10 n)
  obtain ⟨d, small, rfl⟩ := mem_digits (by decide) (begins ▸ List.mem_cons_self : first ∈ digits 10 n)
  rw [begins, List.cons_append] at whole ⊢
  rw [scan_digit _ small, whole]
  rfl

end Token

end TopoSync
