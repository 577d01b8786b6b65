/-!
# Numerals

Natural numbers written in a base of at most sixteen: digits without leading zeros, letters in lower
case.  Reading accepts letters of either case and leading zeros.
-/

namespace TopoSync

namespace Numeral

/-- The digit of a value below sixteen. -/
def digit (d : Nat) : Char :=
  if d < 10 then Char.ofNat (0x30 + d) else Char.ofNat (0x57 + d)

/-- The value of a digit, below sixteen. -/
def hexValue? (c : Char) : Option Nat :=
  let n := c.toNat
  if 0x30 ≤ n ∧ n ≤ 0x39 then some (n - 0x30)
  else if 0x61 ≤ n ∧ n ≤ 0x66 then some (n - 0x57)
  else if 0x41 ≤ n ∧ n ≤ 0x46 then some (n - 0x37)
  else none

/-- The value of a character as a digit of a base. -/
def digitValue? (base : Nat) (c : Char) : Option Nat :=
  (hexValue? c).filter fun d => d < base

/-- Whether a character is a digit of a base. -/
def isDigit (base : Nat) (c : Char) : Bool :=
  (digitValue? base c).isSome

/-- The number that a row of digits continues, if all of them are digits. -/
def valueFrom? (base : Nat) : Nat → List Char → Option Nat
  | n, [] => some n
  | n, c :: rest => (digitValue? base c).bind fun d => valueFrom? base (n * base + d) rest

/-- The number that a row of digits stands for; no digits stand for nothing. -/
def value? (base : Nat) (cs : List Char) : Option Nat :=
  if cs.isEmpty then none else valueFrom? base 0 cs

/-- The digits of a number. -/
def digits (base n : Nat) : List Char :=
  if base < 2 ∨ n < base then [digit n] else digits base (n / base) ++ [digit (n % base)]
termination_by n
decreasing_by
  rename_i large
  exact Nat.div_lt_self (by omega) (by omega)

/-- The decimal text of a number. -/
def decimal (n : Nat) : String :=
  String.ofList (digits 10 n)

theorem hexValue?_digit : ∀ d, d < 16 → hexValue? (digit d) = some d := by
  decide

theorem digitValue?_digit {base d : Nat} (small : d < base) (limit : base ≤ 16) :
    digitValue? base (digit d) = some d := by
  rw [digitValue?, hexValue?_digit d (by omega)]
  simp [small]

theorem valueFrom?_append (base n : Nat) (xs ys : List Char) :
    valueFrom? base n (xs ++ ys) = (valueFrom? base n xs).bind fun m => valueFrom? base m ys := by
  induction xs generalizing n with
  | nil => rfl
  | cons c rest ih =>
      simp only [List.cons_append, valueFrom?]
      cases digitValue? base c with
      | none => rfl
      | some d => exact ih _

theorem digits_ne_nil (base n : Nat) : digits base n ≠ [] := by
  rw [digits]
  split <;> simp

/-- The digits of a number stand for it. -/
theorem value?_digits {base : Nat} (two : 2 ≤ base) (limit : base ≤ 16) (n : Nat) :
    value? base (digits base n) = some n := by
  have from_zero : ∀ n, valueFrom? base 0 (digits base n) = some n := by
    intro n
    induction n using Nat.strongRecOn with
    | ind n ih =>
        rw [digits]
        split
        · rename_i small
          simp [valueFrom?, digitValue?_digit (show n < base by omega) limit]
        · rename_i large
          have smaller : n / base < n := Nat.div_lt_self (by omega) (by omega)
          have last : n % base < base := Nat.mod_lt _ (by omega)
          rw [valueFrom?_append, ih _ smaller]
          simp only [Option.bind_some, valueFrom?, digitValue?_digit last limit]
          rw [Nat.mul_comm, Nat.div_add_mod]
  rw [value?, if_neg (by simpa using digits_ne_nil base n), from_zero]

end Numeral

end TopoSync
