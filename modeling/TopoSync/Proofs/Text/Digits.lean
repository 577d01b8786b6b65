import Mathlib.Algebra.Ring.Nat
import TopoSync.Text.Numeral

/-!
# Digits of numbers

The digits of a number are digits of the base, there are no more of them than the number needs, and the
first one is zero only for zero itself.
-/

namespace TopoSync

namespace Numeral

variable {base n : Nat} {c : Char}

theorem digits_of_lt (small : n < base) : digits base n = [digit n] := by
  rw [digits, if_pos (.inr small)]

theorem digits_of_le (two : 2 ≤ base) (large : base ≤ n) :
    digits base n = digits base (n / base) ++ [digit (n % base)] := by
  rw [digits, if_neg (by omega)]

theorem mem_digits (two : 2 ≤ base) (member : c ∈ digits base n) : ∃ d < base, c = digit d := by
  induction n using Nat.strongRecOn with
  | ind n ih =>
      by_cases small : n < base
      · rw [digits_of_lt small, List.mem_singleton] at member
        exact ⟨n, small, member⟩
      · have large := Nat.not_lt.mp small
        rw [digits_of_le two large, List.mem_append, List.mem_singleton] at member
        rcases member with front | last
        · exact ih (n / base) (Nat.div_lt_self (by omega) two) front
        · exact ⟨n % base, Nat.mod_lt _ (by omega), last⟩

theorem isDigit_of_mem_digits (two : 2 ≤ base) (limit : base ≤ 16) (member : c ∈ digits base n) :
    isDigit base c = true := by
  obtain ⟨d, small, rfl⟩ := mem_digits two member
  rw [isDigit, digitValue?_digit small limit]
  rfl

/-- A number below a power of the base has no more digits than the exponent says. -/
theorem length_digits_le (two : 2 ≤ base) {k : Nat} (some : 0 < k) (bound : n < base ^ k) :
    (digits base n).length ≤ k := by
  induction k generalizing n with
  | zero => cases some
  | succ k ih =>
      by_cases small : n < base
      · rw [digits_of_lt small]
        exact Nat.le_add_left 1 k
      · have large := Nat.not_lt.mp small
        have front : n / base < base ^ k := by
          rw [Nat.div_lt_iff_lt_mul (by omega), ← Nat.pow_succ]
          exact bound
        have more : 0 < k := by
          by_contra none
          rw [Nat.eq_zero_of_not_pos none, Nat.zero_add, Nat.pow_one] at bound
          omega
        rw [digits_of_le two large, List.length_append]
        exact Nat.add_le_add_right (ih more front) 1

theorem digit_eq_zero : ∀ d, d < 16 → digit d = '0' → d = 0 := by
  decide

/-- Only the digits of zero begin with zero. -/
theorem eq_zero_of_head? (two : 2 ≤ base) (limit : base ≤ 16) (zero : (digits base n).head? = some '0') :
    n = 0 := by
  induction n using Nat.strongRecOn with
  | ind n ih =>
      by_cases small : n < base
      · rw [digits_of_lt small] at zero
        exact digit_eq_zero n (by omega) (Option.some.inj zero)
      · have large := Nat.not_lt.mp small
        obtain ⟨first, rest, front⟩ := List.exists_cons_of_ne_nil (digits_ne_nil base (n / base))
        rw [digits_of_le two large, front] at zero
        have none := ih (n / base) (Nat.div_lt_self (by omega) two) (by rw [front]; exact zero)
        have some : 0 < n / base := Nat.div_pos large (by omega)
        omega

end Numeral

end TopoSync
