import TopoSync.Wire.Word

/-!
# Signed words by wide arithmetic

The word of a signed number, and the signed number of a word, can be found by arithmetic on numbers of
eight bytes and a cut back to four.  Here each step of the arithmetic has a value only if the exact
result is a number of eight bytes, and each cut only if nothing of the number is cut off.  Both
conversions always have a value.
-/

namespace TopoSync

namespace Checked

/-- Whether a number is a signed number of eight bytes. -/
abbrev IsWide (n : Int) : Prop :=
  -0x8000000000000000 ≤ n ∧ n < 0x8000000000000000

/-- The sum of two wide numbers, if it is one. -/
def addWide? (a b : Int64) : Option Int64 :=
  if IsWide (a.toInt + b.toInt) then some (a + b) else none

/-- The difference of two wide numbers, if it is one. -/
def subWide? (a b : Int64) : Option Int64 :=
  if IsWide (a.toInt - b.toInt) then some (a - b) else none

/-- The negative of a wide number, if it is one. -/
def negWide? (a : Int64) : Option Int64 :=
  if IsWide (-a.toInt) then some (-a) else none

/-- The low word of a wide number, if there is nothing above it. -/
def lowWord? (m : Int64) : Option UInt32 :=
  let low := (m &&& 0xFFFFFFFF).toUInt64.toUInt32
  if low.toUInt64.toInt64 = m then some low else none

/-- A wide number as a signed number of four bytes, if it is one. -/
def lowSigned? (n : Int64) : Option Int32 :=
  let low := n.toInt32
  if low.toInt64 = n then some low else none

theorem toInt_of_addWide? {a b : Int64} (fits : IsWide (a.toInt + b.toInt)) :
    ∃ c, addWide? a b = some c ∧ c.toInt = a.toInt + b.toInt := by
  refine ⟨a + b, if_pos fits, ?_⟩
  rw [Int64.toInt_add]
  exact Int.bmod_eq_of_le (by omega) (by omega)

theorem toInt_of_subWide? {a b : Int64} (fits : IsWide (a.toInt - b.toInt)) :
    ∃ c, subWide? a b = some c ∧ c.toInt = a.toInt - b.toInt := by
  refine ⟨a - b, if_pos fits, ?_⟩
  rw [Int64.toInt_sub]
  exact Int.bmod_eq_of_le (by omega) (by omega)

theorem toInt_of_negWide? {a : Int64} (fits : IsWide (-a.toInt)) :
    ∃ c, negWide? a = some c ∧ c.toInt = -a.toInt := by
  refine ⟨-a, if_pos fits, ?_⟩
  rw [Int64.toInt_neg]
  exact Int.bmod_eq_of_le (by omega) (by omega)

/-- The bits of a wide number that is not negative spell it. -/
theorem toNat_toBitVec_of_nonneg {m : Int64} (low : 0 ≤ m.toInt) :
    (m.toBitVec.toNat : Int) = m.toInt := by
  rw [← Int64.toInt_toBitVec] at low ⊢
  have sign : m.toBitVec.msb = false := by
    rw [BitVec.msb_eq_toInt]
    exact decide_eq_false (Int.not_lt.mpr low)
  exact (BitVec.toInt_eq_toNat_of_msb sign).symm

/-- A wide number is not cut if it is a word. -/
theorem lowWord?_of_bounds {m : Int64} (low : 0 ≤ m.toInt) (high : m.toInt ≤ 0xFFFFFFFF) :
    lowWord? m = some (UInt32.ofNat m.toInt.toNat) := by
  have bits := toNat_toBitVec_of_nonneg low
  -- the mask keeps every bit of the number
  have masked : (m &&& 0xFFFFFFFF).toUInt64.toUInt32.toNat = m.toInt.toNat := by
    have mask : (m &&& 0xFFFFFFFF).toUInt64.toNat = m.toBitVec.toNat &&& (2 ^ 32 - 1) := rfl
    rw [UInt64.toNat_toUInt32, mask, Nat.and_two_pow_sub_one_eq_mod]
    omega
  have back : (m &&& 0xFFFFFFFF).toUInt64.toUInt32.toUInt64.toInt64 = m := by
    apply Int64.toBitVec_inj.mp
    apply BitVec.eq_of_toNat_eq
    rw [UInt64.toBitVec_toInt64, UInt64.toNat_toBitVec, UInt32.toNat_toUInt64, masked]
    omega
  have same : (m &&& 0xFFFFFFFF).toUInt64.toUInt32 = UInt32.ofNat m.toInt.toNat := by
    apply UInt32.toNat_inj.mp
    rw [masked, UInt32.toNat_ofNat']
    omega
  rw [lowWord?, if_pos back, same]

theorem lowSigned?_of_bounds {n : Int64} (low : -0x80000000 ≤ n.toInt) (high : n.toInt ≤ 0x7FFFFFFF) :
    lowSigned? n = some (Int32.ofInt n.toInt) := by
  have kept : n.toInt32.toInt = n.toInt := by
    rw [Int64.toInt_toInt32]
    exact Int.bmod_eq_of_le (by omega) (by omega)
  have back : n.toInt32.toInt64 = n := by
    apply Int64.toInt_inj.mp
    rw [Int32.toInt_toInt64, kept]
  rw [lowSigned?, if_pos back, ← kept, Int32.ofInt_toInt]

end Checked

namespace Word

/-- The word of a signed number, step by step. -/
def ofSigned? (n : Int32) : Option UInt32 := do
  let wide := n.toInt64
  let m ← if 0 ≤ wide then some wide else do
    let next ← Checked.addWide? wide 1
    Checked.addWide? 0xFFFFFFFF next
  Checked.lowWord? m

/-- The signed number of a word, step by step. -/
def toSigned? (m : UInt32) : Option Int32 := do
  let wide := m.toUInt64.toInt64
  let n ← if wide ≤ 0x7FFFFFFF then some wide else do
    let below ← Checked.subWide? 0xFFFFFFFF wide
    let negative ← Checked.negWide? below
    Checked.subWide? negative 1
  Checked.lowSigned? n

/-- No step of the conversion to a word overflows, and nothing is cut off. -/
theorem ofSigned?_eq (n : Int32) : ofSigned? n = some (ofSigned n) := by
  have low := n.le_toInt
  have high := n.toInt_lt
  have wide : n.toInt64.toInt = n.toInt := Int32.toInt_toInt64 n
  have zero : (0 : Int64) ≤ n.toInt64 ↔ 0 ≤ n.toInt := by
    rw [Int64.le_iff_toInt_le, wide]
    rfl
  rw [ofSigned?, ofSigned]
  by_cases positive : 0 ≤ n.toInt
  case pos =>
    have cut := Checked.lowWord?_of_bounds (m := n.toInt64) (by omega) (by omega)
    simp only [if_pos (zero.mpr positive), if_pos positive, Option.bind_eq_bind, Option.bind_some, cut,
      wide]
  case neg =>
    obtain ⟨next, first, one⟩ := Checked.toInt_of_addWide? (a := n.toInt64) (b := 1)
      (by rw [wide, Int64.toInt_one]; omega)
    rw [wide, Int64.toInt_one] at one
    have top : (0xFFFFFFFF : Int64).toInt = 0xFFFFFFFF := rfl
    obtain ⟨m, second, sum⟩ := Checked.toInt_of_addWide? (a := 0xFFFFFFFF) (b := next)
      (by rw [top, one]; omega)
    rw [top, one] at sum
    have cut := Checked.lowWord?_of_bounds (m := m) (by omega) (by omega)
    simp only [if_neg (mt zero.mp positive), if_neg positive, first, second, Option.bind_eq_bind,
      Option.bind_some, cut, sum]

/-- No step of the conversion to a signed number overflows, and nothing is cut off. -/
theorem toSigned?_eq (m : UInt32) : toSigned? m = some (toSigned m) := by
  have bound := m.toNat_lt
  have wide : m.toUInt64.toInt64.toInt = m.toNat := by
    have bits : m.toUInt64.toInt64.toBitVec.toNat = m.toNat := by
      rw [UInt64.toBitVec_toInt64, UInt64.toNat_toBitVec, UInt32.toNat_toUInt64]
    rw [← Int64.toInt_toBitVec, BitVec.toInt_eq_toNat_bmod, bits]
    exact Int.bmod_eq_of_le (by omega) (by omega)
  have limit : m.toUInt64.toInt64 ≤ 0x7FFFFFFF ↔ m.toNat ≤ 0x7FFFFFFF := by
    have top : (0x7FFFFFFF : Int64).toInt = 0x7FFFFFFF := rfl
    rw [Int64.le_iff_toInt_le, wide, top]
    omega
  rw [toSigned?, toSigned]
  by_cases small : m.toNat ≤ 0x7FFFFFFF
  case pos =>
    have cut := Checked.lowSigned?_of_bounds (n := m.toUInt64.toInt64) (by omega) (by omega)
    simp only [if_pos (limit.mpr small), if_pos small, Option.bind_eq_bind, Option.bind_some, cut, wide]
  case neg =>
    have top : (0xFFFFFFFF : Int64).toInt = 0xFFFFFFFF := rfl
    obtain ⟨below, first, difference⟩ := Checked.toInt_of_subWide? (a := 0xFFFFFFFF)
      (b := m.toUInt64.toInt64) (by rw [wide, top]; omega)
    rw [wide, top] at difference
    obtain ⟨negative, second, opposite⟩ := Checked.toInt_of_negWide? (a := below)
      (by rw [difference]; omega)
    rw [difference] at opposite
    obtain ⟨n, third, last⟩ := Checked.toInt_of_subWide? (a := negative) (b := 1)
      (by rw [opposite, Int64.toInt_one]; omega)
    rw [opposite, Int64.toInt_one] at last
    have cut := Checked.lowSigned?_of_bounds (n := n) (by omega) (by omega)
    simp only [if_neg (mt limit.mp small), if_neg small, first, second, third, Option.bind_eq_bind,
      Option.bind_some, cut, last]

end Word

end TopoSync
