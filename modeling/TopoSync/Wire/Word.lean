import TopoSync.Text.Utf8

/-!
# Words

Every number on the wire is one byte or a word of four bytes, most significant byte first.  Signed
numbers travel as words in two's complement.
-/

namespace TopoSync

namespace Word

/-- The four bytes of a word. -/
def toBytes (n : UInt32) : Bytes :=
  [UInt8.ofNat (n.toNat / 0x1000000), UInt8.ofNat (n.toNat / 0x10000),
    UInt8.ofNat (n.toNat / 0x100), UInt8.ofNat n.toNat]

/-- The word spelled by some bytes. -/
def ofBytes (bytes : Bytes) : UInt32 :=
  UInt32.ofNat (bytes.foldl (fun n b => n * 0x100 + b.toNat) 0)

@[simp] theorem length_toBytes (n : UInt32) : (toBytes n).length = 4 := rfl

theorem ofBytes_toBytes (n : UInt32) : ofBytes (toBytes n) = n := by
  have bound := n.toNat_lt
  apply UInt32.toNat_inj.mp
  simp only [ofBytes, toBytes, List.foldl_cons, List.foldl_nil, UInt8.toNat_ofNat',
    UInt32.toNat_ofNat']
  omega

/-- The word of a signed number: itself, or counted down from the greatest word. -/
def ofSigned (n : Int32) : UInt32 :=
  UInt32.ofNat (if 0 ≤ n.toInt then n.toInt else 0xFFFFFFFF + (n.toInt + 1)).toNat

/-- The signed number of a word. -/
def toSigned (m : UInt32) : Int32 :=
  Int32.ofInt (if m.toNat ≤ 0x7FFFFFFF then m.toNat else -(0xFFFFFFFF - m.toNat) - 1)

theorem toSigned_ofSigned (n : Int32) : toSigned (ofSigned n) = n := by
  have low := n.le_toInt
  have high := n.toInt_lt
  rw [toSigned, ofSigned, UInt32.toNat_ofNat']
  conv => rhs; rw [← Int32.ofInt_toInt n]
  congr 1
  split <;> split <;> omega

theorem ofSigned_toSigned (m : UInt32) : ofSigned (toSigned m) = m := by
  have bound := m.toNat_lt
  apply UInt32.toNat_inj.mp
  rw [ofSigned, toSigned, UInt32.toNat_ofNat', Int32.toInt_ofInt]
  rw [Int.bmod_eq_of_le (by rw [Int32.size]; split <;> omega) (by rw [Int32.size]; split <;> omega)]
  split <;> split <;> omega

end Word

end TopoSync
