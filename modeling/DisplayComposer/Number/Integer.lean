/-!
# DisplayComposer.Number.Integer

**Integers that fit.** Numbers in messages and files are unbounded; the types
they are read into are not. Each function here gives the value of a type that
has the number, if the type has it.
-/

namespace DisplayComposer

def int32Of? (k : Int) : Option Int32 :=
  if Int32.minValue.toInt ≤ k ∧ k ≤ Int32.maxValue.toInt then some (.ofInt k) else none

def int64Of? (k : Int) : Option Int64 :=
  if Int64.minValue.toInt ≤ k ∧ k ≤ Int64.maxValue.toInt then some (.ofInt k) else none

def uint8Of? (k : Int) : Option UInt8 :=
  if 0 ≤ k ∧ k < UInt8.size then some (.ofNat k.toNat) else none

def uint32Of? (k : Int) : Option UInt32 :=
  if 0 ≤ k ∧ k < UInt32.size then some (.ofNat k.toNat) else none

def uint64Of? (k : Int) : Option UInt64 :=
  if 0 ≤ k ∧ k < UInt64.size then some (.ofNat k.toNat) else none

/-! ## Every value is the value of its number -/

@[simp] theorem int32Of?_toInt (n : Int32) : int32Of? n.toInt = some n := by
  rw [int32Of?, if_pos ⟨n.minValue_le_toInt, n.toInt_le⟩, Int32.ofInt_toInt]

@[simp] theorem int64Of?_toInt (n : Int64) : int64Of? n.toInt = some n := by
  rw [int64Of?, if_pos ⟨n.minValue_le_toInt, n.toInt_le⟩, Int64.ofInt_toInt]

@[simp] theorem uint8Of?_toNat (n : UInt8) : uint8Of? n.toNat = some n := by
  have h := n.toNat_lt_size
  rw [uint8Of?, if_pos (by omega), Int.toNat_natCast, UInt8.ofNat_toNat]

@[simp] theorem uint32Of?_toNat (n : UInt32) : uint32Of? n.toNat = some n := by
  have h := n.toNat_lt_size
  rw [uint32Of?, if_pos (by omega), Int.toNat_natCast, UInt32.ofNat_toNat]

@[simp] theorem uint64Of?_toNat (n : UInt64) : uint64Of? n.toNat = some n := by
  have h := n.toNat_lt_size
  rw [uint64Of?, if_pos (by omega), Int.toNat_natCast, UInt64.ofNat_toNat]

end DisplayComposer
