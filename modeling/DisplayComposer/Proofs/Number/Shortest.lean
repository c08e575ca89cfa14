import DisplayComposer.Number.Decimal
import Mathlib.Algebra.Group.Nat.Defs
/-!
# DisplayComposer.Proofs.Number.Shortest

**The shortest decimal of a number that is not zero is not zero.** The search goes from coarse
grids to finer ones. A point that it finds lies in the interval of the number, which does not
reach down to zero. If it found none on any grid it would end with the greatest multiple below
the number; and the last grid is so fine that this is not zero either, for every number of
single precision.

* `RoundingInterval.search_pos` — the search;
* `RoundingInterval.below_pos` — when a grid is fine enough;
* `Single.shortest_pos` — numbers of single precision.
-/

namespace DisplayComposer

attribute [local instance] natPow

namespace RoundingInterval

variable {i : RoundingInterval} {k : Int} {c : Nat}

theorem factors_pos (i : RoundingInterval) (k : Int) : 0 < (i.factors k).1 ∧ 0 < (i.factors k).2 :=
  ⟨Nat.mul_pos (Nat.pow_pos (by decide)) (Nat.pow_pos (by decide)),
    Nat.mul_pos (Nat.pow_pos (by decide)) (Nat.pow_pos (by decide))⟩

/-! ### The search -/

/-- Zero is not in the interval. -/
theorem pos_of_holds (low : 0 < i.low) (h : i.holds k c = true) : 0 < c := by
  have positive : 0 < i.low * (i.factors k).2 := Nat.mul_pos low (factors_pos i k).2
  refine Nat.pos_of_ne_zero fun zero => ?_
  subst zero
  have empty : ¬ i.low * (i.factors k).2 ≤ 0 * (i.factors k).1 := by omega
  have empty' : ¬ i.low * (i.factors k).2 < 0 * (i.factors k).1 := by omega
  unfold holds at h
  cases hclosed : i.closed <;> simp_all

/-- A point that is found on a grid is not zero. -/
theorem pos_of_nearestOn (low : 0 < i.low) (h : i.nearestOn k = some c) : 0 < c := by
  unfold nearestOn at h
  dsimp only at h
  split at h
  · cases h
  · rename_i held _
    cases h
    exact pos_of_holds low held
  · cases h
    exact Nat.succ_pos _
  · rename_i held _
    have positive := pos_of_holds low held
    split at h
    · cases h
      exact positive
    · split at h
      · cases h
        exact Nat.succ_pos _
      · cases h
        exact Nat.add_pos_left positive _

theorem search_pos (low : 0 < i.low) {fuel : Nat} (last : 0 < i.below (k - fuel)) :
    0 < (i.search fuel k).significand := by
  induction fuel generalizing k with
  | zero =>
    rw [Int.natCast_zero, Int.sub_zero] at last
    exact last
  | succ fuel ih =>
    rw [search]
    split
    · rename_i found
      exact pos_of_nearestOn low found
    · have same : k - ((fuel + 1 : Nat) : Int) = k - 1 - fuel := by omega
      exact ih (same ▸ last)

/-! ### Grids that are fine enough -/

/-- There is a multiple of `10 ^ k` below the middle if `10 ^ k` is below `2 ^ n` and that is
below the middle. -/
theorem below_pos {n : Int} (middle : i.middle.log2 + i.exponent = n) (some : i.middle ≠ 0)
    (coarse : 10 ^ k.toNat * 2 ^ (-n).toNat ≤ 2 ^ n.toNat * 10 ^ (-k).toNat) :
    0 < i.below k := by
  refine Nat.div_pos ?_ (factors_pos i k).1
  show 10 ^ k.toNat * 2 ^ (-i.exponent).toNat ≤ i.middle * (2 ^ i.exponent.toNat * 10 ^ (-k).toNat)
  have power : 2 ^ i.middle.log2 ≤ i.middle := Nat.log2_self_le some
  have same : i.middle.log2 + i.exponent.toNat + (-n).toNat = (-i.exponent).toNat + n.toNat := by
    omega
  refine Nat.le_of_mul_le_mul_right ?_ (Nat.pow_pos (n := n.toNat) (by decide : 0 < 2))
  calc 10 ^ k.toNat * 2 ^ (-i.exponent).toNat * 2 ^ n.toNat
      = 10 ^ k.toNat * 2 ^ (i.middle.log2 + i.exponent.toNat + (-n).toNat) := by
        rw [same, Nat.pow_add, Nat.mul_assoc]
    _ = 2 ^ i.middle.log2 * 2 ^ i.exponent.toNat * (10 ^ k.toNat * 2 ^ (-n).toNat) := by
        rw [Nat.pow_add, Nat.pow_add]
        exact Nat.mul_left_comm ..
    _ ≤ i.middle * 2 ^ i.exponent.toNat * (2 ^ n.toNat * 10 ^ (-k).toNat) :=
        Nat.mul_le_mul (Nat.mul_le_mul_right _ power) coarse
    _ = i.middle * (2 ^ i.exponent.toNat * 10 ^ (-k).toNat) * 2 ^ n.toNat := by ac_rfl

/-- `10 ^ k` is below `2 ^ n` by a wide margin, for numbers `n` that are not too far from zero.
Ten is taken for 16 above the point and for 8 below it. -/
theorem ten_pow_le_two_pow {n : Int} (least : -300 ≤ n) (greatest : n ≤ 300)
    (small : k ≤ n * 30103 / 100000 - 22) :
    10 ^ k.toNat * 2 ^ (-n).toNat ≤ 2 ^ n.toNat * 10 ^ (-k).toNat := by
  have above : 10 ^ k.toNat ≤ 2 ^ (4 * k.toNat) := by
    rw [Nat.pow_mul]
    exact Nat.pow_le_pow_left (by decide) _
  have below : 2 ^ (3 * (-k).toNat) ≤ 10 ^ (-k).toNat := by
    rw [Nat.pow_mul]
    exact Nat.pow_le_pow_left (by decide) _
  calc 10 ^ k.toNat * 2 ^ (-n).toNat
      ≤ 2 ^ (4 * k.toNat) * 2 ^ (-n).toNat := Nat.mul_le_mul_right _ above
    _ = 2 ^ (4 * k.toNat + (-n).toNat) := (Nat.pow_add ..).symm
    _ ≤ 2 ^ (n.toNat + 3 * (-k).toNat) := Nat.pow_le_pow_right (by decide) (by omega)
    _ = 2 ^ n.toNat * 2 ^ (3 * (-k).toNat) := Nat.pow_add ..
    _ ≤ 2 ^ n.toNat * 10 ^ (-k).toNat := Nat.mul_le_mul_left _ below

end RoundingInterval

theorem Decimal.stripZeros_pos {d : Decimal} (h : 0 < d.significand) (fuel : Nat) :
    0 < (d.stripZeros fuel).significand := by
  induction fuel generalizing d with
  | zero => exact h
  | succ fuel ih =>
    rw [stripZeros]
    split
    · refine ih ?_
      show 0 < d.significand / 10
      omega
    · exact h

/-- The order of the middle is at most one above the first guess. -/
theorem RoundingInterval.decimalOrder_le (i : RoundingInterval) :
    i.decimalOrder ≤ ((i.middle.log2 : Int) + i.exponent) * 30103 / 100000 + 1 := by
  unfold decimalOrder
  dsimp only
  split
  · omega
  · split <;> omega

namespace Single

variable {x : Single}

/-- The significand and exponent of a number that is neither zero nor infinite. -/
theorem scaled_bounds (finite : x.isFinite = true) (nonzero : x.isZero = false) :
    0 < x.scaled.significand ∧ x.scaled.significand < 2 ^ 24 ∧
      -149 ≤ x.scaled.exponent ∧ x.scaled.exponent ≤ 104 := by
  have large : x.magnitude.val < 255 * 2 ^ 23 := of_decide_eq_true finite
  have small : x.magnitude.val ≠ 0 := by simpa [Binary.isZero] using nonzero
  have least : single.leastExponent = -149 := by decide
  unfold Binary.scaled
  rw [least]
  have bits : single.fractionBits = 23 := rfl
  simp only [bits]
  split
  · refine ⟨?_, ?_, Int.le_refl _, ?_⟩ <;> dsimp only <;> omega
  · refine ⟨?_, ?_, ?_, ?_⟩ <;> dsimp only <;> omega

/-- **The shortest decimal of a number that is not zero is not zero.** -/
theorem shortest_pos (finite : x.isFinite = true) (nonzero : x.isZero = false) :
    0 < x.shortest.significand := by
  obtain ⟨some, narrow, least, greatest⟩ := scaled_bounds finite nonzero
  have middle : x.roundingInterval.middle = 4 * x.scaled.significand := rfl
  have exponent : x.roundingInterval.exponent = x.scaled.exponent - 2 := rfl
  have bits : x.roundingInterval.middle.log2 < 26 :=
    (Nat.log2_lt (by omega)).2 (by rw [middle]; omega)
  have order := x.roundingInterval.decimalOrder_le
  rw [Binary.shortest, if_neg (by simp [nonzero])]
  refine Decimal.stripZeros_pos (RoundingInterval.search_pos ?_ ?_) _
  · show 0 < 4 * x.scaled.significand - (if _ then 1 else 2)
    split <;> omega
  · refine RoundingInterval.below_pos rfl (by omega) ?_
    refine RoundingInterval.ten_pow_le_two_pow (by omega) (by omega) ?_
    show _ + 1 - ((23 + 2 : Nat) : Int) ≤ _
    omega

end Single

end DisplayComposer
