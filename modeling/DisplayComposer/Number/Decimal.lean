import DisplayComposer.Number.Binary
/-!
# DisplayComposer.Number.Decimal

**Decimal digits.** Integers are written with their decimal digits, and a
binary number with the fewest digits that read back as the same number. The
second is a search over exact naturals: the coarsest grid of multiples of a
power of ten that has a point among the reals which round to the number, and on
that grid the point nearest to it.

* `Digit`, `decimalDigits`, `ofDigits` — digits of a natural number, most
  significant first, with `ofDigits_decimalDigits`;
* `Decimal` — a natural number times a power of ten;
* `Binary.shortest` — the shortest decimal of a finite binary number.
-/

namespace DisplayComposer

attribute [local instance] natPow

/-! ## Digits of natural numbers -/

/-- A decimal digit. -/
abbrev Digit : Type := Fin 10

/-- The last digit of a number. -/
def Digit.ofNat (n : Nat) : Digit := Fin.ofNat 10 n

/-- Append `d` to the digits of `n`. -/
def pushDigit (n : Nat) (d : Digit) : Nat := 10 * n + d.val

/-- The number that digits denote, most significant digit first. -/
def ofDigits (ds : List Digit) : Nat := ds.foldl pushDigit 0

/-- The digits of `n` in front of `tail`, as many as `fuel` allows. -/
def digitsOnto : Nat → Nat → List Digit → List Digit
  | 0, _, tail => tail
  | fuel + 1, n, tail =>
    let tail := Digit.ofNat n :: tail
    if n < 10 then tail else digitsOnto fuel (n / 10) tail

/-- The decimal digits of `n`; zero has one digit. -/
def decimalDigits (n : Nat) : List Digit := digitsOnto (n.log2 + 1) n []

theorem foldl_pushDigit_digitsOnto {fuel n : Nat} (h : n < 2 ^ fuel) (hf : 0 < fuel)
    (tail : List Digit) :
    (digitsOnto fuel n tail).foldl pushDigit 0 = tail.foldl pushDigit n := by
  induction fuel generalizing n tail with
  | zero => omega
  | succ fuel ih =>
    simp only [digitsOnto]
    split
    · rename_i hn
      simp [pushDigit, Digit.ofNat, Fin.ofNat, Nat.mod_eq_of_lt hn]
    · rename_i hn
      have hpow : 2 ^ (fuel + 1) = 2 * 2 ^ fuel := by rw [Nat.pow_succ, Nat.mul_comm]
      have hfuel : 0 < fuel := by
        rcases fuel with _ | fuel
        · omega
        · omega
      rw [ih (by omega) hfuel]
      simp only [List.foldl_cons, pushDigit, Digit.ofNat, Fin.val_ofNat]
      congr 1
      omega

/-- Digits denote the number they were taken from. -/
theorem ofDigits_decimalDigits (n : Nat) : ofDigits (decimalDigits n) = n := by
  have h : n < 2 ^ (n.log2 + 1) := Nat.lt_log2_self
  exact foldl_pushDigit_digitsOnto h (by omega) []

/-- The digits as characters. -/
def Digit.toChar (d : Digit) : Char := Char.ofNat ('0'.toNat + d.val)

/-- The decimal text of a natural number. -/
def decimalText (n : Nat) : String := String.ofList ((decimalDigits n).map Digit.toChar)

/-- The decimal text of an integer. -/
def signedText (n : Int) : String :=
  if n < 0 then "-" ++ decimalText n.natAbs else decimalText n.natAbs

/-! ## Shortest decimals -/

/-- The number `significand * 10 ^ exponent`. -/
structure Decimal where
  significand : Nat
  exponent : Int
  deriving DecidableEq, Repr

namespace Decimal

/-- Move trailing zeros of the significand into the exponent, `fuel` at most. -/
def stripZeros : Nat → Decimal → Decimal
  | 0, d => d
  | fuel + 1, d =>
    if d.significand ≠ 0 ∧ d.significand % 10 = 0 then
      stripZeros fuel ⟨d.significand / 10, d.exponent + 1⟩
    else d

end Decimal

/-- The reals that round to `middle * 2 ^ exponent`: those from `low` to `high`
in the same unit, the ends included if `closed`. -/
structure RoundingInterval where
  low : Nat
  middle : Nat
  high : Nat
  exponent : Int
  closed : Bool

namespace RoundingInterval

/-- Factors of the two sides of a comparison of `c * 10 ^ k` with
`n * 2 ^ exponent`: both exponents become non-negative. -/
def factors (i : RoundingInterval) (k : Int) : Nat × Nat :=
  (10 ^ k.toNat * 2 ^ (-i.exponent).toNat, 2 ^ i.exponent.toNat * 10 ^ (-k).toNat)

/-- Whether `c * 10 ^ k` lies in the interval. -/
def holds (i : RoundingInterval) (k : Int) (c : Nat) : Bool :=
  let (a, b) := i.factors k
  if i.closed then i.low * b ≤ c * a && c * a ≤ i.high * b
  else i.low * b < c * a && c * a < i.high * b

/-- The greatest multiple of `10 ^ k` that is not above the middle, in units of
`10 ^ k`. -/
def below (i : RoundingInterval) (k : Int) : Nat :=
  let (a, b) := i.factors k
  i.middle * b / a

/-- Of the two multiples of `10 ^ k` around the middle, the one in the interval;
of two the nearer, and of two equally near ones the even one. -/
def nearestOn (i : RoundingInterval) (k : Int) : Option Nat :=
  let (a, b) := i.factors k
  let c := i.below k
  match i.holds k c, i.holds k (c + 1) with
  | false, false => none
  | true, false => some c
  | false, true => some (c + 1)
  | true, true =>
    let twice := 2 * (i.middle * b - c * a)
    if twice < a then some c
    else if a < twice then some (c + 1)
    else some (c + c % 2)

/-- The greatest `k` with `10 ^ k` not above the middle, which is positive. The
binary order times `log 2 / log 10` is at most one off. -/
def decimalOrder (i : RoundingInterval) : Int :=
  let guess := ((i.middle.log2 : Int) + i.exponent) * 30103 / 100000
  if i.below guess = 0 then guess - 1
  else if i.below (guess + 1) = 0 then guess
  else guess + 1

/-- The first grid with a point in the interval, from the grid of `10 ^ k` on
downwards. -/
def search (i : RoundingInterval) : Nat → Int → Decimal
  | 0, k => ⟨i.below k, k⟩
  | fuel + 1, k =>
    match i.nearestOn k with
    | some c => ⟨c, k⟩
    | none => search i fuel (k - 1)

end RoundingInterval

namespace Binary

variable {f : BinaryFormat}

/-- The reals that round to the absolute value of a finite number, in quarters
of its last place. Below a power of two the neighbour is only half a place
away, unless the places have already reached their least size. -/
def roundingInterval (x : Binary f) : RoundingInterval :=
  let s := x.scaled
  let narrow := s.significand = 2 ^ f.fractionBits ∧ f.leastExponent < s.exponent
  { low := 4 * s.significand - (if narrow then 1 else 2)
    middle := 4 * s.significand
    high := 4 * s.significand + 2
    exponent := s.exponent - 2
    closed := s.significand % 2 = 0 }

/-- The decimal with the fewest digits that rounds to the absolute value of a
finite number, and among those the nearest. No number needs more digits than
its format has bits. -/
def shortest (x : Binary f) : Decimal :=
  if x.isZero then ⟨0, 0⟩
  else
    let i := x.roundingInterval
    (i.search (f.fractionBits + 2) (i.decimalOrder + 1)).stripZeros (f.fractionBits + 2)

end Binary

end DisplayComposer
