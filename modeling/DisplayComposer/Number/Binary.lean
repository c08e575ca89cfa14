/-!
# DisplayComposer.Number.Binary

**Binary floating-point numbers, exactly.** Alpha values, colours, crops and
colour matrices are single-precision numbers, and decimal text is read through
double precision. Nothing here uses machine floats. A number is its sign and
the rest of its word, its value is a natural number times a power of two, and
every operation is the exact rational result, rounded once to the nearest
representable number (a tie goes to the even neighbour).

* `BinaryFormat`, `single`, `double` — the two formats;
* `Binary` — a number of a format, with `word`/`ofWord` for its bits;
* `Binary.ofRatio` — rounding of a quotient of naturals, the only rounding;
* `ofInt`, `mul`, `div`, `convert` — the operations that reading numbers needs;
* `lt`, `le`, `eq` — comparison by value, in which a NaN is never comparable.
-/

namespace DisplayComposer

/-- Powers of natural numbers, as the core library has them. The modules that
compute with powers name this instance, so that a power is the same term with
and without Mathlib. -/
@[reducible] def natPow : Pow Nat Nat := instPowNat

attribute [local instance] natPow

/-- A binary interchange format. -/
structure BinaryFormat where
  /-- Bits of the significand that are written, without the leading one. -/
  fractionBits : Nat
  /-- Bits of the exponent field. -/
  exponentBits : Nat
  deriving DecidableEq, Repr

namespace BinaryFormat

/-- Bits of a number without its sign. -/
def magnitudeBits (f : BinaryFormat) : Nat := f.fractionBits + f.exponentBits

/-- Exponent of the last place of the smallest numbers. -/
def leastExponent (f : BinaryFormat) : Int :=
  2 - (2 ^ (f.exponentBits - 1) : Nat) - f.fractionBits

/-- The magnitude of infinity: an exponent field of ones and no fraction. -/
def infinityMagnitude (f : BinaryFormat) : Nat := (2 ^ f.exponentBits - 1) * 2 ^ f.fractionBits

end BinaryFormat

/-- Single precision: 32 bits. -/
def single : BinaryFormat := ⟨23, 8⟩

/-- Double precision: 64 bits. -/
def double : BinaryFormat := ⟨52, 11⟩

/-- A number of format `f`: its sign, and its exponent field and fraction read
as one natural number. Among numbers of one sign the magnitude orders values. -/
structure Binary (f : BinaryFormat) where
  negative : Bool
  magnitude : Fin (2 ^ f.magnitudeBits)
  deriving DecidableEq

/-- A single-precision number. -/
abbrev Single : Type := Binary single

namespace Binary

variable {f g : BinaryFormat}

/-! ## Words -/

/-- The magnitude `n`, less whatever does not fit into the word. -/
def ofMagnitude (negative : Bool) (n : Nat) : Binary f :=
  ⟨negative, Fin.ofNat (2 ^ f.magnitudeBits) n⟩

/-- The word of a number: the sign above the magnitude. -/
def word (x : Binary f) : Nat :=
  (if x.negative then 2 ^ f.magnitudeBits else 0) + x.magnitude

/-- The number whose word is `w`. -/
def ofWord (w : Nat) : Binary f := ofMagnitude (w / 2 ^ f.magnitudeBits % 2 == 1) w

theorem ofWord_word (x : Binary f) : ofWord x.word = x := by
  obtain ⟨s, m, hm⟩ := x
  have hpos : 0 < 2 ^ f.magnitudeBits := Nat.two_pow_pos _
  cases s
  · simp [ofWord, word, ofMagnitude, Fin.ofNat, Nat.div_eq_of_lt hm, Nat.mod_eq_of_lt hm]
  · have hdiv : (2 ^ f.magnitudeBits + m) / 2 ^ f.magnitudeBits = 1 := by
      rw [Nat.add_div_left _ hpos, Nat.div_eq_of_lt hm]
    simp [ofWord, word, ofMagnitude, Fin.ofNat, hdiv, Nat.mod_eq_of_lt hm]

/-! ## Values -/

def zero : Binary f := ofMagnitude false 0

instance : Inhabited (Binary f) := ⟨zero⟩

/-- The quiet NaN without a payload. -/
def nan : Binary f := ofMagnitude false (f.infinityMagnitude + 2 ^ (f.fractionBits - 1))

def infinity (negative : Bool) : Binary f := ofMagnitude negative f.infinityMagnitude

def isNaN (x : Binary f) : Bool := f.infinityMagnitude < x.magnitude.val

def isInfinite (x : Binary f) : Bool := f.infinityMagnitude == x.magnitude.val

def isFinite (x : Binary f) : Bool := x.magnitude.val < f.infinityMagnitude

def isZero (x : Binary f) : Bool := x.magnitude.val == 0

/-- The absolute value of a finite number is `significand * 2 ^ exponent`. -/
structure Scaled where
  significand : Nat
  exponent : Int
  deriving DecidableEq, Repr

/-- The significand and exponent of a finite number. An exponent field of zero
stands for the smallest exponent without the leading one. -/
def scaled (x : Binary f) : Scaled :=
  let field := x.magnitude.val / 2 ^ f.fractionBits
  let fraction := x.magnitude.val % 2 ^ f.fractionBits
  if field = 0 then ⟨fraction, f.leastExponent⟩
  else ⟨2 ^ f.fractionBits + fraction, f.leastExponent + (field - 1 : Nat)⟩

/-! ## Rounding -/

/-- `num / den` to the nearest natural number, a tie to the even one. -/
def roundQuotient (num den : Nat) : Nat :=
  let whole := num / den
  let twice := 2 * (num % den)
  if twice < den then whole
  else if den < twice then whole + 1
  else whole + whole % 2

/-- The greatest `e` with `2 ^ e ≤ num / den`, for positive `num` and `den`. -/
def binaryOrder (num den : Nat) : Int :=
  let guess : Int := num.log2 - den.log2
  let reached : Bool :=
    if 0 ≤ guess then den * 2 ^ guess.toNat ≤ num else den ≤ num * 2 ^ (-guess).toNat
  if reached then guess else guess - 1

/-- The magnitude of the number nearest to `num / den`; what lies beyond the
largest finite number becomes infinity. The last place is `2 ^ q`: the
significand then has its full width, unless `q` is the least exponent. A
significand that rounds up to the next power of two carries into the exponent
field by itself. -/
def roundMagnitude (f : BinaryFormat) (num den : Nat) : Nat :=
  if num = 0 then 0
  else
    let q := max (binaryOrder num den - f.fractionBits) f.leastExponent
    let significand :=
      if 0 ≤ q then roundQuotient num (den * 2 ^ q.toNat)
      else roundQuotient (num * 2 ^ (-q).toNat) den
    min ((q - f.leastExponent).toNat * 2 ^ f.fractionBits + significand) f.infinityMagnitude

/-- The number nearest to `± num / den`. -/
def ofRatio (negative : Bool) (num den : Nat) : Binary f :=
  ofMagnitude negative (roundMagnitude f num den)

/-- The number nearest to `± significand * 2 ^ exponent`. -/
def ofScaled (negative : Bool) (s : Scaled) : Binary f :=
  if 0 ≤ s.exponent then ofRatio negative (s.significand * 2 ^ s.exponent.toNat) 1
  else ofRatio negative s.significand (2 ^ (-s.exponent).toNat)

/-! ## Operations -/

/-- The number nearest to an integer. -/
def ofInt (n : Int) : Binary f := ofRatio (n < 0) n.natAbs 1

def neg (x : Binary f) : Binary f := { x with negative := !x.negative }

/-- The product of two finite numbers. -/
def mul (x y : Binary f) : Binary f :=
  ofScaled (x.negative != y.negative)
    ⟨x.scaled.significand * y.scaled.significand, x.scaled.exponent + y.scaled.exponent⟩

/-- The quotient of two finite numbers, the second not zero. -/
def div (x y : Binary f) : Binary f :=
  let e := x.scaled.exponent - y.scaled.exponent
  if 0 ≤ e then
    ofRatio (x.negative != y.negative) (x.scaled.significand * 2 ^ e.toNat) y.scaled.significand
  else
    ofRatio (x.negative != y.negative) x.scaled.significand
      (y.scaled.significand * 2 ^ (-e).toNat)

/-- The same number in another format: rounded, with infinities and NaN kept. -/
def convert (x : Binary f) : Binary g :=
  if x.isNaN then { (nan : Binary g) with negative := x.negative }
  else if x.isInfinite then infinity x.negative
  else ofScaled x.negative x.scaled

/-! ## Comparison -/

/-- An integer that orders numbers other than NaN by value. -/
def orderKey (x : Binary f) : Int := if x.negative then -x.magnitude.val else x.magnitude.val

def lt (x y : Binary f) : Bool := !x.isNaN && !y.isNaN && x.orderKey < y.orderKey

def le (x y : Binary f) : Bool := !x.isNaN && !y.isNaN && x.orderKey ≤ y.orderKey

/-- Equality by value: the two zeros are equal, and a NaN equals nothing. -/
def eq (x y : Binary f) : Bool := !x.isNaN && !y.isNaN && x.orderKey == y.orderKey

end Binary

end DisplayComposer
