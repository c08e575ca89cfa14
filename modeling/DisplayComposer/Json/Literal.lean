import DisplayComposer.Bytes
import DisplayComposer.Number.Decimal
/-!
# DisplayComposer.Json.Literal

**Number literals.** A number in a JSON text is kept as it is written: sign,
whole digits, fraction digits and exponent. What it means is decided by
`Literal.value?`, and how the program writes a number by `Literal.ofInt` and
`Literal.ofBinary`.

A literal without fraction and exponent is an integer as long as it fits into 64
bits, signed below zero and unsigned above; `-0` and all others are double
precision. Their value is built from at most 64 bits of significant digits and
one multiplication or division by a power of ten, so long literals are not
always the nearest double.
-/

namespace DisplayComposer.Json

attribute [local instance] natPow

/-- How the sign of an exponent is written. -/
inductive ExponentSign where
  | unsigned
  | plus
  | minus
  deriving DecidableEq, Repr

/-- The exponent of a literal. -/
structure Exponent where
  sign : ExponentSign
  digits : List Digit
  deriving DecidableEq, Repr

/-- A number as written. -/
structure Literal where
  negative : Bool
  whole : List Digit
  fraction : Option (List Digit)
  exponent : Option Exponent
  deriving DecidableEq, Repr

/-- What a literal denotes. -/
inductive Number where
  /-- An integer of 64 bits. -/
  | int (n : Int)
  | double (x : Binary DisplayComposer.double)
  deriving DecidableEq

namespace Literal

/-! ## Values -/

/-- Append digits to `n` while it fits into 64 bits; also the digits left. -/
def absorb (n : Nat) : List Digit → Nat × List Digit
  | [] => (n, [])
  | d :: ds => if pushDigit n d < UInt64.size then absorb (pushDigit n d) ds else (n, d :: ds)

/-- The double nearest to a power of ten. -/
def powerOfTen (k : Nat) : Binary double := Binary.ofRatio false (10 ^ k) 1

/-- The greatest power of ten by which a value is scaled in one step. -/
def greatestPower : Nat := 308

/-- `x` times `10 ^ exponent` for a negative exponent, by divisions of at most
`10 ^ 308` each. No `x` below `2 ^ 64` survives two full steps. -/
def scaleDown : Nat → Binary double → Int → Binary double
  | 0, _, _ => Binary.zero
  | fuel + 1, x, exponent =>
    if -greatestPower ≤ exponent then x.div (powerOfTen (-exponent).toNat)
    else scaleDown fuel (x.div (powerOfTen greatestPower)) (exponent + greatestPower)

/-- `significand * 10 ^ exponent` in double precision, unless it is too large. -/
def assemble? (negative : Bool) (significand : Nat) (exponent : Int) : Option (Binary double) :=
  let x : Binary double := Binary.ofInt significand
  let scaled? : Option (Binary double) :=
    if x.isZero then some x
    else if exponent < 0 then some (scaleDown 3 x exponent)
    else if exponent ≤ greatestPower then
      let y := x.mul (powerOfTen exponent.toNat)
      if y.isInfinite then none else some y
    else none
  scaled?.map fun y => if negative then y.neg else y

/-- The number that an exponent stands for. -/
def exponentValue : Option Exponent → Int
  | none => 0
  | some e => if e.sign = .minus then -(ofDigits e.digits : Int) else ofDigits e.digits

/-- The integer of an absolute value below `2 ^ 64`, if it has 64 bits. -/
def integer? (negative : Bool) (n : Nat) : Option Int :=
  if negative then if n ≠ 0 ∧ Int64.minValue.toInt ≤ -n then some (-n) else none else some n

/-- What a literal denotes; nothing if it is beyond the largest double. Whole
digits that no longer fit only raise the exponent, and fraction digits that no
longer fit are ignored. -/
def value? (l : Literal) : Option Number :=
  let (whole, left) := absorb 0 l.whole
  match l.fraction, l.exponent, left, integer? l.negative whole with
  | none, none, [], some n => some (.int n)
  | none, _, _, _ => (assemble? l.negative whole (left.length + exponentValue l.exponent)).map .double
  | some ds, _, _, _ =>
    let (significand, ignored) := absorb whole ds
    let taken := ds.length - ignored.length
    (assemble? l.negative significand
      (left.length - taken + exponentValue l.exponent)).map .double

/-! ## Writing numbers -/

/-- The literal of an integer. -/
def ofInt (n : Int) : Literal := ⟨n < 0, decimalDigits n.natAbs, none, none⟩

/-- The range of exponents (of the leading digit) that are written by position;
other numbers have an exponent. -/
structure Positional where
  least : Int
  greatest : Int

/-- How single-precision numbers are written. -/
def singleLayout : Positional := ⟨-6, 12⟩

/-- How double-precision numbers are written. -/
def doubleLayout : Positional := ⟨-5, 15⟩

/-- The literal of `± digits * 10 ^ exponent`. By position there is always a
fraction digit; with an exponent one digit stands before the point, a fraction
only if there are more digits, and the exponent has its sign. -/
def ofDecimal (layout : Positional) (negative : Bool) (d : Decimal) : Literal :=
  let zero := Digit.ofNat 0
  let digits := decimalDigits d.significand
  let order := d.exponent + (digits.length - 1 : Nat)
  if layout.least ≤ order ∧ order ≤ layout.greatest then
    if 0 ≤ order then
      let padded := digits ++ List.replicate (order.toNat + 2 - digits.length) zero
      ⟨negative, padded.take (order.toNat + 1), some (padded.drop (order.toNat + 1)), none⟩
    else
      ⟨negative, [zero], some (List.replicate (-order - 1).toNat zero ++ digits), none⟩
  else
    let rest := digits.drop 1
    ⟨negative, digits.take 1, if rest.isEmpty then none else some rest,
      some ⟨if order < 0 then .minus else .plus, decimalDigits order.natAbs⟩⟩

/-- The literal of a finite number, with the fewest digits that read back. -/
def ofBinary {f : BinaryFormat} (layout : Positional) (x : Binary f) : Literal :=
  ofDecimal layout x.negative x.shortest

/-- The literal of a number in the program's own way of writing. -/
def ofNumber : Number → Literal
  | .int n => ofInt n
  | .double x => ofBinary doubleLayout x

/-! ## Text -/

def exponentText : Option Exponent → List Char
  | none => []
  | some e =>
    let sign := match e.sign with
      | .unsigned => []
      | .plus => ['+']
      | .minus => ['-']
    'e' :: sign ++ e.digits.map Digit.toChar

/-- The characters of a literal. -/
def chars (l : Literal) : List Char :=
  let fraction := match l.fraction with
    | none => []
    | some ds => '.' :: ds.map Digit.toChar
  (if l.negative then ['-'] else []) ++ l.whole.map Digit.toChar ++ fraction ++
    exponentText l.exponent

/-- The text of a literal. -/
def text (l : Literal) : String := String.ofList l.chars

/-! ## Reading integers back -/

theorem absorb_eq_of_lt {n : Nat} {ds : List Digit} (h : ds.foldl pushDigit n < UInt64.size) :
    absorb n ds = (ds.foldl pushDigit n, []) := by
  induction ds generalizing n with
  | nil => rfl
  | cons d ds ih =>
    have mono : ∀ (l : List Digit) (m : Nat), m ≤ l.foldl pushDigit m := by
      intro l
      induction l with
      | nil => intro m; exact Nat.le_refl m
      | cons e l ihl =>
        intro m
        exact Nat.le_trans (by simp only [pushDigit]; omega) (ihl (pushDigit m e))
    have hlt : pushDigit n d < UInt64.size := Nat.lt_of_le_of_lt (mono ds _) h
    rw [absorb, if_pos hlt]
    exact ih h

/-- An integer of 64 bits reads back from its literal. -/
theorem value?_ofInt {n : Int} (low : Int64.minValue.toInt ≤ n) (high : n < UInt64.size) :
    (ofInt n).value? = some (.int n) := by
  have least := Int64.toInt_minValue
  have size : UInt64.size = 2 ^ 64 := rfl
  have hdigits : (decimalDigits n.natAbs).foldl pushDigit 0 = n.natAbs :=
    ofDigits_decimalDigits n.natAbs
  have habs : absorb 0 (decimalDigits n.natAbs) = (n.natAbs, []) := by
    rw [absorb_eq_of_lt (by rw [hdigits]; omega), hdigits]
  have hint : integer? (decide (n < 0)) n.natAbs = some n := by
    by_cases hn : n < 0
    · have h1 : n.natAbs ≠ 0 ∧ Int64.minValue.toInt ≤ -(n.natAbs : Int) := by omega
      rw [integer?, decide_eq_true hn, if_pos rfl, if_pos h1]
      simp only [Option.some.injEq]
      omega
    · rw [integer?, decide_eq_false hn]
      simp only [Bool.false_eq_true, if_false, Option.some.injEq]
      omega
  simp only [value?, ofInt, habs, hint]

end Literal

end DisplayComposer.Json
