import DisplayComposer.Bytes
import DisplayComposer.Number.Decimal
/-!
# DisplayComposer.Toml.Number

**Numbers.** An integer is decimal with an optional sign, or hexadecimal, octal
or binary without one, and has 64 bits with sign. Single underscores may stand
between digits. A number with a fraction or an exponent is a float; it must not
be beyond the greatest double, although the negative of such a number is let
through.

* `integer?` — the value of an integer;
* `isFloat` — whether something is a float. No setting is one, so its value is
  not kept.
-/

namespace DisplayComposer.Toml

attribute [local instance] natPow

/-! ## Digits -/

/-- Digits without the underscores between them. -/
def ungroup? : List Char → Option (List Char)
  | [] => none
  | [c] => if c = '_' then none else some [c]
  | c :: d :: cs =>
    if c = '_' then none
    else if d = '_' then (ungroup? cs).map (c :: ·)
    else (ungroup? (d :: cs)).map (c :: ·)

/-- The value of a digit in a base up to sixteen. -/
def digitValue? (base : Nat) (c : Char) : Option Nat := do
  if c.toNat < 128 then
    let d ← hexValue? (asciiByte c)
    if d < base then some d else none
  else none

/-- The number that digits denote. -/
def natural? (base : Nat) (cs : List Char) : Option Nat := do
  let ds ← (← ungroup? cs).mapM (digitValue? base)
  pure (ds.foldl (base * · + ·) 0)

/-- The number that decimal digits denote. Only zero begins with a zero. -/
def whole? : List Char → Option Nat
  | '0' :: _ :: _ => none
  | cs => natural? 10 cs

/-- A sign, and what follows it. -/
def splitSign : List Char → Bool × List Char
  | '+' :: cs => (false, cs)
  | '-' :: cs => (true, cs)
  | cs => (false, cs)

/-! ## Integers -/

/-- Whether an integer has 64 bits. -/
def inRange (k : Int) : Bool := Int64.minValue.toInt ≤ k && k ≤ Int64.maxValue.toInt

/-- The value of an integer, before its range is looked at. -/
def integerValue? : List Char → Option Int
  | '0' :: 'x' :: cs => (natural? 16 cs).map Int.ofNat
  | '0' :: 'o' :: cs => (natural? 8 cs).map Int.ofNat
  | '0' :: 'b' :: cs => (natural? 2 cs).map Int.ofNat
  | cs =>
    let (negative, cs) := splitSign cs
    (whole? cs).map fun n => if negative then -(n : Int) else n

/-- The value of an integer. -/
def integer? (cs : List Char) : Option Int := (integerValue? cs).filter inRange

/-! ## Floats -/

/-- The greatest number of digits in front of the point that a double has. -/
def greatestDigits : Nat := 309

/-- Whether `significand * 10 ^ exponent` rounds beyond the greatest double. The
count of digits decides, except near the bound. -/
def isTooLarge (significand : Nat) (exponent : Int) : Bool :=
  let digits : Int := (decimalDigits significand).length + exponent
  if significand = 0 ∨ digits < greatestDigits then false
  else if greatestDigits < digits then true
  else
    let x : Binary double :=
      Binary.ofRatio false (significand * 10 ^ exponent.toNat) (10 ^ (-exponent).toNat)
    x.isInfinite

def isDecimalChar (c : Char) : Bool := c.isDigit || c = '_'

/-- A fraction, if there is one, as the number that its digits denote and how many
they are; and what follows it. -/
def fraction? : List Char → Option (Option (Nat × Nat) × List Char)
  | '.' :: cs => do
    let ds ← ungroup? (cs.takeWhile isDecimalChar)
    pure (some (← natural? 10 ds, ds.length), cs.dropWhile isDecimalChar)
  | cs => some (none, cs)

/-- The value of an exponent, if there is one. It ends the number. -/
def exponent? : List Char → Option (Option Int)
  | [] => some none
  | c :: cs => do
    let (negative, cs) := splitSign cs
    if c = 'e' ∨ c = 'E' then
      let n ← natural? 10 cs
      pure (some (if negative then -(n : Int) else n))
    else none

/-- Whether digits with a fraction or an exponent, or both, are a float. -/
def isDecimalFloat (negative : Bool) (cs : List Char) : Bool :=
  let accepted : Option Bool := do
    let whole ← whole? (cs.takeWhile isDecimalChar)
    match ← fraction? (cs.dropWhile isDecimalChar) with
    | (none, cs) =>
      let exponent ← (← exponent? cs)
      pure (negative || !isTooLarge whole exponent)
    | (some (fraction, places), cs) =>
      let exponent := (← exponent? cs).getD 0
      pure (negative || !isTooLarge (whole * 10 ^ places + fraction) (exponent - places))
  accepted.getD false

/-- Whether something is a float. -/
def isFloat (cs : List Char) : Bool :=
  let (negative, cs) := splitSign cs
  cs = ['i', 'n', 'f'] || cs = ['n', 'a', 'n'] || isDecimalFloat negative cs

end DisplayComposer.Toml
