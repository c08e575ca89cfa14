import DisplayComposer.Toml.Number
/-!
# DisplayComposer.Toml.Date

**Dates and times.** There are dates, times of day, and dates with a time, with
or without an offset from universal time. No setting is one, so only their form
is looked at.

* `isTime`, `isOffsetTime` — times of day;
* `dateTime?` — what begins with a date.
-/

namespace DisplayComposer.Toml

/-! ## Parts -/

/-- A number of exactly `width` digits between two bounds, and what follows it. -/
def part? (width low high : Nat) (cs : List Char) : Option (Nat × List Char) := do
  let digits := cs.take width
  if digits.length = width then
    let ds ← digits.mapM (digitValue? 10)
    let n := ds.foldl (10 * · + ·) 0
    if low ≤ n ∧ n ≤ high then pure (n, cs.drop width) else none
  else none

/-- What follows a character. -/
def skip? (c : Char) : List Char → Option (List Char)
  | d :: cs => if d = c then some cs else none
  | [] => none

/-- Hours and minutes, and what follows them. -/
def clock? (cs : List Char) : Option (List Char) := do
  let (_, cs) ← part? 2 0 23 cs
  let cs ← skip? ':' cs
  let (_, cs) ← part? 2 0 59 cs
  pure cs

/-! ## Times -/

/-- What follows a time of day. A minute may have a leap second. -/
def time? (cs : List Char) : Option (List Char) := do
  let cs ← clock? cs
  let cs ← skip? ':' cs
  let (_, cs) ← part? 2 0 60 cs
  match cs with
  | '.' :: cs =>
    if (cs.takeWhile Char.isDigit).isEmpty then none else pure (cs.dropWhile Char.isDigit)
  | cs => pure cs

def isTime (cs : List Char) : Bool := time? cs = some []

/-- What follows the offset of a time, if it has one. -/
def offset? : List Char → Option (List Char)
  | [] => some []
  | c :: cs =>
    if c = 'Z' ∨ c = 'z' then some cs
    else if c = '+' ∨ c = '-' then clock? cs
    else none

/-- Whether something is a time of day, with or without an offset. -/
def isOffsetTime (cs : List Char) : Bool := (time? cs).bind offset? = some []

/-! ## Dates -/

def isLeapYear (year : Nat) : Bool := year % 4 = 0 && (year % 100 ≠ 0 || year % 400 = 0)

/-- The number of days of a month. -/
def daysOf (year month : Nat) : Nat :=
  if month = 2 then if isLeapYear year then 29 else 28
  else if month = 4 ∨ month = 6 ∨ month = 9 ∨ month = 11 then 30
  else 31

/-- What follows a date. -/
def date? (cs : List Char) : Option (List Char) := do
  let (year, cs) ← part? 4 0 9999 cs
  let cs ← skip? '-' cs
  let (month, cs) ← part? 2 1 12 cs
  let cs ← skip? '-' cs
  let (_, cs) ← part? 2 1 (daysOf year month) cs
  pure cs

/-- What begins with a date. -/
inductive Dated where
  /-- A date alone; a time may follow behind a space. -/
  | day
  | moment
  deriving DecidableEq, Repr

/-- Whether something is a date, or a date with a time. -/
def dateTime? (cs : List Char) : Option Dated := do
  match ← date? cs with
  | [] => pure .day
  | c :: cs => if (c = 'T' ∨ c = 't') ∧ isOffsetTime cs then pure .moment else none

end DisplayComposer.Toml
