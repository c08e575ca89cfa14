import DisplayComposer.Json.Mismatch
import DisplayComposer.Number.Integer
/-!
# DisplayComposer.Json.Codec

**How types are written as JSON and read from it.** A `Codec` puts the two
directions side by side. Reading walks a node in text order and stops at the
first problem, be it a fault of the text or a mismatch.

A value is read in one of three ways (`Reading`): while its text is read, from
a value that was read before, or from a value in memory. They differ in how an
array with too many items and a misshaped choice are reported, and only the
first has to watch the nesting.

* `Codec`, with `integer`, `float`, `bool`, `string`, `list`, `nullable`;
* `Codec.choice` — a type of named constants;
* `Codec.decodeBytes` — reading a whole text.
-/

namespace DisplayComposer.Json

/-- How a value is read. -/
inductive Reading where
  /-- While its text is read, with this limit on nesting. -/
  | streamed (limit : Nat)
  /-- From a value that was read before. -/
  | buffered
  /-- From a value in memory. -/
  | inMemory
  deriving DecidableEq, Repr

/-- The reading inside an array or object. -/
def Reading.enter : Reading → Except DecodeError Reading
  | .streamed limit => do pure (.streamed (← orFault (Json.enter limit)))
  | reading => .ok reading

/-- How values of a type are written and read. -/
structure Codec (α : Type) where
  encode : α → Json
  decode : Reading → Node → Except DecodeError α

namespace Codec

variable {α β : Type}

/-! ## Scalars -/

/-- An integer type, by its name in messages and its range. -/
def integer (expected : String) (ofInt? : Int → Option α) (toInt : α → Int) : Codec α where
  encode a := .ofInt (toInt a)
  decode _ n := match n with
    | .number l => match l.value? with
      | none => .error (.text .malformed)
      | some (.int k) => match ofInt? k with
        | some a => .ok a
        | none => mismatch (.wrongValue (.number (.int k)) expected)
      | some (.double x) => mismatch (.wrongType (.number (.double x)) expected)
    | n => n.wrongType expected

def int32 : Codec Int32 := integer "i32" int32Of? Int32.toInt

def int64 : Codec Int64 := integer "i64" int64Of? Int64.toInt

def uint8 : Codec UInt8 := integer "u8" uint8Of? (·.toNat)

def uint32 : Codec UInt32 := integer "u32" uint32Of? (·.toNat)

/-- An integer for sizes. -/
def size : Codec UInt64 := integer "usize" uint64Of? (·.toNat)

/-- A single-precision number. Integers are rounded directly, all others have
been rounded to double precision before. -/
def float : Codec (Binary single) where
  encode x := .ofBinary Literal.singleLayout x
  decode _ n := match n with
    | .number l => match l.value? with
      | none => .error (.text .malformed)
      | some (.int k) => .ok (.ofInt k)
      | some (.double x) => .ok x.convert
    | n => n.wrongType "f32"

def bool : Codec Bool where
  encode b := .bool b
  decode _ n := match n with
    | .bool b => .ok b
    | n => n.wrongType "a boolean"

def string : Codec String where
  encode s := .string s
  decode _ n := match n with
    | .string q => orFault q.text
    | n => n.wrongType "a string"

/-- Another type with the same values. -/
def imap (c : Codec α) (f : α → β) (g : β → α) : Codec β where
  encode b := c.encode (g b)
  decode reading n := (c.decode reading n).map f

/-! ## Lists and absent values -/

def list (c : Codec α) : Codec (List α) where
  encode as := .array (as.map c.encode)
  decode reading n := match n with
    | .array items ending => do
      let reading ← reading.enter
      let as ← items.mapM (c.decode reading)
      orFault ending.check
      pure as
    | n => n.wrongType "a sequence"

/-- A value or `null`. What begins like `null` is nothing else, so a fault in that
word is one of the text whatever the value would be. -/
def nullable (c : Codec α) : Codec (Option α) where
  encode
    | none => .null
    | some a => c.encode a
  decode reading n := match n with
    | .null => .ok none
    | .partialNull f => .error (.text f)
    | n => (c.decode reading n).map some

/-! ## Choices -/

/-- The constant of a name. -/
def constant (all : List α) (nameOf : α → String) (name : String) : Except DecodeError α :=
  match all.find? (nameOf · = name) with
  | some a => .ok a
  | none => mismatch (.unknownVariant name (all.map nameOf))

/-- What stands behind the name of a constant in an object: nothing. -/
def unit (reading : Reading) (n : Node) : Except DecodeError Unit :=
  match reading, n with
  | _, .null => .ok ()
  | .streamed _, n => n.wrongType "unit"
  | _, .object [] .closed => .ok ()
  | _, n => n.wrongType "unit"

/-- A choice whose text is neither a name nor an object: nothing, or the wrong
thing. -/
def misshaped : Node → Fault
  | .missing => .cut
  | _ => .malformed

/-- The end of an object that may hold one member only. -/
def onlyMember : List (Quoted × Node) → Ending → Except Fault Unit
  | [], .closed => .ok ()
  | [], .stopped f => .error f
  | _, _ => .error .malformed

/-- A choice while its text is read. An object for it begins with a name. -/
def streamedChoice (select : String → Except DecodeError α) (reading : Reading) :
    Node → Except DecodeError α
  | .string q => do select (← orFault q.text)
  | .object [] ending => do
    let _ ← reading.enter
    .error (.text (if ending = .closed then .malformed else .cut))
  | .object ((q, n) :: rest) ending => do
    let reading ← reading.enter
    let a ← select (← orFault q.text)
    unit reading n
    orFault (onlyMember rest ending)
    pure a
  | .unkeyed => do
    let _ ← reading.enter
    .error (.text .malformed)
  | n => .error (.text (misshaped n))

/-- A choice from a value read before. -/
def bufferedChoice (select : String → Except DecodeError α) (reading : Reading) :
    Node → Except DecodeError α
  | .string q => do select (← orFault q.text)
  | .object [(q, n)] _ => do
    let a ← select (← orFault q.text)
    unit reading n
    pure a
  | .object _ _ => mismatch (.wrongValue .map "map with a single key")
  | n => n.wrongType "string or map"

/-- A type of named constants. A constant is written as its name; it may also be
read from an object whose only member has that name and no content. -/
def choice (all : List α) (nameOf : α → String) : Codec α where
  encode a := .string (nameOf a)
  decode reading n := match reading with
    | .streamed _ => streamedChoice (constant all nameOf) reading n
    | _ => bufferedChoice (constant all nameOf) reading n

/-! ## Whole texts -/

/-- The value that a text holds. That nothing follows it is looked at last. -/
def decodeBytes (c : Codec α) (bs : Bytes) : Except DecodeError α := do
  let d := Document.read bs
  let a ← c.decode (.streamed nestingLimit) d.root
  if d.trailing then .error (.text .malformed) else pure a

/-- The value of a JSON value. -/
def decodeValue (c : Codec α) (reading : Reading) (j : Json) : Except DecodeError α :=
  c.decode reading (Node.ofValue j)

/-- The compact text of a value. -/
def encodeBytes (c : Codec α) (a : α) : Bytes := (c.encode a).print

end Codec

end DisplayComposer.Json
