import DisplayComposer.Number.Integer
import DisplayComposer.Toml.Value
/-!
# DisplayComposer.Toml.Record

**Records in tables.** A `Codec` says how a type is written as a value and read
from one. A record is a table with an entry for each field; reading starts from a
blank record, so a field that is absent keeps its blank value, and entries that
name no field are passed over. A record may also be read from an array of its
fields in their order, or from a date, which has none of them.

* `Codec`, with `string`, `boolean`, `int64`, `uint32`, `uint64`, `list`;
* `Field`, `Record`, `Record.codec`.
-/

namespace DisplayComposer.Toml

/-- How values of a type are written and read. -/
structure Codec (α : Type) where
  encode : α → Value
  decode : Value → Option α

namespace Codec

def string : Codec String where
  encode s := .string s
  decode
    | .string s => some s
    | _ => none

def boolean : Codec Bool where
  encode b := .boolean b
  decode
    | .boolean b => some b
    | _ => none

/-- An integer type. -/
def integer {α : Type} (ofInt? : Int → Option α) (toInt : α → Int) : Codec α where
  encode a := .integer (toInt a)
  decode
    | .integer n => ofInt? n
    | _ => none

def int64 : Codec Int64 := integer int64Of? Int64.toInt

def uint32 : Codec UInt32 := integer uint32Of? (·.toNat)

def uint64 : Codec UInt64 := integer uint64Of? (·.toNat)

end Codec

/-- The items of an array, however it is written. -/
def Value.items? : Value → Option (List Value)
  | .array items => some items
  | .tables earlier last => some ((earlier ++ [last]).map (.table .headed))
  | _ => none

/-- An array of tables under headers. -/
def Value.ofTables : List Entries → Value
  | [] => .array []
  | es :: rest => .tables (es :: rest).dropLast ((es :: rest).getLast (List.cons_ne_nil es rest))

@[simp] theorem Value.items?_ofTables (all : List Entries) :
    (ofTables all).items? = some (all.map (.table .headed)) := by
  cases all with
  | nil => rfl
  | cons es rest => rw [ofTables, items?, List.dropLast_concat_getLast]

variable {ρ α : Type}

/-! ## Fields -/

/-- A field of the records `ρ`. -/
structure Field (ρ : Type) where
  name : String
  /-- Read the field and set it. -/
  decode : Value → ρ → Option ρ
  /-- What is written for the field, if it is written. -/
  encode : ρ → Option Value

namespace Field

/-- A field that is always written. -/
def plain (name : String) (c : Codec α) (get : ρ → α) (set : α → ρ → ρ) : Field ρ where
  name
  decode v r := (c.decode v).map (set · r)
  encode r := some (c.encode (get r))

/-- A field that is written if it has a value. -/
def optional (name : String) (c : Codec α) (get : ρ → Option α) (set : Option α → ρ → ρ) :
    Field ρ where
  name
  decode v r := (c.decode v).map fun a => set (some a) r
  encode r := (get r).map c.encode

end Field

/-! ## Records -/

/-- How records are written and read. -/
structure Record (ρ : Type) where
  /-- The record with all fields absent. -/
  blank : ρ
  fields : List (Field ρ)

namespace Record

/-- The entries of a record. -/
def entries (c : Record ρ) (r : ρ) : Entries :=
  c.fields.filterMap fun field => (field.encode r).map fun v => (field.name, v)

/-- Read the fields that a table has. -/
def decodeEntries (es : Entries) : List (Field ρ) → ρ → Option ρ
  | [], r => some r
  | field :: fields, r =>
    match es.lookup field.name with
    | none => decodeEntries es fields r
    | some v => (field.decode v r).bind (decodeEntries es fields)

/-- Read as many fields as there are items. Items left over do not count. -/
def decodeItems : List (Field ρ) → List Value → ρ → Option ρ
  | field :: fields, v :: vs, r => (field.decode v r).bind (decodeItems fields vs)
  | _, _, r => some r

/-- Read a record. -/
def decode (c : Record ρ) (v : Value) : Option ρ :=
  match v with
  | .table _ es => decodeEntries es c.fields c.blank
  | .date => some c.blank
  | v => v.items?.bind fun items => decodeItems c.fields items c.blank

/-- How the records are written and read. -/
def codec (c : Record ρ) : Codec ρ where
  encode r := .table .headed (c.entries r)
  decode := c.decode

/-- Lists of the records, under a header each. -/
def listCodec (c : Record ρ) : Codec (List ρ) where
  encode rs := .ofTables (rs.map c.entries)
  decode v := v.items?.bind fun items => items.mapM c.decode

end Record

end DisplayComposer.Toml
