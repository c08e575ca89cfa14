import DisplayComposer.Json.Codec
/-!
# DisplayComposer.Json.Record

**Records and tagged unions in JSON.** A record is written as an object with one
member for each field, in the order of declaration. It is read from such an
object in any order, unknown members passed over, or from an array of the fields
in their order. Reading starts from a blank record and sets one field after the
other, so a field that may be absent keeps its blank value.

A value of a tagged union is a record with one more member, `type`, which names
the case. Since the case decides how to read all others, and the tag may come
late, the other members are first read as they are.

* `Field` — `required`, `defaulted`, `optional` and `sparse` fields;
* `Record`, `Record.codec`;
* `Case`, `Codec.tagged`.
-/

namespace DisplayComposer.Json

variable {ρ α : Type}

/-! ## Fields -/

/-- A field of the records `ρ`. -/
structure Field (ρ : Type) where
  name : String
  /-- Whether a record without this field is refused. -/
  needed : Bool
  /-- Read the field and set it. -/
  decode : Reading → Node → ρ → Except DecodeError ρ
  /-- What is written for the field, if it is written. -/
  encode : ρ → Option Json

namespace Field

/-- A field that is always there. -/
def required (name : String) (c : Codec α) (get : ρ → α) (set : α → ρ → ρ) : Field ρ where
  name
  needed := true
  decode reading n r := do pure (set (← c.decode reading n) r)
  encode r := some (c.encode (get r))

/-- A field that is always written but may be absent. -/
def defaulted (name : String) (c : Codec α) (get : ρ → α) (set : α → ρ → ρ) : Field ρ where
  name
  needed := false
  decode reading n r := do pure (set (← c.decode reading n) r)
  encode r := some (c.encode (get r))

/-- A field that is written if it has a value. -/
def optional (name : String) (c : Codec α) (get : ρ → Option α) (set : Option α → ρ → ρ) :
    Field ρ where
  name
  needed := false
  decode reading n r := do pure (set (← c.nullable.decode reading n) r)
  encode r := (get r).map c.encode

/-- A list that is written if it is not empty. -/
def sparse (name : String) (c : Codec α) (get : ρ → List α) (set : List α → ρ → ρ) :
    Field ρ where
  name
  needed := false
  decode reading n r := do pure (set (← c.list.decode reading n) r)
  encode r := if (get r).isEmpty then none else some (c.list.encode (get r))

end Field

/-! ## Records -/

/-- How records are written and read. -/
structure Record (ρ : Type) where
  /-- What a message calls such a record. -/
  title : String
  /-- The record with all fields absent. -/
  blank : ρ
  fields : List (Field ρ)

namespace Record

/-- The members that are written. -/
def members (c : Record ρ) (r : ρ) : List (String × Json) :=
  c.fields.filterMap fun field => (field.encode r).map fun j => (field.name, j)

/-- A number of elements, as messages say it. -/
def elements (n : Nat) : String :=
  decimalText n ++ if n = 1 then " element" else " elements"

/-- The first needed field that was not read is missed. -/
def complete (fields : List (Field ρ)) (seen : List String) (r : ρ) : Except DecodeError ρ :=
  match fields.find? fun field => field.needed && !seen.contains field.name with
  | some field => mismatch (.missingField field.name)
  | none => .ok r

/-- Read the members of an object. A name that comes twice is refused before its
second value is looked at. -/
def decodeMembers (fields : List (Field ρ)) (reading : Reading) (ending : Ending) :
    List (Quoted × Node) → List String → ρ → Except DecodeError ρ
  | [], seen, r => do
    orFault ending.check
    complete fields seen r
  | (q, n) :: rest, seen, r => do
    let name ← orFault q.text
    match fields.find? (·.name = name) with
    | none =>
      orFault n.passed
      decodeMembers fields reading ending rest seen r
    | some field =>
      if seen.contains name then mismatch (.duplicateField name)
      else
        let r ← field.decode reading n r
        decodeMembers fields reading ending rest (name :: seen) r

/-- Read the items of an array as fields, the first of them at place `index`; also
the items left over. Behind the end of the array fields are absent. -/
def decodeItems (expected : String) (reading : Reading) (ending : Ending) :
    Nat → List (Field ρ) → List Node → ρ → Except DecodeError (ρ × List Node)
  | _, [], items, r => .ok (r, items)
  | index, field :: fields, [], r => do
    orFault ending.check
    if field.needed then mismatch (.wrongLength index expected)
    else decodeItems expected reading ending (index + 1) fields [] r
  | index, field :: fields, n :: items, r => do
    let r ← field.decode reading n r
    decodeItems expected reading ending (index + 1) fields items r

/-- The end of an array whose first `read` items were fields. While a text is
read, an item too many is a fault of the text. -/
def surplus (reading : Reading) (read : Nat) (left : List Node) (ending : Ending) :
    Except DecodeError Unit :=
  match reading, left, ending with
  | .streamed _, [], .stopped f => .error (.text f)
  | _, [], .closed => .ok ()
  | .buffered, _, _ =>
    mismatch (.wrongLength (read + left.length) (elements read ++ " in sequence"))
  | .inMemory, _, _ => mismatch (.wrongLength (read + left.length) "fewer elements in array")
  | .streamed _, _, _ => .error (.text .malformed)

/-- How the records are written and read. -/
def codec (c : Record ρ) : Codec ρ where
  encode r := .object (c.members r)
  decode reading n := match n with
    | .object members ending => do
      let reading ← reading.enter
      decodeMembers c.fields reading ending members [] c.blank
    | .array items ending => do
      let reading ← reading.enter
      let expected := c.title ++ " with " ++ elements c.fields.length
      let (r, left) ← decodeItems expected reading ending 0 c.fields items c.blank
      surplus reading (min items.length c.fields.length) left ending
      pure r
    | .unkeyed => do
      let _ ← reading.enter
      .error (.text .malformed)
    | n => n.wrongType c.title

end Record

/-! ## Tagged unions -/

/-- A case of a tagged union. -/
structure Case (α : Type) where
  name : String
  /-- Read the content, which was read before. -/
  decode : Node → Except DecodeError α
  /-- The members of a value of this case. -/
  members? : α → Option (List (String × Json))

namespace Case

/-- A case with the fields of a record. -/
def record (name : String) (c : Record ρ) (inject : ρ → α) (project? : α → Option ρ) : Case α where
  name
  decode n := (c.codec.decode .buffered n).map inject
  members? a := (project? a).map c.members

/-- A case without content. Members are passed over, items are too many. -/
def constant (name : String) (a : α) (holds : α → Bool) : Case α where
  name
  decode n := match n with
    | .array items ending => do
      Record.surplus .buffered 0 items ending
      pure a
    | _ => .ok a
  members? b := if holds b then some [] else none

end Case

/-- The name of the member that names the case. -/
def tagName : String := "type"

namespace Codec

/-- The case that a node names. -/
def tag (cases : List (Case α)) : Node → Except DecodeError (Case α)
  | .string q => do constant cases Case.name (← orFault q.text)
  | n => n.wrongType "variant identifier"

/-- The members of an object of a tagged union: its case, and the other members
as they are. The tag is looked at where it stands. -/
def splitMembers (cases : List (Case α)) (limit : Nat) (ending : Ending) :
    List (Quoted × Node) → Option (Case α) → List (String × Json) →
      Except DecodeError (Case α × List (String × Json))
  | [], found, done => do
    orFault ending.check
    match found with
    | some case => pure (case, done)
    | none => mismatch (.missingField tagName)
  | (q, n) :: rest, found, done => do
    let name ← orFault q.text
    if name = tagName then
      match found with
      | some _ => mismatch (.duplicateField tagName)
      | none => splitMembers cases limit ending rest (some (← tag cases n)) done
    else
      let j ← orFault (n.value limit)
      splitMembers cases limit ending rest found (done ++ [(name, j)])

/-- The limit on nesting of a reading. -/
def limitOf : Reading → Nat
  | .streamed limit => limit
  | _ => nestingLimit

/-- A tagged union. It is also read from an array whose first item is the tag. -/
def tagged (title : String) (cases : List (Case α)) : Codec α where
  encode a := .object ((cases.findSome? fun case => (case.members? a).map fun members =>
    (tagName, .string case.name) :: members).getD [])
  decode reading n := match n with
    | .object members ending => do
      let reading ← reading.enter
      let (case, members) ← splitMembers cases (limitOf reading) ending members none []
      case.decode (.ofValue (.object members))
    | .array [] ending => do
      let _ ← reading.enter
      orFault ending.check
      mismatch (.missingField tagName)
    | .array (n :: items) ending => do
      let reading ← reading.enter
      let case ← tag cases n
      let items ← orFault (Node.values (limitOf reading) items)
      orFault ending.check
      case.decode (.ofValue (.array items))
    | .unkeyed => do
      let _ ← reading.enter
      .error (.text .malformed)
    | n => n.wrongType title

end Codec

end DisplayComposer.Json
