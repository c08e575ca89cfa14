import DisplayComposer.Json.Literal
import DisplayComposer.Json.Quoted
/-!
# DisplayComposer.Json.Value

**JSON values.** A value is the content of a text without its spacing and
escapes: numbers stay as written, objects keep the order of their members and
may hold one name twice. Values are written compactly, without any spacing.

* `Json` — the values;
* `Json.print` — the compact text of a value;
* `Json.ofBinary` — a float, where infinities and NaN become `null`;
* `Json.canonical` — members sorted by name, the last one of each name kept, and
  numbers in the program's own way of writing.
-/

namespace DisplayComposer

open Json (Literal quoted)

/-- A JSON value. -/
inductive Json where
  | null
  | bool (b : Bool)
  | number (l : Literal)
  | string (s : String)
  | array (items : List Json)
  | object (members : List (String × Json))
  deriving Repr

namespace Json

instance : Inhabited Json := ⟨.null⟩

/-! ## Construction -/

/-- An integer. -/
def ofInt (n : Int) : Json := .number (Literal.ofInt n)

/-- A float; JSON has no infinities and no NaN. -/
def ofBinary {f : BinaryFormat} (layout : Literal.Positional) (x : Binary f) : Json :=
  if x.isFinite then .number (Literal.ofBinary layout x) else .null

/-! ## Writing -/

mutual

/-- The compact text of a value. -/
def print : Json → Bytes
  | .null => utf8 "null"
  | .bool true => utf8 "true"
  | .bool false => utf8 "false"
  | .number l => l.chars.map asciiByte
  | .string s => quoted s
  | .array items => 91 :: printItems items
  | .object members => 123 :: printMembers members

/-- The items of an array and its closing bracket. -/
def printItems : List Json → Bytes
  | [] => [93]
  | [j] => j.print ++ [93]
  | j :: rest => j.print ++ 44 :: printItems rest

/-- The members of an object and its closing brace. -/
def printMembers : List (String × Json) → Bytes
  | [] => [125]
  | [(k, j)] => quoted k ++ 58 :: j.print ++ [125]
  | (k, j) :: rest => quoted k ++ 58 :: j.print ++ 44 :: printMembers rest

end

/-- The compact text of a value, as text. -/
def text (j : Json) : String := (ofUtf8? j.print).getD ""

/-! ## Canonical form -/

/-- Put a member into a list sorted by name, in place of one of the same name. -/
def insertMember (k : String) (j : Json) : List (String × Json) → List (String × Json)
  | [] => [(k, j)]
  | (k', j') :: rest =>
    if k < k' then (k, j) :: (k', j') :: rest
    else if k = k' then (k, j) :: rest
    else (k', j') :: insertMember k j rest

mutual

/-- The same value with sorted members, without repeated names, and with numbers
in the program's own way of writing. -/
def canonical : Json → Json
  | .null => .null
  | .bool b => .bool b
  | .number l => .number ((l.value?.map Literal.ofNumber).getD l)
  | .string s => .string s
  | .array items => .array (canonicalItems items)
  | .object members => .object (canonicalMembers [] members)

def canonicalItems : List Json → List Json
  | [] => []
  | j :: rest => j.canonical :: canonicalItems rest

def canonicalMembers (done : List (String × Json)) : List (String × Json) → List (String × Json)
  | [] => done
  | (k, j) :: rest => canonicalMembers (insertMember k j.canonical done) rest

end

/-! ## Access -/

/-- The value of a member, the last one of that name. -/
def member? (j : Json) (name : String) : Option Json :=
  match j with
  | .object members => (members.findRev? fun m => m.1 = name).map Prod.snd
  | _ => none

end Json

end DisplayComposer
