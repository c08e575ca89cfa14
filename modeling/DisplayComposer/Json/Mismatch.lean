import DisplayComposer.Json.Node
import DisplayComposer.Text.Shown
/-!
# DisplayComposer.Json.Mismatch

**What is wrong with a value that is JSON.** A message can be well-formed JSON
and still not be a request. A `Mismatch` is the cause, and its wording is in one
place, `Mismatch.message`.

* `Found` — what stood in the text, in as much detail as messages show;
* `Mismatch` — the causes, with `message`;
* `DecodeError` — a fault of the text or a mismatch.
-/

namespace DisplayComposer.Json

/-- A value as messages describe it. -/
inductive Found where
  | null
  | bool (b : Bool)
  | number (n : Number)
  | string (s : String)
  | sequence
  | map
  deriving DecidableEq

namespace Found

def text : Found → String
  | .null => "null"
  | .bool true => "boolean `true`"
  | .bool false => "boolean `false`"
  | .number (.int n) => "integer `" ++ signedText n ++ "`"
  | .number (.double x) => "floating point `" ++ (Literal.ofNumber (.double x)).text ++ "`"
  | .string s => "string " ++ shown s
  | .sequence => "sequence"
  | .map => "map"

end Found

/-- What stands at a node. Arrays and objects are not looked into. -/
def Node.found : Node → Except Fault Found
  | .null => .ok .null
  | .bool b => .ok (.bool b)
  | .number l => match l.value? with
    | some n => .ok (.number n)
    | none => .error .malformed
  | .string q => q.text.map .string
  | .array _ _ => .ok .sequence
  | .object _ _ | .unkeyed => .ok .map
  | .missing => .error .cut
  | .partialNull f | .broken f _ => .error f

/-- Why a JSON value is not a value of the type that was asked for. -/
inductive Mismatch where
  /-- A value of another type. -/
  | wrongType (found : Found) (expected : String)
  /-- A value of the right type that does not fit. -/
  | wrongValue (found : Found) (expected : String)
  | missingField (name : String)
  | duplicateField (name : String)
  | unknownVariant (name : String) (expected : List String)
  /-- An array of the wrong length. -/
  | wrongLength (length : Nat) (expected : String)
  deriving DecidableEq

namespace Mismatch

/-- A name between backquotes. -/
def ticked (s : String) : String := "`" ++ s ++ "`"

/-- Some names, any of which would do. -/
def alternatives : List String → String
  | [] => "there are no variants"
  | [a] => "expected " ++ ticked a
  | [a, b] => "expected " ++ ticked a ++ " or " ++ ticked b
  | names => "expected one of " ++ ", ".intercalate (names.map ticked)

/-- The wording of each cause. -/
def message : Mismatch → String
  | .wrongType found expected => "invalid type: " ++ found.text ++ ", expected " ++ expected
  | .wrongValue found expected => "invalid value: " ++ found.text ++ ", expected " ++ expected
  | .missingField name => "missing field " ++ ticked name
  | .duplicateField name => "duplicate field " ++ ticked name
  | .unknownVariant name expected =>
    "unknown variant " ++ ticked name ++ ", " ++ alternatives expected
  | .wrongLength length expected =>
    "invalid length " ++ decimalText length ++ ", expected " ++ expected

end Mismatch

/-- Why bytes are not a message. -/
inductive DecodeError where
  | text (fault : Fault)
  | mismatch (cause : Mismatch)
  deriving DecidableEq

/-- The wording of each cause. -/
def DecodeError.message : DecodeError → String
  | .text .cut => "the text ended too early"
  | .text .malformed => "the text is not JSON"
  | .mismatch cause => cause.message

/-- A result of reading text, as a result of decoding. -/
def orFault {α : Type} : Except Fault α → Except DecodeError α
  | .ok a => .ok a
  | .error f => .error (.text f)

/-- A mismatch. -/
def mismatch {α : Type} (m : Mismatch) : Except DecodeError α := .error (.mismatch m)

/-- The node is of another type; reading what stands there comes first. -/
def Node.wrongType {α : Type} (n : Node) (expected : String) : Except DecodeError α := do
  mismatch (.wrongType (← orFault n.found) expected)

end DisplayComposer.Json
