import DisplayComposer.Json.Value
/-!
# DisplayComposer.Json.Node

**Reading JSON as far as it goes.** What is wrong with a message is told by the
first problem met in it, and a problem of shape may come before the place where
the text stops being JSON. So a text is first read into a `Node`, which always
succeeds: it holds the value up to the first fault, and the fault. Whoever
decodes the node walks it in text order and meets either kind of problem where
it stands.

* `Node`, `Ending` — a value as far as it could be read;
* `Document`, `Document.read` — a whole text: a node and what follows it;
* `Node.value` — the JSON value of a node, under a limit on nesting;
* `Node.passed` — whether a node can be passed over: looser, since numbers may
  be out of range, surrogates alone and nesting of any depth;
* `Node.ofValue` — a JSON value as a node without faults.
-/

namespace DisplayComposer.Json

/-- How the items of an array or the members of an object end. -/
inductive Ending where
  /-- With the closing bracket. -/
  | closed
  /-- Behind an item, where neither a comma nor the bracket follows. -/
  | stopped (f : Fault)
  /-- Behind a comma, where no further item begins. -/
  | dangling (f : Fault)
  deriving DecidableEq, Repr

/-- A value as far as it could be read. -/
inductive Node where
  | null
  | bool (b : Bool)
  | number (l : Literal)
  | string (q : Quoted)
  | array (items : List Node) (ending : Ending)
  | object (members : List (Quoted × Node)) (ending : Ending)
  /-- An object whose first name is not a quoted text. -/
  | unkeyed
  /-- The text ends where the value should begin. -/
  | missing
  /-- The beginning of the word `null`, and the fault behind it. -/
  | partialNull (f : Fault)
  /-- Not a value: the fault of reading it, and of passing over it. -/
  | broken (read passed : Fault)
  deriving Repr

instance : Inhabited Node := ⟨.null⟩

/-! ## Scanning -/

/-- Blank, line feed, carriage return or tab. -/
def isBlank (b : UInt8) : Bool := b = 32 || b = 10 || b = 13 || b = 9

def skipBlanks (bs : Bytes) : Bytes := bs.dropWhile isBlank

def isDigit (b : UInt8) : Bool := 48 ≤ b && b ≤ 57

def digitOf (b : UInt8) : Digit := .ofNat (b.toNat - 48)

/-- The digits at the start of some bytes, and what follows them. -/
def scanDigits (bs : Bytes) : List Digit × Bytes :=
  ((bs.takeWhile isDigit).map digitOf, bs.dropWhile isDigit)

/-- Reading a word such as `null`: what follows it, or the fault. -/
def scanWord : Bytes → Bytes → Except Fault Bytes
  | [], bs => .ok bs
  | _ :: _, [] => .error .cut
  | w :: word, b :: bs => if w = b then scanWord word bs else .error .malformed

/-- The fault of a number that misses a digit at the start of some bytes. -/
def missingDigit : Bytes → Fault
  | [] => .cut
  | _ :: _ => .malformed

/-- The exponent of a number, if one begins here. -/
def scanExponent (bs : Bytes) : Except Fault (Option Exponent × Bytes) :=
  match bs with
  | [] => .ok (none, [])
  | b :: rest =>
    if b = 101 ∨ b = 69 then
      let (sign, rest) := match rest with
        | [] => (ExponentSign.unsigned, [])
        | c :: rest' =>
          if c = 43 then (.plus, rest') else if c = 45 then (.minus, rest') else (.unsigned, rest)
      match scanDigits rest with
      | ([], rest) => .error (missingDigit rest)
      | (digits, rest) => .ok (some ⟨sign, digits⟩, rest)
    else .ok (none, bs)

/-- The fraction of a number, if one begins here. -/
def scanFraction (bs : Bytes) : Except Fault (Option (List Digit) × Bytes) :=
  match bs with
  | [] => .ok (none, [])
  | b :: rest =>
    if b = 46 then
      match scanDigits rest with
      | ([], rest) => .error (missingDigit rest)
      | (digits, rest) => .ok (some digits, rest)
    else .ok (none, bs)

/-- The whole digits of a number: a zero stands alone. -/
def scanWhole (bs : Bytes) : Except Fault (List Digit × Bytes) :=
  match scanDigits bs with
  | ([], rest) => .error (missingDigit rest)
  | ([d], rest) => .ok ([d], rest)
  | (d :: ds, rest) => if d.val = 0 then .error .malformed else .ok (d :: ds, rest)

/-- The number at the start of some bytes. -/
def scanNumber (bs : Bytes) : Except Fault (Literal × Bytes) := do
  let negative := bs.head? = some 45
  let (whole, bs) ← scanWhole (if negative then bs.drop 1 else bs)
  let (fraction, bs) ← scanFraction bs
  let (exponent, bs) ← scanExponent bs
  pure (⟨negative, whole, fraction, exponent⟩, bs)

/-! ## Reading -/

/-- A word with its node, and the node of a fault in it. -/
def readWord (word : String) (node : Node) (faulty : Fault → Node) (bs : Bytes) :
    Node × Option Bytes :=
  match scanWord (utf8 word) bs with
  | .ok rest => (node, some rest)
  | .error f => (faulty f, none)

/-- A number. Passing over a number does not tell an early end from a wrong
character. -/
def readNumber (bs : Bytes) : Node × Option Bytes :=
  match scanNumber bs with
  | .ok (l, rest) => (.number l, some rest)
  | .error f => (.broken f .malformed, none)

/-- What can be read on behind a quoted text. -/
def Quoted.rest (q : Quoted × Bytes) : Option Bytes :=
  match q.1.stopped with
  | none => some q.2
  | some _ => none

mutual

/-- The value at the start of some bytes, and what follows it if reading can go
on there. -/
def readValue : Nat → Bytes → Node × Option Bytes
  | 0, _ => (.broken .malformed .malformed, none)
  | fuel + 1, bs =>
    match skipBlanks bs with
    | [] => (.missing, none)
    | b :: rest =>
      if b = 34 then
        let q := Quoted.scan rest
        (.string q.1, Quoted.rest q)
      else if b = 91 then
        match skipBlanks rest with
        | [] => (.array [] (.stopped .cut), none)
        | c :: rest' =>
          if c = 93 then (.array [] .closed, some rest')
          else
            let (items, ending, after) := readItems fuel rest
            (.array items ending, after)
      else if b = 123 then
        match skipBlanks rest with
        | [] => (.object [] (.stopped .cut), none)
        | c :: rest' =>
          if c = 125 then (.object [] .closed, some rest')
          else if c = 34 then
            let (members, ending, after) := readMembers fuel rest'
            (.object members ending, after)
          else (.unkeyed, none)
      else if b = 110 then readWord "null" .null .partialNull (b :: rest)
      else if b = 116 then readWord "true" (.bool true) (fun f => .broken f f) (b :: rest)
      else if b = 102 then readWord "false" (.bool false) (fun f => .broken f f) (b :: rest)
      else if b = 45 ∨ isDigit b then readNumber (b :: rest)
      else (.broken .malformed .malformed, none)

/-- The items of an array from one item on, how they end, and what follows. -/
def readItems : Nat → Bytes → List Node × Ending × Option Bytes
  | 0, _ => ([], .stopped .malformed, none)
  | fuel + 1, bs =>
    match readValue fuel bs with
    | (item, none) => ([item], .stopped .malformed, none)
    | (item, some rest) =>
      match skipBlanks rest with
      | [] => ([item], .stopped .cut, none)
      | b :: rest =>
        if b = 93 then ([item], .closed, some rest)
        else if b = 44 then
          match skipBlanks rest with
          | [] => ([item], .dangling .cut, none)
          | c :: _ =>
            if c = 93 then ([item], .dangling .malformed, none)
            else
              let (items, ending, after) := readItems fuel rest
              (item :: items, ending, after)
        else ([item], .stopped .malformed, none)

/-- The members of an object from behind the opening quote of one name on, how
they end, and what follows. -/
def readMembers : Nat → Bytes → List (Quoted × Node) × Ending × Option Bytes
  | 0, _ => ([], .stopped .malformed, none)
  | fuel + 1, bs =>
    let name := Quoted.scan bs
    match Quoted.rest name with
    | none => ([(name.1, .broken .malformed .malformed)], .stopped .malformed, none)
    | some rest =>
      match skipBlanks rest with
      | [] => ([(name.1, .missing)], .stopped .malformed, none)
      | b :: rest =>
        if b = 58 then
          match readValue fuel rest with
          | (value, none) => ([(name.1, value)], .stopped .malformed, none)
          | (value, some rest) =>
            match skipBlanks rest with
            | [] => ([(name.1, value)], .stopped .cut, none)
            | b :: rest =>
              if b = 125 then ([(name.1, value)], .closed, some rest)
              else if b = 44 then
                match skipBlanks rest with
                | [] => ([(name.1, value)], .dangling .cut, none)
                | c :: rest =>
                  if c = 34 then
                    let (members, ending, after) := readMembers fuel rest
                    ((name.1, value) :: members, ending, after)
                  else ([(name.1, value)], .dangling .malformed, none)
              else ([(name.1, value)], .stopped .malformed, none)
        else ([(name.1, .broken .malformed .malformed)], .stopped .malformed, none)

end

/-- A whole text as far as it could be read. -/
structure Document where
  root : Node
  /-- Whether more than blanks follow the value. -/
  trailing : Bool
  deriving Repr

/-- Every value and every item takes at least one byte, and no byte is visited
by more than two nested calls. -/
def Document.read (bs : Bytes) : Document :=
  match readValue (2 * bs.length + 2) bs with
  | (root, some rest) => ⟨root, !(skipBlanks rest).isEmpty⟩
  | (root, none) => ⟨root, false⟩

/-! ## Values of nodes -/

/-- How deep values may nest in a text. -/
def nestingLimit : Nat := 128

/-- The limit that is left inside an array or object. -/
def enter (limit : Nat) : Except Fault Nat :=
  match limit with
  | 0 | 1 => .error .malformed
  | limit + 2 => .ok (limit + 1)

/-- Whether an ending is free of faults. -/
def Ending.check : Ending → Except Fault Unit
  | .closed => .ok ()
  | .stopped f | .dangling f => .error f

namespace Node

mutual

/-- The value of a node, or the first fault in it. -/
def value (limit : Nat) : Node → Except Fault Json
  | .null => .ok .null
  | .bool b => .ok (.bool b)
  | .number l => if l.value?.isSome then .ok (.number l) else .error .malformed
  | .string q => q.text.map .string
  | .array items ending => do
    let limit ← enter limit
    let items ← values limit items
    ending.check
    pure (.array items)
  | .object members ending => do
    let limit ← enter limit
    let members ← memberValues limit members
    ending.check
    pure (.object members)
  | .unkeyed => .error .malformed
  | .missing => .error .cut
  | .partialNull f | .broken f _ => .error f

def values (limit : Nat) : List Node → Except Fault (List Json)
  | [] => .ok []
  | n :: rest => do
    let j ← n.value limit
    let items ← values limit rest
    pure (j :: items)

def memberValues (limit : Nat) : List (Quoted × Node) → Except Fault (List (String × Json))
  | [] => .ok []
  | (q, n) :: rest => do
    let k ← q.text
    let j ← n.value limit
    let members ← memberValues limit rest
    pure ((k, j) :: members)

end

mutual

/-- The outcome of passing over a node. -/
def passed : Node → Except Fault Unit
  | .null | .bool _ | .number _ => .ok ()
  | .string q => q.passed
  | .array items ending => do
    passedItems items
    ending.check
  | .object members ending => do
    passedMembers members
    ending.check
  | .unkeyed => .error .malformed
  | .missing => .error .cut
  | .partialNull f | .broken _ f => .error f

def passedItems : List Node → Except Fault Unit
  | [] => .ok ()
  | n :: rest => do
    n.passed
    passedItems rest

def passedMembers : List (Quoted × Node) → Except Fault Unit
  | [] => .ok ()
  | (q, n) :: rest => do
    q.passed
    n.passed
    passedMembers rest

end

end Node

/-- A text as a scanned one. -/
def Quoted.ofText (s : String) : Quoted := ⟨(utf8 s).map pieceOf, none⟩

namespace Node

mutual

/-- A JSON value as a node. -/
def ofValue : Json → Node
  | .null => .null
  | .bool b => .bool b
  | .number l => .number l
  | .string s => .string (Quoted.ofText s)
  | .array items => .array (ofItems items) .closed
  | .object members => .object (ofMembers members) .closed

def ofItems : List Json → List Node
  | [] => []
  | j :: rest => ofValue j :: ofItems rest

def ofMembers : List (String × Json) → List (Quoted × Node)
  | [] => []
  | (k, j) :: rest => (Quoted.ofText k, ofValue j) :: ofMembers rest

end

end Node

/-- The value of a whole text. -/
def Document.value (d : Document) : Except Fault Json := do
  let j ← d.root.value nestingLimit
  if d.trailing then throw .malformed
  pure j

/-- The JSON value that a text holds. -/
def ofBytes (bs : Bytes) : Except Fault Json := (Document.read bs).value

@[simp] theorem Quoted.text_ofText (s : String) : (Quoted.ofText s).text = .ok s := by
  simp [Quoted.text, Quoted.ofText, Quoted.assemble_map_pieceOf, bind, Except.bind, pure,
    Except.pure]

end DisplayComposer.Json
