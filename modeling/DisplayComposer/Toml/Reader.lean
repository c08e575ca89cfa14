import DisplayComposer.Toml.Date
import DisplayComposer.Toml.Quoted
import DisplayComposer.Toml.Value
/-!
# DisplayComposer.Toml.Reader

**Reading a document.** A document is a list of statements, one a line: headers,
which say to what table the lines below belong, and settings of a key to a value.
A value in brackets may go on over further lines.

Every reader takes the characters still to come and gives what follows. The
limits on the number of parts of a key and on the nesting of brackets are what
the recursion goes down.

* `readKey?`, `readValue?` — keys and values;
* `Statement`, `statements?` — the statements of a document.
-/

namespace DisplayComposer.Toml

/-! ## Keys -/

def isBareChar (c : Char) : Bool := c.isAlphanum || c = '_' || c = '-'

/-- One part of a key: a bare word or a quoted text on one line. -/
def readPart? (cs : List Char) : Option (String × List Char) :=
  let bare := cs.takeWhile isBareChar
  if bare.isEmpty then (readQuotedLine? cs).map fun (text, rest) => (String.ofList text, rest)
  else some (String.ofList bare, cs.dropWhile isBareChar)

/-- A key of at most `limit` parts with dots between them, and the blanks around
it and its dots. -/
def readKeyUpTo? : (limit : Nat) → List Char → Option (Key × List Char)
  | 0, _ => none
  | limit + 1, cs => do
    let (part, cs) ← readPart? (skipBlanks cs)
    match skipBlanks cs with
    | '.' :: cs =>
      let (key, cs) ← readKeyUpTo? limit cs
      pure (⟨part :: key.path, key.name⟩, cs)
    | cs => pure (⟨[], part⟩, cs)

/-- The greatest number of parts of a key, and of brackets around a value. -/
def depthLimit : Nat := 79

/-- A key and the blanks around it. -/
def readKey? (cs : List Char) : Option (Key × List Char) := readKeyUpTo? depthLimit cs

/-! ## Values -/

/-- A character of numbers, dates and words. Such a value goes on as long as there
are any. -/
def isTokenChar (c : Char) : Bool :=
  c.isAlphanum || c = '+' || c = '-' || c = '_' || c = '.' || c = ':'

/-- What follows the time of day that stands behind a date and a space, if there
is one. -/
def skipTime : List Char → List Char
  | ' ' :: cs =>
    if isOffsetTime (cs.takeWhile isTokenChar) then cs.dropWhile isTokenChar else ' ' :: cs
  | cs => cs

/-- A value without quotes and brackets. -/
def readToken? (cs : List Char) : Option (Value × List Char) :=
  let token := cs.takeWhile isTokenChar
  let rest := cs.dropWhile isTokenChar
  if token = ['t', 'r', 'u', 'e'] then some (.boolean true, rest)
  else if token = ['f', 'a', 'l', 's', 'e'] then some (.boolean false, rest)
  else
    match integer? token with
    | some n => some (.integer n, rest)
    | none =>
      if isFloat token then some (.float, rest)
      else if isTime token then some (.date, rest)
      else
        match dateTime? token with
        | some .moment => some (.date, rest)
        | some .day => some (.date, skipTime rest)
        | none => none

/-- The items of an array behind its opening bracket. A comma may stand behind the
last. -/
def readItems? (item : List Char → Option (Value × List Char)) :
    (fuel : Nat) → List Char → Option (List Value × List Char)
  | 0, _ => none
  | fuel + 1, cs =>
    match skipLayout false cs with
    | ']' :: cs => some ([], cs)
    | cs => do
      let (v, cs) ← item cs
      match skipLayout false cs with
      | ',' :: cs =>
        let (vs, cs) ← readItems? item fuel cs
        pure (v :: vs, cs)
      | ']' :: cs => pure ([v], cs)
      | _ => none

/-- A key, an equals sign and a value. -/
def readSetting? (value : List Char → Option (Value × List Char)) (cs : List Char) :
    Option ((Key × Value) × List Char) := do
  let (key, cs) ← readKey? cs
  match cs with
  | '=' :: cs =>
    let (v, cs) ← value (skipBlanks cs)
    pure ((key, v), cs)
  | _ => none

/-- The entries of a table behind its opening brace, at least one. -/
def readEntries? (value : List Char → Option (Value × List Char)) :
    (fuel : Nat) → List Char → Option (List (Key × Value) × List Char)
  | 0, _ => none
  | fuel + 1, cs => do
    let (e, cs) ← readSetting? value cs
    match skipBlanks cs with
    | ',' :: cs =>
      let (es, cs) ← readEntries? value fuel cs
      pure (e :: es, cs)
    | '}' :: cs => pure ([e], cs)
    | _ => none

/-- A value in at most `limit` brackets, one inside the other. -/
def readValueUpTo? : (limit : Nat) → List Char → Option (Value × List Char)
  | 0, cs =>
    match readQuoted? cs with
    | some (text, rest) => some (.string (String.ofList text), rest)
    | none => readToken? cs
  | limit + 1, cs =>
    match cs with
    | '[' :: cs => do
      let (vs, cs) ← readItems? (readValueUpTo? limit) (cs.length + 1) cs
      pure (.array vs, cs)
    | '{' :: cs => do
      match skipBlanks cs with
      | '}' :: cs => pure (.table .braced [], cs)
      | cs =>
        let (es, cs) ← readEntries? (readValueUpTo? limit) (cs.length + 1) cs
        pure (← braced? es, cs)
    | cs =>
      match readQuoted? cs with
      | some (text, rest) => some (.string (String.ofList text), rest)
      | none => readToken? cs

/-- A value. -/
def readValue? (cs : List Char) : Option (Value × List Char) := readValueUpTo? depthLimit cs

/-! ## Statements -/

/-- What a line says. -/
inductive Statement where
  /-- The settings below belong to this table. -/
  | header (key : Key)
  /-- The settings below belong to a new table of this array. -/
  | element (key : Key)
  | setting (key : Key) (value : Value)

/-- What a line says, if anything, and what follows that on the line. -/
def readLine? (cs : List Char) : Option (Option Statement × List Char) :=
  match skipBlanks cs with
  | [] => some (none, [])
  | '[' :: '[' :: cs => do
    match ← readKey? cs with
    | (key, ']' :: ']' :: cs) => pure (some (.element key), cs)
    | _ => none
  | '[' :: cs => do
    match ← readKey? cs with
    | (key, ']' :: cs) => pure (some (.header key), cs)
    | _ => none
  | c :: cs =>
    if c = '#' ∨ c = '\n' ∨ c = '\r' then some (none, c :: cs)
    else do
      let ((key, v), cs) ← readSetting? readValue? (c :: cs)
      pure (some (.setting key v), cs)

/-- The statements of at most `fuel` lines. -/
def readLines? : (fuel : Nat) → List Char → Option (List Statement)
  | _, [] => some []
  | 0, _ => none
  | fuel + 1, cs => do
    let (statement, cs) ← readLine? cs
    let cs ← endLine? cs
    let statements ← readLines? fuel cs
    pure (statement.toList ++ statements)

/-- The statements of a document. Every line but the last holds a character. -/
def statements? (cs : List Char) : Option (List Statement) := readLines? cs.length cs

end DisplayComposer.Toml
