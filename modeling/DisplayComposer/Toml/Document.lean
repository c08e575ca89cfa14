import DisplayComposer.Number.Decimal
import DisplayComposer.Toml.Reader
/-!
# DisplayComposer.Toml.Document

**Whole documents.** Read, a document is the table that its statements build, one
after the other. Written, it is blocks with an empty line between them: the
settings outside of tables, and then every table under a header. Integers of more
than 64 bits cannot be written.

* `Document.read?` — the table of a text;
* `Document.text?` — the text of a table of settings and tables of settings.
-/

namespace DisplayComposer.Toml

/-! ## Reading -/

/-- A document of which some statements have been read. -/
structure Document where
  root : Entries
  /-- The table that settings belong to. -/
  here : List String

namespace Document

def empty : Document := ⟨[], []⟩

/-- One more statement. -/
def add (d : Document) : Statement → Option Document
  | .header key => do pure ⟨← openTable key d.root, key.path ++ [key.name]⟩
  | .element key => do pure ⟨← openElement key d.root, key.path ++ [key.name]⟩
  | .setting key v => do
    let root ← within .implied (assign key v) .headed d.here d.root
    pure { d with root }

/-- The table that statements build. -/
def build? (statements : List Statement) : Option Entries :=
  (statements.foldlM add empty).map root

/-- A text without the mark that may stand in front of it. -/
def skipMark : List Char → List Char
  | '\ufeff' :: cs => cs
  | cs => cs

/-- The table that a text holds. -/
def read? (s : String) : Option Entries := do build? (← statements? (skipMark s.toList))

/-! ## Writing -/

/-- A value on the line of its key. -/
def settingText? : Value → Option (List Char)
  | .string s => some (quoted s.toList)
  | .integer n => if inRange n then some (signedText n).toList else none
  | .boolean b => some (if b then "true" else "false").toList
  | .array [] => some ['[', ']']
  | _ => none

/-- Whether an entry is written under a header. -/
def isSection : Value → Bool
  | .table _ _ | .tables _ _ => true
  | _ => false

/-- The lines of the settings of a table. -/
def linesText? (es : Entries) : Option (List Char) := do
  let lines ← (es.filter fun e => !isSection e.2).mapM fun (k, v) => do
    pure (k.toList ++ [' ', '=', ' '] ++ (← settingText? v) ++ ['\n'])
  pure lines.flatten

/-- The blocks of an entry that is written under headers. -/
def blocks? (k : String) : Value → Option (List (List Char))
  | .table _ es => do
    pure [['['] ++ k.toList ++ [']', '\n'] ++ (← linesText? es)]
  | .tables earlier last => (earlier ++ [last]).mapM fun es => do
    pure (['[', '['] ++ k.toList ++ [']', ']', '\n'] ++ (← linesText? es))
  | _ => some []

/-- The text of a table whose keys are bare words. -/
def text? (es : Entries) : Option (List Char) := do
  let settings ← linesText? es
  let blocks ← es.mapM fun (k, v) => blocks? k v
  let blocks := (if settings.isEmpty then [] else [settings]) ++ blocks.flatten
  pure (['\n'].intercalate blocks)

end Document

end DisplayComposer.Toml
