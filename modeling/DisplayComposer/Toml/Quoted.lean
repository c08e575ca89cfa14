import DisplayComposer.Bytes
import DisplayComposer.Toml.Blank
/-!
# DisplayComposer.Toml.Quoted

**Quoted text.** There are four styles: a basic text has escapes and stands
between double quotes, a literal text has none and stands between single quotes;
either may run over lines, between tripled quotes. Scanning goes through a text
character by character, in a `Mode` that says what was begun.

A text is written in the plainest style that holds it, with escapes only where no
style goes without (`Style.of`).

* `Style`, `scan`, `readQuoted?` — reading;
* `Style.of`, `quoted` — writing.
-/

namespace DisplayComposer.Toml

/-- A style of quoting. -/
structure Style where
  /-- Whether a backslash escapes. -/
  basic : Bool
  /-- Whether the text may run over lines. -/
  multiline : Bool
  deriving DecidableEq, Repr

namespace Style

/-- The quote of a style. -/
def quote (style : Style) : Char := if style.basic then '"' else '\''

/-- What opens and closes a text. -/
def delimiter (style : Style) : List Char :=
  if style.multiline then [style.quote, style.quote, style.quote] else [style.quote]

end Style

/-! ## Reading -/

/-- Where the scan of a text stands. -/
inductive Mode where
  | plain
  /-- Behind a backslash. -/
  | escape
  /-- In an escape that lacks `left + 1` digits, with the value of those before. -/
  | digits (left value : Nat)
  /-- Behind a backslash that joins lines, before or after the first line end. -/
  | joined (broken : Bool)
  deriving DecidableEq, Repr

/-- What a character of a text leads to. -/
inductive Step where
  /-- Some text, and a mode for the characters behind. -/
  | next (text : List Char) (mode : Mode)
  /-- The last of the text, and what follows its closing quote. -/
  | close (text rest : List Char)
  | fail
  deriving DecidableEq, Repr

/-- The character of a one-letter escape. -/
def simpleEscape? (c : Char) : Option Char :=
  if c = '"' ∨ c = '\\' then some c
  else if c = 'b' then some '\x08'
  else if c = 't' then some '\t'
  else if c = 'n' then some '\n'
  else if c = 'f' then some '\x0c'
  else if c = 'r' then some '\r'
  else none

/-- The character of a code point. Surrogates are none. -/
def charOf? (n : Nat) : Option Char := if n.isValidChar then some (Char.ofNat n) else none

/-- The value of a hexadecimal digit. -/
def hexDigit? (c : Char) : Option Nat := if c.toNat < 128 then hexValue? (asciiByte c) else none

/-- A character that a text may hold as it is. -/
def isTextChar (c : Char) : Bool := c = '\t' || (32 ≤ c.toNat && c.toNat ≠ 127)

/-- The end of a text between tripled quotes. In front of the closing three, one
or two quotes more belong to the text. -/
def tripleEnd? (quote : Char) (cs : List Char) : Option (List Char × List Char) :=
  let run := cs.takeWhile (· = quote)
  if run.length < 3 then none
  else
    let kept := min (run.length - 3) 2
    some (run.take kept, cs.drop (kept + 3))

/-- The end of a text, with the quotes that belong to it. -/
def Style.end? (style : Style) (cs : List Char) : Option (List Char × List Char) :=
  if style.multiline then tripleEnd? style.quote cs
  else if cs.head? = some style.quote then some ([], cs.tail)
  else none

/-- A character of a text where nothing was begun. A line end is a line feed,
however it is written. -/
def Style.plainStep (style : Style) (c : Char) (cs : List Char) : Step :=
  match style.end? (c :: cs) with
  | some (text, rest) => .close text rest
  | none =>
    if c = '\\' ∧ style.basic then .next [] .escape
    else if c = '\n' then if style.multiline then .next [c] .plain else .fail
    else if c = '\r' then
      if style.multiline ∧ cs.head? = some '\n' then .next [] .plain else .fail
    else if isTextChar c then .next [c] .plain
    else .fail

/-- A character behind a backslash that joins lines: up to the next thing that is
no blank and no line end, nothing counts. -/
def Style.joinStep (style : Style) (broken : Bool) (c : Char) (cs : List Char) : Step :=
  if isBlank c then .next [] (.joined broken)
  else if c = '\n' then .next [] (.joined true)
  else if c = '\r' ∧ cs.head? = some '\n' then .next [] (.joined broken)
  else if broken then style.plainStep c cs
  else .fail

/-- A character behind a backslash. -/
def Style.escapeStep (style : Style) (c : Char) (cs : List Char) : Step :=
  if c = 'u' then .next [] (.digits 3 0)
  else if c = 'U' then .next [] (.digits 7 0)
  else
    match simpleEscape? c with
    | some e => .next [e] .plain
    | none => if style.multiline then style.joinStep false c cs else .fail

/-- A digit of an escape. -/
def digitStep (left value : Nat) (c : Char) : Step :=
  match hexDigit? c with
  | none => .fail
  | some d =>
    match left with
    | left + 1 => .next [] (.digits left (16 * value + d))
    | 0 =>
      match charOf? (16 * value + d) with
      | some e => .next [e] .plain
      | none => .fail

/-- A character of a text. -/
def Style.step (style : Style) : Mode → Char → List Char → Step
  | .plain, c, cs => style.plainStep c cs
  | .escape, c, cs => style.escapeStep c cs
  | .digits left value, c, _ => digitStep left value c
  | .joined broken, c, cs => style.joinStep broken c cs

/-- The text up to its closing quote, and what follows. -/
def scan (style : Style) : Mode → List Char → Option (List Char × List Char)
  | _, [] => none
  | mode, c :: cs =>
    match style.step mode c cs with
    | .next text mode => (scan style mode cs).map fun (more, rest) => (text ++ more, rest)
    | .close text rest => some (text, rest)
    | .fail => none

/-- The style that is opened, and what follows the opening quote. A line end right
behind a tripled quote does not belong to the text. -/
def opening? : List Char → Option (Style × List Char)
  | '"' :: '"' :: '"' :: cs => some (⟨true, true⟩, (newline? cs).getD cs)
  | '\'' :: '\'' :: '\'' :: cs => some (⟨false, true⟩, (newline? cs).getD cs)
  | '"' :: cs => some (⟨true, false⟩, cs)
  | '\'' :: cs => some (⟨false, false⟩, cs)
  | _ => none

/-- A quoted text in any style. -/
def readQuoted? (cs : List Char) : Option (List Char × List Char) := do
  let (style, cs) ← opening? cs
  scan style .plain cs

/-- A quoted text on one line. -/
def readQuotedLine? : List Char → Option (List Char × List Char)
  | '"' :: cs => scan ⟨true, false⟩ .plain cs
  | '\'' :: cs => scan ⟨false, false⟩ .plain cs
  | _ => none

/-! ## Writing -/

/-- A character that only an escape can stand for. -/
def isEscapedOnly (c : Char) : Bool := !isTextChar c && c ≠ '\n'

/-- The length of the longest run of a character, where the text goes on from a
run of length `run`. -/
def longestRun (c : Char) : (run : Nat) → List Char → Nat
  | run, [] => run
  | run, d :: cs => if d = c then longestRun c (run + 1) cs else max run (longestRun c 0 cs)

/-- The style in which a text is written: the first that holds it without
escapes, single lines before tripled quotes and basic before literal. -/
def Style.of (cs : List Char) : Style :=
  let escapes := cs.any isEscapedOnly
  let backslash := cs.contains '\\'
  let newline := cs.contains '\n'
  let doubles := longestRun '"' 0 cs
  let singles := longestRun '\'' 0 cs
  if !escapes ∧ !backslash ∧ !newline ∧ doubles = 0 then ⟨true, false⟩
  else if !escapes ∧ !newline ∧ singles = 0 then ⟨false, false⟩
  else if !escapes ∧ !backslash ∧ doubles ≤ 2 then ⟨true, true⟩
  else if !escapes ∧ singles ≤ 2 then ⟨false, true⟩
  else ⟨true, newline⟩

/-- The four digits of an escape, in upper case. -/
def unitDigits (n : Nat) : List Char :=
  [n / 4096, n / 256, n / 16, n].map fun d => (hexDigit d).toUpper

/-- A character other than a quote, as a basic text has it. -/
def escapeChar (multiline : Bool) (c : Char) : List Char :=
  if c = '\\' then ['\\', '\\']
  else if c = '\t' then ['\\', 't']
  else if c = '\n' then if multiline then ['\n'] else ['\\', 'n']
  else if c = '\x08' then ['\\', 'b']
  else if c = '\x0c' then ['\\', 'f']
  else if c = '\r' then ['\\', 'r']
  else if isTextChar c then [c]
  else '\\' :: 'u' :: unitDigits c.toNat

/-- The characters of a basic text behind a run of `run` quotes. Two quotes may
stand together between tripled ones; a further one is escaped. -/
def escaped (multiline : Bool) : (run : Nat) → List Char → List Char
  | _, [] => []
  | run, c :: cs =>
    if c = '"' then
      if run < (if multiline then 2 else 0) then c :: escaped multiline (run + 1) cs
      else '\\' :: c :: escaped multiline 0 cs
    else escapeChar multiline c ++ escaped multiline 0 cs

/-- A text with its quotes. One that has lines begins on a line of its own. -/
def quoted (cs : List Char) : List Char :=
  let style := Style.of cs
  let opening := style.delimiter ++ if style.multiline ∧ cs.contains '\n' then ['\n'] else []
  let body := if style.basic then escaped style.multiline 0 cs else cs
  opening ++ body ++ style.delimiter

end DisplayComposer.Toml
