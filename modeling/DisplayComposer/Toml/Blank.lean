/-!
# DisplayComposer.Toml.Blank

**What stands between things.** On a line, blanks separate; a comment runs to
the end of its line, and lines end with a line feed, with or without a carriage
return in front. Inside brackets, line ends and comments separate too.

* `skipBlanks`, `skipLayout` — what follows the separators;
* `endLine?` — what follows the rest of a line without content.
-/

namespace DisplayComposer.Toml

def isBlank (c : Char) : Bool := c = ' ' || c = '\t'

/-- What follows blanks. -/
def skipBlanks (cs : List Char) : List Char := cs.dropWhile isBlank

theorem skipBlanks_of_not_isBlank {c : Char} {cs : List Char} (h : isBlank c = false) :
    skipBlanks (c :: cs) = c :: cs := by
  simp [skipBlanks, h]

/-- A character of a comment. Of the control characters of ASCII, only the tab may
stand in one. -/
def isCommentChar (c : Char) : Bool := c = '\t' || (32 ≤ c.toNat && c.toNat ≠ 127)

/-- What follows a comment, if there is one. -/
def skipComment : List Char → List Char
  | '#' :: cs => cs.dropWhile isCommentChar
  | cs => cs

/-- What follows a line end. -/
def newline? : List Char → Option (List Char)
  | '\n' :: cs => some cs
  | '\r' :: '\n' :: cs => some cs
  | _ => none

/-- What follows a line whose rest holds blanks and a comment at most. The last
line need not be ended. -/
def endLine? (cs : List Char) : Option (List Char) :=
  match skipComment (skipBlanks cs) with
  | [] => some []
  | cs => newline? cs

/-- What follows blanks, line ends and comments. Where something else is found,
in or behind a comment, it is left. -/
def skipLayout : (inComment : Bool) → List Char → List Char
  | _, [] => []
  | inComment, c :: cs =>
    if c = '\n' then skipLayout false cs
    else if c = '\r' ∧ cs.head? = some '\n' then skipLayout false cs
    else if inComment then
      if isCommentChar c then skipLayout true cs else c :: cs
    else if isBlank c then skipLayout false cs
    else if c = '#' then skipLayout true cs
    else c :: cs

end DisplayComposer.Toml
