import DisplayComposer.Bytes
import DisplayComposer.Text.Printable
/-!
# DisplayComposer.Text.Shown

**Text shown in messages.** A text from a client is shown between double quotes
with everything escaped that would not print.
-/

namespace DisplayComposer

/-- The digits of `n` in base sixteen, in front of `tail`. -/
def hexDigitsOnto : Nat → Nat → List Char → List Char
  | 0, _, tail => tail
  | fuel + 1, n, tail =>
    let tail := hexDigit n :: tail
    if n < 16 then tail else hexDigitsOnto fuel (n / 16) tail

/-- How a character is shown. -/
def shownChar (c : Char) : List Char :=
  if c = '\x00' then ['\\', '0']
  else if c = '\t' then ['\\', 't']
  else if c = '\r' then ['\\', 'r']
  else if c = '\n' then ['\\', 'n']
  else if c = '\\' then ['\\', '\\']
  else if c = '"' then ['\\', '"']
  else if isPrintable c then [c]
  else '\\' :: 'u' :: '\x7b' :: hexDigitsOnto 6 c.toNat ['\x7d']

/-- A text between double quotes. -/
def shown (s : String) : String :=
  String.ofList ('"' :: s.toList.flatMap shownChar ++ ['"'])

end DisplayComposer
