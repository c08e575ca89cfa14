/-!
# DisplayComposer.Bytes

**Byte strings.** Messages travel as bytes, and text inside them is UTF-8. A
byte string is a plain list, so that the readers above are structural.

* `utf8`, `ofUtf8?` — text to bytes and back, with `ofUtf8?_utf8`;
* `hexDigit`, `hexValue?` — the hexadecimal digits of escapes.
-/

namespace DisplayComposer

/-- A byte string. -/
abbrev Bytes : Type := List UInt8

/-- The UTF-8 encoding of a text. -/
def utf8 (s : String) : Bytes := s.toUTF8.data.toList

/-- The text that bytes encode, if they are well-formed UTF-8. -/
def ofUtf8? (bs : Bytes) : Option String := String.fromUTF8? ⟨bs.toArray⟩

/-- Encoded text reads back. -/
@[simp] theorem ofUtf8?_utf8 (s : String) : ofUtf8? (utf8 s) = some s := by
  have h : (⟨(utf8 s).toArray⟩ : ByteArray) = s.toByteArray := by simp [utf8]
  rw [ofUtf8?, h, String.fromUTF8?, dif_pos s.isValidUTF8]
  rfl

/-- Different texts have different encodings. -/
theorem utf8_inj {s t : String} (h : utf8 s = utf8 t) : s = t := by
  have := congrArg ofUtf8? h
  simpa using this

/-- The byte of an ASCII character. -/
def asciiByte (c : Char) : UInt8 := UInt8.ofNat c.toNat

/-- The lower-case hexadecimal digit of `n % 16`. -/
def hexDigit (n : Nat) : Char :=
  let d := n % 16
  if d < 10 then Char.ofNat ('0'.toNat + d) else Char.ofNat ('a'.toNat + d - 10)

/-- The value of a hexadecimal digit of either case. -/
def hexValue? (b : UInt8) : Option Nat :=
  let n := b.toNat
  if 48 ≤ n ∧ n ≤ 57 then some (n - 48)
  else if 65 ≤ n ∧ n ≤ 70 then some (n - 55)
  else if 97 ≤ n ∧ n ≤ 102 then some (n - 87)
  else none

theorem hexValue?_hexDigit : ∀ n < 16, hexValue? (asciiByte (hexDigit n)) = some n := by decide

/-- The hexadecimal text of bytes, two lower-case digits each. -/
def hexText (bs : Bytes) : String :=
  String.ofList (bs.flatMap fun b => [hexDigit (b.toNat / 16), hexDigit b.toNat])

/-- The bytes of a hexadecimal text of even length. -/
def ofHex? : Bytes → Option Bytes
  | [] => some []
  | a :: b :: rest => do
    let high ← hexValue? a
    let low ← hexValue? b
    let bs ← ofHex? rest
    pure (UInt8.ofNat (16 * high + low) :: bs)
  | [_] => none

end DisplayComposer
