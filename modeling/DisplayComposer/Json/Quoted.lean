import DisplayComposer.Bytes
/-!
# DisplayComposer.Json.Quoted

**Quoted text in JSON.** A quoted text is scanned into pieces, plain bytes and
escaped UTF-16 units, up to its closing quote or to the place where scanning has
to stop. It has two readings. As text it must be well-formed: surrogates come in
pairs and the bytes are UTF-8. Where the text is only passed over, neither is
looked at.

* `Fault` — the two ways in which a text fails to be JSON;
* `Quoted`, `Quoted.scan` — the pieces behind an opening quote;
* `Quoted.text`, `Quoted.passed` — the two readings;
* `quoted` — writing; `scan_quoted` says that what is written is scanned.
-/

namespace DisplayComposer.Json

/-- Why a text is not JSON. -/
inductive Fault where
  /-- It ended too early. -/
  | cut
  /-- It cannot be continued to a JSON text, or a value in it is out of range. -/
  | malformed
  deriving DecidableEq, Repr

/-- A piece of a quoted text. -/
inductive Piece where
  /-- A byte that stands for itself, or a simple escape. -/
  | byte (b : UInt8)
  /-- An escape with four hexadecimal digits. -/
  | unit (u : Nat)
  deriving DecidableEq, Repr

/-- The text behind an opening quote. -/
structure Quoted where
  pieces : List Piece
  /-- Why the closing quote was not reached, if it was not. -/
  stopped : Option Fault
  deriving DecidableEq, Repr

namespace Quoted

/-! ## Scanning -/

/-- The byte that a one-letter escape stands for. -/
def simpleEscape? (b : UInt8) : Option UInt8 :=
  if b = 34 ∨ b = 92 ∨ b = 47 then some b      -- quote, backslash, slash
  else if b = 98 then some 8                   -- b
  else if b = 102 then some 12                 -- f
  else if b = 110 then some 10                 -- n
  else if b = 114 then some 13                 -- r
  else if b = 116 then some 9                  -- t
  else none

/-- The number that four hexadecimal digits denote. -/
def hexUnit? (a b c d : UInt8) : Option Nat := do
  let a ← hexValue? a
  let b ← hexValue? b
  let c ← hexValue? c
  let d ← hexValue? d
  pure (((a * 16 + b) * 16 + c) * 16 + d)

/-- With one more piece in front. -/
def push (p : Piece) (q : Quoted × Bytes) : Quoted × Bytes :=
  (⟨p :: q.1.pieces, q.1.stopped⟩, q.2)

/-- The quoted text at the start of some bytes, its opening quote already read,
and what follows it. Fewer than four bytes behind `\u` are a text cut short. -/
def scan : Bytes → Quoted × Bytes
  | [] => (⟨[], some .cut⟩, [])
  | b :: rest =>
    if b = 34 then (⟨[], none⟩, rest)
    else if b = 92 then
      match rest with
      | [] => (⟨[], some .cut⟩, [])
      | e :: rest =>
        if e = 117 then
          match rest with
          | a :: b :: c :: d :: rest =>
            match hexUnit? a b c d with
            | some u => push (.unit u) (scan rest)
            | none => (⟨[], some .malformed⟩, [])
          | _ => (⟨[], some .cut⟩, [])
        else
          match simpleEscape? e with
          | some b => push (.byte b) (scan rest)
          | none => (⟨[], some .malformed⟩, [])
    else if b < 32 then (⟨[], some .malformed⟩, [])
    else push (.byte b) (scan rest)

/-! ## Readings -/

def isLead (u : Nat) : Bool := 0xD800 ≤ u && u < 0xDC00

def isTrail (u : Nat) : Bool := 0xDC00 ≤ u && u < 0xE000

/-- The UTF-8 bytes of a code point. -/
def codePoint (n : Nat) : Bytes := utf8 (String.singleton (Char.ofNat n))

/-- The bytes that pieces stand for. A lead unit needs a trail unit right behind
it, and a trail unit stands nowhere else. Where scanning stopped right behind a
lead unit, the reason for that counts. -/
def assemble (stopped : Option Fault) : List Piece → Except Fault Bytes
  | [] => match stopped with
    | none => .ok []
    | some f => .error f
  | .byte b :: rest => return b :: (← assemble stopped rest)
  | .unit u :: rest =>
    if isTrail u then .error .malformed
    else if isLead u then
      match rest with
      | .unit v :: rest =>
        if isTrail v then
          return codePoint (0x10000 + (u - 0xD800) * 1024 + (v - 0xDC00)) ++
            (← assemble stopped rest)
        else .error .malformed
      | .byte _ :: _ => .error .malformed
      | [] => .error (stopped.getD .malformed)
    else return codePoint u ++ (← assemble stopped rest)

/-- The text, if it is closed and well-formed. -/
def text (q : Quoted) : Except Fault String := do
  match ofUtf8? (← assemble q.stopped q.pieces) with
  | some s => pure s
  | none => throw .malformed

/-- The outcome of passing over the text: it only has to be closed. -/
def passed (q : Quoted) : Except Fault Unit :=
  match q.stopped with
  | none => .ok ()
  | some f => .error f

/-! ## Writing -/

/-- How a byte is written between quotes: quote, backslash and control
characters are escaped, the usual ones by a letter. -/
def escaped (b : UInt8) : Bytes :=
  if b = 34 then [92, 34]
  else if b = 92 then [92, 92]
  else if b = 8 then [92, 98]
  else if b = 12 then [92, 102]
  else if b = 10 then [92, 110]
  else if b = 13 then [92, 114]
  else if b = 9 then [92, 116]
  else if b < 32 then
    [92, 117, 48, 48, asciiByte (hexDigit (b.toNat / 16)), asciiByte (hexDigit b.toNat)]
  else [b]

end Quoted

/-- A text between quotes. -/
def quoted (s : String) : Bytes := 34 :: (utf8 s).flatMap Quoted.escaped ++ [34]

namespace Quoted

/-- The piece as which an escaped byte is scanned. -/
def pieceOf (b : UInt8) : Piece :=
  if b < 32 ∧ b ≠ 8 ∧ b ≠ 9 ∧ b ≠ 10 ∧ b ≠ 12 ∧ b ≠ 13 then .unit b.toNat else .byte b

/-- The units of escaped bytes are the control characters. -/
theorem codePoint_control : ∀ n < 32, codePoint n = [UInt8.ofNat n] := by decide +kernel

theorem hexUnit?_control :
    ∀ n < 32, hexUnit? 48 48 (asciiByte (hexDigit (n / 16))) (asciiByte (hexDigit n)) = some n := by
  decide +kernel

theorem scan_escaped (b : UInt8) (rest : Bytes) :
    scan (escaped b ++ rest) = push (pieceOf b) (scan rest) := by
  unfold escaped pieceOf
  split
  · subst_vars; rw [List.cons_append, scan.eq_def]; simp [simpleEscape?]
  split
  · subst_vars; rw [List.cons_append, scan.eq_def]; simp [simpleEscape?]
  split
  · subst_vars; rw [List.cons_append, scan.eq_def]; simp [simpleEscape?]
  split
  · subst_vars; rw [List.cons_append, scan.eq_def]; simp [simpleEscape?]
  split
  · subst_vars; rw [List.cons_append, scan.eq_def]; simp [simpleEscape?]
  split
  · subst_vars; rw [List.cons_append, scan.eq_def]; simp [simpleEscape?]
  split
  · subst_vars; rw [List.cons_append, scan.eq_def]; simp [simpleEscape?]
  split
  · rename_i hlt
    have hn : b.toNat < 32 := by simpa [UInt8.lt_iff_toNat_lt] using hlt
    rw [List.cons_append, scan.eq_def]
    simp [hexUnit?_control _ hn, *]
  · rw [List.cons_append, scan.eq_def]
    simp [*]

theorem scan_flatMap_escaped (bs rest : Bytes) :
    scan (bs.flatMap escaped ++ 34 :: rest) = (⟨bs.map pieceOf, none⟩, rest) := by
  induction bs with
  | nil =>
    rw [List.flatMap_nil, List.nil_append, scan.eq_def]
    simp
  | cons b bs ih => simp [scan_escaped, ih, push]

theorem assemble_map_pieceOf (bs : Bytes) : assemble none (bs.map pieceOf) = .ok bs := by
  induction bs with
  | nil => rfl
  | cons b bs ih =>
    rw [List.map_cons, pieceOf]
    split
    · rename_i hb
      have hn : b.toNat < 32 := by simpa [UInt8.lt_iff_toNat_lt] using hb.1
      have htrail : isTrail b.toNat = false := by simp [isTrail]; omega
      have hlead : isLead b.toNat = false := by simp [isLead]; omega
      rw [assemble.eq_def]
      simp [htrail, hlead, ih, codePoint_control _ hn, bind, Except.bind, pure, Except.pure]
    · rw [assemble.eq_def]
      simp [ih, bind, Except.bind, pure, Except.pure]

/-- Written text is scanned as a whole, whatever follows it. -/
theorem scan_quoted (s : String) (rest : Bytes) :
    scan ((quoted s).drop 1 ++ rest) = (⟨(utf8 s).map pieceOf, none⟩, rest) := by
  simpa [quoted] using scan_flatMap_escaped (utf8 s) rest

end Quoted

end DisplayComposer.Json
