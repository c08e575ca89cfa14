import DisplayComposer.Bytes
import DisplayComposer.Number.Decimal
/-!
# DisplayComposer.Wire.Frame

**Frames on a byte stream.** A message travels as its length, four bytes with
the highest first, and its bytes. A stream delivers bytes in pieces of any size,
and what is read does not depend on how it is cut into pieces.

* `Frame.encode` — a message as a frame;
* `Stream`, `Stream.fill` — a stream, and reading a number of bytes from it;
* `Frame.read`, `Frame.readAll` — the next message, and all of them.
-/

namespace DisplayComposer

/-- The bytes still to come, in the pieces in which they come. -/
abbrev Stream : Type := List Bytes

/-- The first `n` bytes of a stream, or all of them if it ends before. One piece
is taken after the other; the unread part of the last one stays. -/
def Stream.fill (n : Nat) : Stream → Bytes × Stream
  | [] => ([], [])
  | piece :: rest =>
    if n < piece.length then (piece.take n, piece.drop n :: rest)
    else
      let (bytes, rest) := Stream.fill (n - piece.length) rest
      (piece ++ bytes, rest)

namespace Frame

/-- The bytes in front of a message that hold its length. -/
def headerLength : Nat := 4

/-- A length as four bytes, the highest first. -/
def lengthBytes (n : Nat) : Bytes :=
  [UInt8.ofNat (n >>> 24), UInt8.ofNat (n >>> 16), UInt8.ofNat (n >>> 8), UInt8.ofNat n]

/-- The number whose bytes are given, the highest first. -/
def lengthOf (bs : Bytes) : Nat := bs.foldl (fun n b => 256 * n + b.toNat) 0

theorem lengthOf_lengthBytes {n : Nat} (h : n < UInt32.size) : lengthOf (lengthBytes n) = n := by
  have size : UInt32.size = 2 ^ 32 := rfl
  simp only [lengthOf, lengthBytes, List.foldl_cons, List.foldl_nil, UInt8.toNat_ofNat',
    Nat.shiftRight_eq_div_pow]
  omega

/-- A message as a frame. -/
def encode (body : Bytes) : Bytes := lengthBytes body.length ++ body

/-- Why no message can be read. -/
inductive ReadError where
  /-- The stream ended after this many bytes of a header. -/
  | header (filled : Nat)
  | tooLong (length limit : Nat)
  /-- The stream ended inside a message. -/
  | body
  deriving DecidableEq, Repr

def ReadError.message : ReadError → String
  | .header filled =>
    "Stream ended inside a frame header (" ++ decimalText filled ++ " of " ++
      decimalText headerLength ++ " bytes)"
  | .tooLong length limit =>
    "Message too large: " ++ decimalText length ++ " bytes (limit " ++ decimalText limit ++ ")"
  | .body => "early eof"

/-- The next message of a stream and the stream behind it, or nothing if the
stream ended between frames. The length is looked at before the message. -/
def read (limit : Nat) (s : Stream) : Except ReadError (Option (Bytes × Stream)) :=
  let (header, s) := s.fill headerLength
  if header.isEmpty then .ok none
  else if header.length < headerLength then .error (.header header.length)
  else
    let length := lengthOf header
    if limit < length then .error (.tooLong length limit)
    else
      let (body, s) := s.fill length
      if body.length < length then .error .body else .ok (some (body, s))

/-- Messages up to the end of a stream or the first that cannot be read, `fuel`
at most. -/
def readUpTo (limit : Nat) : Nat → Stream → List Bytes × Option ReadError
  | 0, _ => ([], none)
  | fuel + 1, s =>
    match read limit s with
    | .error e => ([], some e)
    | .ok none => ([], none)
    | .ok (some (body, s)) =>
      let (bodies, e) := readUpTo limit fuel s
      (body :: bodies, e)

/-- All messages of a stream, and why reading stopped before its end if it did.
Each takes at least a header. -/
def readAll (limit : Nat) (s : Stream) : List Bytes × Option ReadError :=
  readUpTo limit (s.flatten.length + 1) s

end Frame

end DisplayComposer
