import DisplayComposer.Crash
import DisplayComposer.Json.Record
/-!
# DisplayComposer.Wire.Geometry

**Points, rectangles and colours on the wire.** Coordinates on a display are
32-bit integers, and a rectangle reaches up to, but not including, its right and
bottom edge. Coordinates within a buffer and the components of a colour are
single-precision numbers.

`Rect.width` and `Rect.height` subtract 32-bit integers. A difference that does
not fit stops the program.
-/

namespace DisplayComposer

open Json

structure Point where
  x : Int32
  y : Int32
  deriving DecidableEq

structure Rect where
  left : Int32
  top : Int32
  right : Int32
  bottom : Int32
  deriving DecidableEq

/-- A rectangle of a buffer, in parts of pixels. -/
structure Crop where
  left : Single
  top : Single
  right : Single
  bottom : Single
  deriving DecidableEq

/-- A colour with its opacity, components from 0 to 1. -/
structure Color where
  red : Single
  green : Single
  blue : Single
  alpha : Single
  deriving DecidableEq

namespace Point

def origin : Point := ⟨0, 0⟩

def record : Record Point where
  title := "struct Point"
  blank := origin
  fields := [
    .required "x" .int32 (·.x) (fun v p => { p with x := v }),
    .required "y" .int32 (·.y) (fun v p => { p with y := v })]

def codec : Codec Point := record.codec

end Point

namespace Rect

def empty : Rect := ⟨0, 0, 0, 0⟩

/-- The difference of two coordinates, if it fits into 32 bits. -/
def extent (low high : Int32) : Except Crash Int32 :=
  let d := high.toInt - low.toInt
  if Int32.minValue.toInt ≤ d ∧ d ≤ Int32.maxValue.toInt then .ok (.ofInt d) else .error .subtractionOverflow

def width (r : Rect) : Except Crash Int32 := extent r.left r.right

def height (r : Rect) : Except Crash Int32 := extent r.top r.bottom

def record : Record Rect where
  title := "struct Rect"
  blank := empty
  fields := [
    .required "left" .int32 (·.left) (fun v r => { r with left := v }),
    .required "top" .int32 (·.top) (fun v r => { r with top := v }),
    .required "right" .int32 (·.right) (fun v r => { r with right := v }),
    .required "bottom" .int32 (·.bottom) (fun v r => { r with bottom := v })]

def codec : Codec Rect := record.codec

end Rect

/-- Rectangles of which some may be left out. -/
abbrev Region : Type := List (Option Rect)

def Region.codec : Codec Region := Rect.codec.nullable.list

namespace Crop

def record : Record Crop where
  title := "struct FRect"
  blank := ⟨.zero, .zero, .zero, .zero⟩
  fields := [
    .required "left" .float (·.left) (fun v r => { r with left := v }),
    .required "top" .float (·.top) (fun v r => { r with top := v }),
    .required "right" .float (·.right) (fun v r => { r with right := v }),
    .required "bottom" .float (·.bottom) (fun v r => { r with bottom := v })]

def codec : Codec Crop := record.codec

/-- Whether an edge lies on the wrong side of its opposite. -/
def inverted (r : Crop) : Bool := r.right.lt r.left || r.bottom.lt r.top

end Crop

namespace Color

def record : Record Color where
  title := "struct Color"
  blank := ⟨.zero, .zero, .zero, .zero⟩
  fields := [
    .required "r" .float (·.red) (fun v c => { c with red := v }),
    .required "g" .float (·.green) (fun v c => { c with green := v }),
    .required "b" .float (·.blue) (fun v c => { c with blue := v }),
    .required "a" .float (·.alpha) (fun v c => { c with alpha := v })]

def codec : Codec Color := record.codec

end Color

end DisplayComposer
