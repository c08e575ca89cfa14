import DisplayComposer.Hardware.Error
import DisplayComposer.Wire.Buffer
/-!
# DisplayComposer.Cache.Image

**Images and where they are cached.** An image is a buffer or stream imported
from a native handle. Importing one handle twice gives two images, which are
told apart by a serial number.

* `Image` — an imported buffer or stream;
* `Scope` — a place in the cache;
* `CacheError` — why the cache refuses, and the failure that a client sees.
-/

namespace DisplayComposer

/-- An imported buffer or stream. -/
structure Image where
  serial : Nat
  handle : NativeHandle
  deriving DecidableEq

namespace Image

/-- Whether two images are the very same import. -/
def same (a b : Image) : Bool := a.serial == b.serial

end Image

/-- A place in the cache. A layer has one place for a stream, all other places
are slots. -/
inductive Scope where
  | clientTarget (display : DisplayId) (slot : Int32)
  | outputBuffer (display : DisplayId) (slot : Int32)
  | layerBuffer (display : DisplayId) (layer : LayerId) (slot : Int32)
  | sideband (display : DisplayId) (layer : LayerId)
  deriving DecidableEq

/-- The place of an image, and the handle to import there first if there is one. -/
structure ImageRef where
  scope : Scope
  handle : Option NativeHandle
  deriving DecidableEq

/-- Why the cache refuses. -/
inductive CacheError where
  | noDisplay (display : DisplayId)
  | displayExists (display : DisplayId)
  | noLayer (display : DisplayId) (layer : LayerId)
  | layerExists (display : DisplayId) (layer : LayerId)
  | notVirtual (display : DisplayId)
  | slotOutOfRange (slot : Int32) (count : Nat)
  | emptySlot (slot : Int32)
  | invalidHandle
  deriving DecidableEq

namespace CacheError

def message : CacheError → String
  | .noDisplay display => "display " ++ signedText display.toInt ++ " is not registered"
  | .displayExists display => "display " ++ signedText display.toInt ++ " is already registered"
  | .noLayer display layer =>
    "layer " ++ signedText layer.toInt ++ " is not registered on display " ++
      signedText display.toInt
  | .layerExists display layer =>
    "layer " ++ signedText layer.toInt ++ " is already registered on display " ++
      signedText display.toInt
  | .notVirtual display => "display " ++ signedText display.toInt ++ " has no output buffer"
  | .slotOutOfRange slot count =>
    "slot " ++ signedText slot.toInt ++ " out of range (slot count " ++ decimalText count ++ ")"
  | .emptySlot slot => "slot " ++ signedText slot.toInt ++ " has no cached buffer"
  | .invalidHandle => "native handle is empty"

/-- The failure that is recorded for a command. -/
def toHardwareError : CacheError → HardwareError
  | .noDisplay _ => .badDisplay
  | .noLayer _ _ => .badLayer
  | .notVirtual _ => .unsupported
  | .displayExists _ | .layerExists _ _ | .slotOutOfRange _ _ | .emptySlot _ | .invalidHandle =>
    .badParameter

end CacheError

end DisplayComposer
