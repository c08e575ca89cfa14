import DisplayComposer.Wire.Geometry
/-!
# DisplayComposer.Wire.Property

**Values of layer and display properties on the wire.** Choices travel as their
names; colour spaces, pixel formats and fences are numbers that are passed on as
they are.

* `BlendMode`, `Composition`, `Transform`, `MetadataKey` — choices;
* `Dataspace`, `PixelFormat`, `Fence` — numbers;
* `Brightness`, `Timestamp`, `Metadata`, `MetadataBlob` — records.
-/

namespace DisplayComposer

open Json

/-- A display, for as long as the session lasts. -/
abbrev DisplayId : Type := Int64

/-- A layer of a display. -/
abbrev LayerId : Type := Int64

/-! ## Choices -/

/-- How a layer covers what lies below it. -/
inductive BlendMode where
  | invalid
  | none
  | premultiplied
  | coverage
  deriving DecidableEq, Repr

namespace BlendMode

def all : List BlendMode := [.invalid, .none, .premultiplied, .coverage]

def name : BlendMode → String
  | .invalid => "Invalid"
  | .none => "None"
  | .premultiplied => "Premultiplied"
  | .coverage => "Coverage"

def codec : Codec BlendMode := .choice all name

end BlendMode

/-- How a layer comes onto its display. -/
inductive Composition where
  | invalid
  /-- Composed by the client into the client target. -/
  | client
  /-- Scanned out by the hardware. -/
  | device
  | solidColor
  | cursor
  | sideband
  | displayDecoration
  | refreshRateIndicator
  deriving DecidableEq, Repr

namespace Composition

def all : List Composition :=
  [.invalid, .client, .device, .solidColor, .cursor, .sideband, .displayDecoration,
    .refreshRateIndicator]

def name : Composition → String
  | .invalid => "Invalid"
  | .client => "Client"
  | .device => "Device"
  | .solidColor => "SolidColor"
  | .cursor => "Cursor"
  | .sideband => "Sideband"
  | .displayDecoration => "DisplayDecoration"
  | .refreshRateIndicator => "RefreshRateIndicator"

def codec : Codec Composition := .choice all name

end Composition

/-- How a buffer is turned before it is shown. -/
inductive Transform where
  | none
  | flipH
  | flipV
  | rot90
  | rot180
  | rot270
  deriving DecidableEq, Repr

namespace Transform

def all : List Transform := [.none, .flipH, .flipV, .rot90, .rot180, .rot270]

def name : Transform → String
  | .none => "None"
  | .flipH => "FlipH"
  | .flipV => "FlipV"
  | .rot90 => "Rot90"
  | .rot180 => "Rot180"
  | .rot270 => "Rot270"

def codec : Codec Transform := .choice all name

end Transform

/-- What an entry of high-dynamic-range metadata says. -/
inductive MetadataKey where
  | displayRedPrimaryX
  | displayRedPrimaryY
  | displayGreenPrimaryX
  | displayGreenPrimaryY
  | displayBluePrimaryX
  | displayBluePrimaryY
  | whitePointX
  | whitePointY
  | maxLuminance
  | minLuminance
  | maxContentLightLevel
  | maxFrameAverageLightLevel
  | hdr10PlusSei
  deriving DecidableEq, Repr

namespace MetadataKey

def all : List MetadataKey :=
  [.displayRedPrimaryX, .displayRedPrimaryY, .displayGreenPrimaryX, .displayGreenPrimaryY,
    .displayBluePrimaryX, .displayBluePrimaryY, .whitePointX, .whitePointY, .maxLuminance,
    .minLuminance, .maxContentLightLevel, .maxFrameAverageLightLevel, .hdr10PlusSei]

def name : MetadataKey → String
  | .displayRedPrimaryX => "DisplayRedPrimaryX"
  | .displayRedPrimaryY => "DisplayRedPrimaryY"
  | .displayGreenPrimaryX => "DisplayGreenPrimaryX"
  | .displayGreenPrimaryY => "DisplayGreenPrimaryY"
  | .displayBluePrimaryX => "DisplayBluePrimaryX"
  | .displayBluePrimaryY => "DisplayBluePrimaryY"
  | .whitePointX => "WhitePointX"
  | .whitePointY => "WhitePointY"
  | .maxLuminance => "MaxLuminance"
  | .minLuminance => "MinLuminance"
  | .maxContentLightLevel => "MaxContentLightLevel"
  | .maxFrameAverageLightLevel => "MaxFrameAverageLightLevel"
  | .hdr10PlusSei => "Hdr10PlusSei"

def codec : Codec MetadataKey := .choice all name

end MetadataKey

/-! ## Numbers -/

/-- A colour space, passed on to the hardware as it is. -/
structure Dataspace where
  code : Int32
  deriving DecidableEq

namespace Dataspace

def unknown : Dataspace := ⟨0⟩

def srgb : Dataspace := ⟨142671872⟩

def codec : Codec Dataspace := Codec.int32.imap .mk (·.code)

end Dataspace

/-- A pixel format. -/
structure PixelFormat where
  code : Int32
  deriving DecidableEq

namespace PixelFormat

def rgba8888 : PixelFormat := ⟨1⟩

def codec : Codec PixelFormat := Codec.int32.imap .mk (·.code)

end PixelFormat

/-- Something to wait for before a buffer is used again. -/
structure Fence where
  code : Int32
  deriving DecidableEq

namespace Fence

/-- Nothing to wait for. -/
def absent : Fence := ⟨-1⟩

def isValid (f : Fence) : Bool := 0 ≤ f.code

def codec : Codec Fence := Codec.int32.imap .mk (·.code)

end Fence

/-! ## Records -/

/-- The brightness of a display from 0 to 1, or -1 for no backlight at all. -/
structure Brightness where
  level : Single
  deriving DecidableEq

namespace Brightness

def record : Record Brightness where
  title := "struct DisplayBrightness"
  blank := ⟨.zero⟩
  fields := [.required "brightness" .float (·.level) (fun v b => { b with level := v })]

def codec : Codec Brightness := record.codec

end Brightness

/-- A time of the monotonic clock. -/
structure Timestamp where
  nanoseconds : Int64
  deriving DecidableEq

namespace Timestamp

def record : Record Timestamp where
  title := "struct ClockMonotonicTimestamp"
  blank := ⟨0⟩
  fields :=
    [.required "timestamp_nanos" .int64 (·.nanoseconds) (fun v t => { t with nanoseconds := v })]

def codec : Codec Timestamp := record.codec

end Timestamp

/-- An entry of metadata with a number. -/
structure Metadata where
  key : MetadataKey
  value : Single
  deriving DecidableEq

namespace Metadata

def record : Record Metadata where
  title := "struct PerFrameMetadata"
  blank := ⟨.displayRedPrimaryX, .zero⟩
  fields := [
    .required "key" MetadataKey.codec (·.key) (fun v m => { m with key := v }),
    .required "value" .float (·.value) (fun v m => { m with value := v })]

def codec : Codec Metadata := record.codec

end Metadata

/-- An entry of metadata with bytes. -/
structure MetadataBlob where
  key : MetadataKey
  blob : Bytes
  deriving DecidableEq

namespace MetadataBlob

def record : Record MetadataBlob where
  title := "struct PerFrameMetadataBlob"
  blank := ⟨.displayRedPrimaryX, []⟩
  fields := [
    .required "key" MetadataKey.codec (·.key) (fun v m => { m with key := v }),
    .required "blob" Codec.uint8.list (·.blob) (fun v m => { m with blob := v })]

def codec : Codec MetadataBlob := record.codec

end MetadataBlob

end DisplayComposer
