import DisplayComposer.Wire.Buffer
/-!
# DisplayComposer.Wire.Command

**Commands on the wire.** A display command is one display's share of a frame:
changes of its layers, then changes of the display itself, then what to do about
validating and presenting. A field that is absent leaves its property alone.
-/

namespace DisplayComposer

open Json

/-- Changes of the properties of one layer. -/
structure LayerCommand where
  layer : LayerId
  cursorPosition : Option Point
  buffer : Option Buffer
  damage : Option Region
  blendMode : Option BlendMode
  color : Option Color
  composition : Option Composition
  dataspace : Option Dataspace
  displayFrame : Option Rect
  planeAlpha : Option Single
  sidebandStream : Option NativeHandle
  sourceCrop : Option Crop
  transform : Option Transform
  visibleRegion : Option Region
  z : Option UInt32
  colorTransform : Option (List Single)
  metadata : Option (List (Option Metadata))
  metadataBlobs : Option (List (Option MetadataBlob))
  deriving DecidableEq

namespace LayerCommand

/-- A command that changes nothing. -/
def idle (layer : LayerId) : LayerCommand where
  layer
  cursorPosition := none
  buffer := none
  damage := none
  blendMode := none
  color := none
  composition := none
  dataspace := none
  displayFrame := none
  planeAlpha := none
  sidebandStream := none
  sourceCrop := none
  transform := none
  visibleRegion := none
  z := none
  colorTransform := none
  metadata := none
  metadataBlobs := none

def record : Record LayerCommand where
  title := "struct LayerCommand"
  blank := idle 0
  fields := [
    .defaulted "layer" .int64 (·.layer) (fun v c => { c with layer := v }),
    .optional "cursor_position" Point.codec (·.cursorPosition)
      (fun v c => { c with cursorPosition := v }),
    .optional "buffer" Buffer.codec (·.buffer) (fun v c => { c with buffer := v }),
    .optional "damage" Region.codec (·.damage) (fun v c => { c with damage := v }),
    .optional "blend_mode" BlendMode.codec (·.blendMode) (fun v c => { c with blendMode := v }),
    .optional "color" Color.codec (·.color) (fun v c => { c with color := v }),
    .optional "composition" Composition.codec (·.composition)
      (fun v c => { c with composition := v }),
    .optional "dataspace" Dataspace.codec (·.dataspace) (fun v c => { c with dataspace := v }),
    .optional "display_frame" Rect.codec (·.displayFrame)
      (fun v c => { c with displayFrame := v }),
    .optional "plane_alpha" .float (·.planeAlpha) (fun v c => { c with planeAlpha := v }),
    .optional "sideband_stream" NativeHandle.codec (·.sidebandStream)
      (fun v c => { c with sidebandStream := v }),
    .optional "source_crop" Crop.codec (·.sourceCrop) (fun v c => { c with sourceCrop := v }),
    .optional "transform" Transform.codec (·.transform) (fun v c => { c with transform := v }),
    .optional "visible_region" Region.codec (·.visibleRegion)
      (fun v c => { c with visibleRegion := v }),
    .optional "z" .uint32 (·.z) (fun v c => { c with z := v }),
    .optional "color_transform" Codec.float.list (·.colorTransform)
      (fun v c => { c with colorTransform := v }),
    .optional "per_frame_metadata" Metadata.codec.nullable.list (·.metadata)
      (fun v c => { c with metadata := v }),
    .optional "per_frame_metadata_blob" MetadataBlob.codec.nullable.list (·.metadataBlobs)
      (fun v c => { c with metadataBlobs := v })]

def codec : Codec LayerCommand := record.codec

end LayerCommand

/-- One display's share of a frame. -/
structure DisplayCommand where
  display : DisplayId
  /-- Carried out first, in this order. -/
  layers : List LayerCommand
  colorTransform : Option (List Single)
  clientTarget : Option ClientTarget
  outputBuffer : Option Buffer
  brightness : Option Brightness
  /-- When the frame is to be shown, for whoever validates. -/
  expectedPresentTime : Option Timestamp
  validate : Bool
  accept : Bool
  present : Bool
  presentOrValidate : Bool
  deriving DecidableEq

namespace DisplayCommand

/-- A command that does nothing. -/
def idle (display : DisplayId) : DisplayCommand where
  display
  layers := []
  colorTransform := none
  clientTarget := none
  outputBuffer := none
  brightness := none
  expectedPresentTime := none
  validate := false
  accept := false
  present := false
  presentOrValidate := false

def record : Record DisplayCommand where
  title := "struct DisplayCommand"
  blank := idle 0
  fields := [
    .defaulted "display" .int64 (·.display) (fun v c => { c with display := v }),
    .defaulted "layers" LayerCommand.codec.list (·.layers) (fun v c => { c with layers := v }),
    .optional "color_transform_matrix" Codec.float.list (·.colorTransform)
      (fun v c => { c with colorTransform := v }),
    .optional "client_target" ClientTarget.codec (·.clientTarget)
      (fun v c => { c with clientTarget := v }),
    .optional "virtual_display_output_buffer" Buffer.codec (·.outputBuffer)
      (fun v c => { c with outputBuffer := v }),
    .optional "brightness" Brightness.codec (·.brightness)
      (fun v c => { c with brightness := v }),
    .optional "expected_present_time" Timestamp.codec (·.expectedPresentTime)
      (fun v c => { c with expectedPresentTime := v }),
    .defaulted "validate_display" .bool (·.validate) (fun v c => { c with validate := v }),
    .defaulted "accept_display_changes" .bool (·.accept) (fun v c => { c with accept := v }),
    .defaulted "present_display" .bool (·.present) (fun v c => { c with present := v }),
    .defaulted "present_or_validate_display" .bool (·.presentOrValidate)
      (fun v c => { c with presentOrValidate := v })]

def codec : Codec DisplayCommand := record.codec

end DisplayCommand

end DisplayComposer
