import DisplayComposer.Wire.Property
/-!
# DisplayComposer.Wire.Result

**Results on the wire.** A result holds everything that was recorded for one
command of a batch. A command that failed carries error codes, and may still
carry what the parts of it that succeeded reported.
-/

namespace DisplayComposer

open Json

/-! ## What validating reports -/

/-- A layer that is to be composed another way. -/
structure CompositionChange where
  layer : LayerId
  composition : Composition
  deriving DecidableEq

namespace CompositionChange

def record : Record CompositionChange where
  title := "struct ChangedCompositionLayer"
  blank := ⟨0, .device⟩
  fields := [
    .required "layer" .int64 (·.layer) (fun v c => { c with layer := v }),
    .required "composition" Composition.codec (·.composition)
      (fun v c => { c with composition := v })]

def codec : Codec CompositionChange := record.codec

end CompositionChange

/-- What the hardware asks of the client for one layer, as a mask of bits. -/
structure LayerRequest where
  layer : LayerId
  mask : UInt32
  deriving DecidableEq

namespace LayerRequest

/-- Clear the client target where the layer is. -/
def clearClientTarget : UInt32 := 1

def record : Record LayerRequest where
  title := "struct LayerRequest"
  blank := ⟨0, 0⟩
  fields := [
    .required "layer" .int64 (·.layer) (fun v r => { r with layer := v }),
    .required "mask" .uint32 (·.mask) (fun v r => { r with mask := v })]

def codec : Codec LayerRequest := record.codec

end LayerRequest

/-- What the hardware asks of the client for the whole display. -/
structure DisplayRequest where
  mask : UInt32
  layerRequests : List LayerRequest
  deriving DecidableEq

namespace DisplayRequest

/-- Flip the client target. -/
def flipClientTarget : UInt32 := 1

/-- Write the client target to the output buffer. -/
def writeClientTargetToOutput : UInt32 := 2

/-- The bits of a mask that mean something, with their names. -/
def flagNames : List (UInt32 × String) :=
  [(flipClientTarget, "FLIP_CLIENT_TARGET"),
    (writeClientTargetToOutput, "WRITE_CLIENT_TARGET_TO_OUTPUT")]

/-- The bits of the mask that mean something. -/
def flags (r : DisplayRequest) : UInt32 := r.mask &&& (flipClientTarget ||| writeClientTargetToOutput)

/-- The names of the bits that are set. -/
def names (r : DisplayRequest) : List String :=
  (flagNames.filter fun flag => r.mask &&& flag.1 = flag.1).map Prod.snd

def record : Record DisplayRequest where
  title := "struct DisplayRequest"
  blank := ⟨0, []⟩
  fields := [
    .required "mask" .uint32 (·.mask) (fun v r => { r with mask := v }),
    .required "layer_requests" LayerRequest.codec.list (·.layerRequests)
      (fun v r => { r with layerRequests := v })]

def codec : Codec DisplayRequest := record.codec

end DisplayRequest

/-- The format that the client target should have. -/
structure TargetProperty where
  pixelFormat : PixelFormat
  dataspace : Dataspace
  deriving DecidableEq

namespace TargetProperty

def record : Record TargetProperty where
  title := "struct ClientTargetProperty"
  blank := ⟨.rgba8888, .unknown⟩
  fields := [
    .required "pixel_format" PixelFormat.codec (·.pixelFormat)
      (fun v p => { p with pixelFormat := v }),
    .required "dataspace" Dataspace.codec (·.dataspace) (fun v p => { p with dataspace := v })]

def codec : Codec TargetProperty := record.codec

end TargetProperty

/-! ## What presenting reports -/

/-- When the buffer that a layer showed before may be used again. -/
structure ReleaseFence where
  layer : LayerId
  fence : Fence
  deriving DecidableEq

namespace ReleaseFence

def record : Record ReleaseFence where
  title := "struct ReleaseFence"
  blank := ⟨0, .absent⟩
  fields := [
    .required "layer" .int64 (·.layer) (fun v f => { f with layer := v }),
    .required "fence" Fence.codec (·.fence) (fun v f => { f with fence := v })]

def codec : Codec ReleaseFence := record.codec

end ReleaseFence

/-- How present-or-validate ended. -/
inductive FastPathOutcome where
  /-- The client has to compose, and to present again. -/
  | validated
  | presented
  deriving DecidableEq, Repr

namespace FastPathOutcome

def all : List FastPathOutcome := [.validated, .presented]

def name : FastPathOutcome → String
  | .validated => "Validated"
  | .presented => "Presented"

def codec : Codec FastPathOutcome := .choice all name

end FastPathOutcome

/-! ## Results -/

/-- Everything recorded for one command. -/
structure CommandResult where
  /-- The place of the command in its batch. -/
  index : UInt32
  display : DisplayId
  /-- Codes of the errors, in the order in which they occurred. -/
  errors : List Int32
  changes : Option (List CompositionChange)
  request : Option DisplayRequest
  property : Option TargetProperty
  presentFence : Option Fence
  releaseFences : Option (List ReleaseFence)
  presentOrValidate : Option FastPathOutcome
  deriving DecidableEq

namespace CommandResult

/-- A result without anything recorded. -/
def blank (index : UInt32) (display : DisplayId) : CommandResult where
  index
  display
  errors := []
  changes := none
  request := none
  property := none
  presentFence := none
  releaseFences := none
  presentOrValidate := none

def isError (r : CommandResult) : Bool := !r.errors.isEmpty

def record : Record CommandResult where
  title := "struct CommandResult"
  blank := blank 0 0
  fields := [
    .required "command_index" .uint32 (·.index) (fun v r => { r with index := v }),
    .required "display" .int64 (·.display) (fun v r => { r with display := v }),
    .sparse "errors" .int32 (·.errors) (fun v r => { r with errors := v }),
    .optional "changed_composition_types" CompositionChange.codec.list (·.changes)
      (fun v r => { r with changes := v }),
    .optional "display_request" DisplayRequest.codec (·.request)
      (fun v r => { r with request := v }),
    .optional "client_target_property" TargetProperty.codec (·.property)
      (fun v r => { r with property := v }),
    .optional "present_fence" Fence.codec (·.presentFence)
      (fun v r => { r with presentFence := v }),
    .optional "release_fences" ReleaseFence.codec.list (·.releaseFences)
      (fun v r => { r with releaseFences := v }),
    .optional "present_or_validate" FastPathOutcome.codec (·.presentOrValidate)
      (fun v r => { r with presentOrValidate := v })]

def codec : Codec CommandResult := record.codec

end CommandResult

end DisplayComposer
