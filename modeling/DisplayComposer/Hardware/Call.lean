import DisplayComposer.Cache.Image
import DisplayComposer.Wire.Result
/-!
# DisplayComposer.Hardware.Call

**What can be asked of the display hardware.** A `Call` is one primitive
operation with its arguments, and `Call.Answer` the type of what it returns if
it does not fail. Hardware is anything that performs calls, so a theorem about
every hardware is one about every instance of `Hardware`.

Most calls set a property. Some properties are images, which are cached and have
to be found first; they are kept apart from those that come as they are.

* `LayerProperty`, `Property`, `ImageUse`, `Setting` — what can be set;
* `Validation`, `Presentation` — what validating and presenting return;
* `Call`, `Call.Answer`, `Hardware` — calls and who performs them.
-/

namespace DisplayComposer

/-- A property of a layer that is not an image. -/
inductive LayerProperty where
  | cursorPosition (position : Point)
  | surfaceDamage (damage : Region)
  | blendMode (mode : BlendMode)
  | color (color : Color)
  | composition (composition : Composition)
  | dataspace (dataspace : Dataspace)
  | displayFrame (frame : Rect)
  | planeAlpha (alpha : Single)
  | sourceCrop (crop : Crop)
  | transform (transform : Transform)
  | visibleRegion (region : Region)
  | zOrder (z : UInt32)
  | colorTransform (matrix : List Single)
  | metadata (entries : List (Option Metadata))
  | metadataBlobs (entries : List (Option MetadataBlob))
  deriving DecidableEq

/-- A property that is not an image. -/
inductive Property where
  | layer (layer : LayerId) (property : LayerProperty)
  | colorTransform (matrix : List Single)
  | brightness (level : Single)
  /-- A hint for whoever validates. -/
  | expectedPresentTime (time : Option Timestamp)
  deriving DecidableEq

/-- What an image is used as. -/
inductive ImageUse where
  | clientTarget (fence : Fence) (dataspace : Dataspace) (damage : Region)
  | outputBuffer (fence : Fence)
  | layerBuffer (layer : LayerId) (fence : Fence)
  | sideband (layer : LayerId)
  deriving DecidableEq

/-- A property to set. Images are given as `β`. -/
inductive Setting (β : Type) where
  | property (property : Property)
  | image (use : ImageUse) (image : β)
  deriving DecidableEq

/-- What validating a display returns. -/
structure Validation where
  /-- Whether the client has to accept changes before it presents. -/
  hasChanges : Bool
  changes : List CompositionChange
  request : DisplayRequest
  target : TargetProperty
  deriving DecidableEq

/-- What presenting a display returns. -/
structure Presentation where
  /-- Absent if the display has none. -/
  presentFence : Fence
  releaseFences : List ReleaseFence
  deriving DecidableEq

/-- A primitive operation of the hardware. -/
inductive Call where
  | createLayer (display : DisplayId)
  | destroyLayer (display : DisplayId) (layer : LayerId)
  | set (display : DisplayId) (setting : Setting Image)
  | validate (display : DisplayId)
  | accept (display : DisplayId)
  | present (display : DisplayId)
  | hasClientComposition (display : DisplayId)
  deriving DecidableEq

/-! ## Names of operations -/

namespace LayerProperty

def operation : LayerProperty → String
  | .cursorPosition _ => "set_layer_cursor_position"
  | .surfaceDamage _ => "set_layer_surface_damage"
  | .blendMode _ => "set_layer_blend_mode"
  | .color _ => "set_layer_color"
  | .composition _ => "set_layer_composition_type"
  | .dataspace _ => "set_layer_dataspace"
  | .displayFrame _ => "set_layer_display_frame"
  | .planeAlpha _ => "set_layer_plane_alpha"
  | .sourceCrop _ => "set_layer_source_crop"
  | .transform _ => "set_layer_transform"
  | .visibleRegion _ => "set_layer_visible_region"
  | .zOrder _ => "set_layer_z_order"
  | .colorTransform _ => "set_layer_color_transform"
  | .metadata _ => "set_layer_per_frame_metadata"
  | .metadataBlobs _ => "set_layer_per_frame_metadata_blobs"

end LayerProperty

namespace Call

/-- The name of the operation that a call asks for. -/
def operation : Call → String
  | .createLayer _ => "create_layer"
  | .destroyLayer _ _ => "destroy_layer"
  | .set _ (.property (.layer _ p)) => p.operation
  | .set _ (.property (.colorTransform _)) => "set_color_transform"
  | .set _ (.property (.brightness _)) => "set_display_brightness"
  | .set _ (.property (.expectedPresentTime _)) => "set_expected_present_time"
  | .set _ (.image (.clientTarget _ _ _) _) => "set_client_target"
  | .set _ (.image (.outputBuffer _) _) => "set_output_buffer"
  | .set _ (.image (.layerBuffer _ _) _) => "set_layer_buffer"
  | .set _ (.image (.sideband _) _) => "set_layer_sideband_stream"
  | .validate _ => "validate_display"
  | .accept _ => "accept_display_changes"
  | .present _ => "present_display"
  | .hasClientComposition _ => "has_client_composition"

end Call

/-- What a call returns if it does not fail. -/
abbrev Call.Answer : Call → Type
  | .createLayer _ => LayerId
  | .destroyLayer _ _ | .set _ _ | .accept _ => Unit
  | .validate _ => Validation
  | .present _ => Presentation
  | .hasClientComposition _ => Bool

/-- Display hardware. A call either fails with an error or returns an answer, and
leaves a state in both cases; or it stops the program. -/
class Hardware (σ : Type) where
  perform (call : Call) : σ → Except Crash (Except HardwareError call.Answer × σ)

end DisplayComposer
