import DisplayComposer.Toml.Record
import DisplayComposer.Wire.Property
/-!
# DisplayComposer.Config.Display

**The configuration of one display.** It says what hardware there is: the size
of the display, whether its pixels go into a buffer instead of onto a screen, and
how many layers can be scanned out without composing them first.
-/

namespace DisplayComposer

structure DisplayConfig where
  id : DisplayId
  width : UInt32
  height : UInt32
  /-- Whether the display shows into an output buffer. -/
  isVirtual : Bool
  /-- Cache slots for client targets. -/
  targetSlots : UInt32
  /-- Layers that can be scanned out; the client composes the others. -/
  deviceLayers : UInt64
  deriving DecidableEq

namespace DisplayConfig

/-- A physical display of 1920 by 1080. -/
def standard : DisplayConfig where
  id := 0
  width := 1920
  height := 1080
  isVirtual := false
  targetSlots := 3
  deviceLayers := 4

/-- The configuration in JSON. -/
def record : Json.Record DisplayConfig where
  title := "struct DisplayConfig"
  blank := standard
  fields := [
    .defaulted "id" .int64 (·.id) (fun v c => { c with id := v }),
    .defaulted "width" .uint32 (·.width) (fun v c => { c with width := v }),
    .defaulted "height" .uint32 (·.height) (fun v c => { c with height := v }),
    .defaulted "virtual" .bool (·.isVirtual) (fun v c => { c with isVirtual := v }),
    .defaulted "client_target_slots" .uint32 (·.targetSlots)
      (fun v c => { c with targetSlots := v }),
    .defaulted "max_device_layers" .size (·.deviceLayers)
      (fun v c => { c with deviceLayers := v })]

def codec : Json.Codec DisplayConfig := record.codec

/-- The configuration in a file. -/
def settings : Toml.Record DisplayConfig where
  blank := standard
  fields := [
    .plain "id" .int64 (·.id) (fun v c => { c with id := v }),
    .plain "width" .uint32 (·.width) (fun v c => { c with width := v }),
    .plain "height" .uint32 (·.height) (fun v c => { c with height := v }),
    .plain "virtual" .boolean (·.isVirtual) (fun v c => { c with isVirtual := v }),
    .plain "client_target_slots" .uint32 (·.targetSlots) (fun v c => { c with targetSlots := v }),
    .plain "max_device_layers" .uint64 (·.deviceLayers) (fun v c => { c with deviceLayers := v })]

end DisplayConfig

end DisplayComposer
