import DisplayComposer.Hardware.Call
import DisplayComposer.Wire.Command
/-!
# DisplayComposer.Engine.Settings

**What a command sets, in order.** The populated fields of a command become a
list of settings: those of its layers, one layer command after the other, and
then those of the display. The order of the fields is fixed.
-/

namespace DisplayComposer

namespace LayerCommand

/-- The settings of a layer command. -/
def settings (display : DisplayId) (c : LayerCommand) : List (Setting ImageRef) :=
  let property (p : LayerProperty) : Setting ImageRef := .property (.layer c.layer p)
  [ c.cursorPosition.map fun v => property (.cursorPosition v),
    c.buffer.map fun b => .image (.layerBuffer c.layer b.fence)
      ⟨.layerBuffer display c.layer b.slot, b.handle⟩,
    c.damage.map fun v => property (.surfaceDamage v),
    c.blendMode.map fun v => property (.blendMode v),
    c.color.map fun v => property (.color v),
    c.composition.map fun v => property (.composition v),
    c.dataspace.map fun v => property (.dataspace v),
    c.displayFrame.map fun v => property (.displayFrame v),
    c.planeAlpha.map fun v => property (.planeAlpha v),
    c.sidebandStream.map fun handle => .image (.sideband c.layer)
      ⟨.sideband display c.layer, some handle⟩,
    c.sourceCrop.map fun v => property (.sourceCrop v),
    c.transform.map fun v => property (.transform v),
    c.visibleRegion.map fun v => property (.visibleRegion v),
    c.z.map fun v => property (.zOrder v),
    c.colorTransform.map fun v => property (.colorTransform v),
    c.metadata.map fun v => property (.metadata v),
    c.metadataBlobs.map fun v => property (.metadataBlobs v)].filterMap id

end LayerCommand

namespace DisplayCommand

/-- The settings of the display itself. -/
def displaySettings (c : DisplayCommand) : List (Setting ImageRef) :=
  [ c.colorTransform.map fun v => .property (.colorTransform v),
    c.clientTarget.map fun t => .image (.clientTarget t.buffer.fence t.dataspace t.damage)
      ⟨.clientTarget c.display t.buffer.slot, t.buffer.handle⟩,
    c.outputBuffer.map fun b => .image (.outputBuffer b.fence)
      ⟨.outputBuffer c.display b.slot, b.handle⟩,
    c.brightness.map fun b => .property (.brightness b.level)].filterMap id

/-- The settings of a display command, layers first. -/
def settings (c : DisplayCommand) : List (Setting ImageRef) :=
  c.layers.flatMap (·.settings c.display) ++ c.displaySettings

end DisplayCommand

end DisplayComposer
