import DisplayComposer.Cache.Image
import DisplayComposer.Table
/-!
# DisplayComposer.Cache.Basic

**The image cache.** For every registered display the cache holds images in
numbered slots: client targets, the output buffer of a virtual display, and the
buffers of each layer, which also has one place for a stream. A client sends a
handle only when the image of a slot changes, so finding the image of a place is
`resolve`, with or without a handle to import.

An image that is displaced is not let go at once. It is parked with the
resolution that displaced it, until the hardware call that uses the new image
has returned. The cache counts the images imported and those let go.

* `Slots`, `LayerEntry`, `DisplayEntry`, `Cache` — the state;
* `addDisplay`, `removeDisplay`, `addLayer`, `removeLayer` — registration;
* `resolve`, `release` — images in use;
* `mustValidate`, `setMustValidate` — whether a display has to be validated.
-/

namespace DisplayComposer

/-- Numbered slots, each empty or with an image. Numbers without an image take
no room. -/
structure Slots where
  count : Nat
  cached : Table Nat Image

/-- What is cached for a layer. -/
structure LayerEntry where
  buffers : Slots
  sideband : Option Image

/-- What is cached for a display. -/
structure DisplayEntry where
  /-- Whether the next present-or-validate has to validate. -/
  mustValidate : Bool
  clientTargets : Slots
  /-- Virtual displays alone have an output buffer. -/
  outputBuffers : Option Slots
  layers : Table LayerId LayerEntry

/-- The cache. -/
structure Cache where
  displays : Table DisplayId DisplayEntry
  /-- Images imported so far; also the serial number of the next one. -/
  imported : Nat
  /-- Images let go so far. -/
  released : Nat

/-- An image found, and the images that it displaced. -/
structure Resolution where
  image : Image
  parked : List Image

/-! ## Contents -/

namespace Slots

/-- Slots without images. -/
def vacant (count : Nat) : Slots := ⟨count, .empty⟩

def images (s : Slots) : List Image := s.cached.values

end Slots

namespace LayerEntry

def images (e : LayerEntry) : List Image := e.buffers.images ++ e.sideband.toList

end LayerEntry

namespace DisplayEntry

/-- Every image cached for a display. -/
def images (e : DisplayEntry) : List Image :=
  e.clientTargets.images ++ (e.outputBuffers.map Slots.images).getD [] ++
    e.layers.values.flatMap LayerEntry.images

end DisplayEntry

/-! ## Slots -/

/-- Slots after a lookup in them, what was found, and the number of images
imported by then. -/
structure Lookup where
  slots : Slots
  found : Resolution
  imported : Nat

/-- Import a handle unless it is empty. -/
def importImage (serial : Nat) (handle : NativeHandle) : Except CacheError Image :=
  if handle.isEmpty then .error .invalidHandle else .ok ⟨serial, handle⟩

namespace Slots

/-- The number of a slot in range. -/
def index? (s : Slots) (slot : Int32) : Option Nat :=
  let n := slot.toInt
  if 0 ≤ n ∧ n < s.count then some n.toNat else none

/-- The image of a slot, imported first if there is a handle. -/
def lookup (s : Slots) (slot : Int32) (handle : Option NativeHandle) (serial : Nat) :
    Except CacheError Lookup :=
  match s.index? slot with
  | none => .error (.slotOutOfRange slot s.count)
  | some i =>
    match handle with
    | none =>
      match s.cached.get? i with
      | none => .error (.emptySlot slot)
      | some image => .ok ⟨s, ⟨image, []⟩, serial⟩
    | some handle => do
      let image ← importImage serial handle
      pure ⟨{ s with cached := s.cached.insert i image },
        ⟨image, (s.cached.get? i).toList⟩, serial + 1⟩

end Slots

namespace Cache

def empty : Cache := ⟨.empty, 0, 0⟩

/-- Every image in the cache. -/
def images (c : Cache) : List Image := c.displays.values.flatMap DisplayEntry.images

/-- Let images go. -/
def release (images : List Image) (c : Cache) : Cache :=
  { c with released := c.released + images.length }

/-! ## Registration -/

/-- The slots of output buffers: clients have only one in use at a time. -/
def outputSlots : Nat := 1

/-- Register a display. It has to be validated first. -/
def addDisplay (display : DisplayId) (targets : UInt32) (isVirtual : Bool) (c : Cache) :
    Except CacheError Cache :=
  if c.displays.contains display then .error (.displayExists display)
  else
    let entry : DisplayEntry := {
      mustValidate := true
      clientTargets := .vacant targets.toNat
      outputBuffers := if isVirtual then some (.vacant outputSlots) else none
      layers := .empty }
    .ok { c with displays := c.displays.insert display entry }

/-- Forget a display, and let go of its images. -/
def removeDisplay (display : DisplayId) (c : Cache) : Except CacheError Cache :=
  match c.displays.get? display with
  | none => .error (.noDisplay display)
  | some entry => .ok ({ c with displays := c.displays.erase display }.release entry.images)

/-- Register a layer of a display. -/
def addLayer (display : DisplayId) (layer : LayerId) (slots : UInt32) (c : Cache) :
    Except CacheError Cache :=
  match c.displays.get? display with
  | none => .error (.noDisplay display)
  | some entry =>
    if entry.layers.contains layer then .error (.layerExists display layer)
    else
      let added := { entry with
        layers := entry.layers.insert layer ⟨.vacant slots.toNat, none⟩ }
      .ok { c with displays := c.displays.insert display added }

/-- Forget a layer, and let go of its images. -/
def removeLayer (display : DisplayId) (layer : LayerId) (c : Cache) : Except CacheError Cache :=
  match c.displays.get? display with
  | none => .error (.noDisplay display)
  | some entry =>
    match entry.layers.get? layer with
    | none => .error (.noLayer display layer)
    | some removed =>
      let entry := { entry with layers := entry.layers.erase layer }
      .ok ({ c with displays := c.displays.insert display entry }.release removed.images)

/-! ## Resolution -/

/-- With another entry of a display, and other images imported. -/
def update (c : Cache) (display : DisplayId) (entry : DisplayEntry) (imported : Nat) : Cache :=
  { c with displays := c.displays.insert display entry, imported }

/-- The image of a place in the cache. With a handle, an image is imported into
the place first. A stream always comes with a handle, which is looked at before
the layer. If the cache refuses, it stays as it is. -/
def resolve (ref : ImageRef) (c : Cache) : Except CacheError (Resolution × Cache) :=
  match ref.scope with
  | .clientTarget display slot =>
    match c.displays.get? display with
    | none => .error (.noDisplay display)
    | some entry => do
      let r ← entry.clientTargets.lookup slot ref.handle c.imported
      pure (r.found, c.update display { entry with clientTargets := r.slots } r.imported)
  | .outputBuffer display slot =>
    match c.displays.get? display with
    | none => .error (.noDisplay display)
    | some entry =>
      match entry.outputBuffers with
      | none => .error (.notVirtual display)
      | some slots => do
        let r ← slots.lookup slot ref.handle c.imported
        pure (r.found, c.update display { entry with outputBuffers := some r.slots } r.imported)
  | .layerBuffer display layer slot =>
    match c.displays.get? display with
    | none => .error (.noDisplay display)
    | some entry =>
      match entry.layers.get? layer with
      | none => .error (.noLayer display layer)
      | some cached => do
        let r ← cached.buffers.lookup slot ref.handle c.imported
        let layers := entry.layers.insert layer { cached with buffers := r.slots }
        pure (r.found, c.update display { entry with layers } r.imported)
  | .sideband display layer =>
    match ref.handle with
    | none => .error .invalidHandle
    | some handle => do
      let image ← importImage c.imported handle
      match c.displays.get? display with
      | none => throw (.noDisplay display)
      | some entry =>
        match entry.layers.get? layer with
        | none => throw (.noLayer display layer)
        | some cached =>
          let layers := entry.layers.insert layer { cached with sideband := some image }
          pure (⟨image, cached.sideband.toList⟩,
            c.update display { entry with layers } (c.imported + 1))

/-! ## Validation -/

/-- Whether a display has to be validated; an unknown one always has. -/
def mustValidate (display : DisplayId) (c : Cache) : Bool :=
  match c.displays.get? display with
  | none => true
  | some entry => entry.mustValidate

/-- Say whether a display has to be validated; of an unknown one nothing is said. -/
def setMustValidate (display : DisplayId) (mustValidate : Bool) (c : Cache) : Cache :=
  match c.displays.get? display with
  | none => c
  | some entry => { c with displays := c.displays.insert display { entry with mustValidate } }

end Cache

end DisplayComposer
