import DisplayComposer.Proofs.Cache.Places
/-!
# DisplayComposer.Proofs.Cache.Rooms

**What a cache has room for.** The number of slots is fixed when a display or layer is
registered. Resolutions and notes change what is in the slots, and never how many there are.

* `Cache.rooms?`, `Cache.layerSlots?` — the slots of displays and of layers;
* `Cache.SameRooms`, `Cache.Resolves.sameRooms` — what leaves them alone;
* `Cache.layerSlots?_addLayer`, `Cache.layerSlots?_removeLayer` — what does not;
* `Cache.Resolves.found` — the image that a resolution finds.
-/

namespace DisplayComposer

/-! ### Lookups in slots -/

namespace Slots

variable {s : Slots} {slot : Int32} {handle : Option NativeHandle} {n : Nat} {r : Lookup}

/-- A lookup finds the image that was in the slot, or imports one. -/
theorem found_lookup (h : s.lookup slot handle n = .ok r) :
    r.slots.count = s.count ∧ (handle = none → s.imageAt? slot = some r.found.image) ∧
      ∀ native, handle = some native → r.found.image = ⟨n, native⟩ := by
  rw [lookup] at h
  split at h
  · cases h
  · rename_i i hi
    cases handle with
    | none =>
      dsimp only at h
      split at h
      · cases h
      · rename_i image himage
        cases h
        refine ⟨rfl, fun _ => ?_, by simp⟩
        rw [imageAt?, hi]
        exact himage
    | some native =>
      obtain ⟨image, himport, hlast⟩ := Except.bind_eq_ok_iff.1 h
      cases hlast
      refine ⟨rfl, by simp, fun _ heq => ?_⟩
      obtain rfl := Option.some.inj heq
      exact importImage_ok himport

end Slots

namespace Cache

/-- The slots of a registered display: those for client targets, and those for output
buffers if it is virtual. -/
def rooms? (c : Cache) (display : DisplayId) : Option (Nat × Option Nat) :=
  (c.displays.get? display).map fun e => (e.clientTargets.count, e.outputBuffers.map (·.count))

/-- The slots of a display that was registered like this. -/
def roomsOf (registration : UInt32 × Bool) : Nat × Option Nat :=
  (registration.1.toNat, if registration.2 then some outputSlots else none)

/-- The slots of a registered layer. -/
def layerSlots? (c : Cache) (display : DisplayId) (layer : LayerId) : Option Nat :=
  (c.displays.get? display).bind fun e => (e.layers.get? layer).map (·.buffers.count)

/-- Whether the display of a place is registered, and its layer if it has one. -/
def Has (c : Cache) (place : Scope) : Prop :=
  (c.rooms? place.display).isSome ∧
    ∀ layer, place.layer? = some layer → (c.layerSlots? place.display layer).isSome

variable {c c' : Cache} {display : DisplayId} {entry entry' : DisplayEntry}

/-- Whether a place is there is known from the entry of its display. -/
theorem has_congr {place : Scope}
    (h : c'.displays.get? place.display = c.displays.get? place.display) :
    c'.Has place ↔ c.Has place := by
  simp only [Has, rooms?, layerSlots?, h]

theorem layerSlots?_of_get? (hentry : c.displays.get? display = some entry) (layer : LayerId) :
    c.layerSlots? display layer = (entry.layers.get? layer).map (·.buffers.count) := by
  rw [layerSlots?, hentry, Option.bind_some]

theorem imageIn?_newDisplay (targets : UInt32) (isVirtual : Bool) (place : Scope) :
    imageIn? (newDisplay targets isVirtual) place = none := by
  cases place with
  | clientTarget => exact Slots.imageAt?_vacant ..
  | outputBuffer => cases isVirtual <;> simp [imageIn?, newDisplay, Slots.imageAt?_vacant]
  | layerBuffer | sideband => rfl

theorem rooms?_insert (hdisplays : c'.displays = c.displays.insert display entry')
    (other : DisplayId) :
    c'.rooms? other =
      if display = other then
        some (entry'.clientTargets.count, entry'.outputBuffers.map (·.count))
      else c.rooms? other := by
  rw [rooms?, rooms?, hdisplays, Table.get?_insert]
  split <;> rfl

theorem layerSlots?_insert (hdisplays : c'.displays = c.displays.insert display entry')
    (other : DisplayId) (layer : LayerId) :
    c'.layerSlots? other layer = if display = other then
      (entry'.layers.get? layer).map (·.buffers.count) else c.layerSlots? other layer := by
  rw [layerSlots?, layerSlots?, hdisplays, Table.get?_insert]
  split <;> rfl

theorem rooms?_erase (hdisplays : c'.displays = c.displays.erase display) (other : DisplayId) :
    c'.rooms? other = if display = other then none else c.rooms? other := by
  rw [rooms?, rooms?, hdisplays, Table.get?_erase]
  split <;> rfl

theorem layerSlots?_erase (hdisplays : c'.displays = c.displays.erase display)
    (other : DisplayId) (layer : LayerId) :
    c'.layerSlots? other layer = if display = other then none else c.layerSlots? other layer := by
  rw [layerSlots?, layerSlots?, hdisplays, Table.get?_erase]
  split <;> rfl

/-- Two caches with room for the same images. -/
structure SameRooms (c c' : Cache) : Prop where
  rooms : ∀ display, c'.rooms? display = c.rooms? display
  layers : ∀ display layer, c'.layerSlots? display layer = c.layerSlots? display layer

theorem SameRooms.refl : SameRooms c c := ⟨fun _ => rfl, fun _ _ => rfl⟩

theorem SameRooms.has (h : SameRooms c c') {place : Scope} : c'.Has place ↔ c.Has place := by
  simp only [Has, h.rooms, h.layers]

theorem rooms?_of_insert (hdisplays : c'.displays = c.displays.insert display entry')
    (hentry : c.displays.get? display = some entry)
    (htargets : entry'.clientTargets.count = entry.clientTargets.count)
    (houtputs : entry'.outputBuffers.map (·.count) = entry.outputBuffers.map (·.count))
    (other : DisplayId) : c'.rooms? other = c.rooms? other := by
  rw [rooms?_insert hdisplays]
  split
  · rename_i heq
    rw [← heq, rooms?, hentry, Option.map_some, htargets, houtputs]
  · rfl

theorem SameRooms.of_insert (hdisplays : c'.displays = c.displays.insert display entry')
    (hentry : c.displays.get? display = some entry)
    (htargets : entry'.clientTargets.count = entry.clientTargets.count)
    (houtputs : entry'.outputBuffers.map (·.count) = entry.outputBuffers.map (·.count))
    (hlayers : ∀ layer, (entry'.layers.get? layer).map (·.buffers.count) =
      (entry.layers.get? layer).map (·.buffers.count)) : SameRooms c c' where
  rooms := rooms?_of_insert hdisplays hentry htargets houtputs
  layers other layer := by
    rw [layerSlots?_insert hdisplays]
    split
    · rename_i heq
      rw [← heq, layerSlots?_of_get? hentry, hlayers]
    · rfl

/-- A resolution needs no room that was not there. -/
theorem Resolves.sameRooms {handle : Option NativeHandle} {scope : Scope} {r : Resolution}
    (h : c.Resolves handle scope r c') : SameRooms c c' := by
  have hreplaced : ∀ {entry : DisplayEntry} {layer : LayerId} {cached cached' : LayerEntry},
      entry.layers.get? layer = some cached → cached'.buffers.count = cached.buffers.count →
      ∀ other, ((entry.layers.insert layer cached').get? other).map (·.buffers.count) =
        (entry.layers.get? other).map (·.buffers.count) := by
    intro entry layer cached cached' hcached hcount other
    rw [Table.get?_insert]
    split
    · rename_i heq
      rw [← heq, hcached, Option.map_some, Option.map_some, hcount]
    · rfl
  cases h with
  | clientTarget hentry hfound =>
    exact .of_insert rfl hentry (Slots.found_lookup hfound).1 rfl fun _ => rfl
  | outputBuffer hentry hslots hfound =>
    refine .of_insert rfl hentry rfl ?_ fun _ => rfl
    rw [hslots, Option.map_some, Option.map_some, (Slots.found_lookup hfound).1]
  | layerBuffer hentry hcached hfound =>
    exact .of_insert rfl hentry rfl rfl (hreplaced hcached (Slots.found_lookup hfound).1)
  | sideband hentry hcached hhandle =>
    exact .of_insert rfl hentry rfl rfl (hreplaced hcached rfl)

theorem setMustValidate_sameRooms (display : DisplayId) (b : Bool) (c : Cache) :
    SameRooms c (c.setMustValidate display b) := by
  unfold setMustValidate
  split
  · exact .refl
  · rename_i entry hentry
    exact .of_insert rfl hentry rfl rfl fun _ => rfl

section Layers

variable {layer : LayerId} {slots : UInt32}

theorem rooms?_addLayer (h : c.addLayer display layer slots = .ok c') (other : DisplayId) :
    c'.rooms? other = c.rooms? other := by
  obtain ⟨entry, hentry, -, rfl⟩ := addLayer_ok.1 h
  refine rooms?_of_insert rfl hentry ?_ ?_ other <;> rfl

theorem layerSlots?_addLayer (h : c.addLayer display layer slots = .ok c') (other : DisplayId)
    (l : LayerId) : c'.layerSlots? other l =
      if display = other ∧ layer = l then some slots.toNat else c.layerSlots? other l := by
  obtain ⟨entry, hentry, -, rfl⟩ := addLayer_ok.1 h
  rw [layerSlots?_insert rfl, Table.get?_insert]
  by_cases hdisplay : display = other
  · by_cases hlayer : layer = l
    · simp [hdisplay, hlayer, Slots.vacant]
    · rw [← hdisplay, layerSlots?_of_get? hentry]
      simp [hlayer]
  · simp [hdisplay]

theorem rooms?_removeLayer (h : c.removeLayer display layer = .ok c') (other : DisplayId) :
    c'.rooms? other = c.rooms? other := by
  obtain ⟨entry, removed, hentry, -, rfl⟩ := removeLayer_ok.1 h
  refine rooms?_of_insert rfl hentry ?_ ?_ other <;> rfl

theorem layerSlots?_removeLayer (h : c.removeLayer display layer = .ok c') (other : DisplayId)
    (l : LayerId) : c'.layerSlots? other l =
      if display = other ∧ layer = l then none else c.layerSlots? other l := by
  obtain ⟨entry, removed, hentry, -, rfl⟩ := removeLayer_ok.1 h
  rw [layerSlots?_insert rfl, Table.get?_erase]
  by_cases hdisplay : display = other
  · by_cases hlayer : layer = l
    · simp [hdisplay, hlayer]
    · rw [← hdisplay, layerSlots?_of_get? hentry]
      simp [hlayer]
  · simp [hdisplay]

end Layers

/-- A place with an image is there. -/
theorem has_of_imageAt? {place : Scope} {image : Image} (h : c.imageAt? place = some image) :
    c.Has place := by
  obtain ⟨entry, hentry, hin⟩ := Option.bind_eq_some_iff.1 h
  refine ⟨by rw [rooms?, hentry]; rfl, fun layer hlayer => ?_⟩
  rw [layerSlots?_of_get? hentry, Option.isSome_map]
  cases place with
  | clientTarget | outputBuffer => cases hlayer
  | layerBuffer display l slot | sideband display l =>
    obtain rfl := Option.some.inj hlayer
    obtain ⟨cached, hcached, -⟩ := Option.bind_eq_some_iff.1 hin
    rw [hcached]
    rfl

/-- A resolution finds the image that was there before, or imports one. -/
theorem Resolves.found {handle : Option NativeHandle} {scope : Scope} {r : Resolution}
    (h : c.Resolves handle scope r c') :
    (handle = none → c.imageAt? scope = some r.image) ∧
      ∀ native, handle = some native → r.image = ⟨c.imported, native⟩ := by
  cases h with
  | clientTarget hentry hfound =>
    rw [imageAt?_of_get? hentry rfl]
    exact (Slots.found_lookup hfound).2
  | outputBuffer hentry hslots hfound =>
    rw [imageAt?_of_get? hentry rfl, imageIn?, hslots]
    exact (Slots.found_lookup hfound).2
  | layerBuffer hentry hcached hfound =>
    rw [imageAt?_of_get? hentry rfl, imageIn?, hcached]
    exact (Slots.found_lookup hfound).2
  | sideband hentry hcached hhandle =>
    obtain rfl := hhandle
    refine ⟨by simp, fun _ heq => ?_⟩
    obtain rfl := Option.some.inj heq
    rfl

end Cache

end DisplayComposer
