import DisplayComposer.Proofs.Cache.Basic
/-!
# DisplayComposer.Proofs.Cache.Places

**What the cache holds in each place.** A resolution puts the image that it found in its
place, or finds it there, and leaves all other places alone: other slots, the stream
beside the buffers, other layers and other displays. Layers are registered without
images and take their own with them when they go.

* `Cache.imageAt?` — the image of a place;
* `Cache.Resolves.imageAt?_eq` — all places after a resolution;
* `Cache.imageAt?_addLayer`, `Cache.imageAt?_removeLayer` — after a registration.
-/

namespace DisplayComposer

/-- The display of a place. -/
def Scope.display : Scope → DisplayId
  | .clientTarget display _ | .outputBuffer display _ | .layerBuffer display _ _
  | .sideband display _ => display

/-- The layer of a place, if it is one of a layer. -/
def Scope.layer? : Scope → Option LayerId
  | .clientTarget _ _ | .outputBuffer _ _ => none
  | .layerBuffer _ layer _ | .sideband _ layer => some layer

namespace Slots

def imageAt? (s : Slots) (slot : Int32) : Option Image := (s.index? slot).bind s.cached.get?

theorem toInt_of_index? {s : Slots} {slot : Int32} {i : Nat} (h : s.index? slot = some i) :
    slot.toInt = i := by
  rw [index?] at h
  split at h
  · rename_i hrange
    have hi : slot.toInt.toNat = i := Option.some.inj h
    omega
  · cases h

/-- Different slots have different numbers. -/
theorem index?_inj {s : Slots} {a b : Int32} {i : Nat} (ha : s.index? a = some i)
    (hb : s.index? b = some i) : a = b := by
  rw [← Int32.toInt_inj, toInt_of_index? ha, toInt_of_index? hb]

theorem imageAt?_insert {s : Slots} {slot : Int32} {i : Nat} (hi : s.index? slot = some i)
    (image : Image) (other : Int32) :
    imageAt? { s with cached := s.cached.insert i image } other =
      if other = slot then some image else s.imageAt? other := by
  show (s.index? other).bind (s.cached.insert i image).get? = _
  by_cases hslot : other = slot
  · rw [if_pos hslot, hslot, hi]
    exact Table.get?_insert_self ..
  · rw [if_neg hslot, imageAt?]
    cases hother : s.index? other with
    | none => rfl
    | some j =>
      have hij : i ≠ j := fun heq => hslot (index?_inj (heq ▸ hother) hi)
      exact Table.get?_insert_of_ne _ _ hij

/-- A lookup finds the image that is then in its slot, and leaves the others alone. -/
theorem imageAt?_lookup {s : Slots} {slot : Int32} {handle : Option NativeHandle} {n : Nat}
    {r : Lookup} (h : s.lookup slot handle n = .ok r) (other : Int32) :
    r.slots.imageAt? other = if other = slot then some r.found.image else s.imageAt? other := by
  rw [lookup] at h
  split at h
  · cases h
  · rename_i i hi
    cases handle with
    | none =>
      dsimp only at h
      split at h
      · cases h
      · rename_i image himage
        cases h
        by_cases hslot : other = slot
        · rw [if_pos hslot, hslot, imageAt?, hi]
          exact himage
        · rw [if_neg hslot]
    | some handle =>
      obtain ⟨image, himport, hlast⟩ := Except.bind_eq_ok_iff.1 h
      cases hlast
      exact imageAt?_insert hi image other

theorem imageAt?_vacant (count : Nat) (slot : Int32) : (vacant count).imageAt? slot = none := by
  cases (vacant count).index? slot <;> simp [imageAt?, vacant]

end Slots

namespace Cache

/-- The image of a place of a display. -/
def imageIn? (e : DisplayEntry) : Scope → Option Image
  | .clientTarget _ slot => e.clientTargets.imageAt? slot
  | .outputBuffer _ slot => e.outputBuffers.bind (·.imageAt? slot)
  | .layerBuffer _ layer slot => (e.layers.get? layer).bind (·.buffers.imageAt? slot)
  | .sideband _ layer => (e.layers.get? layer).bind (·.sideband)

/-- The image of a place. -/
def imageAt? (c : Cache) (s : Scope) : Option Image :=
  (c.displays.get? s.display).bind (imageIn? · s)

variable {c c' : Cache}

/-- What is in a place is known from the entry of its display. -/
theorem imageAt?_congr {s : Scope}
    (h : c'.displays.get? s.display = c.displays.get? s.display) : c'.imageAt? s = c.imageAt? s := by
  rw [imageAt?, imageAt?, h]

theorem imageAt?_of_get? {display : DisplayId} {entry : DisplayEntry}
    (hentry : c.displays.get? display = some entry) {s : Scope} (hs : s.display = display) :
    c.imageAt? s = imageIn? entry s := by
  rw [imageAt?, hs, hentry]
  rfl

/-- Where the entry of one display is replaced, the places of that display are to be
looked at, and no others. -/
theorem imageAt?_update {display : DisplayId} {entry entry' : DisplayEntry}
    (hdisplays : c'.displays = c.displays.insert display entry')
    (hentry : c.displays.get? display = some entry) {f : Scope → Option Image → Option Image}
    (hdisplay : ∀ s, s.display = display → imageIn? entry' s = f s (imageIn? entry s))
    (hothers : ∀ s, s.display ≠ display → ∀ image, f s image = image) (s : Scope) :
    c'.imageAt? s = f s (c.imageAt? s) := by
  by_cases hs : s.display = display
  · have hentry' : c'.displays.get? display = some entry' :=
      hdisplays ▸ Table.get?_insert_self c.displays display entry'
    rw [imageAt?_of_get? hentry' hs, imageAt?_of_get? hentry hs, hdisplay s hs]
  · rw [hothers s hs]
    exact imageAt?_congr (hdisplays ▸ Table.get?_insert_of_ne _ _ fun h => hs h.symm)

/-- Where one place of a display is filled, all other places are left alone. -/
theorem imageAt?_fill {scope : Scope} {entry entry' : DisplayEntry} {image : Image}
    (hdisplays : c'.displays = c.displays.insert scope.display entry')
    (hentry : c.displays.get? scope.display = some entry)
    (hdisplay : ∀ s, s.display = scope.display →
      imageIn? entry' s = if s = scope then some image else imageIn? entry s) (s : Scope) :
    c'.imageAt? s = if s = scope then some image else c.imageAt? s :=
  imageAt?_update (f := fun s old => if s = scope then some image else old) hdisplays hentry
    hdisplay (fun _ hs _ => if_neg fun heq => hs (congrArg Scope.display heq)) s

/-- What is in a place of a display depends on no layer but its own. -/
theorem imageIn?_congr {e : DisplayEntry} {layers : Table LayerId LayerEntry} {s : Scope}
    (hlayers : ∀ layer, s.layer? = some layer → layers.get? layer = e.layers.get? layer) :
    imageIn? { e with layers } s = imageIn? e s := by
  cases s with
  | layerBuffer display layer slot =>
    rw [imageIn?, imageIn?, hlayers layer rfl]
  | sideband display layer =>
    rw [imageIn?, imageIn?, hlayers layer rfl]
  | _ => rfl

theorem imageIn?_insert_of_ne {e : DisplayEntry} {layer : LayerId} {cached : LayerEntry} {s : Scope}
    (hs : s.layer? ≠ some layer) :
    imageIn? { e with layers := e.layers.insert layer cached } s = imageIn? e s :=
  imageIn?_congr fun _ hother =>
    Table.get?_insert_of_ne _ _ fun heq => hs (hother.trans (congrArg some heq.symm))

/-- **A resolution finds the image that is then in its place,** and leaves all other places
alone. -/
theorem Resolves.imageAt?_eq {handle : Option NativeHandle} {scope : Scope} {r : Resolution}
    (h : c.Resolves handle scope r c') (s : Scope) :
    c'.imageAt? s = if s = scope then some r.image else c.imageAt? s := by
  cases h with
  | clientTarget hentry hfound =>
    refine imageAt?_fill rfl hentry (fun s hs => ?_) s
    cases s with
    | clientTarget d slot =>
      obtain rfl := hs
      simpa [imageIn?, Scope.display] using Slots.imageAt?_lookup hfound slot
    | _ => rfl
  | outputBuffer hentry hslots hfound =>
    refine imageAt?_fill rfl hentry (fun s hs => ?_) s
    cases s with
    | outputBuffer d slot =>
      obtain rfl := hs
      simpa [imageIn?, Scope.display, hslots] using Slots.imageAt?_lookup hfound slot
    | _ => rfl
  | @layerBuffer display layer slot entry cached found hentry hcached hfound =>
    refine imageAt?_fill rfl hentry (fun s hs => ?_) s
    by_cases hlayer : s.layer? = some layer
    · cases s with
      | layerBuffer d l slot =>
        obtain rfl := hs
        obtain rfl := Option.some.inj hlayer
        simpa [imageIn?, Scope.display, hcached] using Slots.imageAt?_lookup hfound slot
      | sideband d l =>
        obtain rfl := Option.some.inj hlayer
        simp [imageIn?, hcached]
      | _ => cases hlayer
    · rw [imageIn?_insert_of_ne hlayer, if_neg fun heq => hlayer (congrArg Scope.layer? heq)]
  | @sideband display layer entry cached stream hentry hcached hhandle =>
    refine imageAt?_fill rfl hentry (fun s hs => ?_) s
    by_cases hlayer : s.layer? = some layer
    · cases s with
      | layerBuffer d l slot =>
        obtain rfl := Option.some.inj hlayer
        simp [imageIn?, hcached]
      | sideband d l =>
        obtain rfl := hs
        obtain rfl := Option.some.inj hlayer
        simp [imageIn?, Scope.display]
      | _ => cases hlayer
    · rw [imageIn?_insert_of_ne hlayer, if_neg fun heq => hlayer (congrArg Scope.layer? heq)]

/-! ### Registration -/

/-- A new layer has no images, and all other places stay as they are. -/
theorem imageAt?_addLayer {display : DisplayId} {layer : LayerId} {slots : UInt32}
    (h : c.addLayer display layer slots = .ok c') (s : Scope) : c'.imageAt? s = c.imageAt? s := by
  obtain ⟨entry, hentry, hnone, rfl⟩ := addLayer_ok.1 h
  refine imageAt?_update (f := fun _ image => image) rfl hentry (fun s hs => ?_)
    (fun _ _ _ => rfl) s
  by_cases hlayer : s.layer? = some layer
  · cases s with
    | layerBuffer d l slot =>
      obtain rfl := Option.some.inj hlayer
      simp [imageIn?, hnone, Slots.imageAt?_vacant]
    | sideband d l =>
      obtain rfl := Option.some.inj hlayer
      simp [imageIn?, hnone]
    | _ => cases hlayer
  · exact imageIn?_insert_of_ne hlayer

/-- Removing a layer leaves all places alone that are not the layer's own. -/
theorem imageAt?_removeLayer {display : DisplayId} {layer : LayerId}
    (h : c.removeLayer display layer = .ok c') {s : Scope}
    (hs : s.display = display → s.layer? ≠ some layer) : c'.imageAt? s = c.imageAt? s := by
  obtain ⟨entry, removed, hentry, hremoved, rfl⟩ := removeLayer_ok.1 h
  by_cases hdisplay : s.display = display
  · have hlayer := hs hdisplay
    rw [imageAt?_of_get? (Table.get?_insert_self ..) hdisplay, imageAt?_of_get? hentry hdisplay]
    refine imageIn?_congr fun other hother => ?_
    rw [Table.get?_erase, if_neg fun heq => hlayer (hother.trans (congrArg some heq.symm))]
  · exact imageAt?_congr (Table.get?_insert_of_ne _ _ fun h => hdisplay h.symm)

theorem imageAt?_setMustValidate (display : DisplayId) (b : Bool) (s : Scope) :
    (c.setMustValidate display b).imageAt? s = c.imageAt? s := by
  unfold setMustValidate
  split
  · rfl
  · rename_i entry hentry
    refine imageAt?_update (f := fun _ image => image) rfl hentry (fun s hs => ?_)
      (fun _ _ _ => rfl) s
    cases s <;> rfl

/-- What is found in a place is in the cache. -/
theorem mem_images_of_imageAt? {s : Scope} {image : Image} (h : c.imageAt? s = some image) :
    image ∈ c.images := by
  obtain ⟨entry, hentry, hin⟩ := Option.bind_eq_some_iff.1 h
  refine List.mem_flatMap.2 ⟨entry, Table.mem_values_iff.2 ⟨_, hentry⟩, ?_⟩
  have hslots : ∀ {slots : Slots} {slot : Int32}, slots.imageAt? slot = some image →
      image ∈ slots.images := by
    intro slots slot hslot
    obtain ⟨i, -, hi⟩ := Option.bind_eq_some_iff.1 hslot
    exact Table.mem_values_iff.2 ⟨i, hi⟩
  have hlayer : ∀ {layer : LayerId} {cached : LayerEntry},
      entry.layers.get? layer = some cached → image ∈ cached.images → image ∈ entry.images := by
    intro layer cached hcached hmem
    exact List.mem_append_right _
      (List.mem_flatMap.2 ⟨cached, Table.mem_values_iff.2 ⟨_, hcached⟩, hmem⟩)
  cases s with
  | clientTarget display slot => simp [DisplayEntry.images, hslots hin]
  | outputBuffer display slot =>
    obtain ⟨slots, hsome, hslot⟩ := Option.bind_eq_some_iff.1 hin
    simp [DisplayEntry.images, hsome, hslots hslot]
  | layerBuffer display layer slot =>
    obtain ⟨cached, hcached, hslot⟩ := Option.bind_eq_some_iff.1 hin
    exact hlayer hcached (List.mem_append_left _ (hslots hslot))
  | sideband display layer =>
    obtain ⟨cached, hcached, hstream⟩ := Option.bind_eq_some_iff.1 hin
    exact hlayer hcached (List.mem_append_right _ (Option.mem_toList.2 hstream))

end Cache

end DisplayComposer
