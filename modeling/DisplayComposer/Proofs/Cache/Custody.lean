import DisplayComposer.Cache.Usage
import DisplayComposer.Proofs.Cache.Basic
/-!
# DisplayComposer.Proofs.Cache.Custody

**Where images are.** An image comes into a cache when it is imported, and it leaves
once: it is displaced or removed. What is displaced is parked with the resolution that
displaced it, until that is dropped, and what is dropped or removed is let go. Nothing
else happens to an image, in whatever order a cache is used.

All that can be said of one step is said as a balance: what is held afterwards, with
what left, is what was held before, with what came in. Balances are about lists up to
their order, so they are the same for the slots of a layer and for the whole cache.

* `Balance` — images that came in and that left;
* `Cache.balance_resolve`, `Cache.balance_removeLayer` and so on — the cache in balance;
* `CacheUse.run`, `CacheUse.imports` — any steps, and the images that they imported;
* `CacheUse.Custody`, `CacheUse.custody_run` — what any steps do to all images.
-/

namespace DisplayComposer

/-! ### Balances -/

/-- Of the images `held`, and those that `arrived` as the imports from number `n` on, some
have `left` and some are `held'`. The next import has number `n'`. -/
structure Balance (n : Nat) (held arrived left held' : List Image) (n' : Nat) : Prop where
  images : (held' ++ left).Perm (arrived ++ held)
  serials : arrived.map Image.serial = List.range' n arrived.length
  imported : n' = n + arrived.length

namespace Balance

variable {n n' n'' : Nat} {held held' held'' arrived arrived' left left' : List Image}

theorem refl (n : Nat) (held : List Image) : Balance n held [] [] held n :=
  ⟨by rw [List.append_nil, List.nil_append], rfl, rfl⟩

/-- The balance of a part is a balance of the whole. -/
theorem congr (h : Balance n held arrived left held' n') {rest whole whole' : List Image}
    (hwhole : whole.Perm (held ++ rest)) (hwhole' : whole'.Perm (held' ++ rest)) :
    Balance n whole arrived left whole' n' where
  images := by
    have himages := h.images
    simp only [List.perm_iff_count, List.count_append] at *
    intro image
    have := himages image
    have := hwhole image
    have := hwhole' image
    omega
  serials := h.serials
  imported := h.imported

/-- What arrived in two turns has consecutive numbers. -/
theorem serials_append (hserials : arrived.map Image.serial = List.range' n arrived.length)
    (hn : n' = n + arrived.length)
    (hserials' : arrived'.map Image.serial = List.range' n' arrived'.length) :
    (arrived ++ arrived').map Image.serial = List.range' n (arrived ++ arrived').length := by
  rw [List.map_append, hserials, hserials', hn, List.length_append, List.range'_append_1]

end Balance

/-! ### The cache -/

/-- What a resolution imported: with a handle, the image that it found. -/
def Resolution.arrived (r : Resolution) (handle : Option NativeHandle) : List Image :=
  handle.toList.map fun _ => r.image

theorem Slots.balance_lookup {s : Slots} {slot : Int32} {handle : Option NativeHandle} {n : Nat}
    {r : Lookup} (h : s.lookup slot handle n = .ok r) :
    Balance n s.images (r.found.arrived handle) r.found.parked r.slots.images r.imported := by
  rw [lookup] at h
  split at h
  · cases h
  · rename_i i hi
    cases handle with
    | none =>
      dsimp only at h
      split at h
      · cases h
      · cases h
        exact .refl n s.images
    | some handle =>
      obtain ⟨image, himport, hlast⟩ := Except.bind_eq_ok_iff.1 h
      obtain rfl := importImage_ok himport
      cases hlast
      refine ⟨?_, rfl, rfl⟩
      -- the image takes the place of the one that is parked
      show ((s.cached.insert i ⟨n, handle⟩).values ++ (s.cached.get? i).toList).Perm
        (⟨n, handle⟩ :: s.cached.values)
      refine ((s.cached.values_insert_perm i _).append_right _).trans (.cons _ ?_)
      exact List.perm_append_comm.trans (s.cached.values_perm_erase i).symm

namespace DisplayEntry

variable {e : DisplayEntry} {arrived left : List Image} {n n' : Nat}

/-- The images of one layer, and all others of the display. -/
theorem images_perm_layer {layer : LayerId} {cached : LayerEntry}
    (h : e.layers.get? layer = some cached) :
    e.images.Perm (cached.images ++ ((e.clientTargets.images ++
      (e.outputBuffers.map Slots.images).getD []) ++
        (e.layers.erase layer).values.flatMap LayerEntry.images)) := by
  have hlayers := (e.layers.values_perm_erase layer).flatMap_right LayerEntry.images
  rw [h, Option.toList_some, List.singleton_append, List.flatMap_cons] at hlayers
  exact (hlayers.append_left _).trans (List.perm_append_comm_assoc ..)

/-- What happens to the images of a layer is all that happens to those of the display. -/
theorem balance_layer {layer : LayerId} {cached cached' : LayerEntry}
    (hcached : e.layers.get? layer = some cached)
    (h : Balance n cached.images arrived left cached'.images n') :
    Balance n e.images arrived left
      { e with layers := e.layers.insert layer cached' }.images n' := by
  refine h.congr (images_perm_layer hcached) ?_
  have hperm := images_perm_layer (e := { e with layers := e.layers.insert layer cached' })
    (Table.get?_insert_self e.layers layer cached')
  rwa [Table.erase_insert] at hperm

end DisplayEntry

namespace Cache

variable {c c' : Cache} {arrived left : List Image}

/-- The images of one display, and those of all others. -/
theorem images_perm_display {display : DisplayId} {entry : DisplayEntry}
    (h : c.displays.get? display = some entry) :
    c.images.Perm (entry.images ++
      (c.displays.erase display).values.flatMap DisplayEntry.images) := by
  have hperm := (c.displays.values_perm_erase display).flatMap_right DisplayEntry.images
  rwa [h, Option.toList_some, List.singleton_append, List.flatMap_cons] at hperm

/-- The balance of everything in a cache. -/
abbrev Balanced (c : Cache) (arrived left : List Image) (c' : Cache) : Prop :=
  Balance c.imported c.images arrived left c'.images c'.imported

theorem balance_display {display : DisplayId} {entry entry' : DisplayEntry}
    (hentry : c.displays.get? display = some entry)
    (hdisplays : c'.displays = c.displays.insert display entry')
    (h : Balance c.imported entry.images arrived left entry'.images c'.imported) :
    c.Balanced arrived left c' := by
  refine h.congr (images_perm_display hentry) ?_
  have hperm : c'.images.Perm _ :=
    images_perm_display (hdisplays ▸ Table.get?_insert_self c.displays display entry')
  rwa [hdisplays, Table.erase_insert] at hperm

/-- A resolution imports at most one image, and parks the one that it displaced. -/
theorem Resolves.balance {handle : Option NativeHandle} {scope : Scope} {r : Resolution}
    (h : c.Resolves handle scope r c') : c.Balanced (r.arrived handle) r.parked c' := by
  cases h with
  | @clientTarget display slot entry found hentry hfound =>
    have hperm : ∀ s : Slots, { entry with clientTargets := s }.images.Perm (s.images ++
        ((entry.outputBuffers.map Slots.images).getD [] ++
          entry.layers.values.flatMap LayerEntry.images)) := fun s =>
      .of_eq (List.append_assoc ..)
    exact balance_display hentry rfl
      ((Slots.balance_lookup hfound).congr (hperm entry.clientTargets) (hperm found.slots))
  | @outputBuffer display slot entry slots found hentry hslots hfound =>
    have hperm : ∀ s : Slots, { entry with outputBuffers := some s }.images.Perm (s.images ++
        (entry.clientTargets.images ++ entry.layers.values.flatMap LayerEntry.images)) := fun s =>
      (List.Perm.of_eq (List.append_assoc ..)).trans (List.perm_append_comm_assoc ..)
    have hsame : { entry with outputBuffers := some slots } = entry := by rw [← hslots]
    exact balance_display hentry rfl
      ((Slots.balance_lookup hfound).congr (hsame ▸ hperm slots) (hperm found.slots))
  | layerBuffer hentry hcached hfound =>
    refine balance_display hentry rfl (DisplayEntry.balance_layer hcached ?_)
    exact (Slots.balance_lookup hfound).congr (.refl _) (.refl _)
  | sideband hentry hcached hhandle =>
    obtain rfl := hhandle
    refine balance_display hentry rfl (DisplayEntry.balance_layer hcached ⟨?_, rfl, rfl⟩)
    exact (List.Perm.of_eq (List.append_assoc ..)).trans (List.perm_append_comm_assoc ..)

theorem Resolves.released {handle : Option NativeHandle} {scope : Scope} {r : Resolution}
    (h : c.Resolves handle scope r c') : c'.released = c.released := by
  cases h <;> rfl

/-! ### Registration -/

/-- What a change of the registration does: some images are let go, none comes in. -/
structure LetsGo (c : Cache) (left : List Image) (c' : Cache) : Prop where
  balance : c.Balanced [] left c'
  released : c'.released = c.released + left.length

theorem addDisplay_letsGo {display : DisplayId} {targets : UInt32} {isVirtual : Bool}
    (h : c.addDisplay display targets isVirtual = .ok c') : c.LetsGo [] c' := by
  obtain ⟨hnone, rfl⟩ := addDisplay_ok.1 h
  refine ⟨(Balance.refl c.imported []).congr (.refl _) ?_, rfl⟩
  refine ((c.displays.values_insert_perm display _).flatMap_right DisplayEntry.images).trans ?_
  rw [Table.erase_of_get? hnone]
  cases isVirtual <;> exact .refl _

theorem removeDisplay_letsGo {display : DisplayId} (h : c.removeDisplay display = .ok c') :
    ∃ left, c.LetsGo left c' := by
  obtain ⟨entry, hentry, rfl⟩ := removeDisplay_ok.1 h
  refine ⟨entry.images, ⟨?_, rfl, rfl⟩, rfl⟩
  exact List.perm_append_comm.trans (images_perm_display hentry).symm

theorem addLayer_letsGo {display : DisplayId} {layer : LayerId} {slots : UInt32}
    (h : c.addLayer display layer slots = .ok c') : c.LetsGo [] c' := by
  obtain ⟨entry, hentry, hnone, rfl⟩ := addLayer_ok.1 h
  refine ⟨balance_display hentry rfl ((Balance.refl _ []).congr (.refl _) ?_), rfl⟩
  -- the new layer has no images
  have hlayers := (entry.layers.values_insert_perm layer
    ⟨.vacant slots.toNat, none⟩).flatMap_right LayerEntry.images
  rw [Table.erase_of_get? hnone] at hlayers
  exact hlayers.append_left _

theorem removeLayer_letsGo {display : DisplayId} {layer : LayerId}
    (h : c.removeLayer display layer = .ok c') : ∃ left, c.LetsGo left c' := by
  obtain ⟨entry, removed, hentry, hremoved, rfl⟩ := removeLayer_ok.1 h
  refine ⟨removed.images, balance_display hentry rfl ⟨?_, rfl, rfl⟩, rfl⟩
  exact List.perm_append_comm.trans (DisplayEntry.images_perm_layer hremoved).symm

theorem setMustValidate_letsGo (display : DisplayId) (b : Bool) (c : Cache) :
    c.LetsGo [] (c.setMustValidate display b) := by
  unfold setMustValidate
  split
  · exact ⟨.refl _ _, rfl⟩
  · rename_i entry hentry
    exact ⟨balance_display hentry rfl (.refl _ _), rfl⟩

end Cache

/-! ### A cache in use -/

namespace CacheUse

variable {u v w : CacheUse} {arrived arrived' left left' : List Image}

theorem drop_eq (u : CacheUse) (name : String) :
    u.drop name =
      ⟨u.cache.release ((u.kept.get? name).toList.flatMap (·.parked)), u.kept.erase name⟩ := by
  rw [drop]
  cases h : u.kept.get? name with
  | none => rw [Table.erase_of_get? h]; rfl
  | some r => simp

theorem keep_eq (u : CacheUse) (name : String) (r : Resolution) :
    u.keep name r =
      ⟨u.cache.release ((u.kept.get? name).toList.flatMap (·.parked)),
        u.kept.insert name r⟩ := by
  rw [keep, drop_eq, Table.insert_erase]

/-- The images parked under one name, and those under all others. -/
theorem parked_perm (u : CacheUse) (name : String) :
    u.parked.Perm ((u.kept.get? name).toList.flatMap (·.parked) ++
      (u.kept.erase name).values.flatMap (·.parked)) := by
  rw [← List.flatMap_append]
  exact (u.kept.values_perm_erase name).flatMap_right _

/-- The images that a step imports: a resolution with a handle answers with the one that
it imported. -/
def imported (u : CacheUse) (s : CacheStep) : List Image :=
  match s, (u.step s).1 with
  | .resolve ref _, .ok (.image image _) => ref.handle.toList.map fun _ => image
  | _, _ => []

/-- What some steps make of a cache in use. -/
def run : List CacheStep → CacheUse → CacheUse
  | [], u => u
  | s :: rest, u => run rest (u.step s).2

/-- The images that some steps import, in their order. -/
def imports : List CacheStep → CacheUse → List Image
  | [], _ => []
  | s :: rest, u => u.imported s ++ imports rest (u.step s).2

theorem run_append (steps later : List CacheStep) (u : CacheUse) :
    u.run (steps ++ later) = (u.run steps).run later := by
  induction steps generalizing u with
  | nil => rfl
  | cons s rest ih => exact ih _

theorem imports_append (steps later : List CacheStep) (u : CacheUse) :
    u.imports (steps ++ later) = u.imports steps ++ (u.run steps).imports later := by
  induction steps generalizing u with
  | nil => rfl
  | cons s rest ih =>
    rw [List.cons_append, imports, ih, ← List.append_assoc]
    rfl

/-- What happens to images between two states: those held afterwards, in the cache or
parked, are in balance; whatever is cached was cached before or has just come in; and
those that left are counted. -/
structure Custody (u : CacheUse) (arrived left : List Image) (v : CacheUse) : Prop where
  balance : Balance u.cache.imported (u.cache.images ++ u.parked) arrived left
    (v.cache.images ++ v.parked) v.cache.imported
  cached : ∀ image ∈ v.cache.images, image ∈ arrived ∨ image ∈ u.cache.images
  released : v.cache.released = u.cache.released + left.length

namespace Custody

theorem refl (u : CacheUse) : u.Custody [] [] u :=
  ⟨.refl _ _, fun _ h => .inr h, rfl⟩

theorem trans (h : u.Custody arrived left v) (h' : v.Custody arrived' left' w) :
    u.Custody (arrived ++ arrived') (left ++ left') w where
  balance := by
    refine ⟨?_, Balance.serials_append h.balance.serials h.balance.imported h'.balance.serials, ?_⟩
    · have himages := h.balance.images
      have himages' := h'.balance.images
      simp only [List.perm_iff_count, List.count_append] at *
      intro image
      have := himages image
      have := himages' image
      omega
    · rw [h'.balance.imported, h.balance.imported, List.length_append, Nat.add_assoc]
  cached image himage := by
    rcases h'.cached image himage with hlate | hbefore
    · exact .inl (List.mem_append_right _ hlate)
    · exact (h.cached image hbefore).imp_left (List.mem_append_left _)
  released := by rw [h'.released, h.released, List.length_append, Nat.add_assoc]

/-- A change of the registration lets images of the cache go, and parks none. -/
theorem of_letsGo {c' : Cache} (h : u.cache.LetsGo left c') :
    u.Custody [] left { u with cache := c' } where
  balance := h.balance.congr (.refl _) (.refl _)
  cached image himage := by
    have hperm := h.balance.images
    rw [List.nil_append] at hperm
    exact .inr (hperm.subset (List.mem_append_left _ himage))
  released := h.released

end Custody

/-- A step of the registration, whether it succeeds or not. -/
theorem custody_change {outcome : Except CacheError Cache}
    (h : ∀ c', outcome = .ok c' → ∃ left, u.cache.LetsGo left c') :
    ∃ left, u.Custody [] left (u.change outcome).2 := by
  cases outcome with
  | error _ => exact ⟨[], .refl u⟩
  | ok c' =>
    obtain ⟨left, hleft⟩ := h c' rfl
    exact ⟨left, .of_letsGo hleft⟩

/-- Dropping a resolution lets go of what was parked with it. -/
theorem custody_drop (u : CacheUse) (name : String) :
    u.Custody [] ((u.kept.get? name).toList.flatMap (·.parked)) (u.drop name) := by
  rw [drop_eq]
  refine ⟨⟨?_, rfl, rfl⟩, fun _ h => .inr h, rfl⟩
  have hparked := (u.parked_perm name).symm
  refine (List.Perm.of_eq (List.append_assoc ..)).trans (.append_left _ ?_)
  exact List.perm_append_comm.trans hparked

/-- A resolution imports at most one image. What it displaced and what was parked before
stays parked, but for the images `left` that are let go. -/
theorem custody_resolve {handle : Option NativeHandle} {scope : Scope} {r : Resolution}
    {c' : Cache} {kept : Table String Resolution} (h : u.cache.Resolves handle scope r c')
    (hparked : (parked ⟨c', kept⟩ ++ left).Perm (r.parked ++ u.parked)) :
    u.Custody (r.arrived handle) left ⟨c'.release left, kept⟩ where
  balance := by
    refine ⟨?_, h.balance.serials, h.balance.imported⟩
    show (c'.images ++ parked ⟨c', kept⟩ ++ left).Perm _
    have himages := h.balance.images
    simp only [List.perm_iff_count, List.count_append] at *
    intro image
    have := himages image
    have := hparked image
    omega
  cached image himage := by
    have hmem := h.balance.images.subset (List.mem_append_left _ himage)
    exact List.mem_append.1 hmem
  released := by rw [Cache.release, h.released]

/-- **What a step does to images.** -/
theorem custody_step (u : CacheUse) (s : CacheStep) :
    ∃ left, u.Custody (u.imported s) left (u.step s).2 := by
  cases s with
  | addDisplay display targets isVirtual =>
    exact custody_change fun c' h => ⟨[], Cache.addDisplay_letsGo h⟩
  | removeDisplay display => exact custody_change fun c' h => Cache.removeDisplay_letsGo h
  | addLayer display layer slots =>
    exact custody_change fun c' h => ⟨[], Cache.addLayer_letsGo h⟩
  | removeLayer display layer => exact custody_change fun c' h => Cache.removeLayer_letsGo h
  | mustValidate display => exact ⟨[], .refl u⟩
  | setMustValidate display b => exact ⟨[], .of_letsGo (Cache.setMustValidate_letsGo display b _)⟩
  | drop name => exact ⟨_, custody_drop u name⟩
  | resolve ref name =>
    cases h : u.cache.resolve ref with
    | error _ =>
      have hsame : (u.step (.resolve ref name)).2 = u := by simp only [step, h]
      have hnone : u.imported (.resolve ref name) = [] := by simp only [imported, step, h]
      rw [hsame, hnone]
      exact ⟨[], .refl u⟩
    | ok found =>
      obtain ⟨r, c'⟩ := found
      have hres := Cache.resolve_cases h
      cases name with
      | none =>
        simp only [imported, step, h]
        exact ⟨r.parked, custody_resolve hres List.perm_append_comm⟩
      | some name =>
        simp only [imported, step, h, keep_eq]
        refine ⟨_, custody_resolve hres ?_⟩
        -- the new resolution takes the place of the one that is dropped
        have hkept := (u.kept.values_insert_perm name r).flatMap_right (·.parked)
        refine (hkept.append_right _).trans ?_
        rw [List.flatMap_cons, List.append_assoc]
        exact .append_left _ (List.perm_append_comm.trans (u.parked_perm name).symm)

/-- **What any steps do to images.** -/
theorem custody_run (steps : List CacheStep) (u : CacheUse) :
    ∃ left, u.Custody (u.imports steps) left (u.run steps) := by
  induction steps generalizing u with
  | nil => exact ⟨[], .refl u⟩
  | cons s rest ih =>
    obtain ⟨left, hstep⟩ := custody_step u s
    obtain ⟨later, hrest⟩ := ih (u.step s).2
    exact ⟨left ++ later, hstep.trans hrest⟩

/-! ### From the empty cache on -/

/-- Every import is in one place: cached, parked, or among those let go, which are
counted. -/
theorem imports_perm (steps : List CacheStep) :
    ∃ gone, ((empty.run steps).cache.images ++ (empty.run steps).parked ++ gone).Perm
        (empty.imports steps) ∧
      gone.length = (empty.run steps).cache.released := by
  obtain ⟨gone, h⟩ := custody_run steps empty
  refine ⟨gone, ?_, ?_⟩
  · have hnone : empty.cache.images ++ empty.parked = [] := rfl
    have himages := h.balance.images
    rwa [hnone, List.append_nil] at himages
  · rw [h.released]
    exact (Nat.zero_add _).symm

/-- Imports are told apart by their numbers. -/
theorem serials_imports (steps : List CacheStep) :
    (empty.imports steps).map Image.serial = List.range (empty.imports steps).length := by
  obtain ⟨gone, h⟩ := custody_run steps empty
  rw [List.range_eq_range']
  exact h.balance.serials

/-- Two imports with one number are one. -/
theorem eq_of_mem_imports {steps : List CacheStep} {image other : Image}
    (himage : image ∈ empty.imports steps) (hother : other ∈ empty.imports steps)
    (hserial : image.serial = other.serial) : image = other := by
  have hnumber : ∀ i (hi : i < (empty.imports steps).length),
      ((empty.imports steps)[i]).serial = i := by
    intro i hi
    have hmap : ((empty.imports steps).map Image.serial)[i]? = some i := by
      rw [serials_imports, List.getElem?_range hi]
    simpa [hi] using hmap
  obtain ⟨i, hi, rfl⟩ := List.getElem_of_mem himage
  obtain ⟨j, hj, rfl⟩ := List.getElem_of_mem hother
  rw [hnumber i hi, hnumber j hj] at hserial
  simp only [hserial]

/-- What is cached was imported. -/
theorem mem_imports_of_cached {steps : List CacheStep} {image : Image}
    (h : image ∈ (empty.run steps).cache.images) : image ∈ empty.imports steps := by
  obtain ⟨gone, hperm, -⟩ := imports_perm steps
  exact hperm.subset (List.mem_append_left _ (List.mem_append_left _ h))

/-- The imports that a cache counts. -/
theorem length_imports (steps : List CacheStep) :
    (empty.imports steps).length = (empty.run steps).cache.imported := by
  obtain ⟨gone, h⟩ := custody_run steps empty
  rw [h.balance.imported]
  exact (Nat.zero_add _).symm

/-- An image that was imported is not imported again. -/
theorem not_mem_imports {steps later : List CacheStep} {image : Image}
    (h : image ∈ empty.imports steps) : image ∉ (empty.run steps).imports later := by
  intro hlater
  have hnodup : ((empty.imports (steps ++ later)).map Image.serial).Nodup := by
    rw [serials_imports]
    exact List.nodup_range
  rw [imports_append, List.map_append, List.nodup_append] at hnodup
  exact hnodup.2.2 _ (List.mem_map_of_mem h) _ (List.mem_map_of_mem hlater) rfl

/-- An image that is not cached any more is never cached again. -/
theorem not_cached_again {steps : List CacheStep} {image : Image}
    (himport : image ∈ empty.imports steps)
    (h : image ∉ (empty.run steps).cache.images) (later : List CacheStep) :
    image ∉ ((empty.run steps).run later).cache.images := by
  intro hcached
  obtain ⟨left, hcustody⟩ := custody_run later (empty.run steps)
  rcases hcustody.cached image hcached with hlater | hbefore
  · exact not_mem_imports himport hlater
  · exact h hbefore

/-- Nor is another one with its number. -/
theorem not_same_cached_again {steps : List CacheStep} {image other : Image}
    (himport : image ∈ empty.imports steps)
    (h : image ∉ (empty.run steps).cache.images) (later : List CacheStep)
    (hother : other ∈ ((empty.run steps).run later).cache.images) :
    other.same image = false := by
  cases hsame : other.same image with
  | false => rfl
  | true =>
    have himport' : image ∈ empty.imports (steps ++ later) := by
      rw [imports_append]
      exact List.mem_append_left _ himport
    have hother' : other ∈ empty.imports (steps ++ later) :=
      mem_imports_of_cached (by rwa [run_append])
    obtain rfl := eq_of_mem_imports hother' himport' (beq_iff_eq.1 hsame)
    exact absurd hother (not_cached_again himport h later)

/-- An image that is neither cached nor parked any more is never parked again. -/
theorem not_parked_again {steps : List CacheStep} {image : Image}
    (himport : image ∈ empty.imports steps)
    (hcached : image ∉ (empty.run steps).cache.images)
    (hparked : image ∉ (empty.run steps).parked) (later : List CacheStep) :
    image ∉ ((empty.run steps).run later).parked := by
  intro hmem
  obtain ⟨left, hcustody⟩ := custody_run later (empty.run steps)
  have hfrom := hcustody.balance.images.subset
    (List.mem_append_left left (List.mem_append_right _ hmem))
  rcases List.mem_append.1 hfrom with hlater | hbefore
  · exact not_mem_imports himport hlater
  · exact (List.mem_append.1 hbefore).elim hcached hparked

end CacheUse

end DisplayComposer
