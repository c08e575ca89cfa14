import DisplayComposer.Proofs.Cache.Places
/-!
# DisplayComposer.Proofs.Cache.Bare

**What a cache holds for one display.** Two caches can hold the same for a display and yet
differ in the serial numbers of its images, as imports are numbered for all displays
together. Without these numbers, the answer to a resolution and what it leaves for its
display depend on nothing but what is held for that display. What is held for others is left
alone.

* `Image.bare`, `DisplayEntry.bare` — what is left without serial numbers;
* `Cache.bare?` — what a cache holds for a display;
* `Cache.resolve_bare` — a resolution depends on nothing else;
* `Cache.get?_resolve` — and leaves other displays alone.
-/

namespace DisplayComposer

/-! ### Without serial numbers -/

/-- An image without the number of its import. -/
def Image.bare (i : Image) : Image := { i with serial := 0 }

def Slots.bare (s : Slots) : Slots := { s with cached := s.cached.mapValues fun _ i => i.bare }

def LayerEntry.bare (e : LayerEntry) : LayerEntry := ⟨e.buffers.bare, e.sideband.map (·.bare)⟩

def DisplayEntry.bare (e : DisplayEntry) : DisplayEntry where
  mustValidate := e.mustValidate
  clientTargets := e.clientTargets.bare
  outputBuffers := e.outputBuffers.map (·.bare)
  layers := e.layers.mapValues fun _ l => l.bare

/-- What a cache holds for a display. -/
def Cache.bare? (c : Cache) (display : DisplayId) : Option DisplayEntry :=
  (c.displays.get? display).map (·.bare)

/-! ### Lookups -/

/-- What comes to the same is the same error, or results that come to the same. -/
theorem Except.map_eq_map_cases {ε α β : Type} {f : α → β} {x y : Except ε α}
    (h : x.map f = y.map f) :
    (∃ e, x = .error e ∧ y = .error e) ∨ ∃ a b, x = .ok a ∧ y = .ok b ∧ f a = f b := by
  cases x with
  | error e =>
    cases y with
    | error e' =>
      obtain rfl : e = e' := Except.error.inj h
      exact .inl ⟨e, rfl, rfl⟩
    | ok b => cases h
  | ok a =>
    cases y with
    | error e' => cases h
    | ok b => exact .inr ⟨a, b, rfl, rfl, Except.ok.inj h⟩

/-- What comes to the same is missing on both sides, or there on both. -/
theorem Option.map_eq_map_cases {α β : Type} {f : α → β} {x y : Option α}
    (h : x.map f = y.map f) :
    (x = none ∧ y = none) ∨ ∃ a b, x = some a ∧ y = some b ∧ f a = f b := by
  cases x with
  | none =>
    cases y with
    | none => exact .inl ⟨rfl, rfl⟩
    | some b => cases h
  | some a =>
    cases y with
    | none => cases h
    | some b => exact .inr ⟨a, b, rfl, rfl, Option.some.inj h⟩

/-- What comes of a lookup, without serial numbers. -/
def Lookup.bare (r : Lookup) : Slots × Image := (r.slots.bare, r.found.image.bare)

namespace Slots

/-- A lookup depends on the slots without serial numbers. -/
theorem lookup_bare {s s' : Slots} (h : s.bare = s'.bare) (slot : Int32)
    (handle : Option NativeHandle) (n n' : Nat) :
    (s.lookup slot handle n).map Lookup.bare = (s'.lookup slot handle n').map Lookup.bare := by
  have hcount : s.count = s'.count := by
    simpa only [bare] using congrArg Slots.count h
  have hcached : ∀ i, (s.cached.get? i).map Image.bare = (s'.cached.get? i).map Image.bare := by
    intro i
    simpa only [bare, Table.get?_mapValues] using congrArg (fun s => s.cached.get? i) h
  have hindex : s.index? slot = s'.index? slot := by
    rw [index?, index?, hcount]
  rw [lookup, lookup, hindex, hcount]
  cases s'.index? slot with
  | none => rfl
  | some i =>
    cases handle with
    | none =>
      dsimp only
      rcases Option.map_eq_map_cases (hcached i) with ⟨hs, hs'⟩ | ⟨image, image', hs, hs', himage⟩
      · rw [hs, hs']
      · rw [hs, hs']
        exact congrArg Except.ok (Prod.ext h himage)
    | some native =>
      dsimp only [importImage]
      cases native.isEmpty with
      | true => rfl
      | false =>
        -- the images that are imported differ in their numbers only
        refine congrArg Except.ok (Prod.ext ?_ rfl)
        have htables : s.cached.mapValues (fun _ i => i.bare) =
            s'.cached.mapValues (fun _ i => i.bare) := by
          simpa only [bare] using congrArg Slots.cached h
        simp only [Lookup.bare, bare, Table.mapValues_insert, htables]
        rfl

end Slots

/-! ### Resolutions -/

namespace Cache

variable {c c' : Cache} {display : DisplayId}

theorem bare?_update (c : Cache) (display : DisplayId) (entry : DisplayEntry) (n : Nat) :
    (c.update display entry n).bare? display = some entry.bare := by
  rw [bare?, update, Table.get?_insert_self, Option.map_some]

/-- What comes of a resolution for a display, without serial numbers. -/
def outcome (display : DisplayId) (r : Resolution × Cache) : Image × Option DisplayEntry :=
  (r.1.image.bare, r.2.bare? display)

/-- Two lookups that come to the same, each in slots that are then put back into the entry
of a display. -/
theorem outcome_lookup {x x' : Except CacheError Lookup}
    (hx : x.map Lookup.bare = x'.map Lookup.bare) (put put' : Slots → DisplayEntry)
    (hput : ∀ s s', s.bare = s'.bare → (put s).bare = (put' s').bare) :
    Except.map (outcome display)
        (do let r ← x; pure (r.found, c.update display (put r.slots) r.imported)) =
      Except.map (outcome display)
        (do let r ← x'; pure (r.found, c'.update display (put' r.slots) r.imported)) := by
  rcases Except.map_eq_map_cases hx with ⟨refusal, rfl, rfl⟩ | ⟨r, r', rfl, rfl, hr⟩
  · rfl
  · obtain ⟨hslots, himage⟩ := Prod.mk.inj hr
    refine congrArg Except.ok (Prod.ext himage ?_)
    show (c.update display (put r.slots) r.imported).bare? display =
      (c'.update display (put' r'.slots) r'.imported).bare? display
    rw [bare?_update, bare?_update, hput _ _ hslots]

/-- The layers of entries that come to the same. -/
theorem get?_layers_bare {entry entry' : DisplayEntry} (h : entry.bare = entry'.bare)
    (layer : LayerId) :
    (entry.layers.get? layer).map LayerEntry.bare =
      (entry'.layers.get? layer).map LayerEntry.bare := by
  simpa only [DisplayEntry.bare, Table.get?_mapValues] using
    congrArg (fun e : DisplayEntry => e.layers.get? layer) h

/-- Replacing a layer in entries that come to the same. -/
theorem bare_insert_layer {entry entry' : DisplayEntry} (h : entry.bare = entry'.bare)
    (layer : LayerId) {cached cached' : LayerEntry} (hcached : cached.bare = cached'.bare) :
    DisplayEntry.bare { entry with layers := entry.layers.insert layer cached } =
      DisplayEntry.bare { entry' with layers := entry'.layers.insert layer cached' } := by
  simp only [DisplayEntry.bare, DisplayEntry.mk.injEq, Table.mapValues_insert] at h ⊢
  rw [h.2.2.2, hcached]
  exact ⟨h.1, h.2.1, h.2.2.1, rfl⟩

/-! #### One place after the other -/

section Places

variable (slot : Int32) (handle : Option NativeHandle)

theorem resolve_clientTarget_bare (h : c.bare? display = c'.bare? display) :
    (c.resolve ⟨.clientTarget display slot, handle⟩).map (outcome display) =
      (c'.resolve ⟨.clientTarget display slot, handle⟩).map (outcome display) := by
  rcases Option.map_eq_map_cases h with ⟨hc, hc'⟩ | ⟨entry, entry', hc, hc', hentry⟩
  · simp only [resolve, hc, hc', Except.map]
  · have htargets : entry.clientTargets.bare = entry'.clientTargets.bare :=
      congrArg DisplayEntry.clientTargets hentry
    simp only [resolve, hc, hc']
    refine outcome_lookup (Slots.lookup_bare htargets slot handle _ _)
      (fun s => { entry with clientTargets := s }) (fun s => { entry' with clientTargets := s })
      fun s s' hs => ?_
    simp only [DisplayEntry.bare, DisplayEntry.mk.injEq] at hentry ⊢
    exact ⟨hentry.1, hs, hentry.2.2⟩

theorem resolve_outputBuffer_bare (h : c.bare? display = c'.bare? display) :
    (c.resolve ⟨.outputBuffer display slot, handle⟩).map (outcome display) =
      (c'.resolve ⟨.outputBuffer display slot, handle⟩).map (outcome display) := by
  rcases Option.map_eq_map_cases h with ⟨hc, hc'⟩ | ⟨entry, entry', hc, hc', hentry⟩
  · simp only [resolve, hc, hc', Except.map]
  · have houtputs : entry.outputBuffers.map Slots.bare = entry'.outputBuffers.map Slots.bare :=
      congrArg DisplayEntry.outputBuffers hentry
    simp only [resolve, hc, hc']
    rcases Option.map_eq_map_cases houtputs with ⟨ho, ho'⟩ | ⟨slots, slots', ho, ho', hslots⟩
    · simp only [ho, ho', Except.map]
    · simp only [ho, ho']
      refine outcome_lookup (Slots.lookup_bare hslots slot handle _ _)
        (fun s => { entry with outputBuffers := some s })
        (fun s => { entry' with outputBuffers := some s }) fun s s' hs => ?_
      simp only [DisplayEntry.bare, DisplayEntry.mk.injEq] at hentry ⊢
      exact ⟨hentry.1, hentry.2.1, congrArg some hs, hentry.2.2.2⟩

theorem resolve_layerBuffer_bare (layer : LayerId) (h : c.bare? display = c'.bare? display) :
    (c.resolve ⟨.layerBuffer display layer slot, handle⟩).map (outcome display) =
      (c'.resolve ⟨.layerBuffer display layer slot, handle⟩).map (outcome display) := by
  rcases Option.map_eq_map_cases h with ⟨hc, hc'⟩ | ⟨entry, entry', hc, hc', hentry⟩
  · simp only [resolve, hc, hc', Except.map]
  · simp only [resolve, hc, hc']
    rcases Option.map_eq_map_cases (get?_layers_bare hentry layer) with
      ⟨hl, hl'⟩ | ⟨cached, cached', hl, hl', hcached⟩
    · simp only [hl, hl', Except.map]
    · have hbuffers : cached.buffers.bare = cached'.buffers.bare :=
        congrArg LayerEntry.buffers hcached
      simp only [hl, hl']
      refine outcome_lookup (Slots.lookup_bare hbuffers slot handle _ _)
        (fun s => { entry with layers := entry.layers.insert layer { cached with buffers := s } })
        (fun s => { entry' with
          layers := entry'.layers.insert layer { cached' with buffers := s } })
        fun s s' hs => bare_insert_layer hentry layer ?_
      simp only [LayerEntry.bare, LayerEntry.mk.injEq] at hcached ⊢
      exact ⟨hs, hcached.2⟩

theorem resolve_sideband_bare (layer : LayerId) (h : c.bare? display = c'.bare? display) :
    (c.resolve ⟨.sideband display layer, handle⟩).map (outcome display) =
      (c'.resolve ⟨.sideband display layer, handle⟩).map (outcome display) := by
  cases handle with
  | none => rfl
  | some native =>
    simp only [resolve, importImage]
    cases native.isEmpty with
    | true => rfl
    | false =>
      rcases Option.map_eq_map_cases h with ⟨hc, hc'⟩ | ⟨entry, entry', hc, hc', hentry⟩
      · simp only [hc, hc']
        rfl
      · simp only [hc, hc']
        rcases Option.map_eq_map_cases (get?_layers_bare hentry layer) with
          ⟨hl, hl'⟩ | ⟨cached, cached', hl, hl', hcached⟩
        · simp only [hl, hl']
          rfl
        · simp only [hl, hl']
          refine congrArg Except.ok (Prod.ext rfl ?_)
          show (c.update display _ _).bare? display = (c'.update display _ _).bare? display
          rw [bare?_update, bare?_update]
          refine congrArg some (bare_insert_layer hentry layer ?_)
          simp only [LayerEntry.bare, LayerEntry.mk.injEq] at hcached ⊢
          exact ⟨hcached.1, rfl⟩

end Places

/-- **A resolution depends on what is held for its display,** without serial numbers. -/
theorem resolve_bare {ref : ImageRef}
    (h : c.bare? ref.scope.display = c'.bare? ref.scope.display) :
    (c.resolve ref).map (outcome ref.scope.display) =
      (c'.resolve ref).map (outcome ref.scope.display) := by
  obtain ⟨scope, handle⟩ := ref
  cases scope with
  | clientTarget display slot => exact resolve_clientTarget_bare slot handle h
  | outputBuffer display slot => exact resolve_outputBuffer_bare slot handle h
  | layerBuffer display layer slot => exact resolve_layerBuffer_bare slot handle layer h
  | sideband display layer => exact resolve_sideband_bare handle layer h

/-- A resolution leaves all other displays alone. -/
theorem get?_resolve {ref : ImageRef} {r : Resolution} (h : c.resolve ref = .ok (r, c'))
    (hdisplay : display ≠ ref.scope.display) :
    c'.displays.get? display = c.displays.get? display := by
  obtain ⟨scope, handle⟩ := ref
  cases resolve_cases h <;> exact Table.get?_insert_of_ne _ _ hdisplay.symm

/-! ### The note -/

theorem mustValidate_bare (h : c.bare? display = c'.bare? display) :
    c.mustValidate display = c'.mustValidate display := by
  rw [mustValidate, mustValidate]
  rcases Option.map_eq_map_cases h with ⟨hc, hc'⟩ | ⟨entry, entry', hc, hc', hentry⟩
  · rw [hc, hc']
  · rw [hc, hc']
    simpa only [DisplayEntry.bare] using congrArg DisplayEntry.mustValidate hentry

theorem setMustValidate_bare (b : Bool) (h : c.bare? display = c'.bare? display) :
    (c.setMustValidate display b).bare? display = (c'.setMustValidate display b).bare? display := by
  rw [setMustValidate, setMustValidate]
  rcases Option.map_eq_map_cases h with ⟨hc, hc'⟩ | ⟨entry, entry', hc, hc', hentry⟩
  · rwa [hc, hc']
  · rw [hc, hc', bare?, bare?, Table.get?_insert_self, Table.get?_insert_self]
    simp only [DisplayEntry.bare, DisplayEntry.mk.injEq] at hentry
    simp [DisplayEntry.bare, hentry.2]

theorem get?_setMustValidate (c : Cache) {other : DisplayId} (b : Bool) (h : display ≠ other) :
    (c.setMustValidate other b).displays.get? display = c.displays.get? display := by
  rw [setMustValidate]
  split
  · rfl
  · exact Table.get?_insert_of_ne _ _ h.symm

end Cache

end DisplayComposer
