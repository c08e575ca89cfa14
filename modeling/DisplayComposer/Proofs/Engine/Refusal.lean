import DisplayComposer.Proofs.Engine.Standing
/-!
# DisplayComposer.Proofs.Engine.Refusal

**What a refused request leaves.** A display can be taken from the cache while the hardware
goes on knowing it. From then on the two registries differ, and a layer that the hardware has
created may be refused by the cache. It is destroyed again, and nothing is left of it: its id
was new, so no other layer is in its place. But a layer that comes or goes makes its display
unvalidated, and the id is used up. Any other request that is refused leaves all as it was.

* `Engine.forget`, `Engine.ReachesForgetting` — runs in which displays are taken from the cache;
* `Issued` — no id is in use that is still to be given out;
* `Headless.destroyLayer_of_created` — what comes of creating and destroying a layer;
* `Engine.handle_refused` — what is left.
-/

namespace DisplayComposer

/-! ### Runs -/

namespace Engine

/-- Have the cache forget a display, if it knows it. -/
def forget {σ : Type} (display : DisplayId) (e : Engine σ Cache) : Engine σ Cache :=
  match e.resources.removeDisplay display with
  | .ok resources => { e with resources }
  | .error _ => e

/-- What requests make of an engine from whose cache displays are taken now and then. -/
inductive ReachesForgetting {σ : Type} [Hardware σ] (e : Engine σ Cache) :
    Engine σ Cache → Prop where
  | refl : ReachesForgetting e e
  | request {f g : Engine σ Cache} {request : Request} {reply : Reply} :
      ReachesForgetting e f → f.handle request = .ok (reply, g) → ReachesForgetting e g
  | forget {f : Engine σ Cache} (display : DisplayId) :
      ReachesForgetting e f → ReachesForgetting e (f.forget display)

theorem Reaches.forgetting {σ : Type} [Hardware σ] {e f : Engine σ Cache} (hreached : e.Reaches f) :
    e.ReachesForgetting f := by
  induction hreached with
  | refl => exact .refl
  | request _ hrun ih => exact .request ih hrun

end Engine

/-! ### Ids in use -/

/-- No id is in use that is still to be given out, be it with the hardware or with the cache. -/
structure Issued (h : Headless) (c : Cache) : Prop where
  hardware : h.IdsBelow
  cache : ∀ display layer, (c.layerSlots? display layer).isSome = true → layer < h.nextLayer

namespace Issued

variable {h t : Headless} {c c' : Cache} {display : DisplayId} {layer : LayerId}

/-- The cache may forget layers. -/
theorem shrink (hi : Issued h c) (hless : ∀ display layer,
    (c'.layerSlots? display layer).isSome = true → (c.layerSlots? display layer).isSome = true) :
    Issued h c' :=
  ⟨hi.hardware, fun display layer hlayer => hi.cache display layer (hless display layer hlayer)⟩

theorem congr (hi : Issued h c) (hsame : h.SameLayers t) (hrooms : c.SameRooms c') :
    Issued t c' where
  hardware := hi.hardware.congr hsame
  cache display layer hlayer := by
    rw [hrooms.layers] at hlayer
    rw [hsame.nextLayer]
    exact hi.cache display layer hlayer

theorem create (hi : Issued h c)
    (hcreate : Hardware.perform (.createLayer display) h = .ok (.ok layer, t)) : Issued t c := by
  refine ⟨hi.hardware.create hcreate, fun other id hid => ?_⟩
  obtain ⟨d, -, -, hmax, rfl⟩ := Headless.createLayer_ok hcreate
  exact Int64.lt_add_one_of_le (.inl (hi.cache other id hid)) hmax

theorem destroy (hi : Issued h c)
    (hdestroy : Hardware.perform (.destroyLayer display layer) h = .ok (.ok (), t)) :
    Issued t c := by
  refine ⟨hi.hardware.destroy hdestroy, fun other id hid => ?_⟩
  rw [Headless.nextLayer_destroyLayer hdestroy]
  exact hi.cache other id hid

/-- The layer that the hardware has just created can be registered. -/
theorem add (hi : Issued h c)
    (hcreate : Hardware.perform (.createLayer display) h = .ok (.ok layer, t)) {slots : UInt32}
    (hadd : c.addLayer display layer slots = .ok c') : Issued t c' := by
  have hcreated := hi.create hcreate
  refine ⟨hcreated.hardware, fun other id hid => ?_⟩
  rw [Cache.layerSlots?_addLayer hadd] at hid
  split at hid
  · rename_i hnew
    obtain ⟨d, -, rfl, hmax, rfl⟩ := Headless.createLayer_ok hcreate
    exact hnew.2 ▸ Int64.lt_add_one_of_le (.inr rfl) hmax
  · exact hcreated.cache other id hid

/-- The cache refuses a new layer only if it does not know the display. -/
theorem forgotten_of_refused (hi : Issued h c) {slots : UInt32} {refusal : CacheError}
    (hadd : c.addLayer display h.nextLayer slots = .error refusal) :
    c.displays.get? display = none := by
  cases hentry : c.displays.get? display with
  | none => rfl
  | some entry =>
    have hunused : ¬ (c.layerSlots? display h.nextLayer).isSome = true := fun hused =>
      LinearKeys.irrefl _ (hi.cache display _ hused)
    rw [Cache.layerSlots?_of_get? hentry, Option.isSome_map, Option.not_isSome_iff_eq_none]
      at hunused
    rw [Cache.addLayer_ok.2 ⟨entry, hentry, hunused, rfl⟩] at hadd
    cases hadd

end Issued

namespace Engine

variable {e e' : Engine Headless Cache}

theorem issued_stable (display : DisplayId) :
    Action.Stable display
      fun e : Engine Headless Cache => Issued e.hardware e.resources := by
  refine Action.stable_of_sameRooms (fun e c he hsame => he.congr .refl hsame) ?_ ?_
  · intro call hsteady e ran he hrun
    obtain ⟨hardware, hcall, -, hengine⟩ := Action.perform_ok.1 hrun
    rw [hengine]
    exact he.congr (Headless.sameLayers_of_perform hsteady hcall) .refl
  · intro state e ran he hrun
    obtain rfl := Except.ok.inj hrun
    exact he

/-- **Every request keeps it.** -/
theorem issued_handle {request : Request} {reply : Reply} (he : Issued e.hardware e.resources)
    (hrun : e.handle request = .ok (reply, e')) : Issued e'.hardware e'.resources := by
  cases handle_cases hrun with
  | executed hexecute =>
    obtain ⟨last, hout, rfl⟩ := outcomes_of_execute hexecute
    have hlast : Issued last.hardware last.resources :=
      outcomes_keeps (fun c _ => (issued_stable c.display).keeps_command) he hout
    exact hlast
  | created hcreate hadd => exact he.add hcreate hadd
  | notCreated hcreate => exact Headless.eq_of_perform_error hcreate ▸ he
  | @withdrawn _ _ _ _ _ _ outcome hcreate hadd hdestroy =>
    have hcreated := he.create hcreate
    cases outcome with
    | error refusal => exact Headless.eq_of_perform_error hdestroy ▸ hcreated
    | ok _ => exact hcreated.destroy hdestroy
  | @destroyed _ _ hardware resources hdestroy hremove =>
    have hdestroyed := he.destroy hdestroy
    show Issued hardware resources
    rcases hremove with hremove | ⟨rfl, -⟩
    · refine hdestroyed.shrink fun other id hid => ?_
      rw [Cache.layerSlots?_removeLayer hremove] at hid
      split at hid
      · cases hid
      · exact hid
    · exact hdestroyed
  | notDestroyed hdestroy => exact Headless.eq_of_perform_error hdestroy ▸ he
  | @refreshed display =>
    exact he.congr .refl (Cache.setMustValidate_sameRooms display true e.resources)

theorem issued_forget (display : DisplayId) (he : Issued e.hardware e.resources) :
    Issued (e.forget display).hardware (e.forget display).resources := by
  unfold forget
  split
  · rename_i resources hremove
    obtain ⟨entry, -, rfl⟩ := Cache.removeDisplay_ok.1 hremove
    refine he.shrink fun other id hid => ?_
    rw [Cache.layerSlots?_erase rfl] at hid
    split at hid
    · cases hid
    · exact hid
  · exact he

/-- **So it holds from startup on**, whatever the cache has forgotten meanwhile. The displays
that it was started with need not be those of the hardware. -/
theorem issued_of_reachesForgetting {configs registered : List DisplayConfig} {cache : Cache}
    (hcache : Cache.ofConfigs registered = .ok cache)
    (hreached : (start (.ofConfigs configs) cache).ReachesForgetting e) :
    Issued e.hardware e.resources := by
  induction hreached with
  | refl =>
    refine ⟨fun display layer hlayer => ?_, fun display layer hlayer => ?_⟩
    · have hnone := Headless.layer?_ofConfigs configs display layer
      cases (congrArg Option.isSome hnone).symm.trans hlayer
    · have hlayers := (lockstep_ofConfigs hcache).layers display layer
      rw [Headless.layer?_ofConfigs] at hlayers
      cases hlayers.symm.trans hlayer
  | request _ hrun ih => exact issued_handle ih hrun
  | forget display _ ih => exact issued_forget display ih

end Engine

/-! ### A layer that comes and goes -/

namespace Headless

variable {h t : Headless} {display : DisplayId} {layer : LayerId}

/-- A layer is created for any display that is known. -/
theorem unknown_of_createLayer {refusal : HardwareError}
    (hcreate : Hardware.perform (.createLayer display) h = .ok (.error refusal, t)) :
    h.displays.get? display = none := by
  cases hd : h.displays.get? display with
  | none => rfl
  | some d =>
    have hrun : h.createLayer display = .ok (.error refusal, t) := hcreate
    dsimp only [createLayer, onDisplay] at hrun
    rw [hd] at hrun
    dsimp only at hrun
    split at hrun <;> cases hrun

/-- **A layer that has just been created can be destroyed**, and nothing is left of it. Its
display has to be validated again, and its id is not given out any more. -/
theorem destroyLayer_of_created (hunused : h.layer? display h.nextLayer = none)
    (hcreate : Hardware.perform (.createLayer display) h = .ok (.ok layer, t)) :
    ∃ d, h.displays.get? display = some d ∧
      Hardware.perform (.destroyLayer display layer) t = .ok (.ok (), { h with
        displays := h.displays.insert display { d with validated := false }
        nextLayer := h.nextLayer + 1 }) := by
  obtain ⟨d, hd, rfl, -, rfl⟩ := createLayer_ok hcreate
  refine ⟨d, hd, congrArg Except.ok ?_⟩
  have herased : (d.layers.insert h.nextLayer .fresh).erase h.nextLayer = d.layers := by
    rw [Table.erase_insert, Table.erase_of_get? (layer?_of_get? hd _ ▸ hunused)]
  have hcreated : (d.layers.insert h.nextLayer .fresh).contains h.nextLayer = true := by
    rw [Table.contains, Table.get?_insert_self]
    rfl
  unfold destroyLayer onDisplay
  simp only [Table.get?_insert_self, hcreated, if_true, herased, Table.insert_insert]

end Headless

/-! ### Refused requests -/

namespace Engine

variable {configs registered : List DisplayConfig} {cache : Cache} {e e' : Engine Headless Cache}

/-- **What a refused request leaves** is the engine as it was, down to the next id, with one
exception: the request is to create a layer for a display that the hardware knows and the cache
does not. Then this display is not validated any more, and an id is used up. All else is as it
was: the other displays, what else there is to this one, the cache, and where the displays
are said to stand. -/
theorem handle_refused (hcache : Cache.ofConfigs registered = .ok cache)
    (hreached : (start (.ofConfigs configs) cache).ReachesForgetting e)
    {request : Request} {code : Int32} {message : String}
    (hrefused : e.handle request = .ok (.error code message, e')) :
    e' = e ∧ (∀ display slots, request = .createLayer display slots →
        e.hardware.displays.get? display = none) ∨
      ∃ display slots d, request = .createLayer display slots ∧
        e.hardware.displays.get? display = some d ∧
        e.resources.displays.get? display = none ∧
        e' = { e with hardware := { e.hardware with
          displays := e.hardware.displays.insert display { d with validated := false }
          nextLayer := e.hardware.nextLayer + 1 } } := by
  have hissued := issued_of_reachesForgetting hcache hreached
  generalize hreply : Reply.error code message = reply at hrefused
  cases handle_cases hrefused with
  | executed | created | destroyed | refreshed => cases hreply
  | notCreated hcreate =>
    refine .inl ⟨Headless.eq_of_perform_error hcreate ▸ rfl, ?_⟩
    rintro _ _ heq
    cases heq
    exact Headless.unknown_of_createLayer hcreate
  | notDestroyed hdestroy => exact .inl ⟨Headless.eq_of_perform_error hdestroy ▸ rfl, nofun⟩
  | withdrawn hcreate hadd hdestroy =>
    -- the id was new to both sides, so the layer goes, and only its display can be unknown
    obtain ⟨d, hd, hgone⟩ :=
      Headless.destroyLayer_of_created (hissued.hardware.unused _) hcreate
    obtain ⟨-, rfl⟩ := Prod.mk.inj (Except.ok.inj (hdestroy.symm.trans hgone))
    obtain ⟨-, -, rfl, -, -⟩ := Headless.createLayer_ok hcreate
    exact .inr ⟨_, _, d, rfl, hd, hissued.forgotten_of_refused hadd, rfl⟩

/-- One display is validated, and then the cache forgets it. -/
def forgotten : Engine Headless Cache :=
  (single.after [.execute [{ DisplayCommand.idle 0 with validate := true }]]).forget 0

theorem forgotten_reached : single.ReachesForgetting forgotten :=
  .forget 0 (Reaches.after _ single).forgetting

/-- A layer is created for the forgotten display, and refused. -/
theorem handle_refused_forgotten :
    Cache.ofConfigs [.standard] = .ok standardCache ∧ single.ReachesForgetting forgotten ∧
    ∃ (e' : Engine Headless Cache) (d : HeadlessDisplay),
      forgotten.handle (.createLayer 0 2) = .ok (.error 2 "unknown display", e') ∧
      forgotten.hardware.displays.get? 0 = some d ∧
      e' = { forgotten with hardware := { forgotten.hardware with
        displays := forgotten.hardware.displays.insert 0 { d with validated := false }
        nextLayer := 2 } } := by
  have hcache : Cache.ofConfigs [.standard] = .ok standardCache := rfl
  have hrefused : forgotten.handle (.createLayer 0 2) = .ok (.error 2 "unknown display", _) := rfl
  have hknown : forgotten.hardware.displays.get? 0 = some _ := rfl
  refine ⟨hcache, forgotten_reached, _, _, hrefused, hknown, ?_⟩
  rcases handle_refused hcache forgotten_reached hrefused with
    ⟨-, hunknown⟩ | ⟨display, slots, d, hrequest, hd, -, hleft⟩
  · cases hknown.symm.trans (hunknown 0 2 rfl)
  · cases hrequest
    obtain rfl := Option.some.inj (hknown.symm.trans hd)
    exact hleft

/-- The request is refused, and the display is not validated any more. -/
theorem forgotten_not_restored :
    single.ReachesForgetting forgotten ∧
    ∃ (e' : Engine Headless Cache) (d d' : HeadlessDisplay),
      forgotten.handle (.createLayer 0 2) = .ok (.error 2 "unknown display", e') ∧
      forgotten.hardware.displays.get? 0 = some d ∧ d.validated = true ∧
      e'.hardware.displays.get? 0 = some d' ∧ d'.validated = false :=
  ⟨forgotten_reached, _, _, _, rfl, rfl, rfl, rfl, rfl⟩

end Engine

end DisplayComposer
