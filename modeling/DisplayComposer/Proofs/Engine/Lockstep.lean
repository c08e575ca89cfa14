import DisplayComposer.Proofs.Cache.Rooms
import DisplayComposer.Proofs.Engine.Confined
import DisplayComposer.Proofs.Engine.Run
/-!
# DisplayComposer.Proofs.Engine.Lockstep

**The cache and the hardware know the same displays and layers.** Both keep a register of
their own, and no code compares the two. They begin with the displays of the configuration.
A layer is registered with the cache under the id that the hardware has just given out, which
is new to both, so the cache does not refuse it; and it is removed from both.

* `Lockstep` — the same displays and layers on both sides;
* `Headless.SameLayers`, `Headless.sameLayers_of_perform` — what commands leave alone;
* `Headless.IdsBelow` — ids are new when they are given out;
* `Engine.lockstep_of_reaches` — from startup on.
-/

namespace DisplayComposer

/-- The configuration of a display. -/
def Headless.config? (h : Headless) (display : DisplayId) : Option DisplayConfig :=
  (h.displays.get? display).map (·.config)

/-- The slots of a display that is configured like this. -/
def DisplayConfig.rooms (config : DisplayConfig) : Nat × Option Nat :=
  Cache.roomsOf (config.targetSlots, config.isVirtual)

/-- The cache and the hardware know the same displays and layers. -/
structure Lockstep (h : Headless) (c : Cache) : Prop where
  displays : ∀ display, c.rooms? display = (h.config? display).map DisplayConfig.rooms
  layers : ∀ display layer,
    (c.layerSlots? display layer).isSome = (h.layer? display layer).isSome
  /-- An id that was not given out yet is not in use. -/
  below : ∀ display layer, (h.layer? display layer).isSome = true → layer < h.nextLayer

namespace Headless

variable {h t : Headless} {display : DisplayId}

/-- Two backends with the same displays and layers. -/
structure SameLayers (h t : Headless) : Prop where
  configs : ∀ display, t.config? display = h.config? display
  layers : ∀ display layer, (t.layer? display layer).isSome = (h.layer? display layer).isSome
  nextLayer : t.nextLayer = h.nextLayer

theorem SameLayers.refl : h.SameLayers h := ⟨fun _ => rfl, fun _ _ => rfl, rfl⟩

/-- Configurations never change. -/
theorem config?_of_perform {call : Call} {out : Except HardwareError call.Answer}
    (hrun : Hardware.perform call h = .ok (out, t)) (display : DisplayId) :
    t.config? display = h.config? display := by
  rcases perform_cases hrun with ⟨failure, hr⟩ | ⟨a, d, d', -, hd, hstep, hdisplays⟩
  · rw [show t = h from congrArg Prod.snd hr]
  · rw [config?, config?, show t.displays = _ from hdisplays, Table.get?_insert]
    split
    · rename_i hdisplay
      rw [← hdisplay, hd, Option.map_some, Option.map_some, hstep.config_eq]
    · rfl

end Headless

/-- No layer comes or goes but by its creation and destruction. -/
theorem HeadlessDisplay.Step.isSome_layer {d d' : HeadlessDisplay} {call : Call}
    (hstep : d.Step call d') (hcall : call.steady = true) (layer : LayerId) :
    (d'.layers.get? layer).isSome = (d.layers.get? layer).isSome := by
  have hinsert : ∀ {id : LayerId} {l l' : HeadlessLayer}, d.layers.get? id = some l →
      ((d.layers.insert id l').get? layer).isSome = (d.layers.get? layer).isSome := by
    intro id l l' hl
    rw [Table.get?_insert]
    split
    · rename_i hid
      rw [← hid, hl]
      rfl
    · rfl
  cases hstep with
  | createLayer | destroyLayer => cases hcall
  | layerProperty p hl => exact hinsert hl
  | layerBuffer fence image hl => exact hinsert hl
  | sideband image hl => exact hinsert hl
  | accept =>
    rw [foldl_apply, Table.get?_mapValues, Option.isSome_map]
  | _ => rfl

namespace Headless

variable {h t : Headless} {display : DisplayId}

theorem sameLayers_of_perform {call : Call} {out : Except HardwareError call.Answer}
    (hcall : call.steady = true) (hrun : Hardware.perform call h = .ok (out, t)) :
    SameLayers h t where
  configs := config?_of_perform hrun
  layers other layer := by
    rcases perform_cases hrun with ⟨failure, hr⟩ | ⟨a, d, d', -, hd, hstep, hdisplays⟩
    · rw [show t = h from congrArg Prod.snd hr]
    · rw [layer?_of_insert hdisplays]
      split
      · rename_i hdisplay
        rw [← hdisplay, layer?_of_get? hd, hstep.isSome_layer hcall]
      · rfl
  nextLayer := by
    refine nextLayer_of_perform (fun display heq => ?_) hrun
    rw [heq] at hcall
    cases hcall

end Headless

/-- Behind a number that is not the greatest there is a greater one. -/
theorem Int64.lt_add_one_of_le {a n : Int64} (h : a < n ∨ a = n) (hn : n ≠ Int64.maxValue) :
    a < n + 1 := by
  have hle : n.toInt ≤ 9223372036854775807 := Int64.toInt_le n
  have hge : -9223372036854775808 ≤ n.toInt := Int64.le_toInt n
  have hne : n.toInt ≠ 9223372036854775807 := fun heq => hn (Int64.toInt_inj.1 heq)
  have hsucc : (n + 1).toInt = n.toInt + 1 := by
    rw [Int64.toInt_add]
    refine Int.bmod_eq_of_le ?_ ?_
    · show _ ≤ n.toInt + 1
      omega
    · show n.toInt + 1 < _
      omega
  rw [Int64.lt_iff_toInt_lt, hsucc]
  rcases h with hlt | rfl
  · have := Int64.lt_iff_toInt_lt.1 hlt
    omega
  · omega

namespace Headless

variable {h t : Headless} {display : DisplayId} {layer : LayerId}

/-- No id is in use that is still to be given out. -/
def IdsBelow (h : Headless) : Prop :=
  ∀ display layer, (h.layer? display layer).isSome = true → layer < h.nextLayer

theorem IdsBelow.congr (hb : h.IdsBelow) (hsame : h.SameLayers t) : t.IdsBelow := by
  intro display layer hlayer
  rw [hsame.layers] at hlayer
  rw [hsame.nextLayer]
  exact hb display layer hlayer

theorem IdsBelow.unused (hb : h.IdsBelow) (display : DisplayId) :
    h.layer? display h.nextLayer = none := by
  refine Option.not_isSome_iff_eq_none.1 fun hused => ?_
  exact LinearKeys.irrefl _ (hb display _ hused)

theorem IdsBelow.create (hb : h.IdsBelow)
    (hcreate : Hardware.perform (.createLayer display) h = .ok (.ok layer, t)) : t.IdsBelow := by
  obtain ⟨d, hd, rfl, hmax, rfl⟩ := createLayer_ok hcreate
  intro other id hid
  refine Int64.lt_add_one_of_le ?_ hmax
  by_cases hlayer : h.nextLayer = id
  · exact .inr hlayer.symm
  · refine .inl (hb other id ?_)
    rw [layer?_of_insert rfl] at hid
    split at hid
    · rename_i hdisplay
      rwa [Table.get?_insert_of_ne _ _ hlayer, ← layer?_of_get? hd, hdisplay] at hid
    · exact hid

theorem nextLayer_destroyLayer {out : Except HardwareError Unit}
    (hdestroy : Hardware.perform (.destroyLayer display layer) h = .ok (out, t)) :
    t.nextLayer = h.nextLayer :=
  nextLayer_of_perform (fun _ heq => by cases heq) hdestroy

theorem IdsBelow.destroy (hb : h.IdsBelow)
    (hdestroy : Hardware.perform (.destroyLayer display layer) h = .ok (.ok (), t)) :
    t.IdsBelow := by
  obtain ⟨d, hd, -, hdisplays⟩ := destroyLayer_ok hdestroy
  intro other id hid
  rw [nextLayer_destroyLayer hdestroy]
  refine hb other id ?_
  rw [layer?_of_insert hdisplays] at hid
  split at hid
  · rename_i hdisplay
    rw [Table.get?_erase] at hid
    split at hid
    · cases hid
    · rwa [← layer?_of_get? hd, hdisplay] at hid
  · exact hid

end Headless

namespace Lockstep

variable {h t : Headless} {c c' : Cache} {display : DisplayId} {layer : LayerId}

theorem congr (hs : Lockstep h c) (hsame : h.SameLayers t) (hrooms : c.SameRooms c') :
    Lockstep t c' where
  displays display := by
    rw [hrooms.rooms, hs.displays, hsame.configs]
  layers display layer := by
    rw [hrooms.layers, hs.layers, hsame.layers]
  below := Headless.IdsBelow.congr hs.below hsame

/-- The cache knows what the hardware knows. -/
theorem registered (hs : Lockstep h c) {d : HeadlessDisplay}
    (known : h.displays.get? display = some d) : ∃ entry, c.displays.get? display = some entry := by
  have hrooms := hs.displays display
  rw [Headless.config?, known, Cache.rooms?] at hrooms
  obtain ⟨entry, hentry, -⟩ := Option.map_eq_some_iff.1 hrooms
  exact ⟨entry, hentry⟩

/-- The id that is given out next is new on both sides. -/
theorem nextLayer_unused (hs : Lockstep h c) (display : DisplayId) :
    c.layerSlots? display h.nextLayer = none := by
  have hunused : h.layer? display h.nextLayer = none := Headless.IdsBelow.unused hs.below display
  rwa [← Option.not_isSome_iff_eq_none, ← hs.layers, Option.not_isSome_iff_eq_none] at hunused

/-- **The cache does not refuse a layer** that the hardware has just created. -/
theorem addLayer (hs : Lockstep h c)
    (hcreate : Hardware.perform (.createLayer display) h = .ok (.ok layer, t)) (slots : UInt32) :
    ∃ c', c.addLayer display layer slots = .ok c' := by
  obtain ⟨d, hd, rfl, -, -⟩ := Headless.createLayer_ok hcreate
  obtain ⟨entry, hentry⟩ := hs.registered hd
  have hnew := hs.nextLayer_unused display
  rw [Cache.layerSlots?_of_get? hentry, Option.map_eq_none_iff] at hnew
  exact ⟨_, Cache.addLayer_ok.2 ⟨entry, hentry, hnew, rfl⟩⟩

theorem create (hs : Lockstep h c)
    (hcreate : Hardware.perform (.createLayer display) h = .ok (.ok layer, t)) {slots : UInt32}
    (hadd : c.addLayer display layer slots = .ok c') : Lockstep t c' := by
  have hconfig := Headless.config?_of_perform hcreate
  have hbelow := Headless.IdsBelow.create hs.below hcreate
  obtain ⟨d, hd, rfl, -, rfl⟩ := Headless.createLayer_ok hcreate
  refine ⟨fun other => ?_, fun other id => ?_, hbelow⟩
  · rw [Cache.rooms?_addLayer hadd, hs.displays, hconfig]
  · rw [Cache.layerSlots?_addLayer hadd, Headless.layer?_of_insert rfl]
    by_cases hdisplay : display = other
    · subst hdisplay
      have hother := hs.layers display id
      rw [Headless.layer?_of_get? hd] at hother
      by_cases hlayer : h.nextLayer = id
      · simp [hlayer]
      · simpa [hlayer, Table.get?_insert] using hother
    · simpa [hdisplay] using hs.layers other id

/-- Nor does it refuse to forget one that the hardware has destroyed. -/
theorem removeLayer (hs : Lockstep h c)
    (hdestroy : Hardware.perform (.destroyLayer display layer) h = .ok (.ok (), t)) :
    ∃ c', c.removeLayer display layer = .ok c' := by
  obtain ⟨d, hd, hknown, -⟩ := Headless.destroyLayer_ok hdestroy
  rw [← hs.layers] at hknown
  obtain ⟨slots, hslots⟩ := Option.isSome_iff_exists.1 hknown
  obtain ⟨entry, hentry, hcached⟩ := Option.bind_eq_some_iff.1 hslots
  obtain ⟨removed, hremoved, -⟩ := Option.map_eq_some_iff.1 hcached
  exact ⟨_, Cache.removeLayer_ok.2 ⟨entry, removed, hentry, hremoved, rfl⟩⟩

theorem destroy (hs : Lockstep h c)
    (hdestroy : Hardware.perform (.destroyLayer display layer) h = .ok (.ok (), t))
    (hremove : c.removeLayer display layer = .ok c') : Lockstep t c' := by
  obtain ⟨d, hd, -, hdisplays⟩ := Headless.destroyLayer_ok hdestroy
  refine ⟨fun other => ?_, fun other id => ?_, Headless.IdsBelow.destroy hs.below hdestroy⟩
  · rw [Cache.rooms?_removeLayer hremove, hs.displays, Headless.config?_of_perform hdestroy]
  · rw [Cache.layerSlots?_removeLayer hremove, Headless.layer?_of_insert hdisplays]
    by_cases hdisplay : display = other
    · subst hdisplay
      have hother := hs.layers display id
      rw [Headless.layer?_of_get? hd] at hother
      by_cases hlayer : layer = id
      · simp [hlayer, Table.get?_erase]
      · simpa [hlayer, Table.get?_erase] using hother
    · simpa [hdisplay] using hs.layers other id

end Lockstep

/-! ### From startup on -/

/-- Registering displays, with the cache and with the hardware. -/
theorem rooms?_of_foldlM_addDisplay {configs : List DisplayConfig} {c c' : Cache}
    {displays : Table DisplayId HeadlessDisplay}
    (hadd : configs.foldlM (fun c d => Cache.addDisplay d.id d.targetSlots d.isVirtual c) c =
      .ok c')
    (hrooms : ∀ display,
      c.rooms? display = (displays.get? display).map fun d => d.config.rooms)
    (hlayers : ∀ display layer, c.layerSlots? display layer = none) :
    (∀ display, c'.rooms? display = (((configs.map fun config =>
        (config.id, HeadlessDisplay.ofConfig config)).foldl (fun t e => t.insert e.1 e.2)
          displays).get? display).map fun d => d.config.rooms) ∧
      ∀ display layer, c'.layerSlots? display layer = none := by
  induction configs generalizing c displays with
  | nil =>
    cases hadd
    exact ⟨hrooms, hlayers⟩
  | cons config rest ih =>
    rw [List.foldlM_cons] at hadd
    obtain ⟨c₁, hfirst, hrest⟩ := Except.bind_eq_ok_iff.1 hadd
    obtain ⟨-, rfl⟩ := Cache.addDisplay_ok.1 hfirst
    refine ih hrest (fun display => ?_) fun display layer => ?_
    · rw [Cache.rooms?_insert rfl, Table.get?_insert]
      split
      · cases hv : config.isVirtual <;>
          simp [Cache.newDisplay, HeadlessDisplay.ofConfig, DisplayConfig.rooms, Cache.roomsOf,
            Slots.vacant, hv]
      · exact hrooms display
    · rw [Cache.layerSlots?_insert rfl]
      split
      · rfl
      · exact hlayers display layer

theorem Headless.layer?_ofConfigs (configs : List DisplayConfig) (display : DisplayId)
    (layer : LayerId) : (Headless.ofConfigs configs).layer? display layer = none := by
  cases hd : (Headless.ofConfigs configs).displays.get? display with
  | none => rw [layer?, hd, Option.bind_none]
  | some d =>
    obtain ⟨config, -, hconfig⟩ := List.mem_map.1 (Table.mem_of_get?_ofList hd)
    obtain ⟨-, rfl⟩ := Prod.mk.inj hconfig
    rw [layer?_of_get? hd]
    rfl

theorem lockstep_ofConfigs {configs : List DisplayConfig} {cache : Cache}
    (hcache : Cache.ofConfigs configs = .ok cache) : Lockstep (.ofConfigs configs) cache := by
  obtain ⟨hrooms, hlayers⟩ := @rooms?_of_foldlM_addDisplay configs .empty cache .empty hcache
    (fun _ => rfl) fun _ _ => rfl
  have hnone := Headless.layer?_ofConfigs configs
  refine ⟨fun display => ?_, fun display layer => ?_, fun display layer hlayer => ?_⟩
  · rw [hrooms, Headless.config?, Option.map_map]
    rfl
  · rw [hlayers, hnone]
    rfl
  · rw [hnone] at hlayer
    cases hlayer

/-- What a command does to the cache leaves the room that there is. So of what depends on the
cache by that room only, the calls matter, and where the display is said to stand. -/
theorem Action.stable_of_sameRooms {σ : Type} [Hardware σ] {display : DisplayId}
    {P : Engine σ Cache → Prop}
    (hrooms : ∀ e c, P e → e.resources.SameRooms c → P { e with resources := c })
    (hcall : ∀ call : Call, call.steady = true → (perform call : Action σ Cache _).Keeps P)
    (hstate : ∀ state, (setState display state : Action σ Cache Unit).Keeps P) :
    Stable display P where
  perform call _ hsteady := hcall call hsteady
  resolve ref _ e ran he hrun := by
    rw [resolve_eq] at hrun
    obtain rfl := Except.ok.inj hrun
    cases hfound : e.resources.resolve ref with
    | error refusal => exact he
    | ok found => exact hrooms e _ he (Cache.resolve_cases hfound).sameRooms
  release images e ran he hrun := by
    obtain rfl := Except.ok.inj hrun
    exact hrooms e _ he ⟨fun _ => rfl, fun _ _ => rfl⟩
  clearMustValidate e ran he hrun := by
    obtain rfl := Except.ok.inj hrun
    exact hrooms e _ he (Cache.setMustValidate_sameRooms display false e.resources)
  setState := hstate

namespace Engine

variable {e e' : Engine (Logged Headless) Cache}

theorem lockstep_stable (display : DisplayId) :
    Action.Stable display
      fun e : Engine (Logged Headless) Cache => Lockstep e.hardware.hardware e.resources := by
  refine Action.stable_of_sameRooms (fun e c he hsame => he.congr .refl hsame) ?_ ?_
  · intro call hsteady e ran he hrun
    obtain ⟨hardware, hcall, -, hengine⟩ := Action.perform_ok.1 hrun
    rw [hengine]
    exact he.congr (Headless.sameLayers_of_perform hsteady (Logged.perform_ok.1 hcall).1) .refl
  · intro state e ran he hrun
    obtain rfl := Except.ok.inj hrun
    exact he

/-- **Every request keeps it.** -/
theorem lockstep_handle {request : Request} {reply : Reply}
    (he : Lockstep e.hardware.hardware e.resources) (hrun : e.handle request = .ok (reply, e')) :
    Lockstep e'.hardware.hardware e'.resources := by
  cases handle_cases hrun with
  | executed hexecute =>
    obtain ⟨last, hout, rfl⟩ := outcomes_of_execute hexecute
    have hlast : Lockstep last.hardware.hardware last.resources :=
      outcomes_keeps (fun c _ => (lockstep_stable c.display).keeps_command) he hout
    exact hlast
  | created hcreate hadd => exact he.create (Logged.perform_ok.1 hcreate).1 hadd
  | notCreated hcreate =>
    exact Headless.eq_of_perform_error (Logged.perform_ok.1 hcreate).1 ▸ he
  | withdrawn hcreate hadd hdestroy =>
    obtain ⟨c', hc'⟩ := he.addLayer (Logged.perform_ok.1 hcreate).1 _
    rw [hadd] at hc'
    cases hc'
  | destroyed hdestroy hremove =>
    obtain ⟨c', hc'⟩ := he.removeLayer (Logged.perform_ok.1 hdestroy).1
    rcases hremove with hremove | ⟨-, refusal, hremove⟩
    · exact he.destroy (Logged.perform_ok.1 hdestroy).1 hremove
    · rw [hremove] at hc'
      cases hc'
  | notDestroyed hdestroy =>
    exact Headless.eq_of_perform_error (Logged.perform_ok.1 hdestroy).1 ▸ he
  | @refreshed display =>
    exact he.congr .refl (Cache.setMustValidate_sameRooms display true e.resources)

/-- **Cache and hardware stay in lockstep** whatever is requested. -/
theorem lockstep_of_reaches {configs : List DisplayConfig} {cache : Cache}
    (hcache : Cache.ofConfigs configs = .ok cache)
    (reached : (start ⟨.ofConfigs configs, []⟩ cache).Reaches e) :
    Lockstep e.hardware.hardware e.resources := by
  induction reached with
  | refl => exact lockstep_ofConfigs hcache
  | request _ hrun ih => exact lockstep_handle ih hrun

end Engine

end DisplayComposer
