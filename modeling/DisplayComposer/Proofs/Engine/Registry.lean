import DisplayComposer.Proofs.Engine.Moves
import DisplayComposer.Proofs.Startup
/-!
# DisplayComposer.Proofs.Engine.Registry

**What the two registries agree on.** From startup on the headless backend and the cache know
the same displays, the same of them as virtual, and for each the same layers (`Lockstep`). So
an image that the cache finds has a place in the hardware too: the hardware uses it, and if a
field with an image is reported as an error, it was the cache that refused it. Ids of layers
are given out in ascending order. A layer is on the display for which it was created, and no
other layer ever gets its id.

* `Cache.registry`, `Headless.registry` — what is registered;
* `Lockstep.registry_eq` — it is the same;
* `Headless.Apart` — no layer is on two displays;
* `Lockstep.setImage` — the hardware uses what the cache finds;
* `Engine.Registered`, `Engine.registered_handle` — an invariant of all that;
* `Engine.created_pairwise` — ids are given out once;
* `Engine.registries_agree` — from startup on.
-/

namespace DisplayComposer

/-! ### The registries -/

/-- What the cache has registered for a display: whether it is virtual, and its layers. -/
def Cache.registry (c : Cache) (display : DisplayId) : Option (Bool × List LayerId) :=
  (c.displays.get? display).map fun entry => (entry.outputBuffers.isSome, entry.layers.keys)

/-- What the hardware knows of a display. -/
def Headless.registry (h : Headless) (display : DisplayId) : Option (Bool × List LayerId) :=
  (h.displays.get? display).map fun d => (d.config.isVirtual, d.layers.keys)

namespace Lockstep

variable {h : Headless} {c : Cache} {display : DisplayId}

/-- A display that is registered is known to the hardware, as virtual if it has output buffers
in the cache. -/
theorem known (hs : Lockstep h c) {entry : DisplayEntry}
    (hentry : c.displays.get? display = some entry) :
    ∃ d, h.displays.get? display = some d ∧ d.config.isVirtual = entry.outputBuffers.isSome := by
  have hrooms := hs.displays display
  rw [Cache.rooms?, hentry, Headless.config?, Option.map_map] at hrooms
  obtain ⟨d, hd, hslots⟩ := Option.map_eq_some_iff.1 hrooms.symm
  have houtputs : entry.outputBuffers.map (·.count) = d.config.rooms.2 :=
    (congrArg Prod.snd hslots).symm
  refine ⟨d, hd, ?_⟩
  rw [← Option.isSome_map (f := fun s : Slots => s.count), houtputs, DisplayConfig.rooms,
    Cache.roomsOf]
  cases d.config.isVirtual <;> rfl

/-- **Both registries say the same.** -/
theorem registry_eq (hs : Lockstep h c) (display : DisplayId) :
    c.registry display = h.registry display := by
  unfold Cache.registry Headless.registry
  cases hentry : c.displays.get? display with
  | none =>
    have hrooms := hs.displays display
    rw [Cache.rooms?, hentry, Headless.config?, Option.map_map] at hrooms
    rw [Option.map_eq_none_iff.1 hrooms.symm]
    rfl
  | some entry =>
    obtain ⟨d, hd, hvirtual⟩ := hs.known hentry
    have hkeys : entry.layers.keys = d.layers.keys := by
      refine Table.keys_eq_of_isSome fun layer => ?_
      have hlayer := hs.layers display layer
      rwa [Cache.layerSlots?_of_get? hentry, Headless.layer?_of_get? hd, Option.isSome_map]
        at hlayer
    rw [hd, Option.map_some, Option.map_some, hvirtual, hkeys]

end Lockstep

/-! ### Layers are on one display -/

namespace Headless

variable {h t : Headless} {display : DisplayId} {layer : LayerId}

/-- No layer is on two displays. -/
def Apart (h : Headless) : Prop :=
  ∀ display other layer, (h.layer? display layer).isSome = true →
    (h.layer? other layer).isSome = true → display = other

theorem Apart.congr (ha : h.Apart) (hsame : h.SameLayers t) : t.Apart := by
  intro display other layer hlayer hother
  rw [hsame.layers] at hlayer hother
  exact ha display other layer hlayer hother

/-- A layer that is created is on no other display, as its id is new. -/
theorem Apart.create (ha : h.Apart) (hbelow : h.IdsBelow)
    (hcreate : Hardware.perform (.createLayer display) h = .ok (.ok layer, t)) : t.Apart := by
  obtain ⟨d, hd, rfl, -, rfl⟩ := createLayer_ok hcreate
  have hlayers : ∀ other id, (Headless.layer? { h with
        displays := h.displays.insert display
          { d with layers := d.layers.insert h.nextLayer .fresh, validated := false }
        nextLayer := h.nextLayer + 1 } other id).isSome = true →
      display = other ∧ h.nextLayer = id ∨ (h.layer? other id).isSome = true := by
    intro other id hid
    rw [layer?_of_insert rfl] at hid
    split at hid
    · rename_i hdisplay
      by_cases hnew : h.nextLayer = id
      · exact .inl ⟨hdisplay, hnew⟩
      · rw [Table.get?_insert_of_ne _ _ hnew, ← layer?_of_get? hd, hdisplay] at hid
        exact .inr hid
    · exact .inr hid
  have hnew : ∀ other, (h.layer? other h.nextLayer).isSome ≠ true :=
    fun other => Option.not_isSome_iff_eq_none.2 (hbelow.unused other)
  intro first second id hfirst hsecond
  rcases hlayers first id hfirst with ⟨rfl, rfl⟩ | hfirst
  · rcases hlayers second _ hsecond with ⟨hdisplay, -⟩ | hsecond
    · exact hdisplay
    · exact absurd hsecond (hnew second)
  · rcases hlayers second id hsecond with ⟨rfl, rfl⟩ | hsecond
    · exact absurd hfirst (hnew first)
    · exact ha first second id hfirst hsecond

theorem Apart.destroy (ha : h.Apart)
    (hdestroy : Hardware.perform (.destroyLayer display layer) h = .ok (.ok (), t)) :
    t.Apart := by
  obtain ⟨d, hd, -, hdisplays⟩ := destroyLayer_ok hdestroy
  have hold : ∀ other id, (t.layer? other id).isSome = true →
      (h.layer? other id).isSome = true := by
    intro other id hid
    rw [layer?_of_insert hdisplays] at hid
    split at hid
    · rename_i hdisplay
      rw [Table.get?_erase] at hid
      split at hid
      · cases hid
      · rwa [← layer?_of_get? hd, hdisplay] at hid
    · exact hid
  intro first second id hfirst hsecond
  exact ha first second id (hold first id hfirst) (hold second id hsecond)

end Headless

/-! ### Images that are found are used -/

namespace Headless

variable {h : Headless} {display : DisplayId} {d : HeadlessDisplay}

/-- The hardware uses an image for anything that it knows: a client target, an output buffer of
a virtual display, or a layer. -/
theorem setImage_ok (hd : h.displays.get? display = some d) {use : ImageUse}
    (hvirtual : use.holding = .outputBuffer → d.config.isVirtual = true)
    (hlayer : ∀ layer, use.holding.layer? = some layer → (d.layers.get? layer).isSome = true)
    (image : Image) :
    ∃ t, Hardware.perform (.set display (.image use image)) h = .ok (.ok (), t) := by
  show ∃ t, Except.ok (h.setImage display use image) = .ok (.ok (), t)
  cases use with
  | clientTarget fence dataspace damage =>
    rw [setImage, onDisplay, hd]
    exact ⟨_, rfl⟩
  | outputBuffer fence =>
    rw [setImage, onDisplay, hd]
    simp only [hvirtual rfl, if_true]
    exact ⟨_, rfl⟩
  | layerBuffer layer fence =>
    obtain ⟨l, hl⟩ := Option.isSome_iff_exists.1 (hlayer layer rfl)
    rw [setImage, adjust, onLayer, onDisplay, hd]
    simp only [hl]
    exact ⟨_, rfl⟩
  | sideband layer =>
    obtain ⟨l, hl⟩ := Option.isSome_iff_exists.1 (hlayer layer rfl)
    rw [setImage, revise, onLayer, onDisplay, hd]
    simp only [hl]
    exact ⟨_, rfl⟩

end Headless

/-- What is registered if an image is found: the display, as virtual if the image is that of an
output buffer, and the layer if it is that of a layer. -/
theorem Cache.Resolves.registered {c c' : Cache} {handle : Option NativeHandle} {scope : Scope}
    {r : Resolution} (h : c.Resolves handle scope r c') :
    ∃ entry, c.displays.get? scope.display = some entry ∧
      (scope.holding = .outputBuffer → entry.outputBuffers.isSome = true) ∧
      ∀ layer, scope.holding.layer? = some layer → (entry.layers.get? layer).isSome = true := by
  cases h with
  | clientTarget hentry hfound => exact ⟨_, hentry, nofun, nofun⟩
  | outputBuffer hentry hslots hfound => exact ⟨_, hentry, fun _ => hslots ▸ rfl, nofun⟩
  | layerBuffer hentry hcached hfound =>
    refine ⟨_, hentry, nofun, fun layer hlayer => ?_⟩
    obtain rfl := Option.some.inj hlayer
    exact hcached ▸ rfl
  | sideband hentry hcached hhandle =>
    refine ⟨_, hentry, nofun, fun layer hlayer => ?_⟩
    obtain rfl := Option.some.inj hlayer
    exact hcached ▸ rfl

/-- **The hardware uses what the cache finds.** -/
theorem Lockstep.setImage {h : Headless} {c c' : Cache} {display : DisplayId} {use : ImageUse}
    {ref : ImageRef} {r : Resolution} (hs : Lockstep h c)
    (haimed : (Setting.image use ref).Aimed display) (hfound : c.resolve ref = .ok (r, c')) :
    ∃ t, Hardware.perform (.set display (.image use r.image)) h = .ok (.ok (), t) := by
  obtain ⟨hdisplay, huse⟩ := haimed
  obtain ⟨entry, hentry, houtput, hlayers⟩ := (Cache.resolve_cases hfound).registered
  rw [hdisplay] at hentry
  rw [huse] at houtput hlayers
  obtain ⟨d, hd, hvirtual⟩ := hs.known hentry
  refine Headless.setImage_ok hd (fun hout => hvirtual.trans (houtput hout)) ?_ r.image
  intro layer hlayer
  have hboth := hs.layers display layer
  rw [Cache.layerSlots?_of_get? hentry, Headless.layer?_of_get? hd, Option.isSome_map] at hboth
  exact hboth.symm.trans (hlayers layer hlayer)

/-! ### Fields with an image -/

namespace Action

variable {σ : Type} [Hardware σ] {e : Engine σ Cache} {display : DisplayId} {use : ImageUse}
  {ref : ImageRef}

/-- A field whose image is refused makes no call. -/
theorem applySetting_refused {refusal : CacheError}
    (hresolve : e.resources.resolve ref = .error refusal) :
    applySetting display (.image use ref) e = .ok ⟨(), [.error refusal.toHardwareError], e⟩ := by
  show (resolve ref >>= _) e = _
  rw [bind_eq, resolve_eq, hresolve]
  rfl

/-- A field whose image is found and used reports nothing. -/
theorem applySetting_found {r : Resolution} {c' : Cache} {hardware : σ}
    (hresolve : e.resources.resolve ref = .ok (r, c'))
    (hcall : Hardware.perform (.set display (.image use r.image)) e.hardware =
      .ok (.ok (), hardware)) :
    applySetting display (.image use ref) e =
      .ok ⟨(), [], { e with hardware, resources := c'.release r.parked }⟩ := by
  show (resolve ref >>= _) e = _
  rw [bind_eq, resolve_eq, hresolve]
  show Except.map _ ((perform (.set display (.image use r.image)) >>= _)
    { e with resources := c' }) = _
  rw [bind_eq, perform_eq, hcall]
  rfl

end Action

/-- Why the cache does not find an image. -/
def Cache.refusal? (c : Cache) (ref : ImageRef) : Option CacheError :=
  match c.resolve ref with
  | .ok _ => none
  | .error refusal => some refusal

/-! ### The invariant -/

/-- A call that uses an image succeeded, if it is one. -/
def Event.Served (event : Event) : Prop :=
  ∀ display use image, event.call = .set display (.image use image) → event.outcome.isOk = true

/-- What holds of the registries, and has come of the images that were to be used. -/
structure Engine.Registered (e : Engine (Logged Headless) Cache) : Prop where
  lockstep : Lockstep e.hardware.hardware e.resources
  apart : e.hardware.hardware.Apart
  served : ∀ event ∈ e.hardware.log, event.Served

namespace Engine

namespace Registered

open DisplayComposer.Action

variable {e e' : Engine (Logged Headless) Cache}

/-- What the cache has room for, and the hardware, are all that matters. -/
theorem congr (h : e.Registered) (hhardware : e'.hardware = e.hardware)
    (hrooms : e.resources.SameRooms e'.resources) : e'.Registered := by
  refine ⟨?_, ?_, ?_⟩
  · rw [hhardware]
    exact h.lockstep.congr .refl hrooms
  · rw [hhardware]
    exact h.apart
  · rw [hhardware]
    exact h.served

/-- One more call in the log. -/
theorem served_concat (h : e.Registered) {event : Event} {log : List Event}
    (hlog : log = e.hardware.log ++ [event]) (hserved : event.Served) :
    ∀ other ∈ log, other.Served := by
  intro other hother
  rw [hlog] at hother
  rcases List.mem_append.1 hother with hother | hother
  · exact h.served other hother
  · obtain rfl := List.mem_singleton.1 hother
    exact hserved

/-- Calls that neither create nor destroy a layer. -/
theorem call (h : e.Registered) {call : Call} {out : Except HardwareError call.Answer}
    {hardware : Logged Headless}
    (hrun : Hardware.perform call e.hardware = .ok (out, hardware)) (hsteady : call.steady = true)
    (hserved : Event.Served ⟨call, out⟩) : Registered { e with hardware } := by
  obtain ⟨hcall, hlog⟩ := Logged.perform_ok.1 hrun
  have hsame := Headless.sameLayers_of_perform hsteady hcall
  exact ⟨h.lockstep.congr hsame .refl, h.apart.congr hsame, h.served_concat hlog hserved⟩

/-- Calls that use no image. -/
theorem keeps_perform {call : Call} (hsteady : call.steady = true)
    (hplain : ∀ display use image, call ≠ .set display (.image use image)) :
    (perform call : Action (Logged Headless) Cache _).Keeps Registered := by
  intro e ran he hrun
  obtain ⟨hardware, hperform, -, hengine⟩ := perform_ok.1 hrun
  rw [hengine]
  exact he.call hperform hsteady fun display use image heq => (hplain display use image heq).elim

/-- **A field with an image:** if the cache finds the image, the hardware uses it. -/
theorem keeps_image {display : DisplayId} {use : ImageUse} {ref : ImageRef}
    (haimed : (Setting.image use ref).Aimed display) :
    (applySetting display (.image use ref) : Action (Logged Headless) Cache _).Keeps
      Registered := by
  intro e ran he hrun
  cases hresolve : e.resources.resolve ref with
  | error refusal =>
    rw [applySetting_refused hresolve] at hrun
    obtain rfl := Except.ok.inj hrun
    exact he
  | ok found =>
    obtain ⟨r, c'⟩ := found
    obtain ⟨t, hcall⟩ := he.lockstep.setImage haimed hresolve
    have hlogged : Hardware.perform (.set display (.image use r.image)) e.hardware =
        .ok (.ok (), ⟨t, e.hardware.log ++ [⟨.set display (.image use r.image), .ok ()⟩]⟩) :=
      Logged.perform_ok.2 ⟨hcall, rfl⟩
    rw [applySetting_found hresolve hlogged] at hrun
    obtain rfl := Except.ok.inj hrun
    have hrooms := (Cache.resolve_cases hresolve).sameRooms
    exact (he.call hlogged rfl fun _ _ _ _ => rfl).congr rfl ⟨hrooms.rooms, hrooms.layers⟩

theorem keeps_applySetting {display : DisplayId} {s : Setting ImageRef}
    (haimed : s.Aimed display) :
    (applySetting display s : Action (Logged Headless) Cache _).Keeps Registered := by
  cases s with
  | property p =>
    have hcall : (perform (.set display (.property p)) :
        Action (Logged Headless) Cache _).Keeps Registered := keeps_perform rfl nofun
    exact hcall.bind keeps_reportFailure
  | image use ref => exact keeps_image haimed

theorem keeps_setState (display : DisplayId) (s : PresentState) :
    (Action.setState display s : Action (Logged Headless) Cache Unit).Keeps Registered := by
  intro e ran he hrun
  obtain rfl := Except.ok.inj hrun
  exact he.congr rfl .refl

theorem partsKeep (display : DisplayId) : PartsKeep display Registered where
  expectPresent _ := keeps_expectPresent (keeps_perform rfl nofun)
  accept := keeps_accept (keeps_perform rfl nofun)
  present := keeps_present (keeps_perform rfl nofun) (keeps_setState display)
  clientMustAct _ := keeps_clientMustAct (keeps_perform rfl nofun)
  validate := by
    intro e ran he hrun
    rw [validate_eq] at hrun
    obtain ⟨r, hcall, rfl⟩ := Except.map_eq_ok_iff.1 hrun
    refine (he.call hcall rfl nofun).congr rfl ?_
    exact Cache.setMustValidate_sameRooms display false e.resources

/-- Every command keeps it. -/
theorem keeps_command (c : DisplayCommand) :
    (command c : Action (Logged Headless) Cache Unit).Keeps Registered := by
  refine Action.keeps_command (keeps_settle (fun s hs => ?_) (keeps_setState _ _)) (partsKeep _)
  exact keeps_applySetting (DisplayCommand.aimed_of_mem_settings hs)

/-- A call about layers that fails changes nothing but the log. -/
theorem failed (h : e.Registered) {call : Call} {failure : HardwareError}
    {hardware : Logged Headless}
    (hrun : Hardware.perform call e.hardware = .ok (.error failure, hardware))
    (hplain : ∀ display use image, call ≠ .set display (.image use image)) :
    Registered { e with hardware } := by
  obtain ⟨hcall, hlog⟩ := Logged.perform_ok.1 hrun
  have hsame := Headless.eq_of_perform_error hcall
  refine ⟨?_, ?_, h.served_concat hlog ?_⟩
  · exact hsame ▸ h.lockstep
  · exact hsame ▸ h.apart
  · exact fun display use image heq => (hplain display use image heq).elim

theorem execute {commands : List DisplayCommand} {results : List CommandResult}
    (h : e.Registered) (hrun : e.execute commands = .ok (results, e')) : e'.Registered := by
  obtain ⟨last, hout, rfl⟩ := outcomes_of_execute hrun
  have hlast : last.Registered := outcomes_keeps (fun c _ => keeps_command c) h hout
  exact hlast.congr rfl .refl

/-- **Every request keeps it.** -/
theorem handle {request : Request} {reply : Reply} (h : e.Registered)
    (hrun : e.handle request = .ok (reply, e')) : e'.Registered := by
  cases handle_cases hrun with
  | executed hexecute => exact h.execute hexecute
  | created hcreate hadd =>
    obtain ⟨hcall, hlog⟩ := Logged.perform_ok.1 hcreate
    exact ⟨h.lockstep.create hcall hadd, h.apart.create h.lockstep.below hcall,
      h.served_concat hlog nofun⟩
  | notCreated hcreate => exact h.failed hcreate nofun
  | withdrawn hcreate hadd hdestroy =>
    -- the cache does not refuse a layer that is new
    obtain ⟨c', hc'⟩ := h.lockstep.addLayer (Logged.perform_ok.1 hcreate).1 _
    rw [hadd] at hc'
    cases hc'
  | destroyed hdestroy hremove =>
    obtain ⟨hcall, hlog⟩ := Logged.perform_ok.1 hdestroy
    obtain ⟨c', hc'⟩ := h.lockstep.removeLayer hcall
    rcases hremove with hremove | ⟨-, refusal, hremove⟩
    · exact ⟨h.lockstep.destroy hcall hremove, h.apart.destroy hcall,
        h.served_concat hlog nofun⟩
    · rw [hremove] at hc'
      cases hc'
  | notDestroyed hdestroy => exact h.failed hdestroy nofun
  | @refreshed display =>
    exact h.congr rfl (Cache.setMustValidate_sameRooms display true e.resources)

end Registered

variable {configs : List DisplayConfig} {cache : Cache}

theorem registered_start (hcache : Cache.ofConfigs configs = .ok cache) :
    Registered (start ⟨.ofConfigs configs, []⟩ cache) where
  lockstep := lockstep_ofConfigs hcache
  served := nofun
  apart display other layer hlayer := by
    have hnone := Headless.layer?_ofConfigs configs display layer
    rw [show (start (Logged.mk (Headless.ofConfigs configs) []) cache).hardware.hardware =
      Headless.ofConfigs configs from rfl, hnone] at hlayer
    cases hlayer

theorem registered_of_reaches {e e' : Engine (Logged Headless) Cache} (he : e.Registered)
    (hreached : e.Reaches e') : e'.Registered := by
  induction hreached with
  | refl => exact he
  | request _ hrun ih => exact ih.handle hrun

/-- **Of a field with an image only the cache is to blame for an error,** wherever in a batch
the field stands. -/
theorem field_image {e e₁ : Engine Headless Cache} {log : List Event}
    (he : (e.logged log).Registered) {commands : List DisplayCommand}
    {results : List CommandResult} (hexecute : e.execute commands = .ok (results, e₁))
    {c : DisplayCommand} {before later : List (Setting ImageRef)} {use : ImageUse} {ref : ImageRef}
    (hsettings : c.settings = before ++ .image use ref :: later) {set : Ran Headless Cache Unit}
    (hset : Action.each (Action.applySetting c.display) before e₁ = .ok set) :
    ∃ ran, Action.applySetting c.display (.image use ref) set.engine = .ok ran ∧
      ran.entries = ((set.engine.resources.refusal? ref).map fun refusal =>
        Entry.error refusal.toHardwareError).toList := by
  have haimed : ∀ s ∈ before ++ .image use ref :: later, s.Aimed c.display := by
    intro s hs
    rw [← hsettings] at hs
    exact DisplayCommand.aimed_of_mem_settings hs
  obtain ⟨between, hlogged⟩ := execute_logged e log commands
  rw [hexecute] at hlogged
  have he₁ : (e₁.logged between).Registered := he.execute hlogged
  -- the fields before this one keep the registries in step
  obtain ⟨more, hmore⟩ := (Action.composed_each (τ := Logged Headless)
    (Action.composed_applySetting c.display) before).logged hset between
  have hkeeps : (Action.each (Action.applySetting c.display) before :
      Action (Logged Headless) Cache Unit).Keeps Registered :=
    Action.keeps_each fun s hs =>
      Registered.keeps_applySetting (haimed s (List.mem_append_left _ hs))
  have hlast : (set.engine.logged more).Registered := hkeeps _ _ he₁ hmore
  have hthis := haimed (.image use ref) (List.mem_append_right _ (List.mem_cons_self ..))
  cases hresolve : set.engine.resources.resolve ref with
  | error refusal =>
    refine ⟨_, Action.applySetting_refused hresolve, ?_⟩
    rw [Cache.refusal?, hresolve]
    rfl
  | ok found =>
    obtain ⟨r, c'⟩ := found
    obtain ⟨t, hcall⟩ := hlast.lockstep.setImage hthis hresolve
    refine ⟨_, Action.applySetting_found hresolve hcall, ?_⟩
    rw [Cache.refusal?, hresolve]
    rfl

end Engine

/-! ### Ids are given out once -/

/-- The layer that was created for a request. -/
def Reply.created? : Reply → Option LayerId
  | .layerCreated layer => some layer
  | _ => none

namespace Engine

/-- The replies to some requests, up to one that would stop the program. -/
def replies {σ ρ : Type} [Hardware σ] [Resources ρ] : List Request → Engine σ ρ → List Reply
  | [], _ => []
  | request :: rest, e =>
    match e.handle request with
    | .ok (reply, e') => reply :: replies rest e'
    | .error _ => []

variable {e e' : Engine Headless Cache}

/-- No command uses up an id. -/
theorem nextLayer_stable (display : DisplayId) (n : LayerId) :
    Action.Stable display fun e : Engine Headless Cache => e.hardware.nextLayer = n := by
  refine Action.stable_of_resources (fun _ _ he => he) ?_ ?_
  · intro call hsteady e ran he hrun
    obtain ⟨hardware, hcall, -, hengine⟩ := Action.perform_ok.1 hrun
    rw [hengine]
    exact (Headless.sameLayers_of_perform hsteady hcall).nextLayer.trans he
  · intro state e ran he hrun
    obtain rfl := Except.ok.inj hrun
    exact he

/-- The next id is given out, and there is a greater one then; or none is. -/
theorem nextLayer_handle {request : Request} {reply : Reply}
    (hrun : e.handle request = .ok (reply, e')) :
    reply.created? = some e.hardware.nextLayer ∧ e.hardware.nextLayer < e'.hardware.nextLayer ∨
      reply.created? = none ∧ e.hardware.nextLayer ≤ e'.hardware.nextLayer := by
  have hcreated : ∀ {display : DisplayId} {layer : LayerId} {h t : Headless},
      Hardware.perform (.createLayer display) h = .ok (.ok layer, t) →
        layer = h.nextLayer ∧ h.nextLayer < t.nextLayer := by
    intro display layer h t hcreate
    obtain ⟨d, -, rfl, hmax, rfl⟩ := Headless.createLayer_ok hcreate
    exact ⟨rfl, Int64.lt_add_one_of_le (.inr rfl) hmax⟩
  cases handle_cases hrun with
  | executed hexecute =>
    obtain ⟨last, hout, rfl⟩ := outcomes_of_execute hexecute
    have hlast : last.hardware.nextLayer = e.hardware.nextLayer :=
      outcomes_keeps (fun c _ => (nextLayer_stable c.display _).keeps_command) rfl hout
    exact .inr ⟨rfl, Int64.le_of_eq hlast.symm⟩
  | created hcreate hadd =>
    obtain ⟨rfl, hlt⟩ := hcreated hcreate
    exact .inl ⟨rfl, hlt⟩
  | notCreated hcreate =>
    have hsame := Headless.eq_of_perform_error hcreate
    exact .inr ⟨rfl, Int64.le_of_eq (congrArg Headless.nextLayer hsame).symm⟩
  | withdrawn hcreate hadd hdestroy =>
    obtain ⟨-, hlt⟩ := hcreated hcreate
    have hsame := Headless.nextLayer_destroyLayer hdestroy
    exact .inr ⟨rfl, Int64.le_trans (Int64.le_of_lt hlt) (Int64.le_of_eq hsame.symm)⟩
  | destroyed hdestroy hremove =>
    exact .inr ⟨rfl, Int64.le_of_eq (Headless.nextLayer_destroyLayer hdestroy).symm⟩
  | notDestroyed hdestroy =>
    exact .inr ⟨rfl, Int64.le_of_eq (Headless.nextLayer_destroyLayer hdestroy).symm⟩
  | refreshed => exact .inr ⟨rfl, Int64.le_refl _⟩

/-- **Ids are given out in ascending order,** so none is given out twice. -/
theorem created_pairwise (requests : List Request) (e : Engine Headless Cache) :
    (∀ layer ∈ (e.replies requests).filterMap Reply.created?, e.hardware.nextLayer ≤ layer) ∧
      ((e.replies requests).filterMap Reply.created?).Pairwise (· < ·) := by
  induction requests generalizing e with
  | nil => exact ⟨nofun, .nil⟩
  | cons request rest ih =>
    rw [replies]
    cases hrun : e.handle request with
    | error crash => exact ⟨nofun, .nil⟩
    | ok r =>
      obtain ⟨reply, e'⟩ := r
      obtain ⟨hlater, hpairwise⟩ := ih e'
      dsimp only
      rcases nextLayer_handle hrun with ⟨hcreated, hlt⟩ | ⟨hnone, hle⟩
      · rw [List.filterMap_cons_some hcreated]
        refine ⟨?_, List.pairwise_cons.2 ⟨?_, hpairwise⟩⟩
        · intro layer hlayer
          rcases List.mem_cons.1 hlayer with rfl | hlayer
          · exact Int64.le_refl _
          · exact Int64.le_trans (Int64.le_of_lt hlt) (hlater layer hlayer)
        · intro layer hlayer
          exact Int64.lt_of_lt_of_le hlt (hlater layer hlayer)
      · rw [List.filterMap_cons_none hnone]
        refine ⟨?_, hpairwise⟩
        intro layer hlayer
        exact Int64.le_trans hle (hlater layer hlayer)

/-! ### From startup on -/

/-- **The registries agree.** From startup on any configuration that is loaded, after any
requests: the hardware and the cache know the same displays, the same of them as virtual, and
for each the same layers; and no layer is on two displays. Whenever the cache has found an
image the hardware has used it. So the only error that is reported of a field with an image is
why the cache did not find it, wherever in a batch the field stands. And the ids of the layers
that were created are all different, whatever was destroyed meanwhile. -/
theorem registries_agree {place : Place} {c : ComposerConfig}
    (hload : (ComposerConfig.load place).1 = .ok c) :
    ∃ e₀ : Engine Headless Cache, Engine.ofConfigs c.displays = .ok e₀ ∧
      ∀ requests : List Request,
        (∀ display, (e₀.after requests).resources.registry display =
          (e₀.after requests).hardware.registry display) ∧
        (e₀.after requests).hardware.Apart ∧
        (∃ log : List Event,
          (e₀.logged []).after requests = (e₀.after requests).logged log ∧
            ∀ event ∈ log, event.Served) ∧
        (∀ (begun : List DisplayCommand) (results : List CommandResult) (e₁ : Engine Headless Cache)
          (next : DisplayCommand) (before later : List (Setting ImageRef)) (use : ImageUse)
          (ref : ImageRef) (set : Ran Headless Cache Unit),
          (e₀.after requests).execute begun = .ok (results, e₁) →
          next.settings = before ++ .image use ref :: later →
          Action.each (Action.applySetting next.display) before e₁ = .ok set →
          ∃ ran, Action.applySetting next.display (.image use ref) set.engine = .ok ran ∧
            ran.entries = ((set.engine.resources.refusal? ref).map fun refusal =>
              Entry.error refusal.toHardwareError).toList) ∧
        ((e₀.replies requests).filterMap Reply.created?).Pairwise (· < ·) := by
  obtain ⟨cache, hcache, hstart⟩ := ofConfigs_of_load hload
  refine ⟨_, hstart, ?_⟩
  intro requests
  let e₀ : Engine Headless Cache := start (.ofConfigs c.displays) cache
  obtain ⟨log, hlogged⟩ := after_logged e₀ [] requests
  have hregistered : ((e₀.after requests).logged log).Registered := by
    rw [← hlogged]
    exact registered_of_reaches (registered_start hcache) (.after requests _)
  refine ⟨?_, hregistered.apart, ⟨log, hlogged, hregistered.served⟩, ?_,
    (created_pairwise requests e₀).2⟩
  · exact hregistered.lockstep.registry_eq
  · intro begun results e₁ next before later use ref set hexecute hsettings hset
    exact field_image hregistered hexecute hsettings hset

/-- A layer that comes and goes, and another one. -/
def replaced : List Request := [.createLayer 0 1, .destroyLayer 0 1, .createLayer 0 1]

/-- The second layer has an id of its own. A frame for the first one is refused by the cache
when it comes to the buffer. -/
theorem registries_agree_replaced :
    (ComposerConfig.load .absent).1 = .ok .firstRun ∧
    ∃ e₀ : Engine Headless Cache, Engine.ofConfigs ComposerConfig.firstRun.displays = .ok e₀ ∧
      (e₀.after replaced).hardware.registry 0 = some (false, [2]) ∧
      (e₀.after replaced).resources.registry 0 = some (false, [2]) ∧
      (e₀.replies replaced).filterMap Reply.created? = [1, 2] ∧
      [(1 : LayerId), 2].Pairwise (· < ·) ∧
      ∃ ran, Action.applySetting 0
          (.image (.layerBuffer 1 .absent) ⟨.layerBuffer 0 1 0, some ⟨[], [7]⟩⟩)
          ((e₀.after replaced).counting 1) = .ok ran ∧
        ran.entries = [.error .badLayer] := by
  have hload : (ComposerConfig.load .absent).1 = .ok .firstRun := by
    rw [ComposerConfig.load]
    split <;> rfl
  obtain ⟨e₀, hstart, hrun⟩ := registries_agree hload
  have hstandard : Engine.ofConfigs ComposerConfig.firstRun.displays =
      .ok (start (.ofConfigs [.standard]) standardCache) := rfl
  obtain rfl : start (Headless.ofConfigs [.standard]) standardCache = e₀ :=
    Except.ok.inj (hstandard.symm.trans hstart)
  obtain ⟨hregistry, -, -, hfield, hpairwise⟩ := hrun replaced
  have hhardware : ((start (Headless.ofConfigs [.standard]) standardCache).after
      replaced).hardware.registry 0 = some (false, [2]) := by decide +kernel
  have hcreated : ((start (Headless.ofConfigs [.standard]) standardCache).replies
      replaced).filterMap Reply.created? = [1, 2] := by decide +kernel
  rw [hcreated] at hpairwise
  obtain ⟨ran, happly, hentries⟩ := hfield [] [] _ (furnished 7) [] _ _ _
    ⟨(), [], _⟩ rfl rfl rfl
  refine ⟨hload, _, hstart, hhardware, (hregistry 0).trans hhardware, hcreated, hpairwise,
    ran, happly, hentries.trans ?_⟩
  decide +kernel

end Engine

end DisplayComposer
