import DisplayComposer.Proofs.Cache.Places
import DisplayComposer.Proofs.Engine.Custody
import DisplayComposer.Proofs.Hardware.Holding
import DisplayComposer.Proofs.Startup
/-!
# DisplayComposer.Proofs.Engine.Backing

**The hardware holds no image that was let go.** Whatever image the headless backend holds,
the cache has it in a place of the same display and layer, and of the same kind. The cache
lets a displaced image go before anything is known of the call that uses the new one. That
is safe since the call is made whenever the cache finds an image, and since it leaves no
older image behind even if it fails.

Both sides are followed through the ledger of a batch. The hardware holds at most what was
to be set last, and what was to be set last is where the ledger has put it.

* `Scope.holding` — what the image of a place is held as;
* `Ledger.Backs`, `Ledger.backs_ofBatch` — what was to be set last is cached;
* `Headless.held_of_log` — nothing else is held;
* `Engine.Backed`, `Engine.backed_of_reaches` — so it is after any requests;
* `Engine.held_images_cached` — from startup on.
-/

namespace DisplayComposer

/-- What the image of a place is held as. -/
def Scope.holding : Scope → Holding
  | .clientTarget _ _ => .clientTarget
  | .outputBuffer _ _ => .outputBuffer
  | .layerBuffer _ layer _ => .layerBuffer layer
  | .sideband _ layer => .sideband layer

theorem Scope.layer?_holding (s : Scope) : s.holding.layer? = s.layer? := by
  cases s <;> rfl

/-- What displays hold. -/
abbrev Held : Type := DisplayId → Holding → Option Image

/-- What is held once something is set for a display. -/
def Held.set (held : Held) (call : DisplayId × Setting Image) : Held := fun display x =>
  if call.1 = display then call.2.holds x (held display x) else held display x

/-! ### What a command sets is meant for its own display -/

/-- An image is found in a place of the kind that it is used for. -/
def Setting.Aimed (display : DisplayId) : Setting ImageRef → Prop
  | .property _ => True
  | .image use ref => ref.scope.display = display ∧ ref.scope.holding = use.holding

theorem LayerCommand.aimed {c : LayerCommand} {display : DisplayId} {field : LayerField}
    {s : Setting ImageRef} (h : c.item? display field = some s) : s.Aimed display := by
  cases field <;> obtain ⟨v, -, rfl⟩ := Option.map_eq_some_iff.1 h <;> trivial

namespace DisplayCommand

theorem aimed_of_item? {c : DisplayCommand} {field : DisplayField} {s : Setting ImageRef}
    (h : c.item? field = some s) : s.Aimed c.display := by
  cases field <;> obtain ⟨v, -, rfl⟩ := Option.map_eq_some_iff.1 h <;> trivial

theorem aimed_of_mem_agenda {c : DisplayCommand} {s : Setting ImageRef} (h : s ∈ c.agenda) :
    s.Aimed c.display := by
  have hexpectation : ∀ b : Bool, s ∈ (if b then [c.expectation] else []) → s.Aimed c.display := by
    intro b hs
    cases b with
    | true =>
      obtain rfl := List.mem_singleton.1 hs
      trivial
    | false => cases hs
  rw [agenda, List.mem_append, List.mem_append, List.mem_append] at h
  rcases h with ((hlayer | hdisplay) | hvalidate) | hpresent
  · obtain ⟨l, -, hitem⟩ := List.mem_flatMap.1 hlayer
    obtain ⟨field, -, hfield⟩ := List.mem_filterMap.1 hitem
    exact LayerCommand.aimed hfield
  · obtain ⟨field, -, hfield⟩ := List.mem_filterMap.1 hdisplay
    exact aimed_of_item? hfield
  · exact hexpectation _ hvalidate
  · exact hexpectation _ hpresent

end DisplayCommand

/-! ### The ledger -/

/-- Whatever is held is cached for the same display, in a place of its kind. -/
def Cache.Backs (c : Cache) (held : Held) : Prop :=
  ∀ display x image, held display x = some image →
    ∃ s : Scope, s.display = display ∧ s.holding = x ∧ c.imageAt? s = some image

namespace Ledger

variable {held : Held} {l : Ledger}

/-- What was to be set last, and what was held before where nothing was set, is cached. -/
def Backs (held : Held) (l : Ledger) : Prop := l.cache.Backs (l.calls.foldl Held.set held)

theorem Backs.enter {display : DisplayId} {s : Setting ImageRef} (h : l.Backs held)
    (haimed : s.Aimed display) : (l.enter display s).Backs held := by
  cases s with
  | property p =>
    intro d x image hheld
    rw [Ledger.enter, List.foldl_append] at hheld
    refine h d x image ?_
    simpa [Held.set, Setting.holds] using hheld
  | image use ref =>
    rw [Ledger.enter]
    cases hfound : l.cache.resolve ref with
    | error refusal => exact h
    | ok found =>
      obtain ⟨r, cache⟩ := found
      have hplaces := (Cache.resolve_cases hfound).imageAt?_eq
      intro d x image hheld
      show ∃ s : Scope, _ ∧ _ ∧ cache.imageAt? s = some image
      simp only [List.foldl_append, List.foldl_cons, List.foldl_nil, Held.set] at hheld
      by_cases hset : display = d ∧ use.holding = x
      · -- the image that was found is the one that is to be set
        obtain ⟨rfl, rfl⟩ := hset
        rw [if_pos rfl, Setting.holds, if_pos rfl] at hheld
        exact ⟨ref.scope, haimed.1, haimed.2, by rw [hplaces, if_pos rfl, hheld]⟩
      · have hbefore : l.calls.foldl Held.set held d x = some image := by
          by_cases hdisplay : display = d
          · rw [if_pos hdisplay, Setting.holds, if_neg fun hx => hset ⟨hdisplay, hx⟩] at hheld
            exact hheld
          · rwa [if_neg hdisplay] at hheld
        obtain ⟨s, hs, hx, hcached⟩ := h d x image hbefore
        have hother : s ≠ ref.scope := by
          rintro rfl
          exact hset ⟨haimed.1.symm.trans hs, haimed.2.symm.trans hx⟩
        exact ⟨s, hs, hx, by rw [hplaces, if_neg hother, hcached]⟩

theorem Backs.settle (display : DisplayId) (h : l.Backs held) : (l.settle display).Backs held := by
  intro d x image hheld
  obtain ⟨s, hs, hx, hcached⟩ := h d x image hheld
  exact ⟨s, hs, hx, (Cache.imageAt?_setMustValidate display false s).trans hcached⟩

theorem Backs.enterAll {display : DisplayId} {settings : List (Setting ImageRef)}
    (h : l.Backs held) (haimed : ∀ s ∈ settings, s.Aimed display) :
    (settings.foldl (Ledger.enter display) l).Backs held := by
  induction settings generalizing l with
  | nil => exact h
  | cons s rest ih =>
    exact ih (h.enter (haimed s (List.mem_cons_self ..)))
      fun other hother => haimed other (List.mem_cons_of_mem _ hother)

theorem Backs.enterCommand (h : l.Backs held) (c : DisplayCommand) :
    (l.enterCommand c).Backs held := by
  have hentered := h.enterAll fun s hs => DisplayCommand.aimed_of_mem_agenda (c := c) hs
  rw [Ledger.enterCommand]
  cases c.validate || c.presentOrValidate with
  | true => exact hentered.settle c.display
  | false => exact hentered

theorem Backs.enterCommands (commands : List DisplayCommand) (h : l.Backs held) :
    (commands.foldl Ledger.enterCommand l).Backs held := by
  induction commands generalizing l with
  | nil => exact h
  | cons c rest ih => exact ih (h.enterCommand c)

/-- **What a batch was to set last is cached** once all of it is entered. -/
theorem backs_ofBatch {cache : Cache} (h : cache.Backs held) (commands : List DisplayCommand) :
    (ofBatch commands cache).Backs held :=
  Backs.enterCommands (l := ⟨[], cache⟩) _ h

end Ledger

/-! ### The hardware -/

namespace Headless

/-- **What is held after some calls** is what was to be set last, or was held before where
nothing was set. -/
theorem held_of_log {h h' : Headless} {log : List Event} (houtputs : h.Outputs)
    (reached : Hardware.Reaches (Logged.mk h []) ⟨h', log⟩) :
    h'.Outputs ∧ ∀ display x image, h'.held? display x = some image →
      (log.filterMap Event.property?).foldl Held.set h.held? display x = some image := by
  refine reached.invariant (P := fun t => t.hardware.Outputs ∧ ∀ display x image,
    t.hardware.held? display x = some image →
      (t.log.filterMap Event.property?).foldl Held.set h.held? display x = some image)
    (fun {c s t out} hs hrun => ?_) ⟨houtputs, fun _ _ _ hheld => hheld⟩
  obtain ⟨hcall, hlog⟩ := Logged.perform_ok.1 hrun
  obtain ⟨hout, hheld⟩ := hs
  refine ⟨hout.perform hcall, fun display x image himage => ?_⟩
  rw [hlog, List.filterMap_append, List.foldl_append]
  cases c with
  | set target setting =>
    have hset := held_of_set hout hcall himage
    show Held.set _ (target, setting) display x = some image
    rw [Held.set]
    by_cases htarget : target = display
    · rw [if_pos htarget] at hset ⊢
      cases setting with
      | property p => exact hheld _ _ _ hset
      | image use set =>
        by_cases hx : use.holding = x
        · rw [Setting.holds, if_pos hx] at hset ⊢
          exact hset
        · rw [Setting.holds, if_neg hx] at hset ⊢
          exact hheld _ _ _ hset
    · rw [if_neg htarget] at hset ⊢
      exact hheld _ _ _ hset
  | _ =>
    refine hheld _ _ _ (held_of_perform hcall (fun display setting hset => ?_) himage)
    cases hset

end Headless

/-! ### Requests -/

namespace Engine

/-- Whatever image the hardware holds, the cache has. -/
structure Backed (e : Engine Headless Cache) : Prop where
  outputs : e.hardware.Outputs
  cached : e.resources.Backs e.hardware.held?

namespace Backed

variable {e e' : Engine Headless Cache}

theorem execute {commands : List DisplayCommand} {results : List CommandResult}
    (h : e.Backed) (hrun : e.execute commands = .ok (results, e')) : e'.Backed := by
  obtain ⟨log, hlogged, hcalls, hcache⟩ := exists_log_of_execute hrun
  obtain ⟨houtputs, hheld⟩ := Headless.held_of_log h.outputs (execute_reaches hlogged)
  refine ⟨houtputs, fun display x image himage => ?_⟩
  have hset := hheld display x image himage
  rw [hcalls] at hset
  rw [hcache]
  exact Ledger.backs_ofBatch h.cached commands display x image hset

/-- A call that sets nothing, where the cache keeps the images that are held after it. -/
theorem of_perform {call : Call} {out : Except HardwareError call.Answer} {hardware : Headless}
    {resources : Cache} {states : Table DisplayId PresentState} {batches : Nat}
    (h : e.Backed) (hrun : Hardware.perform call e.hardware = .ok (out, hardware))
    (hcall : ∀ display setting, call ≠ .set display setting)
    (hkept : ∀ s image, hardware.held? s.display s.holding = some image →
      e.resources.imageAt? s = some image → resources.imageAt? s = some image) :
    Backed ⟨hardware, resources, states, batches⟩ := by
  refine ⟨h.outputs.perform hrun, fun display x image hheld => ?_⟩
  obtain ⟨s, rfl, rfl, hcached⟩ :=
    h.cached display x image (Headless.held_of_perform hrun hcall hheld)
  exact ⟨s, rfl, rfl, hkept s image hheld hcached⟩

theorem destroy {display : DisplayId} {layer : LayerId} {hardware : Headless}
    {resources : Cache} {states : Table DisplayId PresentState} {batches : Nat} (h : e.Backed)
    (hdestroy :
      Hardware.perform (.destroyLayer display layer) e.hardware = .ok (.ok (), hardware))
    (hremove : e.resources.removeLayer display layer = .ok resources) :
    Backed ⟨hardware, resources, states, batches⟩ := by
  refine h.of_perform hdestroy (fun _ _ => nofun) fun s image hheld hcached => ?_
  rw [Cache.imageAt?_removeLayer hremove, hcached]
  -- the images of the layer are not held any more
  intro hs hlayer
  rw [hs, Headless.held?_of_destroyLayer hdestroy (s.layer?_holding.trans hlayer)] at hheld
  cases hheld

/-- **Every request keeps it.** -/
theorem handle {request : Request} {reply : Reply} (h : e.Backed)
    (hrun : e.handle request = .ok (reply, e')) : e'.Backed := by
  cases handle_cases hrun with
  | executed hexecute => exact h.execute hexecute
  | created hcreate hadd =>
    exact h.of_perform hcreate (fun _ _ => nofun) fun s image _ hcached =>
      (Cache.imageAt?_addLayer hadd s).trans hcached
  | notCreated hcreate => exact h.of_perform hcreate (fun _ _ => nofun) fun _ _ _ hcached => hcached
  | @withdrawn display slots layer refusal hardware hardware' outcome hcreate hadd hdestroy =>
    have hcreated : Backed { e with hardware } :=
      h.of_perform hcreate (fun _ _ => nofun) fun _ _ _ hcached => hcached
    exact hcreated.of_perform hdestroy (fun _ _ => nofun) fun _ _ _ hcached => hcached
  | destroyed hdestroy hremove =>
    rcases hremove with hremove | ⟨rfl, -⟩
    · exact h.destroy hdestroy hremove
    · exact h.of_perform hdestroy (fun _ _ => nofun) fun _ _ _ hcached => hcached
  | notDestroyed hdestroy =>
    exact h.of_perform hdestroy (fun _ _ => nofun) fun _ _ _ hcached => hcached
  | @refreshed display =>
    refine ⟨h.outputs, fun d x image hheld => ?_⟩
    obtain ⟨s, hs, hx, hcached⟩ := h.cached d x image hheld
    exact ⟨s, hs, hx, (Cache.imageAt?_setMustValidate display true s).trans hcached⟩

end Backed

/-- Nothing is held at the start. -/
theorem backed_start (configs : List DisplayConfig) (cache : Cache) :
    (start (Headless.ofConfigs configs) cache).Backed := by
  refine ⟨Headless.outputs_ofConfigs configs, fun display x image hheld => ?_⟩
  have hnone := Headless.held?_ofConfigs configs display x
  rw [show (start (Headless.ofConfigs configs) cache).hardware.held? display x = none from hnone]
    at hheld
  cases hheld

theorem backed_of_reaches {configs : List DisplayConfig} {cache : Cache}
    {e : Engine Headless Cache} (reached : (start (.ofConfigs configs) cache).Reaches e) :
    e.Backed := by
  induction reached with
  | refl => exact backed_start configs cache
  | request _ hrun ih => exact ih.handle hrun

/-- An image of a cache that was let go is not cached after any more requests, nor is
another one with its number. -/
theorem not_cached_after {displays : List DisplayConfig} {cache : Cache}
    (hcache : Cache.ofConfigs displays = .ok cache) {hardware : Headless}
    {requests later : List Request} {image other : Image}
    (himport : image ∈
      CacheUse.empty.imports ((start hardware cache).cacheHistory displays requests))
    (hgone : image ∉ ((start hardware cache).after requests).resources.images)
    (hcached : other ∈
      (((start hardware cache).after requests).after later).resources.images) :
    other.same image = false := by
  have hrun := run_cacheHistory hcache hardware requests
  have hlater := run_cacheSteps later ((start hardware cache).after requests)
  rw [← hrun] at hlater
  have hgone' : image ∉ (CacheUse.empty.run
      ((start hardware cache).cacheHistory displays requests)).cache.images := by
    rw [hrun]
    exact hgone
  refine CacheUse.not_same_cached_again himport hgone'
    (((start hardware cache).after requests).cacheSteps later) ?_
  rw [hlater]
  exact hcached

/-- **The hardware holds no image that was let go.** From startup on any configuration that
is loaded, after any requests: every image that the hardware holds is the very same import
as one that the cache has for that display, and for that layer if it is held by one, in a
place of its kind. So an import that the cache has let go is not held, then or ever
after. -/
theorem held_images_cached {place : Place} {c : ComposerConfig}
    (hload : (ComposerConfig.load place).1 = .ok c) :
    ∃ e₀ : Engine Headless Cache, Engine.ofConfigs c.displays = .ok e₀ ∧
      ∀ requests later : List Request,
      (∀ display x image, (e₀.after requests).hardware.held? display x = some image →
        ∃ s cached, Scope.display s = display ∧ s.holding = x ∧
          (e₀.after requests).resources.imageAt? s = some cached ∧ cached.same image = true) ∧
      ∀ image ∈ CacheUse.empty.imports (e₀.cacheHistory c.displays requests),
        image ∉ (e₀.after requests).resources.images →
        ∀ display x held,
          ((e₀.after requests).after later).hardware.held? display x = some held →
          held.same image = false := by
  obtain ⟨cache, hcache, hstart⟩ := ofConfigs_of_load hload
  refine ⟨_, hstart, fun requests later => ⟨fun display x image hheld => ?_, ?_⟩⟩
  · obtain ⟨s, hs, hx, hcached⟩ := (backed_of_reaches (.after requests _)).cached _ _ _ hheld
    exact ⟨s, image, hs, hx, hcached, beq_self_eq_true image.serial⟩
  · intro image himport hgone display x held hheld
    have reached := (Reaches.after requests (start (Headless.ofConfigs c.displays) cache)).trans
      (.after later _)
    obtain ⟨s, -, -, hcached⟩ := (backed_of_reaches reached).cached _ _ _ hheld
    exact not_cached_after hcache himport hgone (Cache.mem_images_of_imageAt? hcached)

/-- A layer and two frames for it. -/
def refurnished : List Request := [.createLayer 0 1, .execute [furnished 7, furnished 8]]

/-- After the second frame its images are held, and cached. Those of the first are let go,
and never held again. -/
theorem held_images_cached_refurnished :
    (ComposerConfig.load .absent).1 = .ok .firstRun ∧
    ∃ e₀ : Engine Headless Cache, Engine.ofConfigs ComposerConfig.firstRun.displays = .ok e₀ ∧
      (e₀.after refurnished).hardware.held? 0 (.layerBuffer 1) = some ⟨3, ⟨[], [8]⟩⟩ ∧
      (∃ s cached, Scope.display s = 0 ∧ s.holding = .layerBuffer 1 ∧
        (e₀.after refurnished).resources.imageAt? s = some cached ∧
        cached.same ⟨3, ⟨[], [8]⟩⟩ = true) ∧
      ∀ later display x held,
        ((e₀.after refurnished).after later).hardware.held? display x = some held →
        held.same ⟨0, ⟨[], [7]⟩⟩ = false := by
  have hload : (ComposerConfig.load .absent).1 = .ok .firstRun := by
    rw [ComposerConfig.load]
    split <;> rfl
  obtain ⟨e₀, hstart, hheld⟩ := held_images_cached hload
  have hstandard : Engine.ofConfigs ComposerConfig.firstRun.displays =
      .ok (start (.ofConfigs [.standard]) standardCache) := rfl
  obtain rfl : start (Headless.ofConfigs [.standard]) standardCache = e₀ :=
    Except.ok.inj (hstandard.symm.trans hstart)
  have hbuffer : ((start (Headless.ofConfigs [.standard]) standardCache).after
      refurnished).hardware.held? 0 (.layerBuffer 1) = some ⟨3, ⟨[], [8]⟩⟩ := by decide +kernel
  refine ⟨hload, _, hstart, hbuffer, (hheld refurnished []).1 _ _ _ hbuffer, fun later => ?_⟩
  exact (hheld refurnished later).2 ⟨0, ⟨[], [7]⟩⟩ (by decide +kernel) (by decide +kernel)

end Engine

end DisplayComposer
