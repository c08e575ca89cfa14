import DisplayComposer.Proofs.Cache.Custody
import DisplayComposer.Proofs.Engine.Ledger
import DisplayComposer.Proofs.Engine.Run
import DisplayComposer.Server.Basic
/-!
# DisplayComposer.Proofs.Engine.Custody

**What requests do to the images.** All that a request does to the cache is done by
steps of a cache in use. Each image of a command is resolved, and the resolution is
dropped before the next one, so none is kept from one request to the next. Where the
images are after any requests is then known from what any steps do.

* `Request.cacheSteps`, `Engine.cacheSteps` — the steps of requests;
* `Engine.run_cacheSteps` — they lead to the cache that the engine has;
* `Engine.imports_accounted` — all imports are accounted for.
-/

namespace DisplayComposer

/-! ### The steps of a request -/

/-- What setting something asks of the cache. An image is resolved, and what it displaced
is given up right after. -/
def Setting.cacheSteps : Setting ImageRef → List CacheStep
  | .property _ => []
  | .image _ ref => [.resolve ref (some "image"), .drop "image"]

def DisplayCommand.cacheSteps (c : DisplayCommand) : List CacheStep :=
  c.agenda.flatMap Setting.cacheSteps ++
    if c.validate || c.presentOrValidate then [.setMustValidate c.display false] else []

/-- What a request asks of the cache, with the reply that shows what the hardware made
of it. -/
def Request.cacheSteps : Request → Reply → List CacheStep
  | .execute commands, _ => (commands.take UInt32.size).flatMap DisplayCommand.cacheSteps
  | .createLayer display slots, .layerCreated layer => [.addLayer display layer slots]
  | .createLayer _ _, _ => []
  | .destroyLayer display layer, .ok => [.removeLayer display layer]
  | .destroyLayer _ _, _ => []
  | .refresh display, _ => [.setMustValidate display true]

namespace Cache

/-- A cache of which no resolution is kept. -/
def unused (c : Cache) : CacheUse := ⟨c, .empty⟩

/-! ### Steps that lead where the ledger does -/

/-- A resolution that is dropped at once only leaves the cache without what it
displaced. -/
theorem run_resolve_drop {c c' : Cache} {ref : ImageRef} {r : Resolution}
    (h : c.resolve ref = .ok (r, c')) (name : String) :
    c.unused.run [.resolve ref (some name), .drop name] = (c'.release r.parked).unused := by
  have hstep : (c.unused.step (.resolve ref (some name))).2 = c'.unused.keep name r := by
    simp only [unused, CacheUse.step, h]
  show (c.unused.step (.resolve ref (some name))).2.drop name = _
  rw [hstep, CacheUse.keep_eq, CacheUse.drop_eq]
  simp [unused, release]

theorem run_setting (l : Ledger) (display : DisplayId) (s : Setting ImageRef) :
    l.cache.unused.run s.cacheSteps = (l.enter display s).cache.unused := by
  cases s with
  | property p => rfl
  | image use ref =>
    rw [Ledger.enter]
    cases h : l.cache.resolve ref with
    | error refusal =>
      have hstep : (l.cache.unused.step (.resolve ref (some "image"))).2 = l.cache.unused := by
        simp only [unused, CacheUse.step, h]
      show (l.cache.unused.step (.resolve ref (some "image"))).2.drop "image" = _
      rw [hstep]
      rfl
    | ok found => exact run_resolve_drop h "image"

theorem run_settings (settings : List (Setting ImageRef)) (display : DisplayId) (l : Ledger) :
    l.cache.unused.run (settings.flatMap Setting.cacheSteps) =
      (settings.foldl (Ledger.enter display) l).cache.unused := by
  induction settings generalizing l with
  | nil => rfl
  | cons s rest ih =>
    rw [List.flatMap_cons, CacheUse.run_append, run_setting l display s, ih]
    rfl

theorem run_command (l : Ledger) (c : DisplayCommand) :
    l.cache.unused.run c.cacheSteps = (l.enterCommand c).cache.unused := by
  rw [DisplayCommand.cacheSteps, CacheUse.run_append, run_settings c.agenda c.display l,
    Ledger.enterCommand]
  cases c.validate || c.presentOrValidate <;> rfl

theorem run_commands (commands : List DisplayCommand) (l : Ledger) :
    l.cache.unused.run (commands.flatMap DisplayCommand.cacheSteps) =
      (commands.foldl Ledger.enterCommand l).cache.unused := by
  induction commands generalizing l with
  | nil => rfl
  | cons c rest ih =>
    rw [List.flatMap_cons, CacheUse.run_append, run_command l c, ih]
    rfl

/-- Registering displays. -/
theorem run_addDisplays {displays : List DisplayConfig} {c c' : Cache}
    (h : displays.foldlM (fun c d => Cache.addDisplay d.id d.targetSlots d.isVirtual c) c =
      .ok c') :
    c.unused.run (displays.map fun d => .addDisplay d.id d.targetSlots d.isVirtual) =
      c'.unused := by
  induction displays generalizing c with
  | nil =>
    cases h
    rfl
  | cons d rest ih =>
    rw [List.foldlM_cons] at h
    obtain ⟨c₁, hadd, hrest⟩ := Except.bind_eq_ok_iff.1 h
    rw [← ih hrest]
    show CacheUse.run _ (c.unused.change (c.addDisplay _ _ _)).2 = _
    rw [hadd]
    rfl

end Cache

/-! ### Requests -/

namespace Engine

variable {σ : Type} [Hardware σ]

/-- **What a request does to the cache, its steps do,** and no resolution is kept at the
end of it. -/
theorem run_handle {request : Request} {reply : Reply} {e e' : Engine σ Cache}
    (hrun : e.handle request = .ok (reply, e')) :
    e.resources.unused.run (request.cacheSteps reply) = e'.resources.unused := by
  cases handle_cases hrun with
  | @executed commands results e' hexecute =>
    obtain ⟨log, -, -, hcache⟩ := exists_log_of_execute hexecute
    rw [hcache]
    exact Cache.run_commands _ ⟨[], e.resources⟩
  | @created display slots layer hardware resources hcreate hadd =>
    show (e.resources.unused.change (e.resources.addLayer display layer slots)).2 = _
    rw [hadd]
    rfl
  | notCreated hcreate => rfl
  | withdrawn hcreate hadd hdestroy => rfl
  | @destroyed display layer hardware resources hdestroy hremove =>
    show (e.resources.unused.change (e.resources.removeLayer display layer)).2 = _
    rcases hremove with hremove | ⟨rfl, refusal, hremove⟩
    · rw [hremove]
      rfl
    · rw [hremove]
      rfl
  | notDestroyed hdestroy => rfl
  | refreshed => rfl

/-- The steps of some requests, up to one that would stop the program. -/
def cacheSteps : List Request → Engine σ Cache → List CacheStep
  | [], _ => []
  | request :: rest, e =>
    match e.handle request with
    | .ok (reply, f) => request.cacheSteps reply ++ cacheSteps rest f
    | .error _ => []

theorem run_cacheSteps (requests : List Request) (e : Engine σ Cache) :
    e.resources.unused.run (e.cacheSteps requests) = (e.after requests).resources.unused := by
  induction requests generalizing e with
  | nil => rfl
  | cons request rest ih =>
    rw [cacheSteps, after]
    cases hrun : e.handle request with
    | error crash => rfl
    | ok handled =>
      obtain ⟨reply, f⟩ := handled
      dsimp only
      rw [CacheUse.run_append, run_handle hrun, ih]

/-- All that was done to the cache from the start, where some displays were registered. -/
def cacheHistory (displays : List DisplayConfig) (requests : List Request)
    (e : Engine σ Cache) : List CacheStep :=
  (displays.map fun d => .addDisplay d.id d.targetSlots d.isVirtual) ++ e.cacheSteps requests

theorem run_cacheHistory {displays : List DisplayConfig} {cache : Cache}
    (h : Cache.ofConfigs displays = .ok cache) (hardware : σ) (requests : List Request) :
    CacheUse.empty.run ((start hardware cache).cacheHistory displays requests) =
      ((start hardware cache).after requests).resources.unused := by
  have hregistered : CacheUse.empty.run _ = cache.unused := Cache.run_addDisplays h
  rw [cacheHistory, CacheUse.run_append, hregistered]
  exact run_cacheSteps requests (start hardware cache)

/-- **All imports are accounted for.** After any steps of a cache in use, in any order, the
images that were imported are those let go, those cached and those parked, each in one of
these places; and an image that is not cached any more is never cached again, nor is one
parked again that was let go.

All that requests do to the cache are such steps, and no resolution is kept from one to the
next. So after each request the images imported are those let go and those cached. -/
theorem imports_accounted :
    (∀ steps later : List CacheStep,
      let u := CacheUse.empty.run steps
      let imports := CacheUse.empty.imports steps
      imports.length = u.cache.released + u.cache.images.length + u.parked.length ∧
      imports.map Image.serial = List.range imports.length ∧
      (∃ gone, (u.cache.images ++ u.parked ++ gone).Perm imports ∧
        gone.length = u.cache.released) ∧
      ∀ image ∈ imports, image ∉ u.cache.images →
        image ∉ (u.run later).cache.images ∧
        (image ∉ u.parked → image ∉ (u.run later).parked)) ∧
    ∀ {σ : Type} [Hardware σ] (hardware : σ) (displays : List DisplayConfig) (cache : Cache),
      Cache.ofConfigs displays = .ok cache → ∀ requests : List Request,
      let e := (start hardware cache).after requests
      let history := (start hardware cache).cacheHistory displays requests
      CacheUse.empty.run history = ⟨e.resources, .empty⟩ ∧
      (CacheUse.empty.imports history).length = e.resources.imported ∧
      e.resources.imported = e.resources.released + e.resources.images.length := by
  have counted : ∀ steps : List CacheStep, (CacheUse.empty.imports steps).length =
      (CacheUse.empty.run steps).cache.released +
        (CacheUse.empty.run steps).cache.images.length +
        (CacheUse.empty.run steps).parked.length := by
    intro steps
    obtain ⟨gone, hperm, hgone⟩ := CacheUse.imports_perm steps
    have hlength := hperm.length_eq
    rw [List.length_append, List.length_append] at hlength
    omega
  refine ⟨fun steps later => ?_, fun hardware displays cache hcache requests => ?_⟩
  · refine ⟨counted steps, CacheUse.serials_imports steps, CacheUse.imports_perm steps, ?_⟩
    intro image himport hcached
    exact ⟨CacheUse.not_cached_again himport hcached later,
      fun hparked => CacheUse.not_parked_again himport hcached hparked later⟩
  · have hrun := run_cacheHistory hcache hardware requests
    have himported := CacheUse.length_imports
      ((start hardware cache).cacheHistory displays requests)
    have hcounted := counted ((start hardware cache).cacheHistory displays requests)
    rw [hrun] at himported hcounted
    refine ⟨hrun, himported, ?_⟩
    exact himported.symm.trans hcounted

/-- A frame with a buffer, with a stream and with what the client composed. -/
def furnished (word : Int32) : DisplayCommand :=
  { DisplayCommand.idle 0 with
    layers := [{ LayerCommand.idle 1 with
      buffer := some ⟨0, some ⟨[], [word]⟩, .absent⟩
      sidebandStream := some ⟨[], [word]⟩ }]
    clientTarget := some ⟨⟨0, some ⟨[], [word]⟩, .absent⟩, .srgb, []⟩ }

/-- A layer that comes and goes, with two frames in between. -/
def visit : List Request :=
  [.createLayer 0 1, .execute [furnished 7, furnished 8], .destroyLayer 0 1]

/-- A cache for one display. -/
def standardCache : Cache := ⟨.ofList [(0, ⟨true, .vacant 3, none, .empty⟩)], 0, 0⟩

/-- An image displaced by another one, where the resolution of the other is kept. -/
def displacement : List CacheStep :=
  [.addDisplay 0 3 false, .resolve ⟨.clientTarget 0 0, some ⟨[], [7]⟩⟩ none,
    .resolve ⟨.clientTarget 0 0, some ⟨[], [8]⟩⟩ (some "second")]

/-- The displaced image is parked and never cached again. Of two frames with three images
each, the first three were displaced, the layer took two more with it, and what the client
composed last is still cached. -/
theorem imports_accounted_visit :
    (CacheUse.empty.run displacement).parked = [⟨0, ⟨[], [7]⟩⟩] ∧
    (∀ later, ⟨0, ⟨[], [7]⟩⟩ ∉
      ((CacheUse.empty.run displacement).run later).cache.images) ∧
    Cache.ofConfigs [.standard] = .ok standardCache ∧
    (CacheUse.empty.imports ((start (Headless.ofConfigs [.standard]) standardCache).cacheHistory
      [.standard] visit)).length = 6 ∧
    ((start (Headless.ofConfigs [.standard]) standardCache).after visit).resources.released = 5 ∧
    ((start (Headless.ofConfigs [.standard]) standardCache).after visit).resources.images =
      [⟨5, ⟨[], [8]⟩⟩] := by
  have hcache : Cache.ofConfigs [.standard] = .ok standardCache := rfl
  obtain ⟨-, himports, hcounted⟩ :=
    imports_accounted.2 (Headless.ofConfigs [.standard]) [.standard] standardCache hcache visit
  have hreleased : ((start (Headless.ofConfigs [.standard]) standardCache).after
      visit).resources.released = 5 := by decide +kernel
  have hcached : ((start (Headless.ofConfigs [.standard]) standardCache).after
      visit).resources.images = [⟨5, ⟨[], [8]⟩⟩] := by decide +kernel
  refine ⟨by decide +kernel, fun later => ?_, hcache, ?_, hreleased, hcached⟩
  · obtain ⟨-, -, -, hgone⟩ := imports_accounted.1 displacement later
    exact (hgone ⟨0, ⟨[], [7]⟩⟩ (by decide +kernel) (by decide +kernel)).1
  · rw [himports, hcounted, hreleased, hcached]
    rfl

end Engine

end DisplayComposer
