import DisplayComposer.Hardware.Headless
import DisplayComposer.Proofs.Cache.Basic
import DisplayComposer.Proofs.Engine.Batch
/-!
# DisplayComposer.Proofs.Engine.Ledger

**What the engine sets does not depend on the hardware.** A command says what is to
be set, and in which order (`DisplayCommand.agenda`). Of all the hardware has no say
in it: a call that fails is followed by the same calls as one that does not. Only
the cache has. An image that it does not find is not set.

So the calls that set something, and the cache, can be told in advance. They are
kept in a `Ledger`, in which commands are entered without any hardware.

* `DisplayCommand.agenda` — all that a command sets, in order;
* `Ledger`, `Ledger.enterCommand` — the calls for it, and the cache;
* `Action.Enters` — an action that does what the ledger says;
* `Engine.execute_enters` — a batch does, on any hardware.
-/

namespace DisplayComposer

/-! ### Fields and their order -/

/-- The fields of a layer command. -/
inductive LayerField where
  | cursorPosition | buffer | damage | blendMode | color | composition | dataspace
  | displayFrame | planeAlpha | sidebandStream | sourceCrop | transform | visibleRegion
  | z | colorTransform | metadata | metadataBlobs

/-- The order in which the fields of a layer command are set. -/
def LayerField.order : List LayerField :=
  [.cursorPosition, .buffer, .damage, .blendMode, .color, .composition, .dataspace,
    .displayFrame, .planeAlpha, .sidebandStream, .sourceCrop, .transform, .visibleRegion,
    .z, .colorTransform, .metadata, .metadataBlobs]

/-- The fields of a command that set something of the display itself. -/
inductive DisplayField where
  | colorTransform | clientTarget | outputBuffer | brightness

/-- The order in which the fields of the display are set. -/
def DisplayField.order : List DisplayField :=
  [.colorTransform, .clientTarget, .outputBuffer, .brightness]

/-- What a field of a layer command sets, if it is populated. -/
def LayerCommand.item? (display : DisplayId) (c : LayerCommand) :
    LayerField → Option (Setting ImageRef)
  | .cursorPosition => c.cursorPosition.map fun v => .property (.layer c.layer (.cursorPosition v))
  | .buffer => c.buffer.map fun b =>
    .image (.layerBuffer c.layer b.fence) ⟨.layerBuffer display c.layer b.slot, b.handle⟩
  | .damage => c.damage.map fun v => .property (.layer c.layer (.surfaceDamage v))
  | .blendMode => c.blendMode.map fun v => .property (.layer c.layer (.blendMode v))
  | .color => c.color.map fun v => .property (.layer c.layer (.color v))
  | .composition => c.composition.map fun v => .property (.layer c.layer (.composition v))
  | .dataspace => c.dataspace.map fun v => .property (.layer c.layer (.dataspace v))
  | .displayFrame => c.displayFrame.map fun v => .property (.layer c.layer (.displayFrame v))
  | .planeAlpha => c.planeAlpha.map fun v => .property (.layer c.layer (.planeAlpha v))
  | .sidebandStream => c.sidebandStream.map fun handle =>
    .image (.sideband c.layer) ⟨.sideband display c.layer, some handle⟩
  | .sourceCrop => c.sourceCrop.map fun v => .property (.layer c.layer (.sourceCrop v))
  | .transform => c.transform.map fun v => .property (.layer c.layer (.transform v))
  | .visibleRegion => c.visibleRegion.map fun v => .property (.layer c.layer (.visibleRegion v))
  | .z => c.z.map fun v => .property (.layer c.layer (.zOrder v))
  | .colorTransform => c.colorTransform.map fun v =>
    .property (.layer c.layer (.colorTransform v))
  | .metadata => c.metadata.map fun v => .property (.layer c.layer (.metadata v))
  | .metadataBlobs => c.metadataBlobs.map fun v => .property (.layer c.layer (.metadataBlobs v))

namespace DisplayCommand

/-- What a field of the display sets, if it is populated. -/
def item? (c : DisplayCommand) : DisplayField → Option (Setting ImageRef)
  | .colorTransform => c.colorTransform.map fun v => .property (.colorTransform v)
  | .clientTarget => c.clientTarget.map fun t =>
    .image (.clientTarget t.buffer.fence t.dataspace t.damage)
      ⟨.clientTarget c.display t.buffer.slot, t.buffer.handle⟩
  | .outputBuffer => c.outputBuffer.map fun b =>
    .image (.outputBuffer b.fence) ⟨.outputBuffer c.display b.slot, b.handle⟩
  | .brightness => c.brightness.map fun b => .property (.brightness b.level)

/-- The time that validating and presenting tell the hardware. -/
def expectation (c : DisplayCommand) : Setting ImageRef :=
  .property (.expectedPresentTime c.expectedPresentTime)

/-- All that a command sets, in order: its layers, its display, and the expected time
for each of the two ways to validate. -/
def agenda (c : DisplayCommand) : List (Setting ImageRef) :=
  c.layers.flatMap (fun l => LayerField.order.filterMap (l.item? c.display)) ++
    DisplayField.order.filterMap c.item? ++
    (if c.validate then [c.expectation] else []) ++
    (if c.presentOrValidate then [c.expectation] else [])

theorem settings_eq (c : DisplayCommand) :
    c.settings = c.layers.flatMap (fun l => LayerField.order.filterMap (l.item? c.display)) ++
      DisplayField.order.filterMap c.item? := by
  have hlayer : ∀ l : LayerCommand,
      l.settings c.display = LayerField.order.filterMap (l.item? c.display) := fun l =>
    (List.filterMap_map (f := l.item? c.display) (g := id) (l := LayerField.order)).symm
  have hdisplay : c.displaySettings = DisplayField.order.filterMap c.item? :=
    (List.filterMap_map (f := c.item?) (g := id) (l := DisplayField.order)).symm
  rw [settings, hdisplay]
  simp only [hlayer]

end DisplayCommand

/-! ### The ledger -/

/-- Calls that set something, each with its display, and the cache after them. -/
structure Ledger where
  calls : List (DisplayId × Setting Image)
  cache : Cache

namespace Ledger

/-- Enter one item. An image is set if the cache finds it, and what it displaced there
is let go. -/
def enter (display : DisplayId) (l : Ledger) : Setting ImageRef → Ledger
  | .property p => { l with calls := l.calls ++ [(display, .property p)] }
  | .image use ref =>
    match l.cache.resolve ref with
    | .error _ => l
    | .ok (r, cache) =>
      ⟨l.calls ++ [(display, .image use r.image)], cache.release r.parked⟩

/-- The display does not have to be validated any more. -/
def settle (display : DisplayId) (l : Ledger) : Ledger :=
  { l with cache := l.cache.setMustValidate display false }

/-- Enter what a command sets, and whether it validates. -/
def enterCommand (l : Ledger) (c : DisplayCommand) : Ledger :=
  let entered := c.agenda.foldl (enter c.display) l
  if c.validate || c.presentOrValidate then entered.settle c.display else entered

/-- Enter a validation, with the time that it is told, on a condition. -/
def validateIf (b : Bool) (c : DisplayCommand) (l : Ledger) : Ledger :=
  if b then (l.enter c.display c.expectation).settle c.display else l

/-- The ledger of a batch, as far as its commands have an index. -/
def ofBatch (commands : List DisplayCommand) (cache : Cache) : Ledger :=
  (commands.take UInt32.size).foldl enterCommand ⟨[], cache⟩

theorem settle_settle (display : DisplayId) (l : Ledger) :
    (l.settle display).settle display = l.settle display := by
  rw [settle, settle, Cache.setMustValidate_setMustValidate]

/-- Nothing is to be done for a display that does not have to be validated. -/
theorem settle_of_mustValidate {display : DisplayId} {l : Ledger}
    (h : l.cache.mustValidate display = false) : l.settle display = l := by
  rw [settle, Cache.setMustValidate_of_mustValidate h]

/-- Validating twice is entered as validating once: telling the time between the two
does not touch the cache. -/
theorem enterCommand_eq (l : Ledger) (c : DisplayCommand) :
    l.enterCommand c =
      ((c.settings.foldl (enter c.display) l).validateIf c.validate c).validateIf
        c.presentOrValidate c := by
  unfold enterCommand validateIf
  rw [DisplayCommand.agenda, ← DisplayCommand.settings_eq, List.foldl_append, List.foldl_append]
  generalize c.settings.foldl (enter c.display) l = entered
  cases c.validate with
  | false => cases c.presentOrValidate <;> rfl
  | true =>
    cases c.presentOrValidate with
    | false => rfl
    | true =>
      -- with both flags the cache is settled twice
      have htwice := settle_settle c.display
        ((entered.enter c.display c.expectation).enter c.display c.expectation)
      exact htwice.symm

end Ledger

/-! ### Actions that do what the ledger says -/

/-- The display and the property of a call that sets one. -/
def Call.property? : Call → Option (DisplayId × Setting Image)
  | .set display setting => some (display, setting)
  | _ => none

/-- The display and the property of a call that was to set one, whatever came of it. -/
def Event.property? (event : Event) : Option (DisplayId × Setting Image) := event.call.property?

/-- The ledger of an engine, with the calls that its hardware logged. -/
def Engine.ledger {σ : Type} (e : Engine (Logged σ) Cache) : Ledger :=
  ⟨e.hardware.log.filterMap Event.property?, e.resources⟩

namespace Action

variable {σ α β : Type} {f g : Ledger → Ledger} {display : DisplayId}

/-- Whatever the hardware answers, the action makes `f` of the ledger. -/
def Enters (f : Ledger → Ledger) (x : Action (Logged σ) Cache α) : Prop :=
  ∀ e ran, x e = .ok ran → ran.engine.ledger = f e.ledger

/-- An action that neither sets anything nor changes the cache. -/
abbrev Silent (x : Action (Logged σ) Cache α) : Prop := x.Enters fun l => l

theorem Enters.bind {x : Action (Logged σ) Cache α} {k : α → Action (Logged σ) Cache β}
    (hx : x.Enters f) (hk : ∀ a, (k a).Enters g) : (x >>= k).Enters fun l => g (f l) := by
  intro e ran hrun
  obtain ⟨first, second, hfirst, hsecond, rfl⟩ := bind_ok.1 hrun
  show second.engine.ledger = g (f e.ledger)
  rw [hk _ _ _ hsecond, hx _ _ hfirst]

theorem Silent.bind {x : Action (Logged σ) Cache α} {k : α → Action (Logged σ) Cache β}
    (hx : x.Silent) (hk : ∀ a, (k a).Enters g) : (x >>= k).Enters g := Enters.bind hx hk

theorem silent_pure (a : α) : Silent (pure a : Action (Logged σ) Cache α) := by
  intro e ran hrun
  obtain rfl := Except.ok.inj hrun
  rfl

theorem silent_report (entry : Entry) : Silent (report entry : Action (Logged σ) Cache _) := by
  intro e ran hrun
  obtain rfl := Except.ok.inj hrun
  rfl

theorem silent_setState (display : DisplayId) (state : PresentState) :
    Silent (setState display state : Action (Logged σ) Cache _) := by
  intro e ran hrun
  obtain rfl := Except.ok.inj hrun
  rfl

theorem silent_onlyIf {b : Bool} {x : Action (Logged σ) Cache Unit} (hx : x.Silent) :
    (onlyIf b x).Silent := by
  cases b with
  | true => exact hx
  | false => exact silent_pure ()

theorem silent_reportFailure (outcome : Except HardwareError α) :
    Silent (reportFailure outcome : Action (Logged σ) Cache _) := by
  cases outcome with
  | ok _ => exact silent_pure ()
  | error failure => exact silent_report _

theorem enters_clearMustValidate :
    Enters (·.settle display) (clearMustValidate display : Action (Logged σ) Cache _) := by
  intro e ran hrun
  obtain rfl := Except.ok.inj hrun
  rfl

theorem enters_each {items : List α} {h : Ledger → α → Ledger}
    {k : α → Action (Logged σ) Cache Unit} (hk : ∀ a, (k a).Enters fun l => h l a) :
    (each k items).Enters fun l => items.foldl h l := by
  induction items with
  | nil => exact silent_pure ()
  | cons a rest ih => exact (hk a).bind fun _ => ih

variable [Hardware σ]

/-- A call is entered if it sets something, whatever comes of it. -/
theorem enters_perform (call : Call) :
    Enters (fun l => { l with calls := l.calls ++ call.property?.toList })
      (perform call : Action (Logged σ) Cache _) := by
  intro e ran hrun
  obtain ⟨hardware, hcall, -, hengine⟩ := perform_ok.1 hrun
  have hlast : [Event.mk call ran.value].filterMap Event.property? = call.property?.toList := by
    cases hp : call.property? <;> simp [Event.property?, hp]
  rw [hengine, Engine.ledger, (Logged.perform_ok.1 hcall).2, List.filterMap_append, hlast]
  rfl

theorem enters_set (display : DisplayId) (setting : Setting Image) :
    Enters (fun l => { l with calls := l.calls ++ [(display, setting)] })
      (perform (.set display setting) : Action (Logged σ) Cache _) :=
  enters_perform (.set display setting)

theorem silent_perform {call : Call} (h : call.property? = none) :
    Silent (perform call : Action (Logged σ) Cache _) := by
  have henters := enters_perform (σ := σ) call
  simpa only [h, Option.toList_none, List.append_nil] using henters

/-! ### The parts of a command -/

theorem enters_applySetting (display : DisplayId) (setting : Setting ImageRef) :
    Enters (·.enter display setting)
      (applySetting display setting : Action (Logged σ) Cache _) := by
  cases setting with
  | property p => exact (enters_set _ _).bind silent_reportFailure
  | image use ref =>
    intro e ran hrun
    obtain ⟨found, rest, hfound, hrest, rfl⟩ := bind_ok.1 hrun
    rw [resolve_eq] at hfound
    show rest.engine.ledger = e.ledger.enter display (.image use ref)
    unfold Ledger.enter Engine.ledger
    dsimp only
    cases hcache : e.resources.resolve ref with
    | error refusal =>
      rw [hcache] at hfound
      obtain rfl := Except.ok.inj hfound
      exact silent_report _ _ _ hrest
    | ok r =>
      rw [hcache] at hfound
      obtain rfl := Except.ok.inj hfound
      -- what was displaced is let go even if the call fails
      have hrelease : Enters (fun l => { l with cache := l.cache.release r.1.parked })
          (release r.1.parked : Action (Logged σ) Cache _) := by
        intro e ran hrun
        obtain rfl := Except.ok.inj hrun
        rfl
      have henters := (enters_set (σ := σ) display (.image use r.1.image)).bind
        fun outcome => hrelease.bind fun _ => silent_reportFailure outcome
      exact henters _ _ hrest

theorem enters_expectPresent (display : DisplayId) (time : Option Timestamp) :
    Enters (·.enter display (.property (.expectedPresentTime time)))
      (expectPresent display time : Action (Logged σ) Cache _) :=
  (enters_set _ _).bind fun _ => silent_pure ()

theorem enters_validate (display : DisplayId) :
    Enters (·.settle display) (validate display : Action (Logged σ) Cache _) := by
  refine Enters.bind (g := fun l => l) enters_clearMustValidate fun _ => ?_
  refine Silent.bind (silent_perform rfl) fun outcome => ?_
  cases outcome with
  | error failure =>
    exact (silent_report _).bind fun _ => (silent_setState _ _).bind fun _ => silent_pure _
  | ok v =>
    refine (silent_setState _ _).bind fun _ => (silent_report _).bind fun _ => ?_
    exact (silent_report _).bind fun _ => (silent_report _).bind fun _ => silent_pure _

theorem silent_accept (display : DisplayId) :
    Silent (accept display : Action (Logged σ) Cache _) :=
  Silent.bind (silent_perform rfl) silent_reportFailure

theorem silent_present (display : DisplayId) :
    Silent (present display : Action (Logged σ) Cache _) := by
  rw [present_eq_onlyIf]
  refine Silent.bind (silent_perform rfl) fun outcome => ?_
  cases outcome with
  | error failure => exact (silent_setState _ _).bind fun _ => silent_pure _
  | ok p =>
    refine (silent_onlyIf (silent_report _)).bind fun _ => (silent_report _).bind fun _ => ?_
    exact (silent_setState _ _).bind fun _ => silent_pure _

/-- A display that presents directly did not have to be validated. -/
theorem presentDirectly_ledger {e : Engine (Logged σ) Cache} {ran : Ran (Logged σ) Cache Bool}
    (hrun : presentDirectly display e = .ok ran) :
    ran.engine.ledger = e.ledger ∧
      (ran.value = true → e.resources.mustValidate display = false) := by
  obtain ⟨must, rest, hmust, hrest, rfl⟩ := bind_ok.1 hrun
  obtain rfl := Except.ok.inj hmust
  have hvalue : Resources.mustValidate display e.resources = e.resources.mustValidate display := rfl
  cases hm : e.resources.mustValidate display with
  | true =>
    rw [hvalue, hm] at hrest
    obtain rfl := Except.ok.inj hrest
    exact ⟨rfl, fun h => nomatch h⟩
  | false =>
    rw [hvalue, hm] at hrest
    -- presenting leaves the ledger alone, whether it succeeds or not
    have hsilent : Silent (do return succeeded (← present display) : Action (Logged σ) Cache _) :=
      (silent_present display).bind fun _ => silent_pure _
    exact ⟨hsilent _ _ hrest, fun _ => rfl⟩

theorem silent_clientMustAct (display : DisplayId) (v : Validation) :
    Silent (clientMustAct display v : Action (Logged σ) Cache _) := by
  unfold clientMustAct
  cases v.hasChanges with
  | true => exact silent_pure true
  | false =>
    refine Silent.bind (silent_perform rfl) fun outcome => ?_
    cases outcome <;> exact silent_pure _

/-- Whichever way present-or-validate takes, the display does not have to be validated
after it. -/
theorem enters_presentOrValidate (display : DisplayId) (time : Option Timestamp) :
    Enters (fun l => (l.enter display (.property (.expectedPresentTime time))).settle display)
      (presentOrValidate display time : Action (Logged σ) Cache _) := by
  refine (enters_expectPresent display time).bind fun _ => ?_
  intro e ran hrun
  obtain ⟨directly, rest, hdirectly, hrest, rfl⟩ := bind_ok.1 hrun
  obtain ⟨hledger, hpresented⟩ := presentDirectly_ledger hdirectly
  show rest.engine.ledger = e.ledger.settle display
  cases hvalue : directly.value with
  | true =>
    -- it did not have to be validated in the first place
    rw [hvalue] at hrest
    rw [silent_report _ _ _ hrest, hledger]
    exact (Ledger.settle_of_mustValidate (hpresented hvalue)).symm
  | false =>
    rw [hvalue] at hrest
    rw [← hledger]
    refine (enters_validate display).bind (g := fun l => l) (fun outcome => ?_) _ _ hrest
    cases outcome with
    | error failure => exact silent_pure ()
    | ok v =>
      refine (silent_clientMustAct display v).bind fun acts => ?_
      cases acts with
      | true => exact silent_report _
      | false =>
        refine (silent_accept display).bind fun _ => (silent_present display).bind fun outcome => ?_
        cases outcome with
        | ok p => exact silent_report _
        | error failure => exact silent_pure ()

/-! ### Commands -/

omit [Hardware σ] in
theorem enters_onlyIf {b : Bool} {x : Action (Logged σ) Cache Unit} (hx : x.Enters f) :
    (onlyIf b x).Enters fun l => if b then f l else l := by
  cases b with
  | true => exact hx
  | false => exact silent_pure ()

theorem enters_settle (c : DisplayCommand) :
    Enters (fun l => c.settings.foldl (·.enter c.display) l)
      (settle c : Action (Logged σ) Cache _) := by
  refine Enters.bind (g := fun l => l) ?_ fun _ => silent_onlyIf (silent_setState _ _)
  exact enters_each (enters_applySetting c.display)

theorem enters_protocol (c : DisplayCommand) :
    Enters (fun l => (l.validateIf c.validate c).validateIf c.presentOrValidate c)
      (protocol c : Action (Logged σ) Cache _) := by
  have hvalidate : Enters (fun l => (l.enter c.display c.expectation).settle c.display) (do
      expectPresent c.display c.expectedPresentTime
      let _ ← validate c.display : Action (Logged σ) Cache _) :=
    (enters_expectPresent c.display c.expectedPresentTime).bind fun _ =>
      Enters.bind (g := fun l => l) (enters_validate c.display) fun _ => silent_pure ()
  have hpresent : Silent (do
      reportFailure (← present c.display) : Action (Logged σ) Cache _) :=
    (silent_present c.display).bind silent_reportFailure
  refine Enters.bind (f := (·.validateIf c.validate c)) (g := (·.validateIf c.presentOrValidate c))
    (enters_onlyIf hvalidate) fun _ => ?_
  refine (silent_onlyIf (silent_accept _)).bind fun _ => (silent_onlyIf hpresent).bind fun _ => ?_
  exact enters_onlyIf (enters_presentOrValidate c.display c.expectedPresentTime)

/-- **A command does what the ledger says,** whatever the hardware answers. -/
theorem enters_command (c : DisplayCommand) :
    Enters (·.enterCommand c) (command c : Action (Logged σ) Cache _) := by
  rw [command_eq]
  intro e ran hrun
  rw [(enters_settle c).bind (fun _ => enters_protocol c) e ran hrun]
  exact (Ledger.enterCommand_eq e.ledger c).symm

end Action

/-! ### Batches -/

namespace Engine

variable {σ τ : Type} [Hardware σ] [Hardware τ]

theorem ledger_of_outcomes {n : Nat} {commands : List DisplayCommand}
    {e e' : Engine (Logged σ) Cache} {results : List CommandResult}
    (hrun : outcomes n commands e = .ok (results, e')) :
    e'.ledger = commands.foldl Ledger.enterCommand e.ledger := by
  induction commands generalizing n e results with
  | nil =>
    obtain ⟨rfl, rfl⟩ := Prod.mk.inj (Except.ok.inj hrun)
    rfl
  | cons c rest ih =>
    obtain ⟨ran, later, hran, hlater, rfl⟩ := outcomes_cons_ok.1 hrun
    rw [ih hlater, Action.enters_command c e ran hran, List.foldl_cons]

/-- A batch that returns makes the calls of its ledger, and leaves the cache of it. -/
theorem exists_log_of_execute {commands : List DisplayCommand} {e e' : Engine σ Cache}
    {results : List CommandResult} (hrun : e.execute commands = .ok (results, e')) :
    ∃ log, (e.logged []).execute commands = .ok (results, e'.logged log) ∧
      log.filterMap Event.property? = (Ledger.ofBatch commands e.resources).calls ∧
      e'.resources = (Ledger.ofBatch commands e.resources).cache := by
  obtain ⟨last, hout, rfl⟩ := outcomes_of_execute hrun
  obtain ⟨log, hlogged⟩ := outcomes_logged hout []
  have hledger : (last.logged log).ledger = Ledger.ofBatch commands e.resources :=
    ledger_of_outcomes hlogged
  refine ⟨log, ?_, congrArg Ledger.calls hledger, congrArg Ledger.cache hledger⟩
  rw [execute_take]
  exact (execute_ok (List.length_take_le _ _)).2 ⟨_, hlogged, rfl⟩

/-- **The calls that set something are those of the ledger,** on hardware that returns
from its calls, whatever it answers. So on any two kinds of hardware they are the same
calls, and leave the same cache. -/
theorem execute_enters (commands : List DisplayCommand) (e : Engine σ Cache) :
    ((∀ (call : Call) (s : σ), ∃ r, Hardware.perform call s = .ok r) →
      ∃ results e', e.execute commands = .ok (results, e')) ∧
    ∀ results e', e.execute commands = .ok (results, e') →
      ∃ log, (e.logged []).execute commands = .ok (results, e'.logged log) ∧
        log.filterMap Event.property? = (Ledger.ofBatch commands e.resources).calls ∧
        e'.resources = (Ledger.ofBatch commands e.resources).cache ∧
        ∀ (f f' : Engine τ Cache) other, f.resources = e.resources →
          f.execute commands = .ok (other, f') →
          ∃ log', (f.logged []).execute commands = .ok (other, f'.logged log') ∧
            log'.filterMap Event.property? = log.filterMap Event.property? ∧
            f'.resources = e'.resources := by
  refine ⟨fun hardware => ?_, fun results e' hrun => ?_⟩
  · obtain ⟨results, last, hout⟩ := outcomes_returns hardware 0 (commands.take UInt32.size) e
    rw [execute_take]
    exact ⟨results, _, (execute_ok (List.length_take_le _ _)).2 ⟨last, hout, rfl⟩⟩
  · obtain ⟨log, hlogged, hcalls, hcache⟩ := exists_log_of_execute hrun
    refine ⟨log, hlogged, hcalls, hcache, fun f f' other hsame hother => ?_⟩
    obtain ⟨log', hlogged', hcalls', hcache'⟩ := exists_log_of_execute hother
    rw [hsame] at hcalls' hcache'
    exact ⟨log', hlogged', hcalls'.trans hcalls.symm, hcache'.trans hcache.symm⟩

/-- Hardware on which every call fails. -/
structure Broken where

instance : Hardware Broken where
  perform _ s := .ok (.error .noResources, s)

/-- A cache with one display that is not virtual, and one slot for what the client
composes. -/
def oneTarget : Cache := ⟨.ofList [(0, ⟨true, .vacant 1, none, .empty⟩)], 0, 0⟩

/-- A frame with an output buffer, for which the cache has no place. -/
def misdirected : List DisplayCommand :=
  [{ DisplayCommand.idle 0 with
    clientTarget := some ⟨⟨0, some ⟨[], [7]⟩, .absent⟩, .srgb, []⟩
    outputBuffer := some ⟨0, some ⟨[], [8]⟩, .absent⟩
    presentOrValidate := true }]

theorem execute_enters_broken :
    ∃ results e', ∃ log : List Event,
      (start Broken.mk oneTarget).execute misdirected = .ok (results, e') ∧
      log.filterMap Event.property? =
        [(0, .image (.clientTarget .absent .srgb []) ⟨0, ⟨[], [7]⟩⟩),
          (0, .property (.expectedPresentTime none))] ∧
      ∃ other f', ∃ log' : List Event,
        (start (Headless.ofConfigs [.standard]) oneTarget).execute misdirected =
          .ok (other, f') ∧
        log'.filterMap Event.property? = log.filterMap Event.property? ∧
        f'.resources = e'.resources := by
  have hledger : Ledger.ofBatch misdirected oneTarget =
      misdirected.foldl Ledger.enterCommand ⟨[], oneTarget⟩ := by
    rw [Ledger.ofBatch, List.take_of_length_le (by decide)]
  have enters := execute_enters (τ := Headless) misdirected (start Broken.mk oneTarget)
  rw [show (start Broken.mk oneTarget).resources = oneTarget from rfl, hledger] at enters
  obtain ⟨results, e', hrun⟩ := enters.1 fun call s => ⟨_, rfl⟩
  obtain ⟨log, -, hcalls, -, hother⟩ := enters.2 results e' hrun
  have hreturns : ((start (Headless.ofConfigs [.standard]) oneTarget).execute
      misdirected).isOk = true := by decide +kernel
  cases hheadless : (start (Headless.ofConfigs [.standard]) oneTarget).execute misdirected with
  | error crash =>
    rw [hheadless] at hreturns
    cases hreturns
  | ok r =>
    obtain ⟨log', -, hsame, hcache⟩ := hother _ r.2 r.1 rfl hheadless
    exact ⟨results, e', log, hrun, hcalls, r.1, r.2, log', rfl, hsame, hcache⟩

end Engine

end DisplayComposer
