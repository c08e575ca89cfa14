import DisplayComposer.Proofs.Engine.FastPath
import DisplayComposer.Proofs.Engine.Lockstep
import DisplayComposer.Proofs.Hardware.Presenting
import DisplayComposer.Proofs.Startup
/-!
# DisplayComposer.Proofs.Engine.Standing

**What the engine notes of a display, and what the hardware says.** The engine notes where
each display stands, and the headless backend whether it is validated. Whatever a command
sets, it notes that the display has to be validated again, and so it does when a layer is
destroyed. It does not when a layer is created, though that makes the display unvalidated.
So a display that is noted as validated or presented is validated, unless layers were created
for it since its last validation; and nothing else can have gone unnoticed.

* `Event.SinceValidated` — what the log says since the last validation of a display;
* `Engine.Noted` — where a display stands is noted correctly, but for new layers;
* `Engine.noted_of_reaches` — from startup on;
* `Engine.validated_unless_created` — the note and the display.
-/

namespace DisplayComposer

/-! ### Since the last validation -/

namespace Event

/-- What came after the last validation of a display. -/
def SinceValidated (display : DisplayId) (log after : List Event) : Prop :=
  ∃ before v, log = before ++ ⟨.validate display, .ok v⟩ :: after ∧
    ∀ later ∈ after, later.call ≠ .validate display

/-- Since the display was validated for the last time, layers were created for it at most. -/
def OnlyCreated (display : DisplayId) (log : List Event) : Prop :=
  ∃ after, SinceValidated display log after ∧
    ∀ later ∈ after, later.Invalidates display → later.call = .createLayer display

variable {display : DisplayId} {log after : List Event} {event : Event}

theorem sinceValidated_validate (v : Validation) :
    SinceValidated display (log ++ [⟨.validate display, .ok v⟩]) [] :=
  ⟨log, v, rfl, by simp⟩

theorem SinceValidated.concat (h : SinceValidated display log after)
    (hevent : event.call ≠ .validate display) :
    SinceValidated display (log ++ [event]) (after ++ [event]) := by
  obtain ⟨before, v, rfl, hafter⟩ := h
  refine ⟨before, v, by simp, fun later hlater => ?_⟩
  rcases List.mem_append.1 hlater with hlater | hlater
  · exact hafter later hlater
  · exact List.mem_singleton.1 hlater ▸ hevent

/-- The last validation is up to date unless something that came after it is against it. -/
theorem SinceValidated.upToDate_iff (h : SinceValidated display log after) :
    UpToDate display log ↔ ∀ later ∈ after, ¬ later.Invalidates display := by
  obtain ⟨before, v, rfl, hafter⟩ := h
  refine ⟨?_, fun hquiet => ⟨before, _, after, rfl, rfl, hquiet⟩⟩
  rintro ⟨before', x, after', hsplit, hx, hquiet⟩ later hlater
  rcases List.append_eq_append_iff.1 hsplit with ⟨between, -, hrest⟩ | ⟨between, -, hrest⟩
  · -- the other validation is this one, or a later one, of which there is none
    cases between with
    | nil =>
      obtain ⟨-, rfl⟩ := List.cons.inj hrest
      exact hquiet later hlater
    | cons y between =>
      obtain ⟨-, rfl⟩ := List.cons.inj hrest
      exact absurd hx (hafter x (List.mem_append_right _ (List.mem_cons_self ..)))
  · cases between with
    | nil =>
      obtain ⟨-, rfl⟩ := List.cons.inj hrest
      exact hquiet later hlater
    | cons y between =>
      obtain ⟨-, rfl⟩ := List.cons.inj hrest
      exact hquiet later (List.mem_append_right _ (List.mem_cons_of_mem _ hlater))

theorem onlyCreated_validate (v : Validation) :
    OnlyCreated display (log ++ [⟨.validate display, .ok v⟩]) :=
  ⟨[], sinceValidated_validate v, by simp⟩

/-- Such an event goes by unnoticed. -/
theorem OnlyCreated.concat (h : OnlyCreated display log) (hevent : event.call ≠ .validate display)
    (hquiet : event.Invalidates display → event.call = .createLayer display) :
    OnlyCreated display (log ++ [event]) := by
  obtain ⟨after, hsince, hafter⟩ := h
  refine ⟨after ++ [event], hsince.concat hevent, fun later hlater => ?_⟩
  rcases List.mem_append.1 hlater with hlater | hlater
  · exact hafter later hlater
  · exact List.mem_singleton.1 hlater ▸ hquiet

/-- A display whose validation is up to date has seen nothing since. -/
theorem onlyCreated_of_upToDate (h : UpToDate display log)
    (hlog : ∀ x ∈ log, x.call = .validate display → ∃ v, x = ⟨.validate display, .ok v⟩) :
    OnlyCreated display log := by
  obtain ⟨_, x, _, rfl, hx, -⟩ := id h
  obtain ⟨before, y, after, hsplit, hy, hafter⟩ :=
    exists_last_validate ⟨x, List.mem_append_right _ (List.mem_cons_self ..), hx⟩
  obtain ⟨v, rfl⟩ := hlog y (hsplit ▸ List.mem_append_right _ (List.mem_cons_self ..)) hy
  have hsince : SinceValidated display _ after := ⟨before, v, hsplit, hafter⟩
  exact ⟨after, hsince, fun later hlater hagainst =>
    absurd hagainst (hsince.upToDate_iff.1 h later hlater)⟩

end Event

/-- A display about which a call succeeded is known. -/
theorem Headless.isSome_of_mem_log {configs : List DisplayConfig} {s : Logged Headless}
    (reached : Hardware.Reaches ⟨.ofConfigs configs, []⟩ s) {event : Event} (hevent : event ∈ s.log)
    (hok : event.outcome.isOk = true) :
    (s.hardware.displays.get? event.call.display).isSome = true := by
  refine reached.invariant (P := fun s => ∀ event ∈ s.log, event.outcome.isOk = true →
      (s.hardware.displays.get? event.call.display).isSome = true)
    (fun {call s t out} hs hrun event hevent hok => ?_) (fun _ h => nomatch h) event hevent hok
  obtain ⟨hcall, hlog⟩ := Logged.perform_ok.1 hrun
  rw [isSome_displays_of_perform hcall]
  rw [hlog] at hevent
  rcases List.mem_append.1 hevent with hevent | hevent
  · exact hs event hevent hok
  · obtain rfl := List.mem_singleton.1 hevent
    rcases perform_cases hcall with ⟨failure, hr⟩ | ⟨a, d, d', -, hd, -⟩
    · rw [show out = .error failure from congrArg Prod.fst hr] at hok
      cases hok
    · rw [hd]
      rfl

/-! ### The note -/

/-- Whether a state says that a display does not have to be validated. -/
def PresentState.settled : PresentState → Bool
  | .validated | .presented => true
  | .unvalidated | .failed => false

namespace Engine

/-- Where a display stands is noted correctly, but for layers that were created. -/
structure Noted (configs : List DisplayConfig) (display : DisplayId)
    (e : Engine (Logged Headless) Cache) : Prop where
  reached : Hardware.Reaches ⟨.ofConfigs configs, []⟩ e.hardware
  onlyCreated : (e.presentState display).settled = true →
    Event.OnlyCreated display e.hardware.log

namespace Noted

variable {configs : List DisplayConfig} {display : DisplayId}
  {e : Engine (Logged Headless) Cache}

/-- The cache has nothing to do with it, nor has the count of batches. -/
theorem congr {e' : Engine (Logged Headless) Cache} (h : e.Noted configs display)
    (hhardware : e'.hardware = e.hardware) (hstates : e'.states = e.states) :
    e'.Noted configs display where
  reached := hhardware ▸ h.reached
  onlyCreated := by
    rw [presentState, hstates, hhardware]
    exact h.onlyCreated

/-- Of a display that has to be validated nothing is claimed. -/
theorem unsettle (h : e.Noted configs display) (other : DisplayId) {s : PresentState}
    (hs : s.settled = false) : (e.setState other s).Noted configs display := by
  refine ⟨h.reached, fun hsettled => ?_⟩
  rw [presentState_setState] at hsettled
  split at hsettled
  · rw [hs] at hsettled
    cases hsettled
  · exact h.onlyCreated hsettled

theorem setState_of_ne (h : e.Noted configs display) {other : DisplayId} (hother : other ≠ display)
    (s : PresentState) : (e.setState other s).Noted configs display := by
  refine ⟨h.reached, fun hsettled => ?_⟩
  rw [presentState_setState, if_neg hother] at hsettled
  exact h.onlyCreated hsettled

/-- A call that goes by unnoticed. -/
theorem perform (h : e.Noted configs display) {call : Call}
    {out : Except HardwareError call.Answer} {hardware : Logged Headless}
    (hrun : Hardware.perform call e.hardware = .ok (out, hardware))
    (hvalidate : call ≠ .validate display)
    (hquiet : Event.Invalidates display ⟨call, out⟩ → call = .createLayer display) :
    Noted configs display { e with hardware } := by
  refine ⟨h.reached.call hrun, fun hsettled => ?_⟩
  have hlog := (Logged.perform_ok.1 hrun).2
  exact hlog ▸ (h.onlyCreated hsettled).concat hvalidate hquiet

end Noted

end Engine

/-! ### Commands -/

namespace Action

open Engine (Noted)

variable {configs : List DisplayConfig} {display : DisplayId}

theorem keeps_noted_perform {call : Call} (hvalidate : call ≠ .validate display)
    (hquiet : call.display ≠ display ∨ call.unsettles = false) :
    (perform call : Action (Logged Headless) Cache _).Keeps (Noted configs display) := by
  intro e ran he hrun
  obtain ⟨hardware, hcall, -, hengine⟩ := perform_ok.1 hrun
  rw [hengine]
  refine he.perform hcall hvalidate fun hagainst => ?_
  rcases hquiet with hother | hquiet
  · exact absurd hagainst.1 hother
  · have hunsettles : call.unsettles = true := hagainst.2.1
    rw [hquiet] at hunsettles
    cases hunsettles

/-- What is done for another display. -/
theorem noted_stable {other : DisplayId} (hother : other ≠ display) :
    Stable other (Noted configs display) where
  perform call hdisplay _ :=
    keeps_noted_perform (fun heq => hother (hdisplay ▸ heq ▸ rfl)) (.inl (hdisplay ▸ hother))
  resolve ref _ e ran he hrun := by
    rw [resolve_eq] at hrun
    obtain rfl := Except.ok.inj hrun
    cases e.resources.resolve ref <;> exact he.congr rfl rfl
  release images e ran he hrun := by
    obtain rfl := Except.ok.inj hrun
    exact he.congr rfl rfl
  clearMustValidate e ran he hrun := by
    obtain rfl := Except.ok.inj hrun
    exact he.congr rfl rfl
  setState state e ran he hrun := by
    obtain rfl := Except.ok.inj hrun
    exact he.setState_of_ne hother state

/-- Once something is set for a display, it has to be validated. -/
theorem keeps_noted_settle (c : DisplayCommand) :
    (settle c : Action (Logged Headless) Cache Unit).Keeps (Noted configs c.display) := by
  intro e ran he hrun
  have hreached := he.reached.trans
    ((composed_settle (τ := Logged Headless) c).reaches hrun)
  obtain ⟨first, second, hfirst, hsecond, rfl⟩ := bind_ok.1 hrun
  cases hsettings : c.settings with
  | nil =>
    rw [hsettings] at hfirst hsecond
    obtain rfl := Except.ok.inj hfirst
    obtain rfl := Except.ok.inj hsecond
    exact he
  | cons setting rest =>
    rw [hsettings] at hsecond
    obtain rfl := Except.ok.inj hsecond
    refine ⟨hreached, fun hsettled => ?_⟩
    rw [Engine.presentState_setState, if_pos rfl] at hsettled
    cases hsettled

/-- A display is noted as validated when it was validated just now. -/
theorem keeps_noted_validate :
    (validate display : Action (Logged Headless) Cache _).Keeps (Noted configs display) := by
  intro e ran he hrun
  rw [validate_eq] at hrun
  obtain ⟨⟨out, hardware⟩, hcall, rfl⟩ := Except.map_eq_ok_iff.1 hrun
  refine ⟨he.reached.call hcall, fun hsettled => ?_⟩
  rw [Engine.presentState_setState, if_pos rfl] at hsettled
  cases out with
  | error failure => cases hsettled
  | ok v =>
    have hlog := (Logged.perform_ok.1 hcall).2
    exact hlog ▸ Event.onlyCreated_validate v

/-- A display that presents is validated. -/
theorem keeps_noted_present :
    (present display : Action (Logged Headless) Cache _).Keeps (Noted configs display) := by
  intro e ran he hrun
  rw [present_eq] at hrun
  obtain ⟨⟨out, hardware⟩, hcall, rfl⟩ := Except.map_eq_ok_iff.1 hrun
  refine ⟨he.reached.call hcall, fun hsettled => ?_⟩
  rw [Engine.presentState_setState, if_pos rfl] at hsettled
  cases out with
  | error failure => cases hsettled
  | ok p =>
    obtain ⟨hpresent, hlog⟩ := Logged.perform_ok.1 hcall
    have hshown : e.hardware.hardware.present display = (.ok p, hardware.hardware) :=
      Except.ok.inj hpresent
    obtain ⟨d, hd, hvalidated, -⟩ := Headless.ready_of_present (congrArg Prod.fst hshown)
    have htracked := Headless.tracked_of_reaches he.reached display d hd
    have hcreated := Event.onlyCreated_of_upToDate (htracked.validated.1 hvalidated)
      htracked.validations
    exact hlog ▸ hcreated.concat (by simp) fun hagainst => by cases hagainst.2.1

theorem noted_partsKeep :
    PartsKeep display fun e : Engine (Logged Headless) Cache => e.Noted configs display where
  expectPresent _ := keeps_expectPresent (keeps_noted_perform (by simp) (.inr rfl))
  validate := keeps_noted_validate
  accept := keeps_accept (keeps_noted_perform (by simp) (.inr rfl))
  present := keeps_noted_present
  clientMustAct _ := keeps_clientMustAct (keeps_noted_perform (by simp) (.inr rfl))

/-- **Every command keeps the note correct,** of its own display and of all others. -/
theorem keeps_noted_command (c : DisplayCommand) :
    (command c : Action (Logged Headless) Cache Unit).Keeps (Noted configs display) := by
  by_cases hdisplay : c.display = display
  · subst hdisplay
    rw [command_eq]
    exact (keeps_noted_settle c).bind fun _ => noted_partsKeep.keeps_protocol
  · exact (noted_stable hdisplay).keeps_command

end Action

/-! ### Requests -/

namespace Engine

variable {configs : List DisplayConfig} {cache : Cache} {display : DisplayId}
  {e e' : Engine (Logged Headless) Cache}

theorem Noted.handle {request : Request} {reply : Reply} (h : e.Noted configs display)
    (hlockstep : Lockstep e.hardware.hardware e.resources)
    (hrun : e.handle request = .ok (reply, e')) : e'.Noted configs display := by
  cases handle_cases hrun with
  | executed hexecute =>
    obtain ⟨last, hout, rfl⟩ := outcomes_of_execute hexecute
    have hlast : last.Noted configs display :=
      outcomes_keeps (fun c _ => Action.keeps_noted_command c) h hout
    exact hlast.congr rfl rfl
  | @created other _ _ _ _ hcreate hadd =>
    have hcreated := h.perform hcreate (by simp) fun hagainst => by
      rw [show other = display from hagainst.1]
    exact hcreated.congr rfl rfl
  | notCreated hcreate => exact h.perform hcreate (by simp) fun hagainst => by cases hagainst.2.2
  | withdrawn hcreate hadd hdestroy =>
    -- the cache knows what the hardware knows, and does not refuse
    obtain ⟨c', hc'⟩ := hlockstep.addLayer (Logged.perform_ok.1 hcreate).1 _
    rw [hadd] at hc'
    cases hc'
  | @destroyed other layer hardware resources hdestroy hremove =>
    by_cases hdisplay : other = display
    · refine ⟨h.reached.call hdestroy, fun hsettled => ?_⟩
      rw [presentState_setState, if_pos hdisplay] at hsettled
      cases hsettled
    · have hdestroyed : Noted configs display { e with hardware, resources } :=
        (h.perform hdestroy (by simp) fun hagainst => absurd hagainst.1 hdisplay).congr rfl rfl
      exact hdestroyed.setState_of_ne hdisplay _
  | notDestroyed hdestroy =>
    exact h.perform hdestroy (by simp) fun hagainst => by cases hagainst.2.2
  | @refreshed other =>
    have hrefreshed : Noted configs display
        { e with resources := Resources.setMustValidate other true e.resources } :=
      h.congr rfl rfl
    exact hrefreshed.unsettle other rfl

theorem noted_of_reaches (hcache : Cache.ofConfigs configs = .ok cache)
    (reached : (start ⟨.ofConfigs configs, []⟩ cache).Reaches e) (display : DisplayId) :
    e.Noted configs display := by
  induction reached with
  | refl => exact ⟨.refl, fun hsettled => by cases hsettled⟩
  | request reached hrun ih => exact ih.handle (lockstep_of_reaches hcache reached) hrun

/-- **A display that is noted as validated or presented is validated,** unless layers were
created for it. From startup on, after any requests, the display was validated by then, and
nothing that came after its last validation can have made it unvalidated but the creation of a
layer. It is still validated unless a layer was created. -/
theorem validated_unless_created {configs : List DisplayConfig} {e₀ : Engine Headless Cache}
    (hstart : Engine.ofConfigs configs = .ok e₀) (requests : List Request)
    (display : DisplayId) :
    ∃ log, (e₀.logged []).after requests = (e₀.after requests).logged log ∧
      ((e₀.after requests).presentState display = .validated ∨
          (e₀.after requests).presentState display = .presented →
        ∃ d after, (e₀.after requests).hardware.displays.get? display = some d ∧
          Event.SinceValidated display log after ∧
          (∀ event ∈ after, event.Invalidates display → event.call = .createLayer display) ∧
          (d.validated = true ↔ ∀ event ∈ after, ¬ event.Invalidates display)) := by
  obtain ⟨log, hlog⟩ := after_logged e₀ [] requests
  refine ⟨log, hlog, fun hstate => ?_⟩
  obtain ⟨cache, hcache, rfl⟩ := Except.map_eq_ok_iff.1 hstart
  have hnoted := noted_of_reaches hcache (.after requests _) display
  rw [show start ⟨.ofConfigs configs, []⟩ cache =
    (start (Headless.ofConfigs configs) cache).logged [] from rfl, hlog] at hnoted
  obtain ⟨reached, hnote⟩ := hnoted
  obtain ⟨after, hsince, hcreated⟩ : Event.OnlyCreated display log :=
    hnote (by rcases hstate with hstate | hstate <;> exact hstate ▸ rfl)
  -- the display was validated, so it is known
  obtain ⟨before, v, rfl, -⟩ := id hsince
  have hknown := Headless.isSome_of_mem_log reached
    (List.mem_append_right before (List.mem_cons_self ..)) rfl
  obtain ⟨d, hd⟩ := Option.isSome_iff_exists.1 hknown
  have htracked := Headless.tracked_of_reaches reached display d hd
  exact ⟨d, after, hd, hsince, hcreated, htracked.validated.trans hsince.upToDate_iff⟩

/-- One display is validated, and then a layer is created for it. -/
def grown : List Request :=
  [.execute [{ DisplayCommand.idle 0 with validate := true }], .createLayer 0 2]

/-- The engine for one display. -/
def single : Engine Headless Cache := start (.ofConfigs [.standard]) standardCache

/-- The display was validated once, and the one event after that has made it unvalidated. -/
theorem validated_unless_created_grown :
    Engine.ofConfigs [.standard] = .ok single ∧
      (single.after grown).presentState 0 = .validated ∧
      ∃ log d after, (single.logged []).after grown = (single.after grown).logged log ∧
        (single.after grown).hardware.displays.get? 0 = some d ∧
        Event.SinceValidated 0 log after ∧
        (∀ event ∈ after, event.Invalidates 0 → event.call = .createLayer 0) ∧
        (d.validated = true ↔ ∀ event ∈ after, ¬ event.Invalidates 0) := by
  have hvalidated : (single.after grown).presentState 0 = .validated := by decide +kernel
  obtain ⟨log, hlog, hnote⟩ := @validated_unless_created [.standard] single rfl grown 0
  obtain ⟨d, after, hd, hsince, hcreated, hiff⟩ := hnote (.inl hvalidated)
  exact ⟨rfl, hvalidated, log, d, after, hlog, hd, hsince, hcreated, hiff⟩

/-- A display that is noted as validated though it is not. -/
theorem grown_not_validated :
    Engine.ofConfigs [.standard] = .ok single ∧
      (single.after grown).presentState 0 = .validated ∧
      ∃ d, (single.after grown).hardware.displays.get? 0 = some d ∧ d.validated = false := by
  have hknown : (((single.after grown).hardware.displays.get? 0).map (·.validated)) =
      some false := by decide +kernel
  obtain ⟨d, hd, hvalidated⟩ := Option.map_eq_some_iff.1 hknown
  exact ⟨rfl, by decide +kernel, d, hd, hvalidated⟩

end Engine

end DisplayComposer
