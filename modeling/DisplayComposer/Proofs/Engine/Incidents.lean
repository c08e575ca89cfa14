import DisplayComposer.Proofs.Engine.Told
/-!
# DisplayComposer.Proofs.Engine.Incidents

**Where a display stands is told by its history.** The engine notes in many places where a
display stands, and within one command it may do so several times. What stands in the end is
decided by the last thing that happened to the display: a field of a command was set, whatever
came of it; it was validated or presented, or that failed; it was refreshed, or a layer of it
was destroyed. All else leaves it where it stands.

* `Incident`, `Incident.standing?` — what can happen, and where it leaves a display;
* `PresentState.following` — where a display stands after what happened;
* `Engine.history` — all that happens in a run of requests;
* `Action.follows_command` — one command;
* `Engine.presentState_history` — a whole run.
-/

namespace DisplayComposer

/-! ### Incidents -/

/-- Something that happens in a run. -/
inductive Incident where
  /-- A field of a command for a display, whether or not it can be set. -/
  | field (display : DisplayId) (setting : Setting ImageRef)
  | called (event : Event)
  | answered (request : Request) (reply : Reply)

/-- Where an incident leaves a display, if it has to do with where that stands. -/
def Incident.standing? (display : DisplayId) : Incident → Option PresentState
  | .field other _ => if other = display then some .unvalidated else none
  | .called ⟨.validate other, outcome⟩ =>
    if other = display then some (Action.validationState outcome) else none
  | .called ⟨.present other, outcome⟩ =>
    if other = display then some (Action.presentationState outcome) else none
  | .answered (.refresh other) _ => if other = display then some .unvalidated else none
  | .answered (.destroyLayer other _) .ok => if other = display then some .unvalidated else none
  | _ => none

namespace PresentState

variable {display : DisplayId} {xs ys : List Incident} {s : PresentState}

/-- Where a display that stood at `s` stands after some incidents: where the last of them that
has to do with it has left it. -/
def following (display : DisplayId) (incidents : List Incident) (s : PresentState) :
    PresentState :=
  (incidents.filterMap (Incident.standing? display)).getLast?.getD s

@[simp] theorem following_nil : following display [] s = s := rfl

theorem following_append :
    following display (xs ++ ys) s = following display ys (following display xs s) := by
  unfold following
  rw [List.filterMap_append, List.getLast?_append]
  cases (ys.filterMap (Incident.standing? display)).getLast? <;> rfl

/-- What has nothing to do with a display leaves it where it stands. -/
theorem following_of_forall_none (h : ∀ incident ∈ xs, incident.standing? display = none) :
    following display xs s = s := by
  unfold following
  rw [List.filterMap_eq_nil_iff.2 h]
  rfl

theorem following_singleton (incident : Incident) :
    following display [incident] s = (incident.standing? display).getD s := by
  unfold following
  cases hstanding : incident.standing? display <;> simp [hstanding]

/-- The fields of a command. -/
theorem following_fields (other : DisplayId) (settings : List (Setting ImageRef)) :
    following display (settings.map (.field other)) s =
      if other = display ∧ settings ≠ [] then .unvalidated else s := by
  induction settings generalizing s with
  | nil => simp
  | cons setting rest ih =>
    rw [List.map_cons, ← List.singleton_append, following_append, following_singleton, ih]
    by_cases hdisplay : other = display <;> simp [Incident.standing?, hdisplay]

end PresentState

/-! ### Commands -/

/-- What happens for a command: its fields are set, and calls are made. -/
def DisplayCommand.incidents (c : DisplayCommand) (calls : List Event) : List Incident :=
  c.settings.map (.field c.display) ++ calls.map .called

namespace Action

variable {σ ρ : Type} {display : DisplayId} {e : Engine (Logged σ) ρ}

/-- Since some point, where displays stand has followed the calls. -/
def Follows (log : List Event) (standing : DisplayId → PresentState)
    (e : Engine (Logged σ) ρ) : Prop :=
  ∃ calls : List Event, e.hardware.log = log ++ calls ∧
    ∀ display, e.presentState display = .following display (calls.map .called) (standing display)

/-- One more call. -/
theorem Follows.concat {log : List Event} {standing : DisplayId → PresentState}
    {e' : Engine (Logged σ) ρ} (h : Follows log standing e) (event : Event)
    (hlog : e'.hardware.log = e.hardware.log ++ [event])
    (hstate : ∀ display, e'.presentState display =
      ((Incident.called event).standing? display).getD (e.presentState display)) :
    Follows log standing e' := by
  obtain ⟨calls, hcalls, hfollows⟩ := h
  refine ⟨calls ++ [event], by rw [hlog, hcalls, List.append_assoc], fun display => ?_⟩
  rw [hstate, hfollows, List.map_append, PresentState.following_append]
  exact (PresentState.following_singleton _).symm

variable [Hardware σ] {log : List Event} {standing : DisplayId → PresentState}

/-- A call that is neither to validate nor to present leaves all displays where they stand. -/
theorem keeps_follows_perform {call : Call}
    (hcall : ∀ outcome display, (Incident.called ⟨call, outcome⟩).standing? display = none) :
    (perform call : Action (Logged σ) ρ _).Keeps (Follows log standing) := by
  intro e ran he hrun
  obtain ⟨hardware, hperform, -, hengine⟩ := perform_ok.1 hrun
  refine he.concat ⟨call, ran.value⟩ ?_ fun display => ?_
  · rw [hengine]
    exact (Logged.perform_ok.1 hperform).2
  · rw [hcall, hengine]
    rfl

variable [Resources ρ]

theorem follows_partsKeep (log : List Event) (standing : DisplayId → PresentState) :
    PartsKeep display (Follows (σ := σ) (ρ := ρ) log standing) where
  expectPresent _ := keeps_expectPresent (keeps_follows_perform fun _ _ => rfl)
  accept := keeps_accept (keeps_follows_perform fun _ _ => rfl)
  clientMustAct _ := keeps_clientMustAct (keeps_follows_perform fun _ _ => rfl)
  validate := by
    intro e ran he hrun
    obtain ⟨hlog, hstates⟩ := log_validate hrun
    refine he.concat _ hlog fun other => ?_
    rw [hstates]
    by_cases hdisplay : display = other <;> simp [Incident.standing?, hdisplay]
  present := by
    intro e ran he hrun
    obtain ⟨hlog, hstates⟩ := log_present hrun
    refine he.concat _ hlog fun other => ?_
    rw [hstates]
    by_cases hdisplay : display = other <;> simp [Incident.standing?, hdisplay]

/-- The calls that set something, and where displays stand during them. -/
theorem log_each {settings : List (Setting ImageRef)} {ran : Ran (Logged σ) ρ Unit}
    (hrun : each (applySetting display) settings e = .ok ran) : ∃ sets : List Event,
      ran.engine.hardware.log = e.hardware.log ++ sets ∧
      (∀ event ∈ sets, ∃ s, event.call = .set display s) ∧ ran.engine.states = e.states := by
  let P (f : Engine (Logged σ) ρ) : Prop := ∃ sets : List Event,
    f.hardware.log = e.hardware.log ++ sets ∧
      (∀ event ∈ sets, ∃ s, event.call = .set display s) ∧ f.states = e.states
  have hset : ∀ s, (perform (.set display s) : Action (Logged σ) ρ _).Keeps P := by
    intro s f called hf hcalled
    obtain ⟨sets, hlog, hsets, hstates⟩ := hf
    obtain ⟨hardware, hperform, -, hengine⟩ := perform_ok.1 hcalled
    have hlogged := (Logged.perform_ok.1 hperform).2
    rw [hengine]
    refine ⟨sets ++ [⟨.set display s, called.value⟩], ?_, fun event hevent => ?_, hstates⟩
    · rw [hlogged, hlog, List.append_assoc]
    · rcases List.mem_append.1 hevent with hevent | hevent
      · exact hsets event hevent
      · obtain rfl := List.mem_singleton.1 hevent
        exact ⟨s, rfl⟩
  have hkeeps : (each (applySetting display) settings : Action (Logged σ) ρ Unit).Keeps P := by
    have hresources : ∀ f resources, P f → P { f with resources } := fun _ _ hf => hf
    exact keeps_each fun s _ => keeps_applySetting (fun _ => hset _)
      (keeps_resolve_of_resources hresources) (keeps_release_of_resources hresources)
  exact hkeeps e ran ⟨[], (List.append_nil _).symm, by simp, rfl⟩ hrun

/-- **Where displays stand follows what happens for a command.** -/
theorem follows_command {c : DisplayCommand} {ran : Ran (Logged σ) ρ Unit}
    (hrun : command c e = .ok ran) (display : DisplayId) :
    ran.engine.presentState display =
      .following display (c.incidents (e.calls ran.engine)) (e.presentState display) := by
  rw [command_eq] at hrun
  obtain ⟨settled, last, hsettled, hlast, rfl⟩ := bind_ok.1 hrun
  obtain ⟨set, noted, hset, hnoted, rfl⟩ := bind_ok.1 hsettled
  obtain ⟨sets, hlogSets, hsets, hstates⟩ := log_each hset
  -- with the fields the display has to be validated, if there are any
  have hfields : noted.engine.hardware = set.engine.hardware ∧
      noted.engine.presentState display =
        .following display (c.settings.map (.field c.display)) (e.presentState display) := by
    have hkept : set.engine.presentState display = e.presentState display := by
      rw [Engine.presentState, hstates]
      rfl
    rw [PresentState.following_fields]
    cases hempty : c.settings.isEmpty with
    | true =>
      rw [hempty] at hnoted
      obtain rfl := Except.ok.inj hnoted
      have hnone : c.settings = [] := List.isEmpty_iff.1 hempty
      rw [if_neg fun h => h.2 hnone]
      exact ⟨rfl, hkept⟩
    | false =>
      rw [hempty] at hnoted
      obtain rfl := Except.ok.inj hnoted
      have hsome : c.settings ≠ [] := by simpa using hempty
      refine ⟨rfl, (Engine.presentState_setState ..).trans ?_⟩
      rw [hkept]
      simp [hsome]
  -- what follows is told by the calls
  obtain ⟨calls, hlogCalls, hfollows⟩ := (follows_partsKeep _ _).keeps_protocol noted.engine last
    ⟨[], (List.append_nil _).symm, fun _ => rfl⟩ hlast
  have hcalls : e.calls last.engine = sets ++ calls := by
    refine Engine.calls_eq ?_
    rw [hlogCalls, hfields.1, hlogSets, List.append_assoc]
  have hquiet : ∀ incident ∈ sets.map Incident.called, incident.standing? display = none := by
    intro incident hincident
    obtain ⟨⟨call, outcome⟩, hevent, rfl⟩ := List.mem_map.1 hincident
    obtain ⟨s, rfl⟩ := hsets _ hevent
    rfl
  show last.engine.presentState display = .following display (c.incidents (e.calls last.engine)) _
  rw [hcalls, DisplayCommand.incidents, List.map_append, PresentState.following_append,
    PresentState.following_append, PresentState.following_of_forall_none hquiet, ← hfields.2]
  exact hfollows display

end Action

/-! ### Requests -/

namespace Engine

variable {σ : Type} [Hardware σ]

/-- What happens while commands are carried out. -/
def commandIncidents : List DisplayCommand → Engine (Logged σ) Cache → List Incident
  | [], _ => []
  | c :: rest, e =>
    match Action.command c e with
    | .ok ran => c.incidents (e.calls ran.engine) ++ commandIncidents rest ran.engine
    | .error _ => []

/-- What happens for a request that is answered and leads to another state. -/
def requestIncidents (request : Request) (reply : Reply) (e e' : Engine (Logged σ) Cache) :
    List Incident :=
  (match request with
    | .execute commands => e.commandIncidents (commands.take UInt32.size)
    | _ => (e.calls e').map .called) ++ [.answered request reply]

/-- All that happens in a run of requests, up to one that would stop the program. -/
def history : List Request → Engine (Logged σ) Cache → List Incident
  | [], _ => []
  | request :: rest, e =>
    match e.handle request with
    | .ok (reply, e') => e.requestIncidents request reply e' ++ history rest e'
    | .error _ => []

variable {e e' : Engine (Logged σ) Cache}

theorem follows_outcomes {n : Nat} {commands : List DisplayCommand} {results : List CommandResult}
    (hrun : outcomes n commands e = .ok (results, e')) (display : DisplayId) :
    e'.presentState display =
      .following display (e.commandIncidents commands) (e.presentState display) := by
  induction commands generalizing n e results with
  | nil =>
    obtain ⟨-, rfl⟩ := Prod.mk.inj (Except.ok.inj hrun)
    rfl
  | cons c rest ih =>
    obtain ⟨ran, later, hran, hlater, rfl⟩ := outcomes_cons_ok.1 hrun
    rw [commandIncidents, hran, PresentState.following_append,
      ← Action.follows_command hran display]
    exact ih hlater

/-- Calls that only make or destroy layers leave all displays where they stand. -/
theorem following_called {display : DisplayId} {calls : List Event} {s : PresentState}
    (h : ∀ event ∈ calls, ∃ other, event.call = .createLayer other ∨
      ∃ layer, event.call = .destroyLayer other layer) :
    PresentState.following display (calls.map .called) s = s := by
  refine PresentState.following_of_forall_none fun incident hincident => ?_
  obtain ⟨⟨call, outcome⟩, hevent, rfl⟩ := List.mem_map.1 hincident
  obtain ⟨other, hcall | ⟨layer, hcall⟩⟩ := h _ hevent
  · obtain rfl : call = .createLayer other := hcall
    rfl
  · obtain rfl : call = .destroyLayer other layer := hcall
    rfl

theorem calls_of_perform {call : Call} {out : Except HardwareError call.Answer}
    {hardware : Logged σ} (hcall : Hardware.perform call e.hardware = .ok (out, hardware))
    (resources : Cache) :
    e.calls { e with hardware, resources } = [⟨call, out⟩] :=
  calls_eq (Logged.perform_ok.1 hcall).2

/-- **Where displays stand follows what happens for a request.** -/
theorem follows_handle {request : Request} {reply : Reply}
    (hrun : e.handle request = .ok (reply, e')) (display : DisplayId) :
    e'.presentState display =
      .following display (e.requestIncidents request reply e') (e.presentState display) := by
  unfold requestIncidents
  rw [PresentState.following_append, PresentState.following_singleton]
  cases handle_cases hrun with
  | executed hexecute =>
    obtain ⟨last, hout, rfl⟩ := outcomes_of_execute hexecute
    exact follows_outcomes hout display
  | created hcreate hadd =>
    have hcalls := calls_of_perform hcreate
    dsimp only
    rw [hcalls, following_called (by simp)]
    rfl
  | notCreated hcreate =>
    have hcalls := calls_of_perform hcreate
    dsimp only
    rw [hcalls, following_called (by simp)]
    rfl
  | @withdrawn other _ layer _ hardware hardware' outcome hcreate hadd hdestroy =>
    have hcalls : e.calls { e with hardware := hardware' } =
        [⟨.createLayer other, .ok layer⟩, ⟨.destroyLayer other layer, outcome⟩] := by
      refine calls_eq ?_
      rw [(Logged.perform_ok.1 hdestroy).2, (Logged.perform_ok.1 hcreate).2, List.append_assoc]
      rfl
    dsimp only
    rw [hcalls, following_called (by simp)]
    rfl
  | @destroyed other layer hardware resources hdestroy hremove =>
    have hcalls := calls_of_perform hdestroy resources
    show Engine.presentState _ _ = Option.getD (if other = display then _ else none)
      (.following display ((e.calls { e with hardware, resources }).map .called) _)
    rw [presentState_setState, hcalls, following_called (by simp)]
    split <;> rfl
  | notDestroyed hdestroy =>
    have hcalls := calls_of_perform hdestroy
    dsimp only
    rw [hcalls, following_called (by simp)]
    rfl
  | @refreshed other =>
    have hcalls : e.calls (e.refresh other) = [] := calls_eq (List.append_nil _).symm
    show Engine.presentState _ _ = Option.getD (if other = display then _ else none)
      (.following display ((e.calls (e.refresh other)).map .called) _)
    rw [hcalls, refresh, presentState_setState]
    split <;> rfl

/-- Where displays stand follows what happens in a run. -/
theorem follows_after (requests : List Request) (e : Engine (Logged σ) Cache)
    (display : DisplayId) :
    (e.after requests).presentState display =
      .following display (e.history requests) (e.presentState display) := by
  induction requests generalizing e with
  | nil => rfl
  | cons request rest ih =>
    rw [after, history]
    cases hrun : e.handle request with
    | error crash => rfl
    | ok r =>
      obtain ⟨reply, e'⟩ := r
      rw [PresentState.following_append, ← follows_handle hrun display]
      exact ih e'

end Engine

/-! ### What leaves a display where it stands -/

/-- A command that has nothing to do with where a display stands: it is for another display, or
it has no fields and does not ask to validate or to present. It may ask to accept. -/
def DisplayCommand.Indifferent (display : DisplayId) (c : DisplayCommand) : Prop :=
  c.display ≠ display ∨
    c.settings = [] ∧ c.validate = false ∧ c.present = false ∧ c.presentOrValidate = false

/-- A request that has nothing to do with where a display stands, if it is answered like this. -/
def Request.Indifferent (display : DisplayId) : Request → Reply → Prop
  | .execute commands, _ => ∀ c ∈ commands, c.Indifferent display
  | .createLayer _ _, _ => True
  | .destroyLayer other _, reply => other ≠ display ∨ reply ≠ .ok
  | .refresh other, _ => other ≠ display

/-- The command without those for layers that have no fields. -/
def DisplayCommand.withoutEmpty (c : DisplayCommand) : DisplayCommand :=
  { c with layers := c.layers.filter fun l => !(l.settings c.display).isEmpty }

theorem DisplayCommand.settings_withoutEmpty (c : DisplayCommand) :
    c.withoutEmpty.settings = c.settings := by
  have hlayers : ∀ layers : List LayerCommand,
      (layers.filter fun l => !(l.settings c.display).isEmpty).flatMap (·.settings c.display) =
        layers.flatMap (·.settings c.display) := by
    intro layers
    induction layers with
    | nil => rfl
    | cons l rest ih =>
      rw [List.filter_cons, List.flatMap_cons, ← ih]
      cases hempty : l.settings c.display <;> simp [hempty]
  exact congrArg (· ++ c.displaySettings) (hlayers c.layers)

namespace Action

variable {σ ρ : Type} [Hardware σ] [Resources ρ] {display : DisplayId} {s : PresentState}

/-- Commands for layers that have no fields do nothing at all. -/
theorem command_withoutEmpty (c : DisplayCommand) :
    (command c.withoutEmpty : Action σ ρ Unit) = command c := by
  rw [command_eq, command_eq, settle, settle, c.settings_withoutEmpty]
  rfl

/-- What is done for another display leaves a display where it stands. -/
theorem standing_stable {other : DisplayId} (hother : other ≠ display) :
    Stable other fun e : Engine σ ρ => e.presentState display = s := by
  refine stable_of_resources (fun _ _ he => he) ?_ ?_
  · intro call _ e ran he hrun
    obtain ⟨hardware, -, -, hengine⟩ := perform_ok.1 hrun
    rw [hengine]
    exact he
  · intro state e ran he hrun
    obtain rfl := Except.ok.inj hrun
    exact (Engine.presentState_setState ..).trans ((if_neg hother).trans he)

/-- **A command that has nothing to do with it leaves a display where it stands.** -/
theorem keeps_standing {c : DisplayCommand} (h : c.Indifferent display) :
    (command c : Action σ ρ Unit).Keeps fun e => e.presentState display = s := by
  rcases h with hother | ⟨hfields, hvalidate, hpresent, hshort⟩
  · exact (standing_stable hother).keeps_command
  · -- at most the display is asked to accept
    have haccept : (accept c.display : Action σ ρ Unit).Keeps
        fun e => e.presentState display = s := by
      intro e ran he hrun
      rw [accept_eq] at hrun
      obtain ⟨r, -, rfl⟩ := Except.map_eq_ok_iff.1 hrun
      exact he
    have hcommand : (command c : Action σ ρ Unit) = onlyIf c.accept (accept c.display) := by
      rw [command_eq, settle, protocol, hfields, hvalidate, hpresent, hshort]
      simp only [each, List.isEmpty_nil, Bool.not_true, onlyIf_false, pure_bind, bind_pure_unit]
    rw [hcommand]
    exact keeps_onlyIf haccept

end Action

namespace Engine

variable {σ : Type} [Hardware σ] {display : DisplayId}

/-- A request that has nothing to do with it leaves a display where it stands. -/
theorem presentState_of_indifferent {request : Request} {reply : Reply} {e e' : Engine σ Cache}
    (hrun : e.handle request = .ok (reply, e')) (h : request.Indifferent display reply) :
    e'.presentState display = e.presentState display := by
  cases handle_cases hrun with
  | executed hexecute =>
    obtain ⟨last, hout, rfl⟩ := outcomes_of_execute hexecute
    have hlast : last.presentState display = e.presentState display :=
      outcomes_keeps (P := fun f : Engine σ Cache =>
          f.presentState display = e.presentState display)
        (fun c hc => Action.keeps_standing (h c (List.mem_of_mem_take hc))) rfl hout
    exact hlast
  | destroyed hdestroy hremove =>
    rcases h with hother | hfailed
    · exact (presentState_setState ..).trans (if_neg hother)
    · exact absurd rfl hfailed
  | refreshed => exact (presentState_setState ..).trans (if_neg h)
  | created hcreate hadd => rfl
  | notCreated hcreate => rfl
  | withdrawn hcreate hadd hdestroy => rfl
  | notDestroyed hdestroy => rfl

/-- **Where a display stands is told by the history of the run.** Whatever the hardware does and
whatever the cache holds, take any run of requests from the start. The last incident that has to
do with where the display stands decides it: a field of a command for it, whatever came of
that, a refresh, or a layer that was destroyed leaves it unvalidated; a validation leaves it
validated, or failed; and an attempt to present leaves it presented, or failed. If there was no
such incident it is unvalidated. Requests and commands for other displays, commands without
fields that at most accept, and layers that cannot be destroyed leave it where it stands; and
commands for layers without fields might as well not be there. -/
theorem presentState_history (hardware : σ) (cache : Cache) (requests : List Request)
    (display : DisplayId) :
    (∃ log, ((start hardware cache).logged []).after requests =
        ((start hardware cache).after requests).logged log ∧
      ((start hardware cache).after requests).presentState display =
        .following display (((start hardware cache).logged []).history requests) .unvalidated) ∧
    (∀ (e e' : Engine σ Cache) (request : Request) (reply : Reply),
      e.handle request = .ok (reply, e') → request.Indifferent display reply →
        e'.presentState display = e.presentState display) ∧
    (∀ (e : Engine σ Cache) (c : DisplayCommand) (ran : Ran σ Cache Unit),
      Action.command c e = .ok ran → c.Indifferent display →
        ran.engine.presentState display = e.presentState display) ∧
    ∀ (e : Engine σ Cache) (c : DisplayCommand),
      Action.command c.withoutEmpty e = Action.command c e := by
  refine ⟨?_, ?_, ?_, ?_⟩
  · obtain ⟨log, hlog⟩ := after_logged (start hardware cache) [] requests
    have hfollows := follows_after requests ((start hardware cache).logged []) display
    rw [hlog] at hfollows
    exact ⟨log, hlog, hfollows⟩
  · intro e e' request reply hrun hindifferent
    exact presentState_of_indifferent hrun hindifferent
  · intro e c ran hrun hindifferent
    exact Action.keeps_standing hindifferent e ran rfl hrun
  · intro e c
    rw [Action.command_withoutEmpty]

/-- Hardware that does not destroy a layer. -/
def clinging : Engine Scripted Cache :=
  .start ⟨1, [("destroy_layer", { Response.plain with failure := some .badLayer })]⟩ oneTarget

/-- Something is set for a display, and it is validated. Then it is only asked to accept, and a
layer of it cannot be destroyed. -/
def settling : List Request :=
  [.execute [{ DisplayCommand.idle 0 with colorTransform := some [], validate := true }],
    .execute [{ DisplayCommand.idle 0 with accept := true }], .destroyLayer 0 1]

/-- It was unvalidated, then validated, and that was the last that happened to it. -/
theorem presentState_history_settling :
    ((clinging.logged []).history settling).filterMap (Incident.standing? 0) =
        [.unvalidated, .validated] ∧
      (clinging.after settling).presentState 0 = .validated ∧
      ∃ reply e', clinging.handle (.destroyLayer 0 1) = .ok (reply, e') ∧ reply ≠ .ok ∧
        e'.presentState 0 = clinging.presentState 0 := by
  have hhistory : ((clinging.logged []).history settling).filterMap (Incident.standing? 0) =
      [.unvalidated, .validated] := by decide +kernel
  have hfollowing : PresentState.following 0 ((clinging.logged []).history settling) .unvalidated =
      .validated := by
    rw [PresentState.following, hhistory]
    rfl
  have hrefused : clinging.handle (.destroyLayer 0 1) =
      .ok (failure .badLayer, { clinging with hardware := ⟨1, []⟩ }) := by rfl
  obtain ⟨⟨log, -, hstate⟩, hrequests, -⟩ := presentState_history clinging.hardware oneTarget
    settling 0
  have hother : failure .badLayer ≠ .ok := nofun
  exact ⟨hhistory, hstate.trans hfollowing, _, _, hrefused, hother,
    hrequests _ _ _ _ hrefused (.inr hother)⟩

end Engine

end DisplayComposer
