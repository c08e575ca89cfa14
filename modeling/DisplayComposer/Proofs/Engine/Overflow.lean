import DisplayComposer.Proofs.Engine.Custody
import DisplayComposer.Proofs.Engine.Ledger
import DisplayComposer.Proofs.Engine.Protocol
import DisplayComposer.Proofs.Engine.Run
import DisplayComposer.Proofs.Hardware.Overflow
/-!
# DisplayComposer.Proofs.Engine.Overflow

**The requests that stop the engine.** On the headless backend an action returns, or it
stops the program with an overflowing subtraction, and which of the two it does depends on
nothing but the frames that it measures (`Action.Returns`). A command measures the frames
of its layer commands. Validating and presenting measure none. So in whatever state the
engine is, the requests that stop it can be told by looking at them, as long as there is an
id for the next layer.

* `DisplayCommand.frames`, `Request.frames` — the frames that are measured;
* `Action.Returns`, `Action.returns_command` — when an action returns;
* `Engine.handle_frame` — what becomes of one frame;
* `Engine.handle_returns_iff` — when a request is answered.
-/

namespace DisplayComposer

/-! ### The frames of a request -/

/-- The frames of a command, for whatever layers. -/
def DisplayCommand.frames (c : DisplayCommand) : List Rect := c.layers.filterMap (·.displayFrame)

/-- The frames of a request, as far as its commands have an index. -/
def Request.frames : Request → List Rect
  | .execute commands => (commands.take UInt32.size).flatMap (·.frames)
  | _ => []

theorem LayerCommand.frame?_of_item? {c : LayerCommand} {display : DisplayId}
    {field : LayerField} {s : Setting ImageRef} {frame : Rect}
    (hs : c.item? display field = some s) (hframe : s.frame? = some frame) :
    c.displayFrame = some frame := by
  cases field with
  | displayFrame =>
    obtain ⟨v, hv, rfl⟩ := Option.map_eq_some_iff.1 hs
    exact hv.trans hframe
  | _ =>
    obtain ⟨v, hv, rfl⟩ := Option.map_eq_some_iff.1 hs
    cases hframe

theorem DisplayCommand.frame?_of_item? {c : DisplayCommand} {field : DisplayField}
    {s : Setting ImageRef} (hs : c.item? field = some s) : s.frame? = none := by
  cases field <;> obtain ⟨v, -, rfl⟩ := Option.map_eq_some_iff.1 hs <;> rfl

/-- The frames of a command are those that its settings measure. -/
theorem DisplayCommand.mem_frames {c : DisplayCommand} {frame : Rect} :
    frame ∈ c.frames ↔ ∃ s ∈ c.settings, s.frame? = some frame := by
  rw [settings_eq, frames]
  constructor
  · intro hframe
    obtain ⟨l, hl, hdisplayFrame⟩ := List.mem_filterMap.1 hframe
    refine ⟨.property (.layer l.layer (.displayFrame frame)), ?_, rfl⟩
    refine List.mem_append_left _ (List.mem_flatMap.2 ⟨l, hl, List.mem_filterMap.2 ?_⟩)
    refine ⟨.displayFrame, by simp [LayerField.order], ?_⟩
    rw [LayerCommand.item?, hdisplayFrame]
    rfl
  · rintro ⟨s, hs, hframe⟩
    rcases List.mem_append.1 hs with hlayer | hdisplay
    · obtain ⟨l, hl, hitem⟩ := List.mem_flatMap.1 hlayer
      obtain ⟨field, -, hfield⟩ := List.mem_filterMap.1 hitem
      exact List.mem_filterMap.2 ⟨l, hl, LayerCommand.frame?_of_item? hfield hframe⟩
    · obtain ⟨field, -, hfield⟩ := List.mem_filterMap.1 hdisplay
      rw [DisplayCommand.frame?_of_item? hfield] at hframe
      cases hframe

/-! ### Actions that return -/

namespace Action

variable {ρ α β : Type} {p q : Prop}

/-- An action that returns in every state, if `p`, and otherwise stops the program in every
state. -/
structure Returns (p : Prop) (x : Action Headless ρ α) : Prop where
  returns : p → ∀ e, ∃ ran, x e = .ok ran
  stops : ¬ p → ∀ e, x e = .error .subtractionOverflow

/-- An action that returns in every state. -/
theorem Returns.of_eq {x : Action Headless ρ α} (h : ∀ e, ∃ ran, x e = .ok ran) :
    x.Returns True :=
  ⟨fun _ => h, fun hno => absurd trivial hno⟩

theorem Returns.congr {x : Action Headless ρ α} (hx : x.Returns p) (hpq : p ↔ q) :
    x.Returns q := by
  rwa [← propext hpq]

theorem Returns.bind {x : Action Headless ρ α} {k : α → Action Headless ρ β}
    (hx : x.Returns p) (hk : ∀ a, (k a).Returns q) : (x >>= k).Returns (p ∧ q) where
  returns := by
    rintro ⟨hp, hq⟩ e
    obtain ⟨first, hfirst⟩ := hx.returns hp e
    obtain ⟨second, hsecond⟩ := (hk first.value).returns hq first.engine
    exact ⟨_, bind_ok.2 ⟨first, second, hfirst, hsecond, rfl⟩⟩
  stops := by
    intro hno e
    rw [bind_eq]
    by_cases hp : p
    · obtain ⟨first, hfirst⟩ := hx.returns hp e
      have hsecond := (hk first.value).stops (fun hq => hno ⟨hp, hq⟩) first.engine
      rw [hfirst]
      show (k first.value first.engine).map _ = _
      rw [hsecond]
      rfl
    · rw [hx.stops hp e]
      rfl

/-- An action followed by one that returns. -/
theorem Returns.andThen {x : Action Headless ρ α} {k : α → Action Headless ρ β}
    (hx : x.Returns p) (hk : ∀ a, (k a).Returns True) : (x >>= k).Returns p :=
  (hx.bind hk).congr (iff_of_eq (and_true p))

theorem returns_pure (a : α) : (pure a : Action Headless ρ α).Returns True :=
  .of_eq fun _ => ⟨_, rfl⟩

theorem returns_report (entry : Entry) : (report entry : Action Headless ρ Unit).Returns True :=
  .of_eq fun _ => ⟨_, rfl⟩

theorem returns_setState (display : DisplayId) (state : PresentState) :
    (setState display state : Action Headless ρ Unit).Returns True :=
  .of_eq fun _ => ⟨_, rfl⟩

theorem returns_reportFailure (outcome : Except HardwareError α) :
    (reportFailure outcome : Action Headless ρ Unit).Returns True :=
  .of_eq fun _ => ⟨_, reportFailure_eq outcome⟩

theorem returns_onlyIf {b : Bool} {x : Action Headless ρ Unit} (hx : x.Returns True) :
    (onlyIf b x).Returns True := by
  cases b with
  | true => exact hx
  | false => exact returns_pure ()

theorem returns_each {f : α → Action Headless ρ Unit} {P : α → Prop}
    (hf : ∀ a, (f a).Returns (P a)) (items : List α) :
    (each f items).Returns (∀ a ∈ items, P a) := by
  induction items with
  | nil => exact (returns_pure ()).congr (by simp)
  | cons a rest ih => exact ((hf a).bind fun _ => ih).congr (by simp)

/-- A call returns, unless it measures a frame that overflows. -/
theorem returns_perform {call : Call} (hcall : ∀ display, call ≠ .createLayer display) :
    (perform call : Action Headless ρ _).Returns
      (∀ frame, call.frame? = some frame → ¬ frame.Overflows) where
  returns := by
    intro hsound e
    obtain ⟨r, hr⟩ := Headless.perform_returns hsound hcall e.hardware
    exact ⟨⟨r.1, [], { e with hardware := r.2 }⟩, perform_ok.2 ⟨r.2, hr, rfl, rfl⟩⟩
  stops := by
    intro hno e
    obtain ⟨frame, hframe⟩ := Classical.not_forall.1 hno
    obtain ⟨hsome, hover⟩ := Classical.not_imp.1 hframe
    rw [perform_eq, Headless.perform_overflows hsome (Classical.not_not.1 hover)]
    rfl

theorem returns_call {call : Call} (hcall : ∀ display, call ≠ .createLayer display)
    (hframe : call.frame? = none) : (perform call : Action Headless ρ _).Returns True :=
  (returns_perform hcall).congr (by simp [hframe])

/-! ### The parts of a command -/

section Parts

variable [Resources ρ]

theorem frame?_property {γ : Type} (p : Property) :
    (.property p : Setting β).frame? = (.property p : Setting γ).frame? := by
  cases p with
  | layer layer p => cases p <;> rfl
  | _ => rfl

/-- Only a frame can keep a setting from being set, or being refused. -/
theorem returns_applySetting (display : DisplayId) (s : Setting ImageRef) :
    (applySetting display s : Action Headless ρ Unit).Returns
      (∀ frame, s.frame? = some frame → ¬ frame.Overflows) := by
  cases s with
  | property p =>
    have hperform : (perform (.set display (.property p)) : Action Headless ρ _).Returns
        (∀ frame, Call.frame? (.set display (.property p)) = some frame → ¬ frame.Overflows) :=
      returns_perform fun _ => nofun
    rw [show Call.frame? (.set display (.property p)) = _ from frame?_property p] at hperform
    exact hperform.andThen returns_reportFailure
  | image use ref =>
    refine Returns.congr (p := True) ?_ (by simp [Setting.frame?])
    refine Returns.andThen (.of_eq fun _ => ⟨_, rfl⟩) fun found => ?_
    cases found with
    | error refusal => exact returns_report _
    | ok r =>
      refine Returns.andThen (returns_call (fun _ => nofun) rfl) fun outcome => ?_
      exact Returns.andThen (.of_eq fun _ => ⟨_, rfl⟩) fun _ => returns_reportFailure outcome

omit [Resources ρ] in
theorem returns_expectPresent (display : DisplayId) (time : Option Timestamp) :
    (expectPresent display time : Action Headless ρ Unit).Returns True :=
  Returns.andThen (returns_call (fun _ => nofun) rfl) fun _ => returns_pure ()

theorem returns_validate (display : DisplayId) :
    (validate display : Action Headless ρ _).Returns True :=
  .of_eq fun e => ⟨_, validate_eq display e⟩

omit [Resources ρ] in
theorem returns_accept (display : DisplayId) :
    (accept display : Action Headless ρ Unit).Returns True :=
  .of_eq fun e => ⟨_, accept_eq display e⟩

omit [Resources ρ] in
theorem returns_present (display : DisplayId) :
    (present display : Action Headless ρ _).Returns True :=
  .of_eq fun e => ⟨_, present_eq display e⟩

theorem returns_presentDirectly (display : DisplayId) :
    (presentDirectly display : Action Headless ρ Bool).Returns True := by
  refine .of_eq fun e => ?_
  rw [presentDirectly_eq]
  split
  · exact ⟨_, rfl⟩
  · rw [present_eq]
    exact ⟨_, rfl⟩

omit [Resources ρ] in
theorem returns_clientMustAct (display : DisplayId) (v : Validation) :
    (clientMustAct display v : Action Headless ρ Bool).Returns True := by
  unfold clientMustAct
  cases v.hasChanges with
  | true => exact returns_pure true
  | false =>
    refine Returns.andThen (returns_call (fun _ => nofun) rfl) fun outcome => ?_
    cases outcome <;> exact returns_pure _

theorem returns_presentOrValidate (display : DisplayId) (time : Option Timestamp) :
    (presentOrValidate display time : Action Headless ρ Unit).Returns True := by
  refine (returns_expectPresent display time).andThen fun _ =>
    (returns_presentDirectly display).andThen fun presented => ?_
  cases presented with
  | true => exact returns_report _
  | false =>
    refine (returns_validate display).andThen fun outcome => ?_
    cases outcome with
    | error failure => exact returns_pure ()
    | ok v =>
      refine (returns_clientMustAct display v).andThen fun acts => ?_
      cases acts with
      | true => exact returns_report _
      | false =>
        refine (returns_accept display).andThen fun _ => (returns_present display).andThen ?_
        intro outcome
        cases outcome with
        | ok p => exact returns_report _
        | error failure => exact returns_pure ()

/-- Validating and presenting measure no frame. -/
theorem returns_protocol (c : DisplayCommand) :
    (protocol c : Action Headless ρ Unit).Returns True := by
  refine (returns_onlyIf ?_).andThen fun _ => (returns_onlyIf (returns_accept _)).andThen fun _ =>
    (returns_onlyIf ?_).andThen fun _ => returns_onlyIf (returns_presentOrValidate _ _)
  · exact (returns_expectPresent _ _).andThen fun _ =>
      (returns_validate _).andThen fun _ => returns_pure ()
  · exact (returns_present _).andThen returns_reportFailure

/-- **A command returns,** unless one of its frames overflows. -/
theorem returns_command (c : DisplayCommand) :
    (command c : Action Headless ρ Unit).Returns (∀ frame ∈ c.frames, ¬ frame.Overflows) := by
  have hsettings : (∀ s ∈ c.settings, ∀ frame, s.frame? = some frame → ¬ frame.Overflows) ↔
      ∀ frame ∈ c.frames, ¬ frame.Overflows := by
    simp only [DisplayCommand.mem_frames]
    exact ⟨fun h frame ⟨s, hs, hframe⟩ => h s hs frame hframe,
      fun h s hs frame hframe => h frame ⟨s, hs, hframe⟩⟩
  have heach := (returns_each (ρ := ρ) (returns_applySetting c.display) c.settings).congr hsettings
  rw [command_eq]
  refine Returns.andThen ?_ fun _ => returns_protocol c
  exact heach.andThen fun _ => returns_onlyIf (returns_setState _ _)

end Parts

end Action

/-! ### Requests -/

namespace Engine

variable {e : Engine Headless Cache}

theorem outcomes_of_frames (n : Nat) (commands : List DisplayCommand)
    (e : Engine Headless Cache) :
    ((∀ frame ∈ commands.flatMap (·.frames), ¬ frame.Overflows) →
      ∃ r, outcomes n commands e = .ok r) ∧
    ((∃ frame ∈ commands.flatMap (·.frames), frame.Overflows) →
      outcomes n commands e = .error .subtractionOverflow) := by
  induction commands generalizing n e with
  | nil =>
    refine ⟨fun _ => ⟨_, rfl⟩, ?_⟩
    rintro ⟨frame, hmem, -⟩
    cases hmem
  | cons c rest ih =>
    have hcommand := Action.returns_command (ρ := Cache) c
    rw [outcomes, List.flatMap_cons]
    by_cases hfirst : ∀ frame ∈ c.frames, ¬ frame.Overflows
    · obtain ⟨ran, hran⟩ := hcommand.returns hfirst e
      obtain ⟨hreturns, hstops⟩ := ih (n + 1) ran.engine
      rw [hran]
      constructor
      · intro hsound
        obtain ⟨r, hr⟩ := hreturns fun frame hmem => hsound frame (List.mem_append_right _ hmem)
        exact ⟨_, Except.map_eq_ok_iff.2 ⟨r, hr, rfl⟩⟩
      · rintro ⟨frame, hmem, hover⟩
        have hlater := (List.mem_append.1 hmem).resolve_left fun h => hfirst frame h hover
        show (outcomes (n + 1) rest ran.engine).map _ = _
        rw [hstops ⟨frame, hlater, hover⟩]
        rfl
    · refine ⟨fun hsound => absurd (fun frame hmem => ?_) hfirst, fun _ => ?_⟩
      · exact hsound frame (List.mem_append_left _ hmem)
      · rw [hcommand.stops hfirst e]
        rfl

private theorem exists_bind_eq_ok {ε α β : Type} {x : Except ε α} {f : α → Except ε β}
    (hx : ∃ a, x = .ok a) (hf : ∀ a, ∃ b, f a = .ok b) : ∃ b, x.bind f = .ok b := by
  obtain ⟨a, rfl⟩ := hx
  exact hf a

theorem createLayer_returns (display : DisplayId) (slots : UInt32)
    (hids : e.hardware.nextLayer ≠ Int64.maxValue) : ∃ r, e.createLayer display slots = .ok r := by
  refine exists_bind_eq_ok (Headless.createLayer_returns display hids) fun ⟨created, hardware⟩ => ?_
  cases created with
  | error refusal => exact ⟨_, rfl⟩
  | ok layer =>
    dsimp only
    split <;> exact ⟨_, rfl⟩

theorem destroyLayer_returns (display : DisplayId) (layer : LayerId)
    (e : Engine Headless Cache) : ∃ r, e.destroyLayer display layer = .ok r := by
  unfold destroyLayer
  have hdestroy : ∃ r, Hardware.perform (.destroyLayer display layer) e.hardware = .ok r :=
    ⟨_, rfl⟩
  refine exists_bind_eq_ok hdestroy fun ⟨destroyed, hardware⟩ => ?_
  cases destroyed <;> exact ⟨_, rfl⟩

/-- A request is answered whose frames can be measured. -/
theorem handle_returns {request : Request}
    (hsound : ∀ frame ∈ request.frames, ¬ frame.Overflows)
    (hids : e.hardware.nextLayer ≠ Int64.maxValue) : ∃ r, e.handle request = .ok r := by
  cases request with
  | execute commands =>
    obtain ⟨r, hr⟩ := (outcomes_of_frames 0 (commands.take UInt32.size) e).1 hsound
    have hexecute := (execute_ok (List.length_take_le _ _)).2 ⟨r.2, hr, rfl⟩
    rw [← execute_take] at hexecute
    exact exists_bind_eq_ok ⟨_, hexecute⟩ fun _ => ⟨_, rfl⟩
  | createLayer display slots =>
    refine exists_bind_eq_ok (createLayer_returns display slots hids) fun ⟨created, e'⟩ => ?_
    cases created <;> exact ⟨_, rfl⟩
  | destroyLayer display layer =>
    refine exists_bind_eq_ok (destroyLayer_returns display layer e) fun ⟨destroyed, e'⟩ => ?_
    cases destroyed <;> exact ⟨_, rfl⟩
  | refresh display => exact ⟨_, rfl⟩

/-- A request stops the program if one of its frames cannot be measured. -/
theorem handle_stops {request : Request} (hover : ∃ frame ∈ request.frames, frame.Overflows) :
    e.handle request = .error .subtractionOverflow := by
  cases request with
  | execute commands =>
    have hstops := (outcomes_of_frames 0 (commands.take UInt32.size) e).2 hover
    have hexecute : e.execute commands = .error .subtractionOverflow := by
      rw [execute_take, execute_eq _ _ (List.length_take_le _ _), hstops]
      rfl
    show (e.execute commands).bind _ = _
    rw [hexecute]
    rfl
  | _ =>
    obtain ⟨frame, hmem, -⟩ := hover
    cases hmem

/-! ### Requests with one frame -/

/-- A command with nothing but a frame for a layer. -/
def frameCommand (display : DisplayId) (layer : LayerId) (frame : Rect) : DisplayCommand :=
  { DisplayCommand.idle display with
    layers := [{ LayerCommand.idle layer with displayFrame := some frame }] }

/-- What is reported of a frame. -/
def frameResults (display : DisplayId) (frame : Rect) : List CommandResult :=
  if frame.Upright then []
  else [{ CommandResult.blank 0 display with errors := [HardwareError.badParameter.code] }]

theorem command_frame {display : DisplayId} {layer : LayerId} {frame : Rect}
    {out : Except HardwareError Unit} {hardware : Headless}
    (hrun : Hardware.perform (.set display (.property (.layer layer (.displayFrame frame))))
      e.hardware = .ok (out, hardware)) :
    Action.command (frameCommand display layer frame) e =
      .ok ⟨(), Action.failures out,
        Engine.setState { e with hardware } display .unvalidated⟩ := by
  have hset : Action.applySetting display (.property (.layer layer (.displayFrame frame))) e =
      .ok ⟨(), Action.failures out, { e with hardware }⟩ :=
    Action.bind_ok.2 ⟨⟨out, [], { e with hardware }⟩, _,
      Action.perform_ok.2 ⟨hardware, hrun, rfl, rfl⟩, Action.reportFailure_eq out, rfl⟩
  have hsettings : Action.each (Action.applySetting display)
      (frameCommand display layer frame).settings e =
      .ok ⟨(), Action.failures out ++ [], { e with hardware }⟩ :=
    Action.bind_ok.2 ⟨_, ⟨(), [], { e with hardware }⟩, hset, rfl, rfl⟩
  calc Action.command (frameCommand display layer frame) e
    _ = .ok ⟨(), (((Action.failures out ++ []) ++ []) ++ []),
          Engine.setState { e with hardware } display .unvalidated⟩ := by
        rw [Action.command_eq, Action.settle, Action.bind_eq, Action.bind_eq]
        show ((Action.each (Action.applySetting display) _ e).bind _).bind _ = _
        rw [hsettings]
        rfl
    _ = _ := by simp only [List.append_nil]

/-- **What becomes of the frame of a layer.** -/
theorem handle_frame {display : DisplayId} {layer : LayerId} {l : HeadlessLayer}
    (hl : e.hardware.layer? display layer = some l) {frame : Rect}
    (hsound : ¬ frame.Overflows) :
    ∃ e', e.handle (.execute [frameCommand display layer frame]) =
        .ok (.commandResults (frameResults display frame), e') ∧
      e'.hardware.layer? display layer =
        some (if frame.Upright then { l with displayFrame := frame } else l) := by
  obtain ⟨hardware, hrun, hlayer⟩ := Headless.perform_displayFrame hl hsound
  have hexecute := execute_singleton_ok.2 ⟨_, command_frame hrun, rfl, rfl⟩
  refine ⟨counting (e.batches + 1) (Engine.setState { e with hardware } display .unvalidated),
    Except.bind_eq_ok_iff.2 ⟨_, hexecute, ?_⟩, hlayer⟩
  by_cases hupright : frame.Upright
  · simp only [hupright, if_true, frameResults]
    rfl
  · simp only [hupright, if_false, frameResults]
    rfl

/-- **When a request is answered.** As long as there is an id for the next layer, a request
gets a reply if none of its frames overflows, and stops the program otherwise. If it has
but one frame, which does not overflow, for a layer that exists, then the layer takes the
frame if that is upright, and otherwise it is refused as a bad parameter. -/
theorem handle_returns_iff (e : Engine Headless Cache)
    (hids : e.hardware.nextLayer ≠ Int64.maxValue) :
    (∀ request : Request,
      ((∃ reply e', e.handle request = .ok (reply, e')) ↔
        ∀ frame ∈ request.frames, ¬ frame.Overflows) ∧
      ((∃ frame ∈ request.frames, frame.Overflows) →
        e.handle request = .error .subtractionOverflow)) ∧
    ∀ display layer l, e.hardware.layer? display layer = some l →
      ∀ frame : Rect, ¬ frame.Overflows →
      ∃ e', e.handle (.execute [frameCommand display layer frame]) =
          .ok (.commandResults (frameResults display frame), e') ∧
        e'.hardware.layer? display layer =
          some (if frame.Upright then { l with displayFrame := frame } else l) := by
  refine ⟨fun request => ⟨⟨?_, fun hsound => ?_⟩, handle_stops⟩,
    fun display layer l hl frame => handle_frame hl⟩
  · rintro ⟨reply, e', hreply⟩ frame hmem hover
    rw [handle_stops ⟨frame, hmem, hover⟩] at hreply
    cases hreply
  · obtain ⟨⟨reply, e'⟩, hreply⟩ := handle_returns hsound hids
    exact ⟨reply, e', hreply⟩

/-- An engine with one display and one layer. -/
def layered : Engine Headless Cache :=
  (start (.ofConfigs [.standard]) standardCache).after [.createLayer 0 2]

/-- On that engine a frame is taken, an inverted one is refused, and a request for one more
layer is answered. -/
theorem handle_returns_iff_layered :
    (∃ e', layered.handle (.execute [frameCommand 0 1 ⟨-5, 0, 5, 2⟩]) =
        .ok (.commandResults [], e') ∧
      e'.hardware.layer? 0 1 = some { HeadlessLayer.fresh with displayFrame := ⟨-5, 0, 5, 2⟩ }) ∧
    (∃ e', layered.handle (.execute [frameCommand 0 1 ⟨5, 0, -5, 2⟩]) =
        .ok (.commandResults [{ CommandResult.blank 0 0 with errors := [4] }], e') ∧
      e'.hardware.layer? 0 1 = some .fresh) ∧
    ∃ reply e', layered.handle (.createLayer 0 1) = .ok (reply, e') := by
  have hids : layered.hardware.nextLayer ≠ Int64.maxValue := by decide +kernel
  have hlayer : layered.hardware.layer? 0 1 = some .fresh := by decide +kernel
  obtain ⟨hanswered, hframe⟩ := handle_returns_iff layered hids
  exact ⟨hframe 0 1 .fresh hlayer ⟨-5, 0, 5, 2⟩ (by decide),
    hframe 0 1 .fresh hlayer ⟨5, 0, -5, 2⟩ (by decide),
    (hanswered (.createLayer 0 1)).1.2 fun _ hmem => nomatch hmem⟩

/-- The message of a client that gives the layer a frame that is upright, but wider than 32
bits can tell. -/
def wideMessage : Bytes :=
  utf8 ("\x7b\"type\":\"ExecuteCommands\",\"commands\":[\x7b\"display\":0,\"layers\":[\x7b" ++
    "\"layer\":1,\"display_frame\":\x7b\"left\":-1,\"top\":0,\"right\":2147483647,\"bottom\":1" ++
    "\x7d\x7d]\x7d]\x7d")

/-- That message is a request, which stops the program. -/
theorem handle_wide_stops :
    (start (.ofConfigs [.standard]) standardCache).Reaches layered ∧
    layered.hardware.layer? 0 1 = some .fresh ∧
    ∃ request, Request.decode wideMessage = .ok request ∧
      request.frames = [⟨-1, 0, 2147483647, 1⟩] ∧
      (∀ frame ∈ request.frames, frame.Upright) ∧
      layered.handle request = .error .subtractionOverflow := by
  have hdecoded : (Request.decode wideMessage).toOption =
      some (.execute [frameCommand 0 1 ⟨-1, 0, 2147483647, 1⟩]) := by decide +kernel
  refine ⟨.after _ _, by decide +kernel, .execute [frameCommand 0 1 ⟨-1, 0, 2147483647, 1⟩],
    ?_, rfl, by decide, handle_stops (by decide)⟩
  cases hrequest : Request.decode wideMessage with
  | error failure =>
    rw [hrequest] at hdecoded
    cases hdecoded
  | ok request =>
    rw [hrequest] at hdecoded
    exact congrArg Except.ok (Option.some.inj hdecoded)

end Engine

end DisplayComposer
