import DisplayComposer.Proofs.Engine.Action
import DisplayComposer.Proofs.Table
/-!
# DisplayComposer.Proofs.Engine.Protocol

**What each part of the protocol does.** A part of the protocol is one call of the
hardware; what it reports, and where the display stands then, depends on the outcome
of the call alone. There is an equation for each part that says so, and no later proof
opens them.

* `expectPresent_eq`, `validate_eq`, `accept_eq`, `present_eq` — the equations;
* `validate_setState`, `present_setState` — where the display stood before does not
  matter;
* `protocol_short`, `protocol_roundTrip` — the two ways to show a frame;
* `presentOrValidate_of_mustValidate`, `presentOrValidate_of_not_mustValidate` — the
  choice of the fast path, with the note there and without it;
* `Action.PartsKeep` — what every part keeps, the protocol keeps.
-/

namespace DisplayComposer

variable {σ ρ : Type}

namespace Engine

@[simp] theorem setState_setState (e : Engine σ ρ) (display : DisplayId) (s t : PresentState) :
    (e.setState display s).setState display t = e.setState display t := by
  unfold setState
  rw [Table.insert_insert]

end Engine

/-- A command that asks for present-or-validate, and for no other part of the protocol. -/
structure DisplayCommand.Short (c : DisplayCommand) : Prop where
  validate : c.validate = false
  accept : c.accept = false
  present : c.present = false
  presentOrValidate : c.presentOrValidate = true

/-- A command that asks for the whole round trip of validating, accepting and presenting
instead of the short way. -/
def DisplayCommand.roundTrip (c : DisplayCommand) : DisplayCommand :=
  { c with validate := true, accept := true, present := true, presentOrValidate := false }

/-- The command without its present-or-validate, which is what comes before that. -/
def DisplayCommand.lead (c : DisplayCommand) : DisplayCommand :=
  { c with presentOrValidate := false }

/-- The same setting, with another image. -/
def Setting.map {β γ : Type} (f : β → γ) : Setting β → Setting γ
  | .property p => .property p
  | .image use b => .image use (f b)

namespace Action

/-- What is reported of a validation. -/
def validationEntries : Except HardwareError Validation → List Entry
  | .error failure => [.error failure]
  | .ok v => [.changes v.changes, .request v.request, .property v.target]

/-- Where a display stands after a validation. -/
def validationState : Except HardwareError Validation → PresentState
  | .error _ => .failed
  | .ok _ => .validated

/-- What is reported of a frame, other than a failure to show it. -/
def presentationEntries : Except HardwareError Presentation → List Entry
  | .error _ => []
  | .ok p => (if p.presentFence.isValid then [.presentFence p.presentFence] else []) ++
    [.releaseFences p.releaseFences]

/-- Of a frame only its fences are reported. -/
theorem mem_presentationEntries {outcome : Except HardwareError Presentation} {entry : Entry}
    (h : entry ∈ presentationEntries outcome) :
    (∃ fence, entry = .presentFence fence) ∨ ∃ fences, entry = .releaseFences fences := by
  cases outcome with
  | error failure => cases h
  | ok p =>
    rcases List.mem_append.1 h with h | h
    · split at h
      · exact .inl ⟨_, List.mem_singleton.1 h⟩
      · cases h
    · exact .inr ⟨_, List.mem_singleton.1 h⟩

/-- Where a display stands after an attempt to show a frame. -/
def presentationState : Except HardwareError Presentation → PresentState
  | .error _ => .failed
  | .ok _ => .presented

section Parts

variable [Hardware σ]

theorem expectPresent_eq (display : DisplayId) (time : Option Timestamp) (e : Engine σ ρ) :
    expectPresent display time e =
      (Hardware.perform (.set display (.property (.expectedPresentTime time))) e.hardware).map
        fun r => ⟨(), [], { e with hardware := r.2 }⟩ := by
  rw [expectPresent, bind_eq, perform_eq]
  cases Hardware.perform (.set display _) e.hardware <;> rfl

theorem expectPresent_of_ok {display : DisplayId} {time : Option Timestamp} {e : Engine σ ρ}
    {out : Except HardwareError Unit} {hardware : σ}
    (hcall : Hardware.perform (.set display (.property (.expectedPresentTime time))) e.hardware =
      .ok (out, hardware)) :
    expectPresent display time e = .ok ⟨(), [], { e with hardware }⟩ := by
  rw [expectPresent_eq, hcall]
  rfl

theorem accept_eq (display : DisplayId) (e : Engine σ ρ) :
    accept display e = (Hardware.perform (.accept display) e.hardware).map fun r =>
      ⟨(), failures r.1, { e with hardware := r.2 }⟩ := by
  rw [accept, bind_eq, perform_eq]
  cases Hardware.perform (.accept display) e.hardware with
  | error crash => rfl
  | ok r =>
    show (reportFailure r.1 { e with hardware := r.2 }).map _ = _
    rw [reportFailure_eq]
    rfl

theorem present_eq (display : DisplayId) (e : Engine σ ρ) :
    present display e = (Hardware.perform (.present display) e.hardware).map fun r =>
      ⟨r.1, presentationEntries r.1,
        Engine.setState { e with hardware := r.2 } display (presentationState r.1)⟩ := by
  rw [present_eq_onlyIf, bind_eq, perform_eq]
  cases Hardware.perform (.present display) e.hardware with
  | error crash => rfl
  | ok r =>
    obtain ⟨outcome, hardware⟩ := r
    cases outcome with
    | error failure => rfl
    | ok p =>
      show ((do
          onlyIf p.presentFence.isValid (report (.presentFence p.presentFence))
          report (.releaseFences p.releaseFences)
          setState display .presented
          pure (.ok p) : Action σ ρ (Except HardwareError Presentation)) { e with hardware }).map _ =
        .ok (Ran.mk (Except.ok p) ((if p.presentFence.isValid then _ else []) ++ _) _)
      cases p.presentFence.isValid <;> rfl

theorem present_of_ok {display : DisplayId} {e : Engine σ ρ}
    {out : Except HardwareError Presentation} {hardware : σ}
    (hcall : Hardware.perform (.present display) e.hardware = .ok (out, hardware)) :
    present display e = .ok ⟨out, presentationEntries out,
      Engine.setState { e with hardware } display (presentationState out)⟩ := by
  rw [present_eq, hcall]
  rfl

theorem present_setState (display : DisplayId) (s : PresentState) (e : Engine σ ρ) :
    present display (e.setState display s) = present display e := by
  rw [present_eq, present_eq]
  congr 1
  funext r
  rw [← Engine.setState_setState { e with hardware := r.2 } display s]
  rfl

variable [Resources ρ]

theorem validate_eq (display : DisplayId) (e : Engine σ ρ) :
    validate display e = (Hardware.perform (.validate display) e.hardware).map fun r =>
      ⟨r.1, validationEntries r.1, Engine.setState { e with
        hardware := r.2
        resources := Resources.setMustValidate display false e.resources }
        display (validationState r.1)⟩ := by
  rw [validate, bind_eq]
  show ((perform (.validate display) >>= _) { e with resources := _ }).map _ = _
  rw [bind_eq, perform_eq]
  show (((Hardware.perform (.validate display) e.hardware).map _).bind _).map _ = _
  cases Hardware.perform (.validate display) e.hardware with
  | error crash => rfl
  | ok r =>
    obtain ⟨outcome, hardware⟩ := r
    cases outcome <;> rfl

theorem validate_setState (display : DisplayId) (s : PresentState) (e : Engine σ ρ) :
    validate display (e.setState display s) = validate display e := by
  rw [validate_eq, validate_eq]
  congr 1
  funext r
  rw [← Engine.setState_setState { e with
    hardware := r.2
    resources := Resources.setMustValidate display false e.resources } display s]
  rfl

/-- A display that has to be validated is left alone. -/
theorem presentDirectly_eq (display : DisplayId) (e : Engine σ ρ) :
    presentDirectly display e =
      if Resources.mustValidate display e.resources then .ok ⟨false, [], e⟩
      else (present display e).map fun ran => { ran with value := succeeded ran.value } := by
  show ((if Resources.mustValidate display e.resources then pure false
    else do return succeeded (← present display) : Action σ ρ Bool) e).map _ = _
  split
  · rfl
  · rw [bind_eq]
    cases present display e with
    | error crash => rfl
    | ok ran =>
      show Except.ok (Ran.mk _ ([] ++ (ran.entries ++ [])) ran.engine) = _
      rw [List.nil_append, List.append_nil]
      rfl

/-! ### What the parts report -/

omit [Resources ρ] in
theorem entries_accept {display : DisplayId} {e : Engine σ ρ} {ran : Ran σ ρ Unit}
    (hrun : accept display e = .ok ran) :
    ∃ outcome : Except HardwareError Unit, ran.entries = failures outcome := by
  rw [accept_eq] at hrun
  obtain ⟨r, -, rfl⟩ := Except.map_eq_ok_iff.1 hrun
  exact ⟨r.1, rfl⟩

omit [Resources ρ] in
theorem entries_present {display : DisplayId} {e : Engine σ ρ}
    {ran : Ran σ ρ (Except HardwareError Presentation)} (hrun : present display e = .ok ran) :
    ran.entries = presentationEntries ran.value := by
  rw [present_eq] at hrun
  obtain ⟨r, -, rfl⟩ := Except.map_eq_ok_iff.1 hrun
  rfl

theorem entries_validate {display : DisplayId} {e : Engine σ ρ}
    {ran : Ran σ ρ (Except HardwareError Validation)} (hrun : validate display e = .ok ran) :
    ran.entries = validationEntries ran.value := by
  rw [validate_eq] at hrun
  obtain ⟨r, -, rfl⟩ := Except.map_eq_ok_iff.1 hrun
  rfl

theorem exists_of_mem_failures {α : Type} {outcome : Except HardwareError α} {entry : Entry}
    (h : entry ∈ failures outcome) : ∃ failure, entry = .error failure := by
  cases outcome with
  | ok _ => cases h
  | error failure => exact ⟨failure, List.mem_singleton.1 h⟩

/-- Setting a property reports nothing but failures. -/
theorem entries_applySetting {display : DisplayId} {setting : Setting ImageRef}
    {e : Engine σ ρ} {ran : Ran σ ρ Unit} (hrun : applySetting display setting e = .ok ran) :
    ∀ entry ∈ ran.entries, ∃ failure, entry = .error failure := by
  intro entry hentry
  cases setting with
  | property p =>
    obtain ⟨first, second, hfirst, hsecond, rfl⟩ := bind_ok.1 hrun
    obtain ⟨hardware, -, hnone, -⟩ := perform_ok.1 hfirst
    rw [reportFailure_eq] at hsecond
    obtain rfl := Except.ok.inj hsecond
    rw [hnone, List.nil_append] at hentry
    exact exists_of_mem_failures hentry
  | image use ref =>
    obtain ⟨found, rest, hfound, hrest, rfl⟩ := bind_ok.1 hrun
    have hnothing : found.entries = [] := by
      cases hfound
      rfl
    rw [hnothing, List.nil_append] at hentry
    cases hvalue : found.value with
    | error refusal =>
      rw [hvalue] at hrest
      obtain rfl := Except.ok.inj hrest
      exact ⟨_, List.mem_singleton.1 hentry⟩
    | ok r =>
      rw [hvalue] at hrest
      obtain ⟨called, last, hcalled, hlast, rfl⟩ := bind_ok.1 hrest
      obtain ⟨hardware, -, hnone, -⟩ := perform_ok.1 hcalled
      obtain ⟨released, reported, hreleased, hreported, rfl⟩ := bind_ok.1 hlast
      obtain rfl := Except.ok.inj hreleased
      rw [reportFailure_eq] at hreported
      obtain rfl := Except.ok.inj hreported
      rw [hnone, List.nil_append, List.nil_append] at hentry
      exact exists_of_mem_failures hentry

theorem entries_settle {c : DisplayCommand} {e : Engine σ ρ} {ran : Ran σ ρ Unit}
    (hrun : settle c e = .ok ran) : ∀ entry ∈ ran.entries, ∃ failure, entry = .error failure := by
  have heach : ∀ (settings : List (Setting ImageRef)) (e : Engine σ ρ) (ran : Ran σ ρ Unit),
      each (applySetting c.display) settings e = .ok ran →
        ∀ entry ∈ ran.entries, ∃ failure, entry = .error failure := by
    intro settings
    induction settings with
    | nil =>
      intro e ran hrun
      obtain rfl := Except.ok.inj hrun
      exact fun entry hentry => nomatch hentry
    | cons setting rest ih =>
      intro e ran hrun entry hentry
      obtain ⟨first, second, hfirst, hsecond, rfl⟩ := bind_ok.1 hrun
      rcases List.mem_append.1 hentry with hentry | hentry
      · exact entries_applySetting hfirst entry hentry
      · exact ih first.engine second hsecond entry hentry
  obtain ⟨first, second, hfirst, hsecond, rfl⟩ := bind_ok.1 hrun
  have hnone : second.entries = [] := by
    cases hempty : !c.settings.isEmpty <;> rw [hempty] at hsecond <;> cases hsecond <;> rfl
  rw [hnone, List.append_nil]
  exact heach c.settings e first hfirst

/-! ### The two ways to show a frame -/

/-- What present-or-validate does if the display could not present at once. -/
def fallback (display : DisplayId) : Action σ ρ Unit := do
  match ← validate display with
  | .error _ => pure ()
  | .ok v =>
    if ← clientMustAct display v then report (.presentOrValidate .validated)
    else
      accept display
      if succeeded (← present display) then report (.presentOrValidate .presented)

theorem fallback_eq (display : DisplayId) :
    (fallback display : Action σ ρ Unit) = validate display >>= afterValidation display := rfl

theorem presentOrValidate_eq (display : DisplayId) (time : Option Timestamp) :
    (presentOrValidate display time : Action σ ρ Unit) = (do
      expectPresent display time
      if ← presentDirectly display then report (.presentOrValidate .presented)
      else fallback display) := rfl

/-- A display that has to be validated goes the long way. -/
theorem presentOrValidate_of_mustValidate {display : DisplayId} {e : Engine σ ρ}
    (hmust : Resources.mustValidate display e.resources = true) (time : Option Timestamp) :
    presentOrValidate display time e = (do
      expectPresent display time
      fallback display : Action σ ρ Unit) e := by
  rw [presentOrValidate_eq, bind_eq, bind_eq, expectPresent_eq]
  cases Hardware.perform (.set display (.property (.expectedPresentTime time))) e.hardware with
  | error crash => rfl
  | ok r =>
    have hdirectly := presentDirectly_eq display { e with hardware := r.2 }
    rw [if_pos hmust] at hdirectly
    show ((presentDirectly display >>= _) { e with hardware := r.2 }).map _ =
      (fallback display { e with hardware := r.2 }).map _
    rw [bind_eq, hdirectly]
    show ((fallback display { e with hardware := r.2 }).map _).map _ = _
    cases fallback display { e with hardware := r.2 } <;> rfl

/-- Any other display is to present at once, and goes the long way only if it cannot. -/
theorem presentOrValidate_of_not_mustValidate {display : DisplayId} {e : Engine σ ρ}
    (hmust : Resources.mustValidate display e.resources = false) (time : Option Timestamp) :
    presentOrValidate display time e = (do
      expectPresent display time
      if succeeded (← present display) then report (.presentOrValidate .presented)
      else fallback display : Action σ ρ Unit) e := by
  rw [presentOrValidate_eq, bind_eq, bind_eq, expectPresent_eq]
  cases Hardware.perform (.set display (.property (.expectedPresentTime time))) e.hardware with
  | error crash => rfl
  | ok r =>
    have hdirectly := presentDirectly_eq display { e with hardware := r.2 }
    rw [if_neg (by simp [hmust])] at hdirectly
    show ((presentDirectly display >>= _) { e with hardware := r.2 }).map _ =
      ((present display >>= _) { e with hardware := r.2 }).map _
    rw [bind_eq, bind_eq, hdirectly]
    cases present display { e with hardware := r.2 } <;> rfl

theorem protocol_short {c : DisplayCommand} (hshort : c.Short) :
    (protocol c : Action σ ρ Unit) = presentOrValidate c.display c.expectedPresentTime := by
  simp only [protocol, hshort.validate, hshort.accept, hshort.present, hshort.presentOrValidate,
    onlyIf_false, onlyIf_true, pure_bind]

theorem protocol_roundTrip (c : DisplayCommand) :
    (protocol c.roundTrip : Action σ ρ Unit) = (do
      expectPresent c.display c.expectedPresentTime
      let _ ← validate c.display
      accept c.display
      reportFailure (← present c.display)) := by
  simp only [protocol, DisplayCommand.roundTrip, onlyIf_false, onlyIf_true, bind_assoc, pure_bind,
    bind_pure_unit]

/-- Present-or-validate comes last. -/
theorem command_eq_lead (c : DisplayCommand) : (command c : Action σ ρ Unit) =
    command c.lead >>= fun _ =>
      onlyIf c.presentOrValidate (presentOrValidate c.display c.expectedPresentTime) := by
  have hsettle : (settle c.lead : Action σ ρ Unit) = settle c := rfl
  rw [command_eq, command_eq, hsettle, bind_assoc]
  simp only [protocol, DisplayCommand.lead, onlyIf_false, bind_assoc, pure_bind]

/-! ### What the calls of the protocol keep -/

section Calls

variable {display : DisplayId} {P : Engine σ ρ → Prop}

omit [Resources ρ]

theorem keeps_expectPresent {time : Option Timestamp}
    (hcall : (perform (.set display (.property (.expectedPresentTime time))) :
      Action σ ρ _).Keeps P) :
    (expectPresent display time : Action σ ρ Unit).Keeps P :=
  hcall.bind fun _ => keeps_pure ()

theorem keeps_accept (hcall : (perform (.accept display) : Action σ ρ _).Keeps P) :
    (accept display : Action σ ρ Unit).Keeps P :=
  hcall.bind keeps_reportFailure

theorem keeps_present (hcall : (perform (.present display) : Action σ ρ _).Keeps P)
    (hstate : ∀ s, (setState display s : Action σ ρ Unit).Keeps P) :
    (present display : Action σ ρ _).Keeps P := by
  rw [present_eq_onlyIf]
  refine hcall.bind fun outcome => ?_
  cases outcome with
  | error failure => exact (hstate _).bind fun _ => keeps_pure _
  | ok p =>
    refine (keeps_onlyIf (keeps_report _)).bind fun _ => (keeps_report _).bind fun _ => ?_
    exact (hstate _).bind fun _ => keeps_pure _

theorem keeps_clientMustAct {v : Validation}
    (hcall : (perform (.hasClientComposition display) : Action σ ρ _).Keeps P) :
    (clientMustAct display v : Action σ ρ Bool).Keeps P := by
  unfold clientMustAct
  cases v.hasChanges with
  | true => exact keeps_pure true
  | false =>
    refine hcall.bind fun outcome => ?_
    cases outcome <;> exact keeps_pure _

end Calls

/-! ### What the protocol keeps -/

/-- What every part of the protocol of a display keeps. -/
structure PartsKeep (display : DisplayId) (P : Engine σ ρ → Prop) : Prop where
  expectPresent : ∀ time, (expectPresent display time).Keeps P
  validate : (validate display).Keeps P
  accept : (accept display).Keeps P
  present : (present display).Keeps P
  clientMustAct : ∀ v, (clientMustAct display v).Keeps P

namespace PartsKeep

variable {display : DisplayId} {P : Engine σ ρ → Prop}

theorem presentDirectly (h : PartsKeep display P) : (presentDirectly display).Keeps P := by
  have hlook : (mustValidate display : Action σ ρ Bool).Keeps P := by
    intro e ran he hrun
    obtain rfl := Except.ok.inj hrun
    exact he
  refine hlook.bind fun must => ?_
  cases must with
  | true => exact keeps_pure false
  | false => exact h.present.bind fun _ => keeps_pure _

theorem afterValidation (h : PartsKeep display P) (outcome : Except HardwareError Validation) :
    (afterValidation display outcome).Keeps P := by
  cases outcome with
  | error failure => exact keeps_pure ()
  | ok v =>
    refine (h.clientMustAct v).bind fun acts => ?_
    cases acts with
    | true => exact keeps_report _
    | false =>
      refine h.accept.bind fun _ => h.present.bind fun outcome => ?_
      cases outcome with
      | ok p => exact keeps_report _
      | error failure => exact keeps_pure ()

theorem fallback (h : PartsKeep display P) : (fallback display).Keeps P :=
  h.validate.bind h.afterValidation

theorem presentOrValidate (h : PartsKeep display P) (time : Option Timestamp) :
    (presentOrValidate display time).Keeps P := by
  rw [presentOrValidate_eq]
  refine (h.expectPresent time).bind fun _ => h.presentDirectly.bind fun presented => ?_
  cases presented with
  | true => exact keeps_report _
  | false => exact h.fallback

theorem keeps_protocol {c : DisplayCommand} (h : PartsKeep c.display P) :
    (protocol c).Keeps P := by
  refine (keeps_onlyIf ?_).bind fun _ => (keeps_onlyIf h.accept).bind fun _ =>
    (keeps_onlyIf ?_).bind fun _ => keeps_onlyIf (h.presentOrValidate _)
  · exact (h.expectPresent _).bind fun _ => h.validate.bind fun _ => keeps_pure ()
  · exact h.present.bind keeps_reportFailure

end PartsKeep

/-! ### What commands keep -/

section Settings

variable {P : Engine σ ρ → Prop}

/-- A setting resolves an image, makes one call, and lets go of what was displaced. -/
theorem keeps_applySetting {display : DisplayId} {s : Setting ImageRef}
    (hset : ∀ f, (perform (.set display (s.map f)) : Action σ ρ _).Keeps P)
    (hresolve : ∀ ref, (resolve ref : Action σ ρ _).Keeps P)
    (hrelease : ∀ images, (release images : Action σ ρ Unit).Keeps P) :
    (applySetting display s : Action σ ρ Unit).Keeps P := by
  cases s with
  | property p =>
    have hcall : (perform (.set display (.property p)) : Action σ ρ _).Keeps P :=
      hset fun _ => ⟨0, .empty⟩
    exact hcall.bind keeps_reportFailure
  | image use ref =>
    refine (hresolve ref).bind fun found => ?_
    cases found with
    | error refusal => exact keeps_report _
    | ok r =>
      have hcall : (perform (.set display (.image use r.image)) : Action σ ρ _).Keeps P :=
        hset fun _ => r.image
      refine hcall.bind fun outcome => ?_
      exact (hrelease _).bind fun _ => keeps_reportFailure outcome

theorem keeps_settle {c : DisplayCommand}
    (hset : ∀ s ∈ c.settings, (applySetting c.display s : Action σ ρ Unit).Keeps P)
    (hstate : (setState c.display .unvalidated : Action σ ρ Unit).Keeps P) :
    (settle c : Action σ ρ Unit).Keeps P :=
  (keeps_each hset).bind fun _ => keeps_onlyIf hstate

theorem keeps_command {c : DisplayCommand} (hsettle : (settle c : Action σ ρ Unit).Keeps P)
    (hparts : PartsKeep c.display P) : (command c : Action σ ρ Unit).Keeps P := by
  rw [command_eq]
  exact hsettle.bind fun _ => hparts.keeps_protocol

end Settings

end Parts

end Action

end DisplayComposer
