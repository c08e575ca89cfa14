import DisplayComposer.Proofs.Engine.Reporting
/-!
# DisplayComposer.Proofs.Engine.Dialogue

**What present-or-validate asks of the hardware.** The hardware may answer whatever it likes,
and what is asked next depends on its answers. It is asked to present at once if the display
does not have to be validated. If that is not done or fails, there is the long way: the display
is validated; if it asks for no changes, the hardware is asked whether the client composes; if
it does not say so, the changes are accepted, and it is asked to present once more. So the
calls and their answers are a `Dialogue`, which carries the rules of what is asked when. What
is reported, and where the display stands, can be read off it.

* `LongWay`, `Dialogue` — calls and answers, with the rules of what is asked when;
* `Dialogue.outcome` — how it ends;
* `outcome_eq_presented_iff`, `outcome_eq_validated_iff` — which calls that comes to;
* `Action.longWay_of_fallback`, `dialogue_of_presentOrValidate` — what is asked is such a
  dialogue.
-/

namespace DisplayComposer

/-! ### Dialogues -/

/-- The answers of the hardware on the long way. -/
structure LongWay where
  validation : Except HardwareError Validation
  /-- Whether the client composes. -/
  question : Option (Except HardwareError Bool)
  /-- To accepting the validation, and to presenting once more. -/
  last : Option (Except HardwareError Unit × Except HardwareError Presentation)
  /-- The hardware is asked about the client if there are no changes. -/
  asks : question.isSome = true ↔ ∃ v, validation = .ok v ∧ v.hasChanges = false
  /-- Nothing is accepted if there are changes, or the client composes. -/
  accepts : last.isSome = true ↔
    (∃ v, validation = .ok v ∧ v.hasChanges = false) ∧ question ≠ some (.ok true)

namespace LongWay

/-- The calls of the long way, in their order. -/
def events (display : DisplayId) (x : LongWay) : List Event :=
  ⟨.validate display, x.validation⟩ ::
    (x.question.toList.map (⟨.hasClientComposition display, ·⟩) ++
      x.last.toList.flatMap fun (accepted, shown) =>
        [⟨.accept display, accepted⟩, ⟨.present display, shown⟩])

/-- How the long way ends: with a frame, or where the client has something to do. -/
def outcome (x : LongWay) : Option FastPathOutcome :=
  match x.validation, x.last with
  | .error _, _ => none
  | .ok _, none => some .validated
  | .ok _, some (_, .ok _) => some .presented
  | .ok _, some (_, .error _) => none

end LongWay

/-- The calls of present-or-validate with their answers, for a display that has to be
validated or not. -/
structure Dialogue (mustValidate : Bool) where
  /-- The answer to the time at which the frame is expected. -/
  hint : Except HardwareError Unit
  /-- The answer to an attempt to present at once. -/
  direct : Option (Except HardwareError Presentation)
  long : Option LongWay
  presents : direct.isSome = true ↔ mustValidate = false
  /-- There is no long way after a frame, and always one without. -/
  validates : long.isSome = true ↔ ∀ p, direct ≠ some (.ok p)

namespace Dialogue

variable {mustValidate : Bool}

/-- The calls of a dialogue, in their order. -/
def events (display : DisplayId) (time : Option Timestamp) (x : Dialogue mustValidate) :
    List Event :=
  ⟨.set display (.property (.expectedPresentTime time)), x.hint⟩ ::
    (x.direct.toList.map (⟨.present display, ·⟩) ++ x.long.toList.flatMap (·.events display))

/-- How a dialogue ends. Without the long way a frame was shown. -/
def outcome (x : Dialogue mustValidate) : Option FastPathOutcome :=
  match x.long with
  | none => some .presented
  | some way => way.outcome

/-- The validation that succeeded. -/
def validation? (x : Dialogue mustValidate) : Option Validation :=
  x.long.bind (·.validation.toOption)

end Dialogue

/-- Where a display stands after present-or-validate. -/
def PresentState.ofOutcome : Option FastPathOutcome → PresentState
  | some .presented => .presented
  | some .validated => .validated
  | none => .failed

/-! ### What dialogues say -/

namespace LongWay

variable {x : LongWay}

/-- Only what was validated is accepted. -/
theorem exists_validation (hlast : x.last.isSome = true) : ∃ v, x.validation = .ok v := by
  obtain ⟨⟨v, hv, -⟩, -⟩ := x.accepts.1 hlast
  exact ⟨v, hv⟩

/-- The long way ends with a frame if one is shown. -/
theorem outcome_eq_presented_iff (display : DisplayId) :
    x.outcome = some .presented ↔ ∃ p, ⟨.present display, .ok p⟩ ∈ x.events display := by
  have hvalidation := x.exists_validation
  unfold outcome events
  rcases hlast : x.last with - | ⟨accepted, failure | p⟩
  · cases x.validation <;> simp
  · cases x.validation <;> simp
  · obtain ⟨v, hv⟩ := hvalidation (hlast ▸ rfl)
    simp [hv]

/-- It ends with a validation if that succeeds, and nothing is accepted. -/
theorem outcome_eq_validated_iff (display : DisplayId) :
    x.outcome = some .validated ↔ (∃ v, ⟨.validate display, .ok v⟩ ∈ x.events display) ∧
      ∀ out, ⟨.accept display, out⟩ ∉ x.events display := by
  unfold outcome events
  rcases x.validation with failure | v <;> rcases x.last with - | ⟨accepted, failure | p⟩ <;> simp

end LongWay

namespace Dialogue

variable {mustValidate : Bool} {x : Dialogue mustValidate}

theorem outcome_eq_presented_iff (display : DisplayId) (time : Option Timestamp) :
    x.outcome = some .presented ↔ ∃ p, ⟨.present display, .ok p⟩ ∈ x.events display time := by
  have hvalidates := x.validates
  unfold outcome events
  cases hlong : x.long with
  | none =>
    obtain ⟨p, hp⟩ : ∃ p, x.direct = some (.ok p) := by
      simpa [hlong] using hvalidates
    simp [hp]
  | some way =>
    have hdirect : ∀ p, x.direct ≠ some (.ok p) := hvalidates.1 (hlong ▸ rfl)
    rw [way.outcome_eq_presented_iff display]
    rcases hshown : x.direct with - | failure | p
    · simp
    · simp
    · exact absurd hshown (hdirect p)

theorem outcome_eq_validated_iff (display : DisplayId) (time : Option Timestamp) :
    x.outcome = some .validated ↔ (∃ v, ⟨.validate display, .ok v⟩ ∈ x.events display time) ∧
      ∀ out, ⟨.accept display, out⟩ ∉ x.events display time := by
  unfold outcome events
  cases x.long with
  | none => simp
  | some way =>
    rw [way.outcome_eq_validated_iff display]
    simp

end Dialogue

/-! ### The parts of present-or-validate -/

namespace Action

variable {σ ρ : Type} [Hardware σ] {display : DisplayId} {e : Engine (Logged σ) ρ}

theorem log_expectPresent {time : Option Timestamp} {ran : Ran (Logged σ) ρ Unit}
    (hrun : expectPresent display time e = .ok ran) :
    ∃ out, ran.engine.hardware.log = e.hardware.log ++
        [⟨.set display (.property (.expectedPresentTime time)), out⟩] ∧
      ran.engine.resources = e.resources := by
  rw [expectPresent_eq] at hrun
  obtain ⟨r, hcall, rfl⟩ := Except.map_eq_ok_iff.1 hrun
  exact ⟨r.1, (Logged.perform_ok.1 hcall).2, rfl⟩

theorem log_accept {ran : Ran (Logged σ) ρ Unit} (hrun : accept display e = .ok ran) :
    ∃ out, ran.engine.hardware.log = e.hardware.log ++ [⟨.accept display, out⟩] := by
  rw [accept_eq] at hrun
  obtain ⟨r, hcall, rfl⟩ := Except.map_eq_ok_iff.1 hrun
  exact ⟨r.1, (Logged.perform_ok.1 hcall).2⟩

/-- An attempt to present, and where displays stand then. -/
theorem log_present {ran : Ran (Logged σ) ρ (Except HardwareError Presentation)}
    (hrun : present display e = .ok ran) :
    ran.engine.hardware.log = e.hardware.log ++ [⟨.present display, ran.value⟩] ∧
      ∀ other, ran.engine.presentState other =
        if display = other then presentationState ran.value else e.presentState other := by
  rw [present_eq] at hrun
  obtain ⟨r, hcall, rfl⟩ := Except.map_eq_ok_iff.1 hrun
  exact ⟨(Logged.perform_ok.1 hcall).2, fun other => Engine.presentState_setState ..⟩

/-- The client has to act if there are changes, and else if the hardware says so. Asking does
not change where the display stands. -/
theorem log_clientMustAct {v : Validation} {ran : Ran (Logged σ) ρ Bool}
    (hrun : clientMustAct display v e = .ok ran) :
    ∃ question : Option (Except HardwareError Bool),
      (question.isSome = true ↔ v.hasChanges = false) ∧
      (ran.value = false ↔ v.hasChanges = false ∧ question ≠ some (.ok true)) ∧
      ran.engine.hardware.log = e.hardware.log ++
        question.toList.map (⟨.hasClientComposition display, ·⟩) ∧
      ran.engine.presentState display = e.presentState display := by
  unfold clientMustAct at hrun
  cases hchanges : v.hasChanges with
  | true =>
    rw [hchanges] at hrun
    obtain rfl := Except.ok.inj hrun
    exact ⟨none, by simp, by simp, (List.append_nil _).symm, rfl⟩
  | false =>
    rw [hchanges] at hrun
    obtain ⟨asked, last, hasked, hlast, rfl⟩ := bind_ok.1 hrun
    obtain ⟨hardware, hcall, -, hengine⟩ := perform_ok.1 hasked
    have hlog : asked.engine.hardware.log =
        e.hardware.log ++ [⟨.hasClientComposition display, asked.value⟩] := by
      rw [hengine]
      exact (Logged.perform_ok.1 hcall).2
    have hstate : asked.engine.presentState display = e.presentState display := by
      rw [hengine]
      rfl
    refine ⟨some asked.value, by simp, ?_, ?_⟩
    · cases hvalue : asked.value with
      | error failure =>
        rw [hvalue] at hlast
        obtain rfl := Except.ok.inj hlast
        simp
      | ok uses =>
        rw [hvalue] at hlast
        obtain rfl := Except.ok.inj hlast
        cases uses <;> simp
    · cases hvalue : asked.value <;> rw [hvalue] at hlast hlog <;>
        obtain rfl := Except.ok.inj hlast <;> exact ⟨hlog, hstate⟩

variable [Resources ρ]

/-- Presenting at once is tried exactly if the display does not have to be validated. -/
theorem log_presentDirectly {ran : Ran (Logged σ) ρ Bool}
    (hrun : presentDirectly display e = .ok ran) :
    ∃ direct : Option (Except HardwareError Presentation),
      (direct.isSome = true ↔ Resources.mustValidate display e.resources = false) ∧
      ran.engine.hardware.log = e.hardware.log ++ direct.toList.map (⟨.present display, ·⟩) ∧
      (ran.value = false ↔ ∀ p, direct ≠ some (.ok p)) ∧
      (ran.value = true → ran.engine.presentState display = .presented) := by
  rw [presentDirectly_eq] at hrun
  split at hrun
  · obtain rfl := Except.ok.inj hrun
    rename_i hmust
    exact ⟨none, by simp [hmust], (List.append_nil _).symm, by simp, fun h => by cases h⟩
  · obtain ⟨shown, hshown, rfl⟩ := Except.map_eq_ok_iff.1 hrun
    rename_i hmust
    obtain ⟨hlog, hstates⟩ := log_present hshown
    have hstate : shown.engine.presentState display = presentationState shown.value :=
      (hstates display).trans (if_pos rfl)
    refine ⟨some shown.value, by simpa using hmust, hlog, ?_, fun hvalue => ?_⟩
    · cases hvalue : shown.value <;> simp [succeeded]
    · cases hfailed : shown.value with
      | ok p => rw [hstate, hfailed]; rfl
      | error failure => rw [hfailed] at hvalue; cases hvalue

/-- A validation, and where displays stand then. -/
theorem log_validate {ran : Ran (Logged σ) ρ (Except HardwareError Validation)}
    (hrun : validate display e = .ok ran) :
    ran.engine.hardware.log = e.hardware.log ++ [⟨.validate display, ran.value⟩] ∧
      ∀ other, ran.engine.presentState other =
        if display = other then validationState ran.value else e.presentState other := by
  rw [validate_eq] at hrun
  obtain ⟨r, hcall, rfl⟩ := Except.map_eq_ok_iff.1 hrun
  exact ⟨(Logged.perform_ok.1 hcall).2, fun other => Engine.presentState_setState ..⟩

/-- To present at once reports no outcome. -/
theorem outcomes_presentDirectly :
    (presentDirectly display : Action (Logged σ) ρ Bool).Reports Entry.outcome? 0 := by
  intro e ran hrun
  rw [presentDirectly_eq] at hrun
  split at hrun
  · obtain rfl := Except.ok.inj hrun
    exact Nat.le_refl 0
  · obtain ⟨shown, hshown, rfl⟩ := Except.map_eq_ok_iff.1 hrun
    exact outcomes_present e shown hshown

/-- **The long way is one:** what is asked keeps to the rules, and the outcome that is reported
and where the display stands are those of the answers. -/
theorem longWay_of_fallback {ran : Ran (Logged σ) ρ Unit} (hrun : fallback display e = .ok ran) :
    ∃ x : LongWay, ran.engine.hardware.log = e.hardware.log ++ x.events display ∧
      ran.entries.filterMap Entry.outcome? = x.outcome.toList ∧
      ran.engine.presentState display = .ofOutcome x.outcome := by
  obtain ⟨validated, rest, hvalidated, hrest, rfl⟩ := bind_ok.1 hrun
  obtain ⟨hlog, hstates⟩ := log_validate hvalidated
  have hstate : validated.engine.presentState display = validationState validated.value :=
    (hstates display).trans (if_pos rfl)
  rw [List.filterMap_append, outcomes_validate.eq_nil hvalidated, List.nil_append]
  cases hvalidation : validated.value with
  | error failure =>
    rw [hvalidation] at hrest hlog hstate
    obtain rfl := Except.ok.inj hrest
    exact ⟨⟨.error failure, none, none, by simp, by simp⟩, hlog, rfl, hstate⟩
  | ok v =>
    rw [hvalidation] at hrest hlog hstate
    obtain ⟨asked, after, hasked, hafter, rfl⟩ := bind_ok.1 hrest
    obtain ⟨question, hasks, hacts, hlogAsked, hstateAsked⟩ := log_clientMustAct hasked
    rw [hlog] at hlogAsked
    rw [hstate] at hstateAsked
    rw [List.filterMap_append, (reports_clientMustAct v).eq_nil hasked, List.nil_append]
    cases hvalue : asked.value with
    | true =>
      rw [hvalue] at hafter hacts
      obtain rfl := Except.ok.inj hafter
      refine ⟨⟨.ok v, question, none, by simpa using hasks, by simpa using hacts⟩, ?_, rfl,
        hstateAsked⟩
      simpa [LongWay.events] using hlogAsked
    | false =>
      rw [hvalue] at hafter hacts
      obtain ⟨accepted, presented, haccepted, hpresented, rfl⟩ := bind_ok.1 hafter
      obtain ⟨out, hlogAccepted⟩ := log_accept haccepted
      obtain ⟨shown, reported, hshown, hreported, rfl⟩ := bind_ok.1 hpresented
      obtain ⟨hlogShown, hstatesShown⟩ := log_present hshown
      have hstateShown : shown.engine.presentState display = presentationState shown.value :=
        (hstatesShown display).trans (if_pos rfl)
      have hlogAll : shown.engine.hardware.log = e.hardware.log ++ [⟨.validate display, .ok v⟩] ++
          question.toList.map (⟨.hasClientComposition display, ·⟩) ++ [⟨.accept display, out⟩] ++
          [⟨.present display, shown.value⟩] := by
        rw [hlogShown, hlogAccepted, hlogAsked]
      have hidle : v.hasChanges = false ∧ question ≠ some (.ok true) := hacts.1 rfl
      refine ⟨⟨.ok v, question, some (out, shown.value), by simpa using hasks,
        by simpa using hidle⟩, ?_⟩
      rw [List.filterMap_append, List.filterMap_append, outcomes_present.eq_nil hshown,
        (reports_accept fun _ => rfl).eq_nil haccepted]
      cases hframe : shown.value with
      | error failure =>
        rw [hframe] at hreported hlogAll hstateShown
        obtain rfl := Except.ok.inj hreported
        exact ⟨by simpa [LongWay.events] using hlogAll, rfl, hstateShown⟩
      | ok p =>
        rw [hframe] at hreported hlogAll hstateShown
        obtain rfl := Except.ok.inj hreported
        exact ⟨by simpa [LongWay.events] using hlogAll, rfl, hstateShown⟩

/-- **Present-or-validate is a dialogue,** on hardware that keeps a log. -/
theorem dialogue_of_presentOrValidate {time : Option Timestamp} {ran : Ran (Logged σ) ρ Unit}
    (hrun : presentOrValidate display time e = .ok ran) :
    ∃ x : Dialogue (Resources.mustValidate display e.resources),
      ran.engine.hardware.log = e.hardware.log ++ x.events display time ∧
      ran.entries.filterMap Entry.outcome? = x.outcome.toList ∧
      ran.engine.presentState display = .ofOutcome x.outcome := by
  rw [presentOrValidate_eq] at hrun
  obtain ⟨told, rest, htold, hrest, rfl⟩ := bind_ok.1 hrun
  obtain ⟨hint, hlogTold, hcache⟩ := log_expectPresent htold
  obtain ⟨tried, last, htried, hlast, rfl⟩ := bind_ok.1 hrest
  obtain ⟨direct, hpresents, hlogTried, hfailed, hshown⟩ := log_presentDirectly htried
  rw [hcache] at hpresents
  rw [hlogTold] at hlogTried
  rw [List.filterMap_append, List.filterMap_append, (reports_expectPresent time).eq_nil htold,
    outcomes_presentDirectly.eq_nil htried]
  cases hvalue : tried.value with
  | true =>
    rw [hvalue] at hlast hfailed
    obtain rfl := Except.ok.inj hlast
    refine ⟨⟨hint, direct, none, hpresents, by simpa using hfailed⟩, ?_, rfl, hshown hvalue⟩
    simpa [Dialogue.events] using hlogTried
  | false =>
    rw [hvalue] at hlast hfailed
    obtain ⟨way, hlogWay, houtcome, hstate⟩ := longWay_of_fallback hlast
    rw [hlogTried] at hlogWay
    refine ⟨⟨hint, direct, some way, hpresents, by simpa using hfailed⟩, ?_, houtcome, hstate⟩
    simpa [Dialogue.events] using hlogWay

end Action

end DisplayComposer
