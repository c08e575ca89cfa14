import DisplayComposer.Proofs.Engine.Reporting
import DisplayComposer.Proofs.Engine.Standing
import DisplayComposer.Proofs.Hardware.Readiness
/-!
# DisplayComposer.Proofs.Engine.Outcome

**How present-or-validate ends on the headless backend.** The engine tries to present, and
if that fails it validates, asks whether the client has something to do, accepts and presents
again. On the headless backend the state of the display decides how this ends
(`HeadlessDisplay.outcome`). Once a display is validated and asks for no changes, nothing can
fail on the way but presenting, and that only for want of an output buffer. So present-or-
validate never reports an error, and a display that is not virtual always gets an outcome.

* `HeadlessDisplay.outcome` — what the state decides;
* `Action.Ended` — what present-or-validate leaves and reports;
* `Action.ended_fallback`, `ended_presentOrValidate` — that it does;
* `Action.presentOrValidate_ends` — for a command.
-/

namespace DisplayComposer

namespace HeadlessDisplay

/-- How it ends for a display that was just validated: if a layer has to be composed another
way or by the client, the client has something to do; if there is nothing to show into,
nothing is shown; and otherwise a frame is. -/
def validatedOutcome (d : HeadlessDisplay) : Option FastPathOutcome :=
  if d.plan.changes ≠ [] ∨ d.usesClientComposition = true then some .validated
  else if d.config.isVirtual = true ∧ d.outputBuffer = none then none
  else some .presented

/-- How present-or-validate ends for a display. -/
def outcome (d : HeadlessDisplay) (mustValidate : Bool) : Option FastPathOutcome :=
  if mustValidate = false ∧ d.Ready then some .presented else d.validatedOutcome

/-- Only for a virtual display can there be no outcome. -/
theorem outcome_ne_none {d : HeadlessDisplay} (hphysical : d.config.isVirtual = false)
    (mustValidate : Bool) : d.outcome mustValidate ≠ none := by
  unfold outcome validatedOutcome
  rw [hphysical]
  split
  · simp
  · split <;> simp

/-- A display that was just validated, and asks for nothing, can only lack an output buffer. -/
theorem ready_of_validated {d : HeadlessDisplay} (hvalidated : d.validated = true)
    (hpending : d.pending = []) (huses : ¬ d.usesClientComposition = true) :
    d.Ready ↔ ¬ (d.config.isVirtual = true ∧ d.outputBuffer = none) := by
  constructor
  · rintro h ⟨hvirtual, hnone⟩
    have hsome := h.outputBuffer hvirtual
    rw [hnone] at hsome
    cases hsome
  · intro h
    refine ⟨hvalidated, hpending, fun hvirtual => ?_, fun hclient => absurd hclient huses⟩
    exact Option.isSome_iff_ne_none.2 fun hnone => h ⟨hvirtual, hnone⟩

end HeadlessDisplay

/-! ### Calls for a display that is known -/

namespace Headless

variable {h : Headless} {display : DisplayId} {d : HeadlessDisplay}

theorem hasClientComposition_of_known (known : h.displays.get? display = some d) :
    h.hasClientComposition display = (.ok d.usesClientComposition, h) := by
  unfold hasClientComposition onDisplay
  rw [known]
  dsimp only
  rw [Table.insert_self known]

theorem framesPresented?_of_get? (known : h.displays.get? display = some d) :
    h.framesPresented? display = some d.framesPresented := by
  rw [framesPresented?, known, Option.map_some]

end Headless

namespace Action

variable {ρ : Type} {e : Engine Headless ρ} {display : DisplayId} {d : HeadlessDisplay}

theorem clientMustAct_of_known (known : e.hardware.displays.get? display = some d)
    (v : Validation) : clientMustAct display v e =
      .ok ⟨v.hasChanges || d.usesClientComposition, [], e⟩ := by
  unfold clientMustAct
  cases v.hasChanges with
  | true => rfl
  | false =>
    have hcall : perform (.hasClientComposition display) e =
        .ok ⟨.ok d.usesClientComposition, [], e⟩ := by
      rw [perform_eq]
      show Except.ok (Ran.mk (e.hardware.hasClientComposition display).1 []
        { e with hardware := (e.hardware.hasClientComposition display).2 }) = _
      rw [Headless.hasClientComposition_of_known known]
    show (perform (.hasClientComposition display) >>= _) e = _
    rw [bind_eq, hcall]
    rfl

/-! ### How it ends -/

/-- What present-or-validate reports and leaves if it ends like this. -/
structure Ended (display : DisplayId) (d : HeadlessDisplay) (last : Option FastPathOutcome)
    (ran : Ran Headless ρ Unit) : Prop where
  outcome : ran.entries.filterMap Entry.outcome? = last.toList
  noError : ∀ failure, .error failure ∉ ran.entries
  /-- A frame is counted if it was shown, and otherwise none is. -/
  frames : ran.engine.hardware.framesPresented? display =
    some (d.framesPresented + if last = some .presented then 1 else 0)

/-- A frame that is shown, and reported as the outcome. -/
theorem present_shown (known : e.hardware.displays.get? display = some d) (hready : d.Ready) :
    ∃ p last, present display e = .ok ⟨.ok p, presentationEntries (.ok p), last⟩ ∧
      Ended display d (some .presented)
        ⟨(), presentationEntries (.ok p) ++ [.presentOrValidate .presented], last⟩ := by
  obtain ⟨p, hp, hdisplays⟩ := Headless.shows_of_ready known hready
  refine ⟨p, _, by rw [present_headless, hp], ?_, fun failure hmem => ?_, ?_⟩
  · rw [List.filterMap_append, outcomes_presentationEntries]
    rfl
  · rcases List.mem_append.1 hmem with hmem | hmem
    · rcases mem_presentationEntries hmem with ⟨fence, heq⟩ | ⟨fences, heq⟩ <;> cases heq
    · cases List.mem_singleton.1 hmem
  · show (e.hardware.present display).2.framesPresented? display = _
    rw [Headless.framesPresented?, hdisplays, Table.get?_insert_self]
    rfl

/-- A display that is not ready is left as it is. -/
theorem present_refused (known : e.hardware.displays.get? display = some d)
    (hready : ¬ d.Ready) :
    ∃ failure, present display e = .ok ⟨.error failure, [], e.setState display .failed⟩ := by
  rw [HeadlessDisplay.ready_iff] at hready
  obtain ⟨failure, hfailure⟩ := Option.ne_none_iff_exists'.1 hready
  have hrefused := (Headless.present_of_known known).1 failure hfailure
  exact ⟨failure, (present_headless display e).trans
    (congrArg Except.ok (present_failed (present_headless display e) hrefused))⟩

/-- What comes after a validation: nothing on the way can fail but presenting. -/
theorem ended_afterValidation (known : e.hardware.displays.get? display = some d)
    (hvalidated : d.validated = true) (hcurrent : d.Current) :
    ∃ ran, afterValidation display (.ok d.validation) e = .ok ran ∧
      Ended display d d.validatedOutcome ran := by
  have hacts := clientMustAct_of_known known d.validation
  have hkept := Headless.framesPresented?_of_get? known
  unfold HeadlessDisplay.validatedOutcome
  by_cases hasked : d.plan.changes ≠ [] ∨ d.usesClientComposition = true
  · have hacting : (d.validation.hasChanges || d.usesClientComposition) = true := by
      rw [Bool.or_eq_true, HeadlessDisplay.hasChanges_iff]
      exact hasked
    rw [hacting] at hacts
    rw [if_pos hasked]
    refine ⟨_, bind_ok.2 ⟨_, _, hacts, rfl, rfl⟩, rfl, fun failure hmem => ?_, hkept⟩
    cases List.mem_singleton.1 hmem
  · -- the client has nothing to do, and there is nothing to accept
    obtain ⟨hnone, huses⟩ := not_or.1 hasked
    have hpending : d.pending = [] := (hcurrent hvalidated).trans (Decidable.not_not.1 hnone)
    have hidle : (d.validation.hasChanges || d.usesClientComposition) = false := by
      rw [Bool.or_eq_false_iff, ← Bool.not_eq_true, ← Bool.not_eq_true,
        HeadlessDisplay.hasChanges_iff]
      exact ⟨hnone, huses⟩
    have haccept : accept display e = .ok ⟨(), [], e⟩ := by
      rw [accept_eq, Headless.perform_accept, Headless.accept_of_ready known hvalidated hpending]
      rfl
    rw [hidle] at hacts
    rw [if_neg hasked]
    by_cases hready : d.Ready
    · obtain ⟨p, last, hpresent, hended⟩ := present_shown known hready
      refine ⟨_, bind_ok.2 ⟨_, _, hacts,
        bind_ok.2 ⟨_, _, haccept, bind_ok.2 ⟨_, _, hpresent, rfl, rfl⟩, rfl⟩, rfl⟩, ?_⟩
      rw [if_neg ((HeadlessDisplay.ready_of_validated hvalidated hpending huses).1 hready)]
      exact hended
    · obtain ⟨failure, hpresent⟩ := present_refused known hready
      refine ⟨_, bind_ok.2 ⟨_, _, hacts,
        bind_ok.2 ⟨_, _, haccept, bind_ok.2 ⟨_, _, hpresent, rfl, rfl⟩, rfl⟩, rfl⟩, ?_⟩
      rw [HeadlessDisplay.ready_of_validated hvalidated hpending huses, Decidable.not_not] at hready
      rw [if_pos hready]
      exact ⟨rfl, fun failure => List.not_mem_nil, hkept⟩

variable [Resources ρ]

/-- A display that is known can be validated, and is then up to date. -/
theorem validate_of_known (known : e.hardware.displays.get? display = some d) :
    ∃ last, validate display e =
        .ok ⟨.ok d.validation, validationEntries (.ok d.validation), last⟩ ∧
      last.hardware.displays.get? display =
        some { d with pending := d.plan.changes, validated := true } := by
  rw [validate_eq, Headless.perform_validate, Headless.validate_of_known known]
  exact ⟨_, rfl, Table.get?_insert_self ..⟩

/-- The long way, whatever the display was like before. -/
theorem ended_fallback (known : e.hardware.displays.get? display = some d) :
    ∃ ran, fallback display e = .ok ran ∧ Ended display d d.validatedOutcome ran := by
  obtain ⟨last, hvalidate, known'⟩ := validate_of_known known
  obtain ⟨ran, hran, hended⟩ := ended_afterValidation known' rfl fun _ => rfl
  refine ⟨_, bind_ok.2 ⟨_, ran, hvalidate, hran, rfl⟩, ?_, fun failure hmem => ?_, hended.frames⟩
  · -- a validation reports no outcome
    exact hended.outcome
  · rcases List.mem_append.1 hmem with hmem | hmem
    · simp [validationEntries] at hmem
    · exact hended.noError failure hmem

/-- **How present-or-validate ends** for a display that is known. -/
theorem ended_presentOrValidate (known : e.hardware.displays.get? display = some d)
    (time : Option Timestamp) : ∃ ran, presentOrValidate display time e = .ok ran ∧
      Ended display d (d.outcome (Resources.mustValidate display e.resources)) ran := by
  have hexpect := expectPresent_headless display time e
  cases hmust : Resources.mustValidate display e.resources with
  | true =>
    rw [presentOrValidate_of_mustValidate hmust]
    obtain ⟨ran, hran, hended⟩ := ended_fallback known
    refine ⟨_, bind_ok.2 ⟨_, ran, hexpect, hran, rfl⟩, ?_⟩
    rw [HeadlessDisplay.outcome, if_neg (by simp)]
    exact hended
  | false =>
    rw [presentOrValidate_of_not_mustValidate hmust]
    by_cases hready : d.Ready
    · obtain ⟨p, last, hpresent, hended⟩ := present_shown known hready
      refine ⟨_, bind_ok.2 ⟨_, _, hexpect, bind_ok.2 ⟨_, _, hpresent, rfl, rfl⟩, rfl⟩, ?_⟩
      rw [HeadlessDisplay.outcome, if_pos ⟨rfl, hready⟩]
      exact hended
    · obtain ⟨failure, hpresent⟩ := present_refused known hready
      obtain ⟨ran, hran, hended⟩ := ended_fallback (e := e.setState display .failed) known
      refine ⟨_, bind_ok.2 ⟨_, _, hexpect, bind_ok.2 ⟨_, ran, hpresent, hran, rfl⟩, rfl⟩, ?_⟩
      rw [HeadlessDisplay.outcome, if_neg fun h => hready h.2]
      exact hended

/-! ### For a command -/

variable {c : DisplayCommand}

/-- **How a command with present-or-validate ends on the headless backend,** whatever state the
engine is in. The state that present-or-validate finds decides it: the outcome, which is the one
in the result of the command; that no error is reported; and whether a frame is counted. A
display that is not virtual always gets an outcome. -/
theorem presentOrValidate_ends (hasked : c.presentOrValidate = true) {lead : Ran Headless ρ Unit}
    (hlead : command c.lead e = .ok lead)
    (known : lead.engine.hardware.displays.get? c.display = some d) :
    ∃ ran, presentOrValidate c.display c.expectedPresentTime lead.engine = .ok ran ∧
      command c e = .ok ⟨(), lead.entries ++ ran.entries, ran.engine⟩ ∧
      Ended c.display d (d.outcome (Resources.mustValidate c.display lead.engine.resources)) ran ∧
      (d.config.isVirtual = false →
        d.outcome (Resources.mustValidate c.display lead.engine.resources) ≠ none) ∧
      ∀ index, (CommandResult.reported index c.display (lead.entries ++ ran.entries)).bind
        (·.presentOrValidate) =
          d.outcome (Resources.mustValidate c.display lead.engine.resources) := by
  obtain ⟨ran, hran, hended⟩ := ended_presentOrValidate known c.expectedPresentTime
  refine ⟨ran, hran, ?_, hended, fun hphysical =>
    HeadlessDisplay.outcome_ne_none hphysical _, fun index => ?_⟩
  · rw [command_eq_lead, hasked]
    exact bind_ok.2 ⟨lead, ran, hlead, hran, rfl⟩
  · rw [CommandResult.presentOrValidate_reported, List.filterMap_append, outcomes_lead.eq_nil hlead,
      List.nil_append, hended.outcome]
    cases d.outcome _ <;> rfl

end Action

namespace Engine

/-- A virtual display that has nothing to show into. -/
def offscreen : Engine Headless Cache :=
  .start (.ofConfigs [{ DisplayConfig.standard with isVirtual := true }])
    ⟨.ofList [(0, ⟨true, .vacant 3, some (.vacant 1), .empty⟩)], 0, 0⟩

/-- The first frame of a physical display is shown. That of a virtual one is not, and it gets
no outcome. -/
theorem presentOrValidate_ends_offscreen :
    Engine.ofConfigs [{ DisplayConfig.standard with isVirtual := true }] = .ok offscreen ∧
    (∃ ran, Action.command frame single = .ok ran ∧
      ran.entries.filterMap Entry.outcome? = [.presented] ∧
      ran.engine.hardware.framesPresented? 0 = some 1) ∧
    ∃ ran, Action.command frame offscreen = .ok ran ∧
      ran.entries.filterMap Entry.outcome? = [] ∧
      ran.engine.hardware.framesPresented? 0 = some 0 := by
  refine ⟨rfl, ?_, ?_⟩
  · have hshown : (HeadlessDisplay.ofConfig .standard).outcome true = some .presented := by
      decide +kernel
    obtain ⟨ran, -, hran, hended, -⟩ := Action.presentOrValidate_ends (c := frame) (e := single)
      rfl rfl rfl
    have hended : Action.Ended 0 (.ofConfig .standard)
      ((HeadlessDisplay.ofConfig .standard).outcome true) ran := hended
    rw [hshown] at hended
    exact ⟨_, hran, hended.outcome, hended.frames⟩
  · have hnone : (HeadlessDisplay.ofConfig
        { DisplayConfig.standard with isVirtual := true }).outcome true = none := by
      decide +kernel
    obtain ⟨ran, -, hran, hended, -⟩ := Action.presentOrValidate_ends (c := frame) (e := offscreen)
      rfl rfl rfl
    have hended : Action.Ended 0 (.ofConfig { DisplayConfig.standard with isVirtual := true })
      ((HeadlessDisplay.ofConfig { DisplayConfig.standard with isVirtual := true }).outcome true)
      ran := hended
    rw [hnone] at hended
    exact ⟨_, hran, hended.outcome, hended.frames⟩

end Engine

end DisplayComposer
