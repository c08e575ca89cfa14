import DisplayComposer.Proofs.Engine.Fences
import DisplayComposer.Proofs.Engine.Note
/-!
# DisplayComposer.Proofs.Engine.Told

**What present-or-validate does on any hardware.** Its calls with their answers are a dialogue,
and everything else follows from these: what is published, how it ends, where the display
stands, and whether it still has to be validated. Of a validation all is published or nothing,
by present-or-validate as by any other part of a command.

* `Engine.validations` — the validations on the way from one state to another;
* `Engine.Made.validations` — what is published of them;
* `Dialogue.Told` — what a dialogue tells of the rest;
* `Action.presentOrValidate_dialogue` — present-or-validate is a dialogue, and does what this
  tells.
-/

namespace DisplayComposer

/-! ### What is published of a validation -/

/-- The validation that a call has brought. -/
def Event.validated? : Event → Option Validation
  | ⟨.validate _, .ok v⟩ => some v
  | _ => none

/-- What is published of a validation, `publish`, is published of each that succeeds, and of
nothing else. -/
theorem Operation.filterMap_validated {β : Type} {pick? : Entry → Option β}
    {publish : Validation → β} (herror : ∀ failure, pick? (.error failure) = none)
    (hfences : ∀ outcome, (Action.presentationEntries outcome).filterMap pick? = [])
    (hvalidation : ∀ v, (Action.validationEntries (.ok v)).filterMap pick? = [publish v])
    (op : Operation) :
    op.entries.filterMap pick? =
      ((op.event?.bind Event.validated?).map publish).toList := by
  rw [filterMap_entries herror]
  cases op with
  | refused refusal => rfl
  | call short event =>
    obtain ⟨call, out⟩ := event
    show List.flatMap _ [_] = _
    rw [List.flatMap_singleton]
    cases call <;> cases out <;> try rfl
    · exact hvalidation _
    · exact hfences (.ok _)

/-- A dialogue validates once at most. -/
theorem Dialogue.filterMap_validated_events {must : Bool} (x : Dialogue must)
    (display : DisplayId) (time : Option Timestamp) :
    (x.events display time).filterMap Event.validated? = x.validation?.toList := by
  have hway : ∀ way : LongWay,
      (way.events display).filterMap Event.validated? = way.validation.toOption.toList := by
    intro way
    unfold LongWay.events
    rcases way.validation with failure | v <;> rcases way.question with - | asked <;>
      rcases way.last with - | last <;> rfl
  unfold Dialogue.events Dialogue.validation?
  rw [List.filterMap_cons_none rfl, List.filterMap_append]
  have hdirect : (x.direct.toList.map fun out => Event.mk (.present display) out).filterMap
      Event.validated? = [] := by
    rcases x.direct with - | failure | p <;> rfl
  rw [hdirect, List.nil_append]
  cases x.long with
  | none => rfl
  | some way => simpa using hway way

namespace Engine

variable {σ α : Type} {e : Engine (Logged σ) Cache} {ops : List Operation}
  {ran : Ran (Logged σ) Cache α}

/-- The validations that succeeded on the way from one state to another. -/
def validations (e f : Engine (Logged σ) Cache) : List Validation :=
  (e.calls f).filterMap Event.validated?

/-- **All of a validation is published,** if it succeeds, and nothing otherwise. -/
theorem Made.validations (h : e.Made ops ran) :
    ran.entries.filterMap Entry.changes? = (e.validations ran.engine).map (·.changes) ∧
      ran.entries.filterMap Entry.request? = (e.validations ran.engine).map (·.request) ∧
      ran.entries.filterMap Entry.property? = (e.validations ran.engine).map (·.target) := by
  have hvalidations : e.validations ran.engine =
      ops.filterMap fun op => op.event?.bind Event.validated? := by
    rw [Engine.validations, h.calls, List.filterMap_filterMap]
  rw [hvalidations, List.map_filterMap, List.map_filterMap, List.map_filterMap]
  refine ⟨h.filterMap (fun _ => rfl) ?_, h.filterMap (fun _ => rfl) ?_,
    h.filterMap (fun _ => rfl) ?_⟩
  all_goals
    refine Operation.filterMap_validated (fun _ => rfl) (fun outcome => ?_) fun _ => rfl
    refine List.filterMap_eq_nil_iff.2 fun entry hentry => ?_
    rcases Action.mem_presentationEntries hentry with ⟨fence, rfl⟩ | ⟨fences, rfl⟩ <;> rfl

end Engine

/-! ### On any hardware -/

/-- What present-or-validate reports and leaves, told by what was asked and answered. -/
structure Dialogue.Told {σ : Type} {must : Bool} (x : Dialogue must) (display : DisplayId)
    (log : List Event) (ran : Ran σ Cache Unit) : Prop where
  /-- But for the outcome, all that is reported is about a call: its answer, or its failure if
  it is not a hint, a question or an attempt to present. -/
  entries : ran.entries.filter (!·.isOutcome) = (log.map (.call true)).flatMap Operation.entries
  outcome : ran.entries.filterMap Entry.outcome? = x.outcome.toList
  /-- The outcome is a frame if one was shown. -/
  presented : x.outcome = some .presented ↔ ∃ p, ⟨.present display, .ok p⟩ ∈ log
  /-- It is a validation if that succeeded, and nothing was accepted. -/
  validated : x.outcome = some .validated ↔
    (∃ v, ⟨.validate display, .ok v⟩ ∈ log) ∧ ∀ out, ⟨.accept display, out⟩ ∉ log
  state : ran.engine.presentState display = .ofOutcome x.outcome
  /-- All of a validation is published, if it succeeded. -/
  changes : ran.entries.filterMap Entry.changes? = x.validation?.toList.map (·.changes)
  request : ran.entries.filterMap Entry.request? = x.validation?.toList.map (·.request)
  property : ran.entries.filterMap Entry.property? = x.validation?.toList.map (·.target)

namespace Action

variable {σ : Type} [Hardware σ]

/-- **Present-or-validate on any hardware.** Whatever the hardware does and whatever the engine
has done before: the calls that present-or-validate makes, with their answers, are a dialogue.
So it tries to present at once exactly if the display does not have to be validated; it
validates, once, exactly if that was not tried or failed; it accepts exactly if the validation
succeeded without changes and the hardware did not say that the client composes; and then it
presents once more, and does nothing after that. What it reports and where the display stands
follows from the answers (`Dialogue.Told`). The display does not have to be validated any more
then, unless the cache does not know it. -/
theorem presentOrValidate_dialogue (display : DisplayId) (time : Option Timestamp)
    (e : Engine σ Cache) :
    ((∀ (call : Call) (s : σ), ∃ r, Hardware.perform call s = .ok r) →
      ∃ ran, presentOrValidate display time e = .ok ran) ∧
    ∀ ran, presentOrValidate display time e = .ok ran →
      ∃ (log : List Event) (x : Dialogue (e.resources.mustValidate display)),
        presentOrValidate display time (e.logged []) =
          .ok ⟨(), ran.entries, ran.engine.logged log⟩ ∧
        log = x.events display time ∧ x.Told display log ran ∧
        (ran.engine.resources.mustValidate display = false ↔
          (e.resources.displays.get? display).isSome = true) := by
  constructor
  · intro hreturns
    exact (composed_presentOrValidate (τ := σ) display time).returns hreturns e
  intro ran hrun
  obtain ⟨log, hlogged⟩ := (composed_presentOrValidate display time).logged hrun []
  obtain ⟨x, hmade, houtcome, hstate⟩ := made_dialogue hlogged
  have hlog : log = x.events display time :=
    hmade.calls.trans (Operation.filterMap_event?_call true _)
  have hvalidations : (e.logged []).validations (ran.engine.logged log) =
      x.validation?.toList := by
    have hcalls : (e.logged []).calls (ran.engine.logged log) = log := Engine.calls_eq rfl
    rw [Engine.validations, hcalls, hlog, x.filterMap_validated_events]
  obtain ⟨hchanges, hrequest, hproperty⟩ := hmade.validations
  rw [hvalidations] at hchanges hrequest hproperty
  refine ⟨log, x, hlogged, hlog, ⟨?_, houtcome, ?_, ?_, hstate, hchanges, hrequest, hproperty⟩, ?_⟩
  · rw [hlog]
    exact hmade.entries
  · rw [hlog]
    exact x.outcome_eq_presented_iff display time
  · rw [hlog]
    exact x.outcome_eq_validated_iff display time
  · rw [resources_presentOrValidate hrun, Cache.mustValidate_setMustValidate, if_pos rfl]
    simp

end Action

namespace Engine

/-- Hardware that does not show a frame at first, does not say whether the client composes, and
does not accept anything. -/
def reluctant : Engine Scripted Cache :=
  let refusal := { Response.plain with failure := some .noResources }
  .start ⟨1, [("present_display", refusal), ("has_client_composition", refusal),
    ("accept_display_changes", refusal)]⟩
    ⟨.ofList [(0, ⟨false, .vacant 1, none, .empty⟩)], 0, 0⟩

end Engine

/-- Even hardware on which every call fails does not stop it. On the reluctant one there are all
the calls there can be, and a frame is shown in the end. -/
theorem Action.presentOrValidate_dialogue_reluctant :
    (∃ ran, presentOrValidate 0 none (Engine.start Engine.Broken.mk Engine.oneTarget) = .ok ran) ∧
    ∃ ran, presentOrValidate 0 none Engine.reluctant = .ok ran ∧
      ∃ (log : List Event) (x : Dialogue (Engine.reluctant.resources.mustValidate 0)),
        log = x.events 0 none ∧
        log.map (·.call) = [.set 0 (.property (.expectedPresentTime none)), .present 0,
          .validate 0, .hasClientComposition 0, .accept 0, .present 0] ∧
        x.outcome = some .presented ∧ ran.entries.filterMap Entry.outcome? = [.presented] ∧
        ran.engine.presentState 0 = .presented ∧ ran.engine.resources.mustValidate 0 = false := by
  let broken : Engine Engine.Broken Cache := .start .mk Engine.oneTarget
  have hbroken : ∃ ran, presentOrValidate 0 none broken = .ok ran :=
    (presentOrValidate_dialogue 0 none broken).1 fun call s => ⟨_, rfl⟩
  have hknown : ((presentOrValidate 0 none (Engine.reluctant.logged [])).map fun ran =>
      (ran.engine.hardware.log.map (·.call), ran.entries.filterMap Entry.outcome?)).toOption =
        some ([.set 0 (.property (.expectedPresentTime none)), .present 0, .validate 0,
          .hasClientComposition 0, .accept 0, .present 0], [.presented]) := by
    decide +kernel
  have hreturns : ((presentOrValidate 0 none Engine.reluctant).map fun _ => ()).toOption =
      some () := by decide +kernel
  obtain ⟨ran, hrun, -⟩ := Except.map_eq_ok_iff.1 (Except.toOption_eq_some_iff.1 hreturns)
  obtain ⟨log, x, hlogged, hlog, told, hsettled⟩ :=
    (presentOrValidate_dialogue 0 none Engine.reluctant).2 ran hrun
  rw [hlogged] at hknown
  obtain ⟨hcalls, hreported⟩ := Prod.mk.inj (Option.some.inj hknown)
  have houtcome : x.outcome = some .presented :=
    Option.toList_eq_singleton_iff.1 (told.outcome.symm.trans hreported)
  refine ⟨hbroken, ran, hrun, log, x, hlog, hcalls, houtcome, hreported, ?_,
    hsettled.2 (by decide)⟩
  rw [told.state, houtcome]
  rfl

end DisplayComposer
