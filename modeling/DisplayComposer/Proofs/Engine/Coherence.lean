import DisplayComposer.Proofs.Engine.Told
/-!
# DisplayComposer.Proofs.Engine.Coherence

**A result agrees with itself.** What is reported for a command is written down piece by piece,
and of most pieces only the last one stays. A command may validate twice and present three
times, so the pieces could come from different calls. But what a validation publishes it
publishes as a whole, and likewise the release fences of a frame are never left out; so in the
result stands what the last validation and the last frame have left. And the outcome of
present-or-validate is never written without what it speaks of.

* `CommandResult.Coherent` — what holds of a result;
* `Action.speaks_of_outcome` — an outcome, and what it speaks of;
* `Action.coherent_command` — the result of a command;
* `Engine.execute_coherent` — the results of a batch.
-/

namespace DisplayComposer

/-- A result for a command that agrees with itself, and with the validations that succeeded and
the frames that were shown for the command. -/
structure CommandResult.Coherent (c : DisplayCommand) (validations : List Validation)
    (frames : List Presentation) (r : CommandResult) : Prop where
  /-- What is published of validations is all there, or none of it. -/
  together : r.request.isSome = r.changes.isSome ∧ r.property.isSome = r.changes.isSome
  changes : r.changes = validations.getLast?.map (·.changes)
  request : r.request = validations.getLast?.map (·.request)
  property : r.property = validations.getLast?.map (·.target)
  releaseFences : r.releaseFences = frames.getLast?.map (·.releaseFences)
  presentFence : ∀ fence, r.presentFence = some fence →
    r.releaseFences.isSome = true ∧ fence.isValid = true
  validated : r.presentOrValidate = some .validated → r.changes.isSome = true
  presented : r.presentOrValidate = some .presented → r.releaseFences.isSome = true
  asked : r.presentOrValidate ≠ none → c.presentOrValidate = true

/-- It does not matter where the command stands in its batch. -/
theorem CommandResult.Coherent.shift {c : DisplayCommand} {validations : List Validation}
    {frames : List Presentation} {r : CommandResult} (h : r.Coherent c validations frames)
    (n : Nat) : (r.shift n).Coherent c validations frames :=
  ⟨h.together, h.changes, h.request, h.property, h.releaseFences, h.presentFence, h.validated,
    h.presented, h.asked⟩

/-! ### The calls behind an outcome -/

namespace Action

variable {σ : Type} [Hardware σ] {c : DisplayCommand} {e : Engine (Logged σ) Cache}
  {ran : Ran (Logged σ) Cache Unit}

/-- What present-or-validate has asked for a command stands in the log behind all the rest. -/
theorem dialogue_of_outcome {outcome : FastPathOutcome} (hrun : command c e = .ok ran)
    (h : outcome ∈ ran.entries.filterMap Entry.outcome?) :
    ∃ (must : Bool) (x : Dialogue must) (before : List Event),
      e.calls ran.engine = before ++ x.events c.display c.expectedPresentTime ∧
      x.outcome = some outcome := by
  obtain ⟨lead, short, hlead, hshort, hengine, h⟩ := outcome_cases hrun h
  obtain ⟨ops, -, hmade⟩ := made_command hlead
  obtain ⟨x, hlog, houtcome, -⟩ := dialogue_of_presentOrValidate hshort
  refine ⟨_, x, ops.filterMap Operation.event?, ?_, ?_⟩
  · rw [← hengine]
    exact Engine.calls_eq (by rw [hlog, hmade.log, List.append_assoc])
  · rw [houtcome] at h
    exact Option.mem_toList.1 h

/-- Only a command that asks for it has an outcome. -/
theorem asked_of_outcome {outcome : FastPathOutcome} (hrun : command c e = .ok ran)
    (h : outcome ∈ ran.entries.filterMap Entry.outcome?) : c.presentOrValidate = true := by
  cases hasked : c.presentOrValidate with
  | true => rfl
  | false =>
    have hlead : c.lead = c := by rw [DisplayCommand.lead, ← hasked]
    have hnone := outcomes_lead.eq_nil (hlead.symm ▸ hrun)
    rw [hnone] at h
    cases h

/-- An outcome is only reported of something that was done: of a validation, or of a frame. -/
theorem speaks_of_outcome (hrun : command c e = .ok ran) :
    (.validated ∈ ran.entries.filterMap Entry.outcome? → e.validations ran.engine ≠ []) ∧
      (.presented ∈ ran.entries.filterMap Entry.outcome? → e.frames ran.engine ≠ []) := by
  constructor
  · intro h
    obtain ⟨must, x, before, hcalls, houtcome⟩ := dialogue_of_outcome hrun h
    obtain ⟨⟨v, hv⟩, -⟩ :=
      (x.outcome_eq_validated_iff c.display c.expectedPresentTime).1 houtcome
    have hmem : v ∈ e.validations ran.engine :=
      List.mem_filterMap.2 ⟨_, hcalls ▸ List.mem_append_right before hv, rfl⟩
    exact List.ne_nil_of_mem hmem
  · intro h
    obtain ⟨must, x, before, hcalls, houtcome⟩ := dialogue_of_outcome hrun h
    obtain ⟨p, hp⟩ := (x.outcome_eq_presented_iff c.display c.expectedPresentTime).1 houtcome
    have hmem : p ∈ e.frames ran.engine :=
      List.mem_filterMap.2 ⟨_, hcalls ▸ List.mem_append_right before hp, rfl⟩
    exact List.ne_nil_of_mem hmem

end Action

/-! ### The result of a command -/

theorem Presentation.isValid_of_fence? {p : Presentation} {fence : Fence}
    (h : p.fence? = some fence) : fence.isValid = true := by
  unfold fence? at h
  split at h
  · obtain rfl := Option.some.inj h
    assumption
  · cases h

namespace Action

variable {σ : Type} [Hardware σ] {c : DisplayCommand} {e : Engine (Logged σ) Cache}
  {ran : Ran (Logged σ) Cache Unit}

/-- **The result of a command is coherent.** -/
theorem coherent_command (hrun : command c e = .ok ran) {index : UInt32} {r : CommandResult}
    (hr : r ∈ (CommandResult.reported index c.display ran.entries).toList) :
    r.Coherent c (e.validations ran.engine) (e.frames ran.engine) := by
  obtain ⟨ops, -, hmade⟩ := made_command hrun
  obtain ⟨hchanges, hrequest, hproperty⟩ := hmade.validations
  obtain ⟨hpresent, hrelease⟩ := hmade.fences
  obtain ⟨hvalidated, hpresented⟩ := speaks_of_outcome hrun
  obtain rfl := CommandResult.eq_of_mem_reported hr
  -- of what was written more than once the last stays
  let r := ran.entries.foldl CommandResult.add (.blank index c.display)
  have hr_changes : r.changes = (e.validations ran.engine).getLast?.map (·.changes) := by
    rw [CommandResult.changes_foldl_add, hchanges, List.getLast?_map]
    exact Option.or_none
  have hr_request : r.request = (e.validations ran.engine).getLast?.map (·.request) := by
    rw [CommandResult.request_foldl_add, hrequest, List.getLast?_map]
    exact Option.or_none
  have hr_property : r.property = (e.validations ran.engine).getLast?.map (·.target) := by
    rw [CommandResult.property_foldl_add, hproperty, List.getLast?_map]
    exact Option.or_none
  have hr_release : r.releaseFences =
      (e.frames ran.engine).getLast?.map (·.releaseFences) := by
    rw [CommandResult.releaseFences_foldl_add, hrelease, List.getLast?_map]
    exact Option.or_none
  have hr_present : r.presentFence =
      ((e.frames ran.engine).filterMap Presentation.fence?).getLast? := by
    rw [CommandResult.presentFence_foldl_add, hpresent]
    exact Option.or_none
  have hr_outcome : r.presentOrValidate = (ran.entries.filterMap Entry.outcome?).getLast? := by
    rw [CommandResult.presentOrValidate_foldl_add]
    exact Option.or_none
  constructor
  case together => rw [hr_changes, hr_request, hr_property]; simp
  case changes => exact hr_changes
  case request => exact hr_request
  case property => exact hr_property
  case releaseFences => exact hr_release
  case presentFence =>
    intro fence hfence
    rw [hr_present] at hfence
    obtain ⟨p, hp, hpfence⟩ := List.mem_filterMap.1 (List.mem_of_getLast? hfence)
    rw [hr_release]
    exact ⟨by simpa using List.ne_nil_of_mem hp, p.isValid_of_fence? hpfence⟩
  case validated =>
    intro hout
    rw [hr_outcome] at hout
    have hne := hvalidated (List.mem_of_getLast? hout)
    rw [hr_changes]
    simpa using hne
  case presented =>
    intro hout
    rw [hr_outcome] at hout
    have hne := hpresented (List.mem_of_getLast? hout)
    rw [hr_release]
    simpa using hne
  case asked =>
    intro hout
    obtain ⟨outcome, hsome⟩ := Option.ne_none_iff_exists'.1 hout
    rw [hr_outcome] at hsome
    exact asked_of_outcome hrun (List.mem_of_getLast? hsome)

end Action

/-! ### The results of a batch -/

namespace Engine

variable {σ : Type} [Hardware σ]

/-- **Results are coherent.** Whatever the hardware does and whatever the cache holds: every
result of a batch is about one of its commands, the one at its index. With this command carried
out by itself, after those before it: what the result says of a validation is what the last one
that succeeded has left; its release fences are those of the last frame that was shown; a fence
of a frame is never there without them, and is a fence; and an outcome of present-or-validate
is there only if the command asked for it, with what it speaks of. -/
theorem execute_coherent (commands : List DisplayCommand) (e : Engine σ Cache) :
    ((∀ (call : Call) (s : σ), ∃ r, Hardware.perform call s = .ok r) →
      ∃ results e', e.execute commands = .ok (results, e')) ∧
    ∀ results e', e.execute commands = .ok (results, e') → ∀ r ∈ results,
      ∃ c before alone e₁ e₂, commands[r.index.toNat]? = some c ∧ r.display = c.display ∧
        (e.logged []).execute (commands.take r.index.toNat) = .ok (before, e₁) ∧
        e₁.execute [c] = .ok (alone, e₂) ∧
        r.Coherent c (e₁.validations e₂) (e₁.frames e₂) := by
  refine ⟨execute_returns commands e, fun results e' hrun r hr => ?_⟩
  obtain ⟨last, hout, -⟩ := outcomes_of_execute hrun
  obtain ⟨i, c, hindex, hc, hdisplay⟩ :=
    mem_outcomes hout (zero_add_length_take_le commands) hr
  rw [Nat.zero_add] at hindex
  subst hindex
  have hi : r.index.toNat < UInt32.size := r.index.toNat_lt
  rw [List.getElem?_take_of_lt hi] at hc
  obtain ⟨before, e₁, ran, hbefore, hran, hfilter⟩ := filter_index_execute_logged e [] hrun hi hc
  refine ⟨c, before, _, e₁, _, hc, hdisplay, hbefore,
    execute_singleton_ok.2 ⟨ran, hran, rfl, rfl⟩, ?_⟩
  -- the result of the command alone, moved to its place
  have hmem : r ∈ results.filter fun other => other.index.toNat = r.index.toNat :=
    List.mem_filter.2 ⟨hr, decide_eq_true rfl⟩
  rw [hfilter] at hmem
  obtain ⟨r', hr', hmoved⟩ := List.mem_map.1 hmem
  rw [← hmoved]
  exact (Action.coherent_command hran hr').shift r.index.toNat

/-- What the first validation asks for. -/
def firstAsked : Validation := { Response.plain.validation with
  hasChanges := true
  changes := [⟨1, .client⟩] }

/-- Hardware that asks for a change at first, and then for nothing. It shows one frame, fails to
show another, and then shows frames without fences. -/
def wavering : Engine Scripted Cache :=
  .start ⟨1, [("validate_display", { Response.plain with validation := firstAsked }),
      ("present_display", { Response.plain with presentation := ⟨⟨40⟩, [⟨10, ⟨41⟩⟩]⟩ }),
      ("present_display", { Response.plain with failure := some .noResources })]⟩
    ⟨.ofList [(0, ⟨true, .vacant 1, none, .empty⟩)], 0, 0⟩

/-- A frame that is validated and presented, and then presented or validated. -/
def doubled : DisplayCommand := { frame with validate := true, present := true }

/-- Two validations and two frames: what the second ones have left is in the result, and the
fence of the first frame. Hardware on which every call fails gives results too. -/
theorem execute_coherent_wavering :
    (∃ results e', (start Broken.mk oneTarget).execute [doubled] = .ok (results, e')) ∧
    ∃ results e' r, wavering.execute [doubled] = .ok (results, e') ∧ r ∈ results ∧
    r.presentOrValidate = some .presented ∧ r.changes = some [] ∧
    r.releaseFences = some [] ∧ ∃ fence, r.presentFence = some fence ∧ fence.isValid = true := by
  have hbroken := (execute_coherent [doubled] (start Broken.mk oneTarget)).1 fun call s => ⟨_, rfl⟩
  have hresults : ((wavering.execute [doubled]).map fun r =>
      r.1.map fun r => (r.index, r.presentOrValidate, r.presentFence)).toOption =
        some [(0, some .presented, some ⟨40⟩)] := by decide +kernel
  have hcalls : (((wavering.logged []).counting 1).execute [doubled]).toOption.map
      (fun r => (((wavering.logged []).counting 1).validations r.2,
        ((wavering.logged []).counting 1).frames r.2)) =
          some ([firstAsked, Response.plain.validation],
            [⟨⟨40⟩, [⟨10, ⟨41⟩⟩]⟩, ⟨.absent, []⟩]) := by decide +kernel
  obtain ⟨⟨results, e'⟩, hrun, hknown⟩ :=
    Except.map_eq_ok_iff.1 (Except.toOption_eq_some_iff.1 hresults)
  obtain ⟨r, rfl, hr⟩ := List.map_eq_singleton_iff.1 hknown
  obtain ⟨hindex, houtcome, hfence⟩ : r.index = 0 ∧ _ ∧ _ := by simpa using hr
  obtain ⟨c, before, alone, e₁, e₂, hc, -, hbefore, halone, hcoherent⟩ :=
    (execute_coherent [doubled] wavering).2 _ e' hrun r (List.mem_singleton_self r)
  rw [hindex] at hc hbefore
  obtain rfl : doubled = c := Option.some.inj hc
  -- there are no commands before this one
  obtain ⟨-, rfl⟩ : [] = before ∧ (wavering.logged []).counting 1 = e₁ :=
    Prod.mk.inj (Except.ok.inj hbefore)
  rw [halone] at hcalls
  obtain ⟨hvalidations, hframes⟩ := Prod.mk.inj (Option.some.inj hcalls)
  refine ⟨hbroken, [r], e', r, hrun, List.mem_singleton_self r, houtcome, ?_, ?_, ⟨40⟩, hfence,
    (hcoherent.presentFence _ hfence).2⟩
  · rw [hcoherent.changes, hvalidations]
    rfl
  · rw [hcoherent.releaseFences, hframes]
    rfl

end Engine

end DisplayComposer
