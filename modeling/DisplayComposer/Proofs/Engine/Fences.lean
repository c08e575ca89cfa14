import DisplayComposer.Proofs.Engine.Failures
import DisplayComposer.Proofs.Engine.FastPath
import DisplayComposer.Proofs.Engine.Moves
import DisplayComposer.Proofs.Engine.Reporting
/-!
# DisplayComposer.Proofs.Engine.Fences

**Which fences reach the client.** Every frame that is shown for a command comes with
fences, and all of them are reported. But a result has one place for the fence of the frame
and one for the release fences, so of several frames the last one stays. A command shows one
frame for each of the two flags that ask for it at most. With one of them nothing is lost;
with both, the release fences of the first frame are, and what is left may be of two frames.

* `Event.shown?` — the frame that a call has shown;
* `FencesOf` — what stands in the results of some frames;
* `Action.releases_presentOrValidate` — present-or-validate shows one frame at most;
* `Engine.execute_fences` — what that says of a batch.
-/

namespace DisplayComposer

/-- The frame that a call has shown. -/
def Event.shown? : Event → Option Presentation
  | ⟨.present _, .ok p⟩ => some p
  | _ => none

/-- The fence of a frame, if it has one. -/
def Presentation.fence? (p : Presentation) : Option Fence :=
  if p.presentFence.isValid then some p.presentFence else none

/-! ### Frames and entries -/

namespace Event

theorem filterMap_presentFence?_answer (event : Event) :
    event.answer.filterMap Entry.presentFence? =
      (event.shown?.bind Presentation.fence?).toList := by
  obtain ⟨call, out⟩ := event
  cases call <;> cases out <;> try rfl
  rename_i p
  show List.filterMap _ ((if p.presentFence.isValid then _ else _) ++ _) =
    (if p.presentFence.isValid then some p.presentFence else none).toList
  cases p.presentFence.isValid <;> rfl

theorem filterMap_releaseFences?_answer (event : Event) :
    event.answer.filterMap Entry.releaseFences? =
      (event.shown?.map Presentation.releaseFences).toList := by
  obtain ⟨call, out⟩ := event
  cases call <;> cases out <;> try rfl
  rename_i p
  show List.filterMap _ ((if p.presentFence.isValid then _ else _) ++ _) = _
  cases p.presentFence.isValid <;> rfl

end Event

namespace Operation

/-- The frame that was shown. -/
def shown? (op : Operation) : Option Presentation := op.event?.bind Event.shown?

/-- Failures are no fences. -/
theorem filterMap_entries {β : Type} {pick? : Entry → Option β}
    (herror : ∀ failure, pick? (.error failure) = none) (op : Operation) :
    op.entries.filterMap pick? =
      op.event?.toList.flatMap fun event => event.answer.filterMap pick? := by
  cases op with
  | refused refusal => exact List.filterMap_cons_none (herror _)
  | call short event =>
    rw [entries, List.filterMap_append]
    cases (call short event).recorded? with
    | none => simp [event?]
    | some failure => simp [event?, herror]

theorem filterMap_presentFence?_entries (op : Operation) :
    op.entries.filterMap Entry.presentFence? = (op.shown?.bind Presentation.fence?).toList := by
  rw [filterMap_entries fun _ => rfl]
  cases op with
  | refused refusal => rfl
  | call short event => simpa [event?, shown?] using event.filterMap_presentFence?_answer

theorem filterMap_releaseFences?_entries (op : Operation) :
    op.entries.filterMap Entry.releaseFences? =
      (op.shown?.map Presentation.releaseFences).toList := by
  rw [filterMap_entries fun _ => rfl]
  cases op with
  | refused refusal => rfl
  | call short event => simpa [event?, shown?] using event.filterMap_releaseFences?_answer

end Operation

namespace Engine

variable {σ α : Type} {e : Engine (Logged σ) Cache} {ops : List Operation}
  {ran : Ran (Logged σ) Cache α}

/-- The frames that were shown on the way from one state to another. -/
def frames (e f : Engine (Logged σ) Cache) : List Presentation :=
  (e.calls f).filterMap Event.shown?

theorem Made.frames_eq (h : e.Made ops ran) : e.frames ran.engine = ops.filterMap (·.shown?) := by
  rw [frames, h.calls, List.filterMap_filterMap]
  rfl

/-- **The fences of all frames are reported,** in their order. -/
theorem Made.fences (h : e.Made ops ran) :
    ran.entries.filterMap Entry.presentFence? =
        (e.frames ran.engine).filterMap Presentation.fence? ∧
      ran.entries.filterMap Entry.releaseFences? =
        (e.frames ran.engine).map Presentation.releaseFences := by
  rw [h.frames_eq, List.filterMap_filterMap, List.map_filterMap]
  exact ⟨h.filterMap (fun _ => rfl) Operation.filterMap_presentFence?_entries,
    h.filterMap (fun _ => rfl) Operation.filterMap_releaseFences?_entries⟩

end Engine

/-! ### How many frames there are -/

namespace Action

variable {σ ρ : Type} [Hardware σ] {display : DisplayId}

theorem releases_present : (present display : Action σ ρ _).Reports Entry.releaseFences? 1 := by
  intro e ran hrun
  rw [entries_present hrun]
  cases ran.value with
  | error failure => exact Nat.zero_le _
  | ok p =>
    show (List.filterMap _ ((if p.presentFence.isValid then _ else _) ++ _)).length ≤ 1
    cases p.presentFence.isValid <;> exact Nat.le_refl 1

variable [Resources ρ]

theorem releases_validate : (validate display : Action σ ρ _).Reports Entry.releaseFences? 0 := by
  intro e ran hrun
  rw [entries_validate hrun]
  cases ran.value <;> exact Nat.zero_le _

theorem releases_fallback :
    (fallback display : Action σ ρ Unit).Reports Entry.releaseFences? 1 := by
  rw [fallback_eq]
  refine releases_validate.bind (n := 1) fun outcome => ?_
  cases outcome with
  | error failure => exact (reports_pure ()).mono (Nat.zero_le 1)
  | ok v =>
    refine (reports_clientMustAct v).bind (n := 1) fun acts => ?_
    cases acts with
    | true => exact (reports_report rfl).mono (Nat.zero_le 1)
    | false =>
      refine (reports_accept fun _ => rfl).bind (n := 1) fun _ =>
        releases_present.bind (n := 0) fun outcome => ?_
      cases outcome with
      | ok p => exact reports_report rfl
      | error failure => exact reports_pure ()

theorem releases_presentDirectly :
    (presentDirectly display : Action σ ρ Bool).Reports Entry.releaseFences? 1 := by
  have hlook : (mustValidate display : Action σ ρ Bool).Reports Entry.releaseFences? 0 := by
    intro e ran hrun
    obtain rfl := Except.ok.inj hrun
    exact Nat.zero_le _
  refine hlook.bind (n := 1) fun must => ?_
  cases must with
  | true => exact (reports_pure false).mono (Nat.zero_le 1)
  | false => exact releases_present.bind fun _ => reports_pure _

/-- An attempt to present at once that fails reports nothing. -/
theorem entries_presentDirectly {e : Engine σ ρ} {ran : Ran σ ρ Bool}
    (hrun : presentDirectly display e = .ok ran) (hvalue : ran.value = false) :
    ran.entries = [] := by
  rw [presentDirectly_eq] at hrun
  split at hrun
  · obtain rfl := Except.ok.inj hrun
    rfl
  · obtain ⟨presented, hpresented, rfl⟩ := Except.map_eq_ok_iff.1 hrun
    have hentries := entries_present hpresented
    cases hout : presented.value with
    | error failure => exact hentries.trans (congrArg presentationEntries hout)
    | ok p =>
      dsimp only at hvalue
      rw [hout] at hvalue
      cases hvalue

/-- Present-or-validate presents again only if the first attempt failed. -/
theorem releases_presentOrValidate (time : Option Timestamp) :
    (presentOrValidate display time : Action σ ρ Unit).Reports Entry.releaseFences? 1 := by
  rw [presentOrValidate_eq]
  refine (reports_expectPresent time).bind (n := 1) fun _ => ?_
  intro e ran hrun
  obtain ⟨directly, last, hdirectly, hlast, rfl⟩ := bind_ok.1 hrun
  cases hvalue : directly.value with
  | true =>
    rw [hvalue] at hlast
    obtain rfl := Except.ok.inj hlast
    rw [List.filterMap_append, List.length_append]
    exact releases_presentDirectly e directly hdirectly
  | false =>
    rw [hvalue] at hlast
    rw [entries_presentDirectly hdirectly hvalue]
    exact releases_fallback directly.engine last hlast

end Action

/-! ### Results -/

/-- What stands in some results of the frames that were shown for the command at a place: the
release fences of the last frame, and the last fence that one of them had. -/
structure FencesOf (results : List CommandResult) (place : Nat) (frames : List Presentation) :
    Prop where
  listed : frames ≠ [] → ∃ r ∈ results, r.index.toNat = place
  presentFence : ∀ r ∈ results, r.index.toNat = place →
    r.presentFence = (frames.filterMap Presentation.fence?).getLast?
  releaseFences : ∀ r ∈ results, r.index.toNat = place →
    r.releaseFences = (frames.map Presentation.releaseFences).getLast?

/-- A result carries all the fences of its frame if it has only one. -/
theorem FencesOf.all {results : List CommandResult} {place : Nat} {frames : List Presentation}
    (h : FencesOf results place frames) (hone : frames.length ≤ 1) {p : Presentation}
    (hp : p ∈ frames) : ∃ r ∈ results, r.index.toNat = place ∧
      r.presentFence = p.fence? ∧ r.releaseFences = some p.releaseFences := by
  obtain rfl : frames = [p] := by
    cases frames with
    | nil => cases hp
    | cons first rest =>
      have hnone : rest.length = 0 := Nat.le_zero.1 (Nat.le_of_succ_le_succ hone)
      obtain rfl := List.eq_nil_of_length_eq_zero hnone
      rw [List.mem_singleton.1 hp]
  obtain ⟨r, hr, hplace⟩ := h.listed (List.cons_ne_nil _ _)
  refine ⟨r, hr, hplace, ?_, h.releaseFences r hr hplace⟩
  rw [h.presentFence r hr hplace]
  cases hfence : p.fence? <;> simp [hfence]

namespace Engine

theorem Made.fencesOf {σ α : Type} {e : Engine (Logged σ) Cache} {ops : List Operation}
    {ran : Ran (Logged σ) Cache α} (h : e.Made ops ran) (display : DisplayId) :
    FencesOf (CommandResult.reported (.ofNat 0) display ran.entries).toList 0
      (e.frames ran.engine) where
  listed hsome := by
    have hentries : ran.entries ≠ [] := by
      intro hnone
      have hfences := h.fences.2
      rw [hnone] at hfences
      exact hsome (List.map_eq_nil_iff.1 hfences.symm)
    have hresult : (CommandResult.reported (.ofNat 0) display ran.entries).toList ≠ [] := by
      rwa [ne_eq, CommandResult.reported_eq_nil_iff]
    obtain ⟨r, hr⟩ := List.exists_mem_of_ne_nil _ hresult
    exact ⟨r, hr, by rw [(CommandResult.mem_reported hr).1]; rfl⟩
  presentFence r hr _ := by
    rw [CommandResult.eq_of_mem_reported hr, CommandResult.presentFence_foldl_add, h.fences.1]
    exact Option.or_none
  releaseFences r hr _ := by
    rw [CommandResult.eq_of_mem_reported hr, CommandResult.releaseFences_foldl_add, h.fences.2]
    exact Option.or_none

/-- Results keep what stands in them when they are moved. -/
theorem fencesOf_of_filter {results alone : List CommandResult} {i : Nat}
    {frames : List Presentation} (h : FencesOf alone 0 frames)
    (halone : ∀ r ∈ alone, r.index.toNat = 0)
    (hfilter : results.filter (fun r => r.index.toNat = i) = alone.map (·.shift i)) :
    FencesOf results i frames := by
  have hmoved : ∀ r ∈ results, r.index.toNat = i → ∃ r' ∈ alone, r = r'.shift i := by
    intro r hr hplace
    have hmem : r ∈ results.filter fun r => r.index.toNat = i :=
      List.mem_filter.2 ⟨hr, decide_eq_true hplace⟩
    rw [hfilter] at hmem
    obtain ⟨r', hr', rfl⟩ := List.mem_map.1 hmem
    exact ⟨r', hr', rfl⟩
  refine ⟨fun hsome => ?_, fun r hr hplace => ?_, fun r hr hplace => ?_⟩
  · obtain ⟨r', hr', -⟩ := h.listed hsome
    have hmem : r'.shift i ∈ results.filter fun r => r.index.toNat = i := by
      rw [hfilter]
      exact List.mem_map_of_mem hr'
    exact ⟨_, (List.mem_filter.1 hmem).1, of_decide_eq_true (List.mem_filter.1 hmem).2⟩
  · obtain ⟨r', hr', rfl⟩ := hmoved r hr hplace
    exact h.presentFence r' hr' (halone r' hr')
  · obtain ⟨r', hr', rfl⟩ := hmoved r hr hplace
    exact h.releaseFences r' hr' (halone r' hr')

variable {σ : Type} [Hardware σ]

/-- **No fence is lost unless a command shows two frames.** Whatever the hardware does and
whatever the cache holds: a command shows one frame for each of its flags to present and to
present or validate, at most. Its result carries the release fences of the last of them, and
the last fence that one of them had. So if only one of the flags is set, the fences of every
frame that was shown are in the result, and those in the result are of one frame. -/
theorem execute_fences (commands : List DisplayCommand) (e : Engine σ Cache) :
    ((∀ (call : Call) (s : σ), ∃ r, Hardware.perform call s = .ok r) →
      ∃ results e', e.execute commands = .ok (results, e')) ∧
    ∀ results e', e.execute commands = .ok (results, e') →
      ∀ i c, i < UInt32.size → commands[i]? = some c →
        ∃ before alone e₁ e₂, (e.logged []).execute (commands.take i) = .ok (before, e₁) ∧
          e₁.execute [c] = .ok (alone, e₂) ∧
          (e₁.frames e₂).length ≤
            (if c.present then 1 else 0) + (if c.presentOrValidate then 1 else 0) ∧
          FencesOf results i (e₁.frames e₂) ∧
          ((c.present && c.presentOrValidate) = false → ∀ p ∈ e₁.frames e₂,
            ∃ r ∈ results, r.index.toNat = i ∧
              r.presentFence = p.fence? ∧ r.releaseFences = some p.releaseFences) := by
  refine ⟨execute_returns commands e, fun results e' hrun i c hi hc => ?_⟩
  obtain ⟨before, e₁, ran, hbefore, hran, hfilter⟩ := filter_index_execute_logged e [] hrun hi hc
  obtain ⟨ops, -, hmade⟩ := Action.made_command hran
  have hframes : e₁.frames (ran.engine.counting (e₁.batches + 1)) = e₁.frames ran.engine := rfl
  have hcount := Action.reports_command (c := c) (fun _ => rfl) Action.releases_validate
    Action.releases_present (fun _ => Action.releases_presentOrValidate _) e₁ ran hran
  rw [hmade.fences.2, List.length_map] at hcount
  have hfences : FencesOf results i (e₁.frames ran.engine) := by
    refine fencesOf_of_filter (hmade.fencesOf c.display) (fun r hr => ?_) hfilter
    rw [(CommandResult.mem_reported hr).1]
    rfl
  refine ⟨before, _, e₁, _, hbefore, execute_singleton_ok.2 ⟨ran, hran, rfl, rfl⟩, ?_⟩
  rw [hframes]
  refine ⟨hcount, hfences, fun honce p hp => hfences.all (Nat.le_trans hcount ?_) hp⟩
  cases hpresent : c.present <;> cases hshort : c.presentOrValidate <;> simp_all

/-- Hardware that has fences for its first frame only, and a display that does not have to be
validated. -/
def sparing : Engine Scripted Cache :=
  .start ⟨1, [("present_display",
      { Response.plain with presentation := ⟨⟨40⟩, [⟨10, ⟨41⟩⟩]⟩ })]⟩
    ⟨.ofList [(0, ⟨false, .vacant 1, none, .empty⟩)], 0, 0⟩

/-- One frame is shown, and all of its fences are in the result. -/
theorem execute_fences_sparing : ∃ results e' r, sparing.execute [frame] = .ok (results, e') ∧
    r ∈ results ∧ r.presentFence = some ⟨40⟩ ∧ r.releaseFences = some [⟨10, ⟨41⟩⟩] := by
  have hshown : (((sparing.logged []).counting 1).execute [frame]).toOption.map
      (fun r => ((sparing.logged []).counting 1).frames r.2) =
        some [⟨⟨40⟩, [⟨10, ⟨41⟩⟩]⟩] := by decide +kernel
  have hreturns : ((sparing.execute [frame]).map fun _ => ()).toOption = some () := by
    decide +kernel
  obtain ⟨⟨results, e'⟩, hrun, -⟩ := Except.map_eq_ok_iff.1 (Except.toOption_eq_some_iff.1 hreturns)
  obtain ⟨before, alone, e₁, e₂, hbefore, halone, -, -, hall⟩ :=
    (execute_fences [frame] sparing).2 results e' hrun 0 frame (by decide) rfl
  -- there are no commands before this one
  obtain ⟨-, rfl⟩ : [] = before ∧ (sparing.logged []).counting 1 = e₁ :=
    Prod.mk.inj (Except.ok.inj hbefore)
  rw [halone] at hshown
  have hframes : ((sparing.logged []).counting 1).frames e₂ = [⟨⟨40⟩, [⟨10, ⟨41⟩⟩]⟩] :=
    Option.some.inj hshown
  rw [hframes] at hall
  obtain ⟨r, hr, -, hpresent, hrelease⟩ := hall rfl _ (List.mem_singleton_self _)
  exact ⟨results, e', r, hrun, hr, hpresent, hrelease⟩

/-- With both flags two frames are shown. The release fence of the first one is in no result,
though the fence of the frame itself is. -/
theorem release_fence_lost : ∃ results e' e₂,
    sparing.execute [{ frame with present := true }] = .ok (results, e') ∧
      (sparing.logged []).execute [{ frame with present := true }] = .ok (results, e₂) ∧
      (sparing.logged []).frames e₂ = [⟨⟨40⟩, [⟨10, ⟨41⟩⟩]⟩, ⟨.absent, []⟩] ∧
      results.map (fun r => (r.presentFence, r.releaseFences)) = [(some ⟨40⟩, some [])] := by
  have hresults : (((sparing.logged []).execute [{ frame with present := true }]).map
      fun r => ((sparing.logged []).frames r.2,
        r.1.map fun r => (r.presentFence, r.releaseFences))).toOption =
        some ([⟨⟨40⟩, [⟨10, ⟨41⟩⟩]⟩, ⟨.absent, []⟩], [(some ⟨40⟩, some [])]) := by
    decide +kernel
  obtain ⟨⟨results, e₂⟩, hlogged, hboth⟩ :=
    Except.map_eq_ok_iff.1 (Except.toOption_eq_some_iff.1 hresults)
  obtain ⟨hframes, hfences⟩ := Prod.mk.inj hboth
  obtain ⟨log, hsame⟩ := execute_logged sparing [] [{ frame with present := true }]
  rw [hsame] at hlogged
  obtain ⟨⟨results', e'⟩, hrun, hpair⟩ := Except.map_eq_ok_iff.1 hlogged
  obtain ⟨rfl, rfl⟩ := Prod.mk.inj hpair
  refine ⟨results', e', e'.logged log, hrun, ?_, hframes, hfences⟩
  rw [hsame, hrun]
  rfl

end Engine

end DisplayComposer
