import DisplayComposer.Proofs.Hardware.Validation
/-!
# DisplayComposer.Proofs.Hardware.Presenting

**When a display presents.** What the headless backend answers to a call to present
depends on fields that no call shows: whether the display is validated, what it waits
for, and which buffers it has. The log of a run tells all of them. A display is
validated if it was validated after the last call that makes this necessary, and waits
for nothing if the last validation asked for nothing or was accepted since. So the
answer can be read off the log, and whoever keeps count of his own calls knows it
beforehand.

* `Event.UpToDate`, `Event.Agreed` — what the log says of a display;
* `HeadlessDisplay.Step.validated_eq` and its fellows — a step, field by field;
* `Headless.Tracked`, `tracked_of_reaches` — the fields are what the log says;
* `Headless.present_answers` — the answer to a call to present.
-/

namespace DisplayComposer

/-! ### What the log says -/

/-- Calls after which, if they succeed, their display has to be validated again. -/
def Call.unsettles : Call → Bool
  | .createLayer _ | .destroyLayer _ _ => true
  | .set _ (.property (.colorTransform _)) => true
  | .set _ (.property (.layer _ p)) => p.unsettles
  | .set _ (.image (.sideband _) _) => true
  | _ => false

/-- Whether a call sets the client target of a display. -/
def Call.IsClientTarget (display : DisplayId) (call : Call) : Prop :=
  ∃ fence dataspace damage image,
    call = .set display (.image (.clientTarget fence dataspace damage) image)

namespace Event

/-- A call that succeeded, and after which the display has to be validated again. -/
def Invalidates (display : DisplayId) (event : Event) : Prop :=
  event.call.display = display ∧ event.call.unsettles = true ∧ event.outcome.isOk = true

/-- The display was validated, and since then nothing made this necessary again. -/
def UpToDate (display : DisplayId) (log : List Event) : Prop :=
  ∃ before event after, log = before ++ event :: after ∧ event.call = .validate display ∧
    ∀ later ∈ after, ¬ later.Invalidates display

/-- When the display was validated for the last time it asked for no changes, or they
were accepted since. -/
def Agreed (display : DisplayId) (log : List Event) : Prop :=
  ∃ before v after, log = before ++ ⟨.validate display, .ok v⟩ :: after ∧
    (∀ later ∈ after, later.call ≠ .validate display) ∧
    (v.hasChanges = false ∨ ⟨.accept display, .ok ()⟩ ∈ after)

variable {display : DisplayId} {log : List Event} {event : Event}

/-- An event of a log with one more at its end is that one, or was there before. -/
theorem concat_eq_append_cons {before after : List Event} {x : Event} :
    log ++ [event] = before ++ x :: after ↔
      (after = [] ∧ before = log ∧ x = event) ∨
        ∃ init, after = init ++ [event] ∧ log = before ++ x :: init := by
  constructor
  · intro h
    rcases List.eq_nil_or_concat after with rfl | ⟨init, last, rfl⟩
    · obtain ⟨hlog, hlast⟩ := List.append_inj' h rfl
      exact .inl ⟨rfl, hlog.symm, (List.singleton_inj.1 hlast).symm⟩
    · rw [List.concat_eq_append, ← List.cons_append, ← List.append_assoc] at h
      obtain ⟨hlog, hlast⟩ := List.append_inj' h rfl
      obtain rfl := List.singleton_inj.1 hlast
      exact .inr ⟨init, List.concat_eq_append, hlog⟩
  · rintro (⟨rfl, rfl, rfl⟩ | ⟨init, rfl, rfl⟩)
    · rfl
    · rw [List.append_assoc, List.cons_append]

theorem upToDate_concat : UpToDate display (log ++ [event]) ↔
    event.call = .validate display ∨ (UpToDate display log ∧ ¬ event.Invalidates display) := by
  constructor
  · rintro ⟨before, x, after, hlog, hx, hafter⟩
    rcases concat_eq_append_cons.1 hlog with ⟨-, -, rfl⟩ | ⟨init, rfl, hsplit⟩
    · exact .inl hx
    · have hinit : ∀ later ∈ init, ¬ later.Invalidates display := fun later hlater =>
        hafter later (List.mem_append_left _ hlater)
      exact .inr ⟨⟨before, x, init, hsplit, hx, hinit⟩, hafter event (by simp)⟩
  · rintro (hevent | ⟨⟨before, x, after, hlog, hx, hafter⟩, hevent⟩)
    · exact ⟨log, event, [], rfl, hevent, fun _ h => nomatch h⟩
    · refine ⟨before, x, after ++ [event],
        concat_eq_append_cons.2 (.inr ⟨after, rfl, hlog⟩), hx, fun later hlater => ?_⟩
      rcases List.mem_append.1 hlater with hlater | hlater
      · exact hafter later hlater
      · exact List.mem_singleton.1 hlater ▸ hevent

/-- Of the calls that validate a display, one is the last. -/
theorem exists_last_validate (h : ∃ x ∈ log, x.call = .validate display) :
    ∃ before x after, log = before ++ x :: after ∧ x.call = .validate display ∧
      ∀ later ∈ after, later.call ≠ .validate display := by
  induction log with
  | nil =>
    obtain ⟨x, hx, -⟩ := h
    cases hx
  | cons first rest ih =>
    by_cases hrest : ∃ x ∈ rest, x.call = .validate display
    · obtain ⟨before, x, after, hsplit, hx, hafter⟩ := ih hrest
      exact ⟨first :: before, x, after, by rw [hsplit, List.cons_append], hx, hafter⟩
    · -- no later one does, so it is the first
      have hnone : ∀ later ∈ rest, later.call ≠ .validate display := fun later hlater hcall =>
        hrest ⟨later, hlater, hcall⟩
      obtain ⟨x, hx, hcall⟩ := h
      rcases List.mem_cons.1 hx with rfl | hx
      · exact ⟨[], x, rest, rfl, hcall, hnone⟩
      · exact absurd hcall (hnone x hx)

theorem agreed_concat_validate {v : Validation} :
    Agreed display (log ++ [⟨.validate display, .ok v⟩]) ↔ v.hasChanges = false := by
  constructor
  · rintro ⟨before, w, after, hlog, hafter, hagreed⟩
    rcases concat_eq_append_cons.1 hlog with ⟨rfl, -, hlast⟩ | ⟨init, rfl, -⟩
    · obtain rfl : w = v := by simpa using hlast
      exact hagreed.resolve_right (List.not_mem_nil)
    · exact absurd rfl (hafter _ (List.mem_append_right _ (List.mem_singleton_self _)))
  · intro hnone
    exact ⟨log, v, [], rfl, fun _ h => (nomatch h), .inl hnone⟩

/-- A call that does not validate the display can only accept what was asked for
before. -/
theorem agreed_concat (hevent : event.call ≠ .validate display)
    (hlog : ∀ x ∈ log, x.call = .validate display → ∃ v, x = ⟨.validate display, .ok v⟩) :
    Agreed display (log ++ [event]) ↔ Agreed display log ∨
      (event = ⟨.accept display, .ok ()⟩ ∧ ∃ x ∈ log, x.call = .validate display) := by
  constructor
  · rintro ⟨before, v, after, hsplit, hafter, hagreed⟩
    rcases concat_eq_append_cons.1 hsplit with ⟨-, -, rfl⟩ | ⟨init, rfl, rfl⟩
    · exact absurd rfl hevent
    · have hinit : ∀ later ∈ init, later.call ≠ .validate display := fun later hlater =>
        hafter later (List.mem_append_left _ hlater)
      rcases hagreed with hnone | haccept
      · exact .inl ⟨before, v, init, rfl, hinit, .inl hnone⟩
      · rcases List.mem_append.1 haccept with haccept | haccept
        · exact .inl ⟨before, v, init, rfl, hinit, .inr haccept⟩
        · exact .inr ⟨(List.mem_singleton.1 haccept).symm, _,
            List.mem_append_right _ (List.mem_cons_self ..), rfl⟩
  · have hextend : ∀ before v after, log = before ++ ⟨.validate display, .ok v⟩ :: after →
        (∀ later ∈ after, later.call ≠ .validate display) →
        (v.hasChanges = false ∨ ⟨.accept display, .ok ()⟩ ∈ after ++ [event]) →
        Agreed display (log ++ [event]) := by
      intro before v after hsplit hafter hagreed
      refine ⟨before, v, after ++ [event],
        concat_eq_append_cons.2 (.inr ⟨after, rfl, hsplit⟩), fun later hlater => ?_, hagreed⟩
      rcases List.mem_append.1 hlater with hlater | hlater
      · exact hafter later hlater
      · exact List.mem_singleton.1 hlater ▸ hevent
    rintro (⟨before, v, after, hsplit, hafter, hagreed⟩ | ⟨haccept, hvalidated⟩)
    · exact hextend before v after hsplit hafter
        (hagreed.imp_right (List.mem_append_left _))
    · obtain ⟨before, x, after, hsplit, hx, hafter⟩ := exists_last_validate hvalidated
      obtain ⟨v, rfl⟩ := hlog x (hsplit ▸ List.mem_append_right _ (List.mem_cons_self ..)) hx
      exact hextend before v after hsplit hafter (.inr (haccept ▸ by simp))

/-- A call that neither validates the display, nor accepts what it asks for, nor makes
it necessary to validate it again. -/
theorem upToDate_and_agreed_concat (hvalidate : event.call ≠ .validate display)
    (haccept : event ≠ ⟨.accept display, .ok ()⟩) (hinvalidates : ¬ event.Invalidates display)
    (hlog : ∀ x ∈ log, x.call = .validate display → ∃ v, x = ⟨.validate display, .ok v⟩) :
    (UpToDate display (log ++ [event]) ↔ UpToDate display log) ∧
      (Agreed display (log ++ [event]) ↔ Agreed display log) := by
  rw [upToDate_concat, agreed_concat hvalidate hlog]
  exact ⟨by simp [hvalidate, hinvalidates], by simp [haccept]⟩

end Event

/-! ### A step, field by field -/

namespace HeadlessDisplay

variable {d d' : HeadlessDisplay} {call : Call}

theorem Step.validated_eq (hstep : d.Step call d') (hcall : ∀ display, call ≠ .validate display) :
    d'.validated = (!call.unsettles && d.validated) := by
  cases hstep with
  | layerProperty p hl => cases hp : p.unsettles <;> simp [Call.unsettles, hp]
  | validate => exact absurd rfl (hcall _)
  | _ => simp [Call.unsettles]

theorem Step.pending_eq (hstep : d.Step call d') (hvalidate : ∀ display, call ≠ .validate display)
    (haccept : ∀ display, call ≠ .accept display) : d'.pending = d.pending := by
  cases hstep with
  | validate => exact absurd rfl (hvalidate _)
  | accept => exact absurd rfl (haccept _)
  | _ => rfl

/-- A client target that is there was set just now, or was there before. -/
theorem Step.clientTarget_isSome (hstep : d.Step call d') :
    d'.clientTarget.isSome = true ↔
      d.clientTarget.isSome = true ∨ call.IsClientTarget call.display := by
  cases hstep with
  | clientTarget fence dataspace damage image =>
    exact ⟨fun _ => .inr ⟨fence, dataspace, damage, image, rfl⟩, fun _ => rfl⟩
  | _ => simp [Call.IsClientTarget]

/-- An output buffer that is there was set just now, or was there before. -/
theorem Step.outputBuffer_isSome (hstep : d.Step call d') :
    d'.outputBuffer.isSome = true ↔ d.outputBuffer.isSome = true ∨
      ∃ fence image, call = .set call.display (.image (.outputBuffer fence) image) := by
  cases hstep with
  | outputBuffer fence image => exact ⟨fun _ => .inr ⟨fence, image, rfl⟩, fun _ => rfl⟩
  | _ => simp

/-! ### Why a display cannot present -/

theorem usesClientComposition_iff {d : HeadlessDisplay} : d.usesClientComposition = true ↔
    ∃ layer l, d.layers.get? layer = some l ∧ l.composition = .client := by
  constructor
  · intro h
    obtain ⟨l, hl, hc⟩ := List.any_eq_true.1 h
    obtain ⟨layer, hlayer⟩ := Table.mem_values_iff.1 hl
    exact ⟨layer, l, hlayer, by simpa using hc⟩
  · rintro ⟨layer, l, hl, hc⟩
    exact usesClientComposition_of_get? hl hc

theorem refusal?_eq_notValidated_iff {d : HeadlessDisplay} :
    d.refusal? = some .notValidated ↔ ¬ (d.validated = true ∧ d.pending = []) := by
  unfold refusal?
  by_cases hready : d.validated = true ∧ d.pending = []
  · rw [if_neg (by simp [hready])]
    refine ⟨fun h => ?_, fun h => absurd hready h⟩
    split at h
    · cases h
    · split at h <;> cases h
  · have hnot : (!d.validated || !d.pending.isEmpty) = true := by
      cases hv : d.validated <;> simp_all
    rw [if_pos hnot]
    exact ⟨fun _ => hready, fun _ => rfl⟩

/-- Whether something is missing that the display needs for presenting. -/
def Lacks (d : HeadlessDisplay) : Prop :=
  (d.config.isVirtual = true ∧ ¬ d.outputBuffer.isSome = true) ∨
    (d.usesClientComposition = true ∧ ¬ d.clientTarget.isSome = true)

theorem refusal?_of_ready {d : HeadlessDisplay} (hvalidated : d.validated = true)
    (hpending : d.pending = []) :
    (d.Lacks → d.refusal? = some .noResources) ∧ (¬ d.Lacks → d.refusal? = none) := by
  unfold refusal? Lacks
  rw [if_neg (by simp [hvalidated, hpending])]
  cases d.config.isVirtual <;> cases d.outputBuffer <;> cases d.usesClientComposition <;>
    cases d.clientTarget <;> simp

end HeadlessDisplay

/-! ### The log and the fields -/

namespace Headless

variable {log : List Event} {display : DisplayId} {d d' : HeadlessDisplay} {h : Headless}

/-- A display that is known can always be validated. -/
theorem validate_of_known (known : h.displays.get? display = some d) :
    h.validate display = (.ok d.validation, { h with
      displays := h.displays.insert display
        { d with pending := d.plan.changes, validated := true } }) := by
  unfold validate onDisplay
  rw [known]
  rfl

/-- A display that is known always takes a client target. -/
theorem setClientTarget_of_known (known : h.displays.get? display = some d) (fence : Fence)
    (dataspace : Dataspace) (damage : Region) (image : Image) :
    (h.setImage display (.clientTarget fence dataspace damage) image).1 = .ok () := by
  unfold setImage onDisplay
  rw [known]

theorem present_of_known (known : h.displays.get? display = some d) :
    (∀ failure, d.refusal? = some failure → (h.present display).1 = .error failure) ∧
      (d.refusal? = none → ∃ p, (h.present display).1 = .ok p) := by
  unfold present
  rw [known]
  dsimp only
  constructor
  · intro failure hr
    rw [hr]
    rfl
  · intro hr
    rw [hr]
    exact ⟨_, rfl⟩

/-- The fields of a display are what the log says. -/
structure Tracked (log : List Event) (display : DisplayId) (d : HeadlessDisplay) : Prop where
  validated : d.validated = true ↔ Event.UpToDate display log
  pending : d.validated = true → (d.pending = [] ↔ Event.Agreed display log)
  clientTarget : d.clientTarget.isSome = true ↔
    ∃ event ∈ log, event.call.IsClientTarget display
  outputBuffer : d.outputBuffer.isSome = true ↔ ∃ event ∈ log, event.SetsOutputBuffer display
  /-- No attempt to validate the display has failed. -/
  validations : ∀ event ∈ log, event.call = .validate display →
    ∃ v, event = ⟨.validate display, .ok v⟩

/-- Before the first call. -/
theorem tracked_ofConfig (display : DisplayId) (config : DisplayConfig) :
    Tracked [] display (.ofConfig config) where
  validated := by
    refine ⟨fun h => absurd h Bool.false_ne_true, ?_⟩
    rintro ⟨before, event, after, hlog, -⟩
    simp at hlog
  pending h := absurd h Bool.false_ne_true
  clientTarget := by simp [HeadlessDisplay.ofConfig]
  outputBuffer := by simp [HeadlessDisplay.ofConfig]
  validations := fun _ h => nomatch h

theorem exists_mem_concat {p : Event → Prop} {event : Event} :
    (∃ x ∈ log ++ [event], p x) ↔ (∃ x ∈ log, p x) ∨ p event := by
  simp only [List.mem_append, List.mem_singleton, or_and_right, exists_or, exists_eq_left]

theorem Tracked.validations_concat (hd : Tracked log display d) {event : Event}
    (hevent : event.call = .validate display → ∃ v, event = ⟨.validate display, .ok v⟩) :
    ∀ x ∈ log ++ [event], x.call = .validate display → ∃ v, x = ⟨.validate display, .ok v⟩ := by
  intro x hx
  rcases List.mem_append.1 hx with hx | hx
  · exact hd.validations x hx
  · exact List.mem_singleton.1 hx ▸ hevent

/-- A call that failed, or that was about another display. -/
theorem Tracked.bystander (hd : Tracked log display d) {event : Event}
    (hvalidate : event.call ≠ .validate display) (htarget : ¬ event.call.IsClientTarget display)
    (hevent : event.call.display ≠ display ∨ event.outcome.isOk = false) :
    Tracked (log ++ [event]) display d := by
  have hinvalidates : ¬ event.Invalidates display := fun ⟨hdisplay, _, hok⟩ => by
    rcases hevent with hother | hfailed
    · exact hother hdisplay
    · rw [hfailed] at hok
      cases hok
  have haccept : event ≠ ⟨.accept display, .ok ()⟩ := by
    rintro rfl
    rcases hevent with hother | hfailed
    · exact hother rfl
    · cases hfailed
  have houtput : ¬ event.SetsOutputBuffer display := by
    rintro ⟨fence, image, rfl⟩
    rcases hevent with hother | hfailed
    · exact hother rfl
    · cases hfailed
  obtain ⟨hupToDate, hagreed⟩ :=
    Event.upToDate_and_agreed_concat hvalidate haccept hinvalidates hd.validations
  exact {
    validated := hd.validated.trans hupToDate.symm
    pending := fun h => (hd.pending h).trans hagreed.symm
    clientTarget := by rw [hd.clientTarget, exists_mem_concat, or_iff_left htarget]
    outputBuffer := by rw [hd.outputBuffer, exists_mem_concat, or_iff_left houtput]
    validations := hd.validations_concat fun h => absurd h hvalidate }

/-- The display was validated. -/
theorem Tracked.validate (hd : Tracked log display d) :
    Tracked (log ++ [⟨.validate display, .ok d.validation⟩]) display
      { d with pending := d.plan.changes, validated := true } where
  validated := ⟨fun _ => Event.upToDate_concat.2 (.inl rfl), fun _ => rfl⟩
  pending _ := by
    rw [Event.agreed_concat_validate]
    show d.plan.changes = [] ↔ (!d.plan.changes.isEmpty) = false
    rw [Bool.not_eq_false', List.isEmpty_iff]
  clientTarget := by
    rw [exists_mem_concat, or_iff_left (by rintro ⟨_, _, _, _, h⟩; cases h)]
    exact hd.clientTarget
  outputBuffer := by
    rw [exists_mem_concat, or_iff_left (by rintro ⟨_, _, h⟩; cases h)]
    exact hd.outputBuffer
  validations := hd.validations_concat fun _ => ⟨_, rfl⟩

/-- Another step of the display. -/
theorem Tracked.step {call : Call} (a : call.Answer) (hd : Tracked log call.display d)
    (hstep : d.Step call d') (hvalidate : ∀ display, call ≠ .validate display) :
    Tracked (log ++ [⟨call, .ok a⟩]) call.display d' := by
  have hvalidated := hstep.validated_eq hvalidate
  have hinvalidates : Event.Invalidates call.display ⟨call, .ok a⟩ ↔ call.unsettles = true :=
    ⟨fun h => h.2.1, fun h => ⟨rfl, h, rfl⟩⟩
  refine ⟨?_, fun hready => ?_, ?_, ?_, hd.validations_concat fun h => absurd h (hvalidate _)⟩
  · rw [Event.upToDate_concat, or_iff_right (hvalidate _), hinvalidates, hvalidated, ← hd.validated]
    cases call.unsettles <;> simp
  · rw [Event.agreed_concat (hvalidate _) hd.validations]
    have hbefore : d.validated = true := by
      rw [hvalidated, Bool.and_eq_true] at hready
      exact hready.2
    by_cases haccept : ∃ display, call = .accept display
    · -- nothing is pending now, and what was accepted is what the last validation asked for
      obtain ⟨display, rfl⟩ := haccept
      obtain ⟨before, x, after, hsplit, hx, -⟩ := hd.validated.1 hbefore
      have hmem : x ∈ log := hsplit ▸ List.mem_append_right _ (List.mem_cons_self ..)
      have hnone : d'.pending = [] := by
        cases hstep
        rfl
      exact ⟨fun _ => .inr ⟨rfl, x, hmem, hx⟩, fun _ => hnone⟩
    · have hother : ∀ display, call ≠ .accept display := fun display h => haccept ⟨display, h⟩
      have hno : (⟨call, .ok a⟩ : Event) ≠ ⟨.accept call.display, .ok ()⟩ := fun h =>
        hother _ (congrArg Event.call h)
      rw [hstep.pending_eq hvalidate hother, or_iff_left fun h => hno h.1]
      exact hd.pending hbefore
  · rw [hstep.clientTarget_isSome, hd.clientTarget, exists_mem_concat]
  · rw [hstep.outputBuffer_isSome, hd.outputBuffer, exists_mem_concat]
    refine or_congr_right ⟨?_, ?_⟩
    · rintro ⟨fence, image, hcall⟩
      obtain ⟨display, rfl⟩ : ∃ display, call = .set display (.image (.outputBuffer fence) image) :=
        ⟨_, hcall⟩
      exact ⟨fence, image, rfl⟩
    · rintro ⟨fence, image, hevent⟩
      exact ⟨fence, image, congrArg Event.call hevent⟩

/-- A call, whatever it is about and whatever comes of it. -/
theorem Tracked.perform {call : Call} {out : Except HardwareError call.Answer} {t : Headless}
    (hd : Tracked log display d) (known : h.displays.get? display = some d)
    (hrun : Hardware.perform call h = .ok (out, t)) :
    ∃ d', t.displays.get? display = some d' ∧ Tracked (log ++ [⟨call, out⟩]) display d' := by
  rcases perform_cases hrun with ⟨failure, hr⟩ | ⟨a, d₀, d', ha, hd₀, hstep, hdisplays⟩
  · obtain ⟨rfl, rfl⟩ : out = .error failure ∧ t = h := Prod.mk.inj hr
    -- validating a known display cannot fail, nor can giving it a client target
    refine ⟨d, known, hd.bystander ?_ ?_ (.inr rfl)⟩
    · rintro rfl
      have hvalidated : t.validate display = (.error failure, t) := Except.ok.inj hrun
      rw [validate_of_known known] at hvalidated
      cases congrArg Prod.fst hvalidated
    · rintro ⟨fence, dataspace, damage, image, rfl⟩
      have hset := setClientTarget_of_known known fence dataspace damage image
      have hfailed : t.setImage display (.clientTarget fence dataspace damage) image =
          (.error failure, t) := Except.ok.inj hrun
      rw [hfailed] at hset
      cases hset
  · obtain rfl : out = .ok a := ha
    by_cases hdisplay : call.display = display
    · subst hdisplay
      obtain rfl := Option.some.inj (hd₀.symm.trans known)
      refine ⟨d', by rw [show t.displays = _ from hdisplays, Table.get?_insert_self], ?_⟩
      by_cases hvalidate : ∃ display, call = .validate display
      · obtain ⟨display, rfl⟩ := hvalidate
        have hvalidated := (validate_of_known known).symm.trans (Except.ok.inj hrun)
        obtain rfl : d₀.validation = a := Except.ok.inj (congrArg Prod.fst hvalidated)
        cases hstep
        exact hd.validate
      · exact hd.step a hstep fun display h => hvalidate ⟨display, h⟩
    · refine ⟨d, ?_, hd.bystander ?_ ?_ (.inl hdisplay)⟩
      · rw [show t.displays = _ from hdisplays, Table.get?_insert_of_ne _ _ hdisplay, known]
      · rintro rfl
        exact hdisplay rfl
      · rintro ⟨fence, dataspace, damage, image, rfl⟩
        exact hdisplay rfl

/-- **During a run, the fields of every display are what the log says.** -/
theorem tracked_of_reaches {configs : List DisplayConfig} {s : Logged Headless}
    (reached : Hardware.Reaches ⟨.ofConfigs configs, []⟩ s) :
    ∀ display d, s.hardware.displays.get? display = some d → Tracked s.log display d := by
  refine reached.invariant (P := fun s => ∀ display d,
      s.hardware.displays.get? display = some d → Tracked s.log display d)
    (fun {call s t out} hs hrun display d' hd' => ?_) fun display d hd => ?_
  · obtain ⟨hrun, hlog⟩ := Logged.perform_ok.1 hrun
    have hknown := isSome_displays_of_perform hrun display
    rw [show t.hardware.displays.get? display = some d' from hd'] at hknown
    obtain ⟨d, hd⟩ := Option.isSome_iff_exists.1 hknown.symm
    obtain ⟨d'', hd'', htracked⟩ := (hs display d hd).perform hd hrun
    obtain rfl := Option.some.inj (hd'.symm.trans hd'')
    exact hlog ▸ htracked
  · obtain ⟨config, -, heq⟩ := List.mem_map.1 (Table.mem_of_get?_ofList hd)
    obtain ⟨-, rfl⟩ := Prod.mk.inj heq
    exact tracked_ofConfig display config

/-! ### The answer -/

/-- Whether an event has nothing to do with the validation of a display: its call failed,
was about another display, or does not affect validation. -/
def Ignorable (display : DisplayId) (event : Event) : Prop :=
  event.outcome.isOk = false ∨ event.call.display ≠ display ∨
    (event.call.unsettles = false ∧ event.call ≠ .validate display ∧
      event.call ≠ .accept display)

/-- Why a display does not present, said by the log alone. -/
theorem Tracked.refusal?_iff (hd : Tracked log display d) :
    (d.refusal? = some .notValidated ↔
      ¬ (Event.UpToDate display log ∧ Event.Agreed display log)) ∧
    (d.refusal? ≠ some .notValidated →
      (d.refusal? = some .noResources ↔
        (d.config.isVirtual = true ∧ ∀ event ∈ log, ¬ event.SetsOutputBuffer display) ∨
        ((∃ layer l, d.layers.get? layer = some l ∧ l.composition = .client) ∧
          ∀ event ∈ log, ¬ event.call.IsClientTarget display)) ∧
      (d.refusal? ≠ some .noResources → d.refusal? = none)) := by
  refine ⟨?_, fun hready => ?_⟩
  · rw [HeadlessDisplay.refusal?_eq_notValidated_iff, ← hd.validated, and_congr_right hd.pending]
  · rw [ne_eq, HeadlessDisplay.refusal?_eq_notValidated_iff, Classical.not_not] at hready
    have hlacks : d.Lacks ↔
        (d.config.isVirtual = true ∧ ∀ event ∈ log, ¬ event.SetsOutputBuffer display) ∨
        ((∃ layer l, d.layers.get? layer = some l ∧ l.composition = .client) ∧
          ∀ event ∈ log, ¬ event.call.IsClientTarget display) := by
      rw [HeadlessDisplay.Lacks, hd.outputBuffer, hd.clientTarget,
        HeadlessDisplay.usesClientComposition_iff]
      simp only [not_exists, not_and]
    obtain ⟨hrefused, hnone⟩ := HeadlessDisplay.refusal?_of_ready hready.1 hready.2
    rw [← hlacks]
    by_cases h : d.Lacks
    · exact ⟨⟨fun _ => h, hrefused⟩, fun hother => absurd (hrefused h) hother⟩
    · rw [hnone h]
      refine ⟨⟨fun hr => ?_, fun hlacks => absurd hlacks h⟩, fun _ => rfl⟩
      cases hr

/-- Such an event does not change whether the display has to be validated. -/
theorem Tracked.refusal?_of_ignorable {call : Call} {out : Except HardwareError call.Answer}
    {s t : Logged Headless} (hd : Tracked s.log display d)
    (known : s.hardware.displays.get? display = some d)
    (hrun : Hardware.perform call s = .ok (out, t)) (hevent : Ignorable display ⟨call, out⟩) :
    ∃ d', t.hardware.displays.get? display = some d' ∧
      (d'.refusal? = some .notValidated ↔ d.refusal? = some .notValidated) := by
  have hcall := (Logged.perform_ok.1 hrun).1
  rcases hevent with hfailed | hevent
  · -- a call that fails leaves the display as it was
    rcases perform_cases hcall with ⟨failure, hr⟩ | ⟨a, -, -, ha, -⟩
    · have hsame : t.hardware = s.hardware := congrArg Prod.snd hr
      exact ⟨d, hsame ▸ known, Iff.rfl⟩
    · obtain rfl : out = .ok a := ha
      cases hfailed
  · obtain ⟨hvalidate, haccept, hinvalidates⟩ : call ≠ .validate display ∧
        call ≠ .accept display ∧ ¬ Event.Invalidates display ⟨call, out⟩ := by
      rcases hevent with hother | ⟨hquiet, hvalidate, haccept⟩
      · refine ⟨?_, ?_, fun h => hother h.1⟩ <;> rintro rfl <;> exact hother rfl
      · refine ⟨hvalidate, haccept, fun h => ?_⟩
        rw [show call.unsettles = true from h.2.1] at hquiet
        cases hquiet
    obtain ⟨hupToDate, hagreed⟩ := Event.upToDate_and_agreed_concat hvalidate
      (fun h => haccept (congrArg Event.call h)) hinvalidates hd.validations
    obtain ⟨d', known', hd'⟩ := hd.perform known hcall
    refine ⟨d', known', ?_⟩
    rw [hd'.refusal?_iff.1, hd.refusal?_iff.1, hupToDate, hagreed]

/-- The answer to a call to present, for a display that is known. -/
theorem present_answer_iff {out : Except HardwareError Presentation} {s t : Logged Headless}
    (known : s.hardware.displays.get? display = some d)
    (hrun : Hardware.perform (.present display) s = .ok (out, t)) (failure : HardwareError) :
    out = .error failure ↔ d.refusal? = some failure := by
  have hout : (s.hardware.present display).1 = out :=
    congrArg Prod.fst (Except.ok.inj (Logged.perform_ok.1 hrun).1)
  obtain ⟨hrefused, hpresented⟩ := present_of_known known
  rw [← hout]
  cases hr : d.refusal? with
  | none =>
    obtain ⟨p, hp⟩ := hpresented hr
    rw [hp]
    exact ⟨fun h => (nomatch h), fun h => (nomatch h)⟩
  | some failure' =>
    rw [hrefused failure' hr]
    exact ⟨fun h => congrArg some (Except.error.inj h), fun h => congrArg _ (Option.some.inj h)⟩

/-- **A display presents exactly after an up-to-date validation that was accepted,** and
if it has the buffers that it needs. All of this can be told from the calls that were made,
and calls that failed, that were about other displays or that do not affect validation have
no say in it. -/
theorem present_answers {configs : List DisplayConfig} {s : Logged Headless}
    (reached : Hardware.Reaches ⟨.ofConfigs configs, []⟩ s) {display : DisplayId}
    {d : HeadlessDisplay} (known : s.hardware.displays.get? display = some d) :
    ∃ out t, Hardware.perform (.present display) s = .ok (out, t) ∧
      (out = .error .notValidated ↔
        ¬ (Event.UpToDate display s.log ∧ Event.Agreed display s.log)) ∧
      (out ≠ .error .notValidated →
        (out = .error .noResources ↔
          (d.config.isVirtual = true ∧ ∀ event ∈ s.log, ¬ event.SetsOutputBuffer display) ∨
          ((∃ layer l, d.layers.get? layer = some l ∧ l.composition = .client) ∧
            ∀ event ∈ s.log, ¬ event.call.IsClientTarget display)) ∧
        (out ≠ .error .noResources → ∃ p, out = .ok p)) ∧
      ∀ call out' s', Hardware.perform call s = .ok (out', s') → Ignorable display ⟨call, out'⟩ →
        ∃ out'' t', Hardware.perform (.present display) s' = .ok (out'', t') ∧
          (out'' = .error .notValidated ↔ out = .error .notValidated) := by
  have hreturns : ∀ s : Logged Headless,
      ∃ out t, Hardware.perform (.present display) s = .ok (out, t) := fun s =>
    ⟨_, ⟨_, _⟩, Logged.perform_ok.2 ⟨rfl, rfl⟩⟩
  have htracked := tracked_of_reaches reached display d known
  obtain ⟨hnotValidated, hready⟩ := htracked.refusal?_iff
  obtain ⟨out, t, hout⟩ := hreturns s
  have hanswer := present_answer_iff known hout
  refine ⟨out, t, hout, (hanswer _).trans hnotValidated, fun hother => ?_, ?_⟩
  · obtain ⟨hnoResources, hnone⟩ := hready ((not_congr (hanswer _)).1 hother)
    refine ⟨(hanswer _).trans hnoResources, fun hother => ?_⟩
    obtain ⟨p, hp⟩ := (present_of_known known).2 (hnone ((not_congr (hanswer _)).1 hother))
    exact ⟨p, (congrArg Prod.fst (Except.ok.inj (Logged.perform_ok.1 hout).1)).symm.trans hp⟩
  · intro call out' s' hrun hevent
    obtain ⟨out'', t', hout''⟩ := hreturns s'
    obtain ⟨d', known', hsame⟩ := htracked.refusal?_of_ignorable known hrun hevent
    exact ⟨out'', t', hout'', by rw [present_answer_iff known' hout'', hanswer, hsame]⟩

/-- Of two layers one was left to the client. The display presents once that was accepted
and there is a client target. -/
theorem present_answers_crowded :
    (∃ t, Hardware.perform (.present 0) (crowded crowdedCalls) =
        .ok (.error .notValidated, t)) ∧
      ¬ (Event.UpToDate 0 (crowded crowdedCalls).log ∧
        Event.Agreed 0 (crowded crowdedCalls).log) ∧
      (∃ p t, Hardware.perform (.present 0) (crowded settledCalls) = .ok (.ok p, t)) ∧
      Event.UpToDate 0 (crowded settledCalls).log ∧
      Event.Agreed 0 (crowded settledCalls).log := by
  have hasked : (crowded crowdedCalls).hardware.displays.get? 0 = some _ := rfl
  have hready : (crowded settledCalls).hardware.displays.get? 0 = some _ := rfl
  have hrefuses : ∃ t, Hardware.perform (.present 0) (crowded crowdedCalls) =
      .ok (.error .notValidated, t) := ⟨_, rfl⟩
  have hpresents : ∃ p t, Hardware.perform (.present 0) (crowded settledCalls) =
      .ok (.ok p, t) := ⟨_, _, rfl⟩
  obtain ⟨out, t, hrun, hrefused, -⟩ := present_answers (.after _ _) hasked
  obtain ⟨out', t', hrun', hallowed, -⟩ := present_answers (.after _ _) hready
  refine ⟨hrefuses, hrefused.1 ?_, hpresents, Classical.not_not.1 fun hnot => ?_⟩
  · obtain ⟨u, hu⟩ := hrefuses
    exact congrArg Prod.fst (Except.ok.inj (hrun.symm.trans hu))
  · obtain ⟨p, u, hu⟩ := hpresents
    have hboth := congrArg Prod.fst (Except.ok.inj (hrun'.symm.trans hu))
    rw [show out' = .error .notValidated from hallowed.2 hnot] at hboth
    cases hboth

end Headless

end DisplayComposer
