import DisplayComposer.Proofs.Engine.Protocol
import DisplayComposer.Proofs.Engine.Results
/-!
# DisplayComposer.Proofs.Engine.Reporting

**How often something is reported for a command.** The parts of a command report one after
the other, and each of them reports entries of a few kinds only. So what is reported at most
so many times by its parts is reported at most as many times by the command as all its parts
together. Nothing has to be known of the hardware for that, since only the number of entries
depends on what it answers. And what was reported can be traced back to the part that did so,
such as a frame to the call that has shown it.

* `Action.Reports` — an action reports entries of some kind a number of times at most;
* `Action.reports_command` — a command, from its parts;
* `Reports.mem_of_bind` — which part has reported something;
* `Action.justShown_of_presented` — a frame that is reported was shown.
-/

namespace DisplayComposer

namespace Action

variable {σ ρ α β γ : Type} {pick? : Entry → Option γ} {display : DisplayId} {m n : Nat}

/-- An action that reports `n` entries at most that `pick?` picks. -/
def Reports (pick? : Entry → Option γ) (n : Nat) (x : Action σ ρ α) : Prop :=
  ∀ e ran, x e = .ok ran → (ran.entries.filterMap pick?).length ≤ n

theorem Reports.bind {x : Action σ ρ α} {f : α → Action σ ρ β} (hx : x.Reports pick? m)
    (hf : ∀ a, (f a).Reports pick? n) : (x >>= f).Reports pick? (m + n) := by
  intro e ran hrun
  obtain ⟨first, second, hfirst, hsecond, rfl⟩ := bind_ok.1 hrun
  rw [List.filterMap_append, List.length_append]
  exact Nat.add_le_add (hx e first hfirst) (hf first.value first.engine second hsecond)

theorem Reports.mono {x : Action σ ρ α} (hx : x.Reports pick? m) (h : m ≤ n) :
    x.Reports pick? n :=
  fun e ran hrun => Nat.le_trans (hx e ran hrun) h

theorem Reports.eq_nil {x : Action σ ρ α} {e : Engine σ ρ} {ran : Ran σ ρ α}
    (hx : x.Reports pick? 0) (hrun : x e = .ok ran) : ran.entries.filterMap pick? = [] :=
  List.eq_nil_of_length_eq_zero (Nat.le_zero.1 (hx e ran hrun))

/-- What is reported after something that does not report it was reported by the rest. -/
theorem Reports.mem_of_bind {x : Action σ ρ α} {f : α → Action σ ρ β} {e : Engine σ ρ}
    {ran : Ran σ ρ β} {c : γ} (hx : x.Reports pick? 0) (hrun : (x >>= f) e = .ok ran)
    (h : c ∈ ran.entries.filterMap pick?) :
    ∃ first second, x e = .ok first ∧ f first.value first.engine = .ok second ∧
      second.engine = ran.engine ∧ c ∈ second.entries.filterMap pick? := by
  obtain ⟨first, second, hfirst, hsecond, rfl⟩ := bind_ok.1 hrun
  rw [List.filterMap_append, hx.eq_nil hfirst, List.nil_append] at h
  exact ⟨first, second, hfirst, hsecond, rfl, h⟩

theorem reports_pure (a : α) : (pure a : Action σ ρ α).Reports pick? 0 := by
  intro e ran hrun
  obtain rfl := Except.ok.inj hrun
  exact Nat.zero_le _

theorem reports_report {entry : Entry} (h : pick? entry = none) :
    (report entry : Action σ ρ Unit).Reports pick? 0 := by
  intro e ran hrun
  obtain rfl := Except.ok.inj hrun
  rw [List.filterMap_cons_none h]
  exact Nat.zero_le _

theorem reports_onlyIf {b : Bool} {x : Action σ ρ Unit} (hx : b = true → x.Reports pick? n) :
    (onlyIf b x).Reports pick? (if b then n else 0) := by
  cases b with
  | true => exact hx rfl
  | false => exact reports_pure ()

theorem reports_reportFailure (herror : ∀ failure, pick? (.error failure) = none)
    (outcome : Except HardwareError α) :
    (reportFailure outcome : Action σ ρ Unit).Reports pick? 0 := by
  cases outcome with
  | ok a => exact reports_pure ()
  | error failure => exact reports_report (herror failure)

section Calls

variable [Hardware σ]

theorem reports_perform (call : Call) : (perform call : Action σ ρ _).Reports pick? 0 := by
  intro e ran hrun
  obtain ⟨hardware, -, hnone, -⟩ := perform_ok.1 hrun
  rw [hnone]
  exact Nat.zero_le _

theorem reports_expectPresent (time : Option Timestamp) :
    (expectPresent display time : Action σ ρ Unit).Reports pick? 0 :=
  (reports_perform _).bind fun _ => reports_pure ()

theorem reports_accept (herror : ∀ failure, pick? (.error failure) = none) :
    (accept display : Action σ ρ Unit).Reports pick? 0 :=
  (reports_perform (.accept display)).bind (reports_reportFailure herror)

theorem reports_clientMustAct (v : Validation) :
    (clientMustAct display v : Action σ ρ Bool).Reports pick? 0 := by
  unfold clientMustAct
  cases v.hasChanges with
  | true => exact reports_pure true
  | false =>
    have hcall : (perform (.hasClientComposition display) : Action σ ρ _).Reports pick? 0 :=
      reports_perform _
    refine hcall.bind (n := 0) fun outcome => ?_
    cases outcome <;> exact reports_pure _

end Calls

/-! ### Commands -/

variable [Hardware σ] [Resources ρ] {c : DisplayCommand}

/-- What a command sets is reported only if it fails. -/
theorem reports_settle (herror : ∀ failure, pick? (.error failure) = none) :
    (settle c : Action σ ρ Unit).Reports pick? 0 := by
  intro e ran hrun
  have hnone : ran.entries.filterMap pick? = [] := by
    refine List.filterMap_eq_nil_iff.2 fun entry hentry => ?_
    obtain ⟨failure, rfl⟩ := entries_settle hrun entry hentry
    exact herror failure
  rw [hnone]
  exact Nat.zero_le _

/-- **A command reports what presenting reports,** and present-or-validate, if it asks for
them; so far as failures and validations do not count. -/
theorem reports_command (herror : ∀ failure, pick? (.error failure) = none)
    (hvalidate : (validate c.display : Action σ ρ _).Reports pick? 0)
    (hpresent : (present c.display : Action σ ρ _).Reports pick? m)
    (hshort : c.presentOrValidate = true →
      (presentOrValidate c.display c.expectedPresentTime : Action σ ρ Unit).Reports pick? n) :
    (command c : Action σ ρ Unit).Reports pick?
      ((if c.present then m else 0) + if c.presentOrValidate then n else 0) := by
  have hasked : (do
      expectPresent c.display c.expectedPresentTime
      let _ ← validate c.display : Action σ ρ Unit).Reports pick? 0 :=
    (reports_expectPresent _).bind fun _ => hvalidate.bind fun _ => reports_pure ()
  have hshown : (do reportFailure (← present c.display) : Action σ ρ Unit).Reports pick? m :=
    hpresent.bind (reports_reportFailure herror)
  have hprotocol : (protocol c : Action σ ρ Unit).Reports pick?
      ((if c.validate then 0 else 0) + ((if c.accept then 0 else 0) +
        ((if c.present then m else 0) + if c.presentOrValidate then n else 0))) :=
    (reports_onlyIf fun _ => hasked).bind fun _ =>
      (reports_onlyIf fun _ => reports_accept herror).bind fun _ =>
        (reports_onlyIf fun _ => hshown).bind fun _ => reports_onlyIf hshort
  have hcommand := (reports_settle (σ := σ) (ρ := ρ) (c := c) herror).bind fun _ => hprotocol
  rw [command_eq]
  simpa only [ite_self, Nat.zero_add] using hcommand

/-! ### Outcomes -/

/-- What is reported of a frame is no outcome. -/
theorem outcomes_presentationEntries (outcome : Except HardwareError Presentation) :
    (presentationEntries outcome).filterMap Entry.outcome? = [] := by
  refine List.filterMap_eq_nil_iff.2 fun entry hentry => ?_
  rcases mem_presentationEntries hentry with ⟨fence, rfl⟩ | ⟨fences, rfl⟩ <;> rfl

theorem outcomes_validate : (validate display : Action σ ρ _).Reports Entry.outcome? 0 := by
  intro e ran hrun
  rw [entries_validate hrun]
  cases ran.value <;> exact Nat.le_refl 0

omit [Resources ρ] in
theorem outcomes_present : (present display : Action σ ρ _).Reports Entry.outcome? 0 := by
  intro e ran hrun
  rw [entries_present hrun, outcomes_presentationEntries]
  exact Nat.le_refl 0

/-- Nothing that comes before present-or-validate reports an outcome. -/
theorem outcomes_lead : (command c.lead : Action σ ρ Unit).Reports Entry.outcome? 0 := by
  have hlead := reports_command (c := c.lead) (n := 0) (fun _ => rfl)
    (outcomes_validate (σ := σ) (ρ := ρ)) outcomes_present fun hasked => nomatch hasked
  simpa only [ite_self] using hlead

/-- A command that reports an outcome has asked for present-or-validate. -/
theorem outcome_cases {e : Engine σ ρ} {ran : Ran σ ρ Unit} {outcome : FastPathOutcome}
    (hrun : command c e = .ok ran) (h : outcome ∈ ran.entries.filterMap Entry.outcome?) :
    ∃ lead short, command c.lead e = .ok lead ∧
      presentOrValidate c.display c.expectedPresentTime lead.engine = .ok short ∧
      short.engine = ran.engine ∧ outcome ∈ short.entries.filterMap Entry.outcome? := by
  rw [command_eq_lead] at hrun
  obtain ⟨lead, short, hlead, hshort, hengine, h⟩ := outcomes_lead.mem_of_bind hrun h
  cases hasked : c.presentOrValidate with
  | false =>
    rw [hasked] at hshort
    obtain rfl := Except.ok.inj hshort
    cases h
  | true =>
    rw [hasked] at hshort
    exact ⟨lead, short, hlead, hshort, hengine, h⟩

/-- An engine that has shown a frame of the display just now. -/
def JustShown (display : DisplayId) (e : Engine σ ρ) : Prop :=
  ∃ (before : Engine σ ρ) (shown : Ran σ ρ (Except HardwareError Presentation)) (p : Presentation),
    present display before = .ok shown ∧ shown.value = .ok p ∧ shown.engine = e

variable {e : Engine σ ρ} {ran : Ran σ ρ Unit}

omit [Resources ρ] in
/-- After a validation nothing reports a frame but presenting it. -/
theorem justShown_of_afterValidation {outcome : Except HardwareError Validation}
    (hrun : afterValidation display outcome e = .ok ran)
    (h : .presented ∈ ran.entries.filterMap Entry.outcome?) : JustShown display ran.engine := by
  cases outcome with
  | error failure =>
    obtain rfl := Except.ok.inj hrun
    cases h
  | ok v =>
    obtain ⟨acts, rest, -, hrest, hengine, h⟩ := (reports_clientMustAct v).mem_of_bind hrun h
    rw [← hengine]
    cases ha : acts.value with
    | true =>
      rw [ha] at hrest
      obtain rfl := Except.ok.inj hrest
      cases List.mem_singleton.1 h
    | false =>
      rw [ha] at hrest
      obtain ⟨accepted, after, -, hafter, hengine, h⟩ :=
        (reports_accept fun _ => rfl).mem_of_bind hrest h
      rw [← hengine]
      obtain ⟨shown, last, hshown, hlast, hengine, h⟩ := outcomes_present.mem_of_bind hafter h
      rw [← hengine]
      cases hp : shown.value with
      | error failure =>
        rw [hp] at hlast
        obtain rfl := Except.ok.inj hlast
        cases h
      | ok p =>
        rw [hp] at hlast
        obtain rfl := Except.ok.inj hlast
        exact ⟨_, shown, p, hshown, hp, rfl⟩

/-- If present-or-validate reports a frame, showing it was the last thing that it did. -/
theorem justShown_of_presented {time : Option Timestamp}
    (hrun : presentOrValidate display time e = .ok ran)
    (h : .presented ∈ ran.entries.filterMap Entry.outcome?) : JustShown display ran.engine := by
  have hfallback : ∀ {e : Engine σ ρ} {ran : Ran σ ρ Unit}, fallback display e = .ok ran →
      .presented ∈ ran.entries.filterMap Entry.outcome? → JustShown display ran.engine := by
    intro e ran hrun h
    rw [fallback_eq] at hrun
    obtain ⟨validated, last, -, hlast, hengine, h⟩ := outcomes_validate.mem_of_bind hrun h
    exact hengine ▸ justShown_of_afterValidation hlast h
  cases hmust : Resources.mustValidate display e.resources with
  | true =>
    rw [presentOrValidate_of_mustValidate hmust] at hrun
    obtain ⟨told, last, -, hlast, hengine, h⟩ := (reports_expectPresent time).mem_of_bind hrun h
    exact hengine ▸ hfallback hlast h
  | false =>
    rw [presentOrValidate_of_not_mustValidate hmust] at hrun
    obtain ⟨told, rest, -, hrest, hengine, h⟩ := (reports_expectPresent time).mem_of_bind hrun h
    rw [← hengine]
    obtain ⟨shown, last, hshown, hlast, hengine, h⟩ := outcomes_present.mem_of_bind hrest h
    rw [← hengine]
    cases hp : shown.value with
    | error failure =>
      rw [hp] at hlast
      exact hfallback hlast h
    | ok p =>
      rw [hp] at hlast
      obtain rfl := Except.ok.inj hlast
      exact ⟨_, shown, p, hshown, hp, rfl⟩

end Action

end DisplayComposer
