import DisplayComposer.Proofs.Cache.Basic
import DisplayComposer.Proofs.Engine.Protocol
import DisplayComposer.Proofs.Engine.Run
import DisplayComposer.Proofs.Hardware.Validation
/-!
# DisplayComposer.Proofs.Engine.FastPath

**The short way leads where the long one does.** Present-or-validate may show a frame
without validating. On the headless backend nothing is lost by that. A display that
presents is validated and waits for nothing (`HeadlessDisplay.Current`), so to validate
it and to accept what it asks for would change nothing. And when the display could not
present at once, the failed attempt leaves no trace, and the engine takes the long way
itself.

* `Action.fallback` — the long way, once presenting at once did not work;
* `Action.protocol_agrees` — both ways from one state;
* `Engine.execute_roundTrip` — what that says of a command.
-/

namespace DisplayComposer

/-! ### Calls that change nothing -/

namespace Headless

variable {h : Headless} {display : DisplayId}

theorem perform_validate (h : Headless) (display : DisplayId) :
    Hardware.perform (.validate display) h = .ok (h.validate display) := rfl

theorem perform_accept (h : Headless) (display : DisplayId) :
    Hardware.perform (.accept display) h = .ok (h.accept display) := rfl

theorem perform_present (h : Headless) (display : DisplayId) :
    Hardware.perform (.present display) h = .ok (h.present display) := rfl

theorem expect_unchanged (h : Headless) (display : DisplayId) :
    (h.onDisplay display fun d => .ok ((), d)).2 = h := by
  refine onDisplay_unchanged fun d a d' _ had => ?_
  cases had
  rfl

theorem hasClientComposition_unchanged (h : Headless) (display : DisplayId) :
    (h.hasClientComposition display).2 = h := by
  refine onDisplay_unchanged fun d a d' _ had => ?_
  cases had
  rfl

/-- A frame that cannot be shown leaves no trace, and takes no fence. -/
theorem present_unchanged {failure : HardwareError}
    (hfailed : (h.present display).1 = .error failure) : (h.present display).2 = h := by
  rcases present_effect h display with
    ⟨failure', hr⟩ | ⟨a, d, d', ha, hd, hstep, hdisplays⟩
  · exact congrArg Prod.snd hr
  · rw [show (h.present display).1 = .ok a from ha] at hfailed
    cases hfailed

/-- What a display is like that can present. -/
theorem ready_of_present {p : Presentation} (hpresented : (h.present display).1 = .ok p) :
    ∃ d, h.displays.get? display = some d ∧ d.validated = true ∧ d.pending = [] := by
  rcases present_effect h display with
    ⟨failure, hr⟩ | ⟨a, d, d', ha, hd, hstep, hdisplays⟩
  · rw [show (h.present display).1 = .error failure from congrArg Prod.fst hr] at hpresented
    cases hpresented
  · cases hstep with
    | present hready =>
      obtain ⟨hvalidated, hpending, -⟩ := HeadlessDisplay.of_refusal?_eq_none hready
      exact ⟨d, hd, hvalidated, hpending⟩

/-- To validate a display again that is ready to present changes nothing. -/
theorem validate_of_ready {d : HeadlessDisplay} (hd : h.displays.get? display = some d)
    (hcurrent : d.Current) (hvalidated : d.validated = true) :
    h.validate display = (.ok d.validation, h) := by
  have hsame : { d with pending := d.plan.changes, validated := true } = d := by
    rw [← hcurrent hvalidated, ← hvalidated]
  unfold validate onDisplay
  rw [hd]
  show (Except.ok d.validation, { h with
    displays := h.displays.insert display { d with pending := d.plan.changes, validated := true } }) = _
  rw [hsame, Table.insert_self hd]

/-- There is nothing to accept on a display that is ready to present. -/
theorem accept_of_ready {d : HeadlessDisplay} (hd : h.displays.get? display = some d)
    (hvalidated : d.validated = true) (hpending : d.pending = []) :
    h.accept display = (.ok (), h) := by
  have hsame : { d with layers := d.pending.foldl HeadlessDisplay.apply d.layers, pending := [] } =
      d := by
    rw [hpending, List.foldl_nil, ← hpending]
  unfold accept onDisplay
  rw [hd]
  dsimp only
  rw [if_pos hvalidated]
  dsimp only
  rw [hsame, Table.insert_self hd]

end Headless

/-! ### Both ways from one state -/

namespace Action

variable {ρ : Type} [Resources ρ] {e : Engine Headless ρ} {display : DisplayId}

omit [Resources ρ] in
theorem expectPresent_headless (display : DisplayId) (time : Option Timestamp)
    (e : Engine Headless ρ) : expectPresent display time e = .ok ⟨(), [], e⟩ := by
  rw [expectPresent_eq]
  show Except.ok (Ran.mk () [] { e with hardware := (Headless.onDisplay _ _ _).2 }) = _
  rw [Headless.expect_unchanged]

omit [Resources ρ] in
theorem clientMustAct_headless (display : DisplayId) (v : Validation) (e : Engine Headless ρ) :
    ∃ acts, clientMustAct display v e = .ok ⟨acts, [], e⟩ := by
  unfold clientMustAct
  cases v.hasChanges with
  | true => exact ⟨true, rfl⟩
  | false =>
    have hcall : perform (.hasClientComposition display) e =
        .ok ⟨(e.hardware.hasClientComposition display).1, [], e⟩ := by
      rw [perform_eq]
      show Except.ok (Ran.mk _ [] { e with
        hardware := (e.hardware.hasClientComposition display).2 }) = _
      rw [Headless.hasClientComposition_unchanged]
    show ∃ acts, (perform (.hasClientComposition display) >>= _) e = _
    rw [bind_eq, hcall]
    cases (e.hardware.hasClientComposition display).1 <;> exact ⟨_, rfl⟩

omit [Resources ρ] in
theorem present_headless (display : DisplayId) (e : Engine Headless ρ) :
    present display e = .ok ⟨(e.hardware.present display).1,
      presentationEntries (e.hardware.present display).1,
      Engine.setState { e with hardware := (e.hardware.present display).2 } display
        (presentationState (e.hardware.present display).1)⟩ := by
  rw [present_eq, Headless.perform_present]
  rfl

omit [Resources ρ] in
/-- A failed attempt shows only in where the display stands. -/
theorem present_failed {ran : Ran Headless ρ (Except HardwareError Presentation)}
    {failure : HardwareError} (hrun : present display e = .ok ran)
    (hfailed : ran.value = .error failure) :
    ran = ⟨.error failure, [], e.setState display .failed⟩ := by
  obtain rfl := Except.ok.inj ((present_headless display e).symm.trans hrun)
  have hvalue : (e.hardware.present display).1 = .error failure := hfailed
  rw [hvalue, Headless.present_unchanged hvalue]
  rfl

/-- The long way, when all of it is done and the frame is shown. -/
structure Shown (display : DisplayId) (e : Engine Headless ρ) where
  validated : Ran Headless ρ (Except HardwareError Validation)
  accepted : Ran Headless ρ Unit
  presented : Ran Headless ρ (Except HardwareError Presentation)
  presentation : Presentation
  validate_ok : validate display e = .ok validated
  accept_ok : accept display validated.engine = .ok accepted
  present_ok : present display accepted.engine = .ok presented
  value_ok : presented.value = .ok presentation

namespace Shown

/-- What is reported on the way. -/
def entries (s : Shown display e) : List Entry :=
  s.validated.entries ++ (s.accepted.entries ++ s.presented.entries)

theorem protocol_ok {c : DisplayCommand} (s : Shown c.display e) :
    protocol c.roundTrip e = .ok ⟨(), s.entries, s.presented.engine⟩ := by
  have hreport : reportFailure s.presented.value s.presented.engine =
      .ok (Ran.mk () [] s.presented.engine) := by
    rw [reportFailure_eq, s.value_ok]
    rfl
  have hpresent : (present c.display >>= reportFailure) s.accepted.engine =
      .ok ⟨(), s.presented.entries, s.presented.engine⟩ :=
    bind_ok.2 ⟨_, _, s.present_ok, hreport, by rw [List.append_nil]⟩
  have haccept : (accept c.display >>= fun _ => present c.display >>= reportFailure)
      s.validated.engine =
        .ok ⟨(), s.accepted.entries ++ s.presented.entries, s.presented.engine⟩ :=
    bind_ok.2 ⟨_, _, s.accept_ok, hpresent, rfl⟩
  rw [protocol_roundTrip]
  exact bind_ok.2 ⟨_, _, expectPresent_headless _ _ e,
    bind_ok.2 ⟨_, _, s.validate_ok, haccept, rfl⟩, rfl⟩

end Shown

/-- The engine shows a frame after a failed attempt only by going the long way. -/
theorem shown_of_fallback {ran : Ran Headless ρ Unit} (hrun : fallback display e = .ok ran)
    (hpresented : .presentOrValidate .presented ∈ ran.entries) :
    ∃ s : Shown display e, ran.engine = s.presented.engine ∧
      ran.entries = s.entries ++ [.presentOrValidate .presented] := by
  obtain ⟨validated, rest, hvalidate, hrest, rfl⟩ := bind_ok.1 hrun
  have hentries := entries_validate hvalidate
  cases hv : validated.value with
  | error failure =>
    rw [hv] at hentries hrest
    obtain rfl := Except.ok.inj hrest
    simp [hentries, validationEntries] at hpresented
  | ok v =>
    rw [hv] at hrest
    obtain ⟨acts, hacts⟩ := clientMustAct_headless display v validated.engine
    obtain ⟨first, next, hfirst, hnext, rfl⟩ := bind_ok.1 hrest
    obtain rfl := Except.ok.inj (hacts.symm.trans hfirst)
    cases acts with
    | true =>
      -- the client has to act first, so nothing is presented
      obtain rfl := Except.ok.inj hnext
      simp [hentries, hv, validationEntries] at hpresented
    | false =>
      obtain ⟨accepted, more, haccept, hmore, rfl⟩ := bind_ok.1 hnext
      obtain ⟨presented, last, hpresent, hlast, rfl⟩ := bind_ok.1 hmore
      cases hp : presented.value with
      | error failure =>
        -- no part reports that it presented
        obtain ⟨outcome, haccepted⟩ := entries_accept haccept
        rw [hp] at hlast
        obtain rfl := Except.ok.inj hlast
        have hnone := entries_present hpresent
        cases outcome <;>
          simp [hentries, hv, haccepted, hnone, hp, validationEntries, failures,
            presentationEntries] at hpresented
      | ok p =>
        rw [hp] at hlast
        obtain rfl := Except.ok.inj hlast
        refine ⟨⟨validated, accepted, presented, p, hvalidate, haccept, hpresent, hp⟩, rfl, ?_⟩
        simp [Shown.entries]

/-- Where the display stood before does not matter for the long way. -/
def Shown.ofSetState {state : PresentState} (s : Shown display (e.setState display state)) :
    Shown display e :=
  { s with validate_ok := (validate_setState display state e).symm.trans s.validate_ok }

/-- A frame that is shown at once is shown the long way too: to validate the display
and to accept what it asks for changes nothing. -/
theorem shown_of_present {e : Engine Headless Cache}
    (hmust : e.resources.mustValidate display = false)
    (hcurrent : ∀ d, e.hardware.displays.get? display = some d → d.Current)
    {presented : Ran Headless Cache (Except HardwareError Presentation)} {p : Presentation}
    (hpresent : present display e = .ok presented) (hp : presented.value = .ok p) :
    ∃ s : Shown display e, s.presented = presented ∧
      s.entries.filter Entry.ofFrame = presented.entries.filter Entry.ofFrame := by
  have hvalue : (e.hardware.present display).1 = .ok p := by
    obtain rfl := Except.ok.inj ((present_headless display e).symm.trans hpresent)
    exact hp
  obtain ⟨d, hd, hvalidated, hpending⟩ := Headless.ready_of_present hvalue
  -- the plan of a display that presents is what was accepted: nothing is left to change
  have hvalidate : validate display e = .ok ⟨.ok d.validation, validationEntries (.ok d.validation),
      e.setState display .validated⟩ := by
    rw [validate_eq, Headless.perform_validate,
      Headless.validate_of_ready hd (hcurrent d hd) hvalidated]
    show Except.ok (Ran.mk _ _ (Engine.setState { e with
      resources := e.resources.setMustValidate display false } display .validated)) = _
    rw [Cache.setMustValidate_of_mustValidate hmust]
  have haccept : accept display (e.setState display .validated) =
      .ok ⟨(), [], e.setState display .validated⟩ := by
    have hkept : (e.setState display .validated).hardware.displays.get? display = some d := hd
    rw [accept_eq, Headless.perform_accept, Headless.accept_of_ready hkept hvalidated hpending]
    rfl
  have hagain : present display (e.setState display .validated) = .ok presented := by
    rw [present_setState, hpresent]
  exact ⟨⟨_, _, presented, p, hvalidate, haccept, hagain, hp⟩, rfl, rfl⟩

/-- **A frame is shown the long way if it is shown the short way,** with the same
consequences. -/
theorem protocol_agrees {e : Engine Headless Cache} {c : DisplayCommand}
    (hshort : c.Short)
    (hcurrent : ∀ d, e.hardware.displays.get? c.display = some d → d.Current)
    {ran : Ran Headless Cache Unit} (hrun : protocol c e = .ok ran)
    (hpresented : .presentOrValidate .presented ∈ ran.entries) :
    ∃ s : Shown c.display e, s.presented.engine = ran.engine ∧
      s.entries.filter Entry.ofFrame = ran.entries.filter Entry.ofFrame := by
  rw [protocol_short hshort, presentOrValidate_eq] at hrun
  obtain ⟨told, rest, htold, hrest, rfl⟩ := bind_ok.1 hrun
  obtain rfl := Except.ok.inj ((expectPresent_headless _ _ e).symm.trans htold)
  obtain ⟨directly, last, hdirectly, hlast, rfl⟩ := bind_ok.1 hrest
  rw [presentDirectly_eq] at hdirectly
  cases hmust : Resources.mustValidate c.display e.resources with
  | true =>
    -- the engine went the long way itself
    rw [if_pos hmust] at hdirectly
    obtain rfl := Except.ok.inj hdirectly
    obtain ⟨s, hengine, hentries⟩ := shown_of_fallback hlast hpresented
    refine ⟨s, hengine.symm, ?_⟩
    simp [hentries, Entry.ofFrame]
  | false =>
    rw [if_neg (by rw [hmust]; exact Bool.false_ne_true)] at hdirectly
    obtain ⟨presented, hp, rfl⟩ := Except.map_eq_ok_iff.1 hdirectly
    cases hvalue : presented.value with
    | ok p =>
      -- the display was ready, and the long way finds it so
      simp only [hvalue, succeeded] at hlast
      obtain rfl := Except.ok.inj hlast
      obtain ⟨s, hs, hentries⟩ := shown_of_present hmust hcurrent hp hvalue
      refine ⟨s, hs ▸ rfl, ?_⟩
      simp [hentries, Entry.ofFrame]
    | error failure =>
      -- the long way starts where the attempt left the display, and overwrites that
      obtain rfl := present_failed hp hvalue
      obtain ⟨s, hengine, hentries⟩ := shown_of_fallback hlast (by simpa using hpresented)
      refine ⟨s.ofSetState, hengine.symm, ?_⟩
      show s.entries.filter Entry.ofFrame = _
      simp [hentries, Entry.ofFrame]

theorem Shown.entries_ne_nil (s : Shown display e) : s.entries ≠ [] := by
  have hentries := entries_validate s.validate_ok
  unfold entries
  cases hv : s.validated.value <;> simp [hentries, hv, validationEntries]

/-- What a command sets comes first on both ways, and reports failures only. -/
theorem command_agrees {configs : List DisplayConfig} {e : Engine Headless Cache}
    (reached : Hardware.Reaches (.ofConfigs configs) e.hardware) {c : DisplayCommand}
    (hshort : c.Short) {ran : Ran Headless Cache Unit} (hrun : command c e = .ok ran)
    (hpresented : .presentOrValidate .presented ∈ ran.entries) :
    ∃ entries, command c.roundTrip e = .ok ⟨(), entries, ran.engine⟩ ∧ entries ≠ [] ∧
      entries.filter Entry.ofFrame = ran.entries.filter Entry.ofFrame := by
  rw [command_eq] at hrun
  obtain ⟨first, second, hfirst, hsecond, rfl⟩ := bind_ok.1 hrun
  have hsettled := reached.trans ((composed_settle (τ := Headless) c).reaches hfirst)
  -- the outcome is not among the failures that come before
  have hshown : .presentOrValidate .presented ∈ second.entries := by
    rcases List.mem_append.1 hpresented with hentry | hentry
    · obtain ⟨failure, hfailure⟩ := entries_settle hfirst _ hentry
      cases hfailure
    · exact hentry
  obtain ⟨s, hengine, hentries⟩ := protocol_agrees hshort
    (fun d hd => Headless.current_of_reaches hsettled hd) hsecond hshown
  refine ⟨first.entries ++ s.entries, ?_, ?_, ?_⟩
  · rw [command_eq]
    have hsettle : settle c.roundTrip e = .ok first := hfirst
    refine bind_ok.2 ⟨first, _, hsettle, s.protocol_ok, ?_⟩
    rw [← hengine]
  · exact List.append_ne_nil_of_right_ne_nil _ s.entries_ne_nil
  · rw [List.filter_append, List.filter_append, hentries]

end Action

/-! ### Commands -/

/-- **A frame shown the short way might as well have been shown the long way.** If a
command that asks for present-or-validate reports that it presented, the command that
asks for validating, accepting and presenting instead leaves the very same engine, and
reports the same fences and the same errors. -/
theorem Engine.execute_roundTrip {configs : List DisplayConfig} {cache : Cache}
    {e e' : Engine Headless Cache} (reached : (start (.ofConfigs configs) cache).Reaches e)
    {c : DisplayCommand} (hshort : c.Short)
    {results : List CommandResult} (hrun : e.execute [c] = .ok (results, e'))
    {r : CommandResult} (hr : r ∈ results) (hpresented : r.presentOrValidate = some .presented) :
    ∃ r', e.execute [c.roundTrip] = .ok ([r'], e') ∧ r'.presentFence = r.presentFence ∧
      r'.releaseFences = r.releaseFences ∧ r'.errors = r.errors := by
  obtain ⟨ran, hran, rfl, rfl⟩ := execute_singleton_ok.1 hrun
  have hreported := CommandResult.eq_of_mem_reported hr
  have hentry := CommandResult.mem_of_presentOrValidate rfl (hreported ▸ hpresented)
  obtain ⟨entries, hcommand, hsome, hframe⟩ :=
    Action.command_agrees reached.hardware hshort hran hentry
  have hsame := CommandResult.sameFrame_foldl hframe.symm (.blank (.ofNat 0) c.display)
  rw [← hreported] at hsame
  refine ⟨_, execute_singleton_ok.2 ⟨_, hcommand, ?_, rfl⟩, hsame.presentFence,
    hsame.releaseFences, hsame.errors⟩
  unfold CommandResult.reported
  rw [if_neg (by simpa using hsome)]
  rfl

namespace Engine

/-- A frame that is to be shown the short way if there is one. -/
def frame : DisplayCommand := { DisplayCommand.idle 0 with presentOrValidate := true }

/-- An engine with one display and one layer, after a first frame. -/
def warm : Engine Headless Cache :=
  after [.createLayer 0 1, .execute [frame]]
    (start (.ofConfigs [.standard]) ⟨.ofList [(0, ⟨true, .vacant 3, none, .empty⟩)], 0, 0⟩)

theorem execute_roundTrip_warm :
    ∃ r r' e', warm.execute [frame] = .ok ([r], e') ∧ r.presentOrValidate = some .presented ∧
      warm.execute [frame.roundTrip] = .ok ([r'], e') ∧ r'.presentFence = r.presentFence ∧
      r'.releaseFences = r.releaseFences ∧ r'.errors = r.errors := by
  have hshown : (warm.execute [frame]).toOption.map (·.1.map (·.presentOrValidate)) =
      some [some .presented] := by decide +kernel
  cases hrun : warm.execute [frame] with
  | error crash =>
    rw [hrun] at hshown
    cases hshown
  | ok ran =>
    obtain ⟨results, e'⟩ := ran
    rw [hrun] at hshown
    obtain ⟨r, rfl, hpresented⟩ := List.map_eq_singleton_iff.1 (Option.some.inj hshown)
    obtain ⟨r', hlong, hsame⟩ := execute_roundTrip (.after _ _) ⟨rfl, rfl, rfl, rfl⟩ hrun
      (List.mem_singleton_self r) hpresented
    exact ⟨r, r', e', rfl, hpresented, hlong, hsame⟩

end Engine

end DisplayComposer
