import DisplayComposer.Proofs.Engine.Note
import DisplayComposer.Proofs.Engine.Standing
/-!
# DisplayComposer.Proofs.Engine.Refresh

**No frame is shown at once that was not validated since the last refresh.** The cache
notes for a display that it has to be validated. The note is there when the display is
registered, and a refresh puts it back. Only an attempt to validate takes it away, and
present-or-validate looks at it before it tries to present. So whatever the hardware does,
and whatever happens in between, if present-or-validate calls the hardware to present
before it calls it to validate, there was a call to validate before.

* `Engine.Checked` — a display without the note was validated since some point;
* `Action.keeps_checked_command`, `Engine.checked_moveAll` — commands and requests keep it;
* `Action.validates_first` — with the note, present-or-validate validates first;
* `Engine.validated_before_present` — what that says of a run.
-/

namespace DisplayComposer

/-- Among these calls one is to present the display, and none before it to validate it. -/
def Event.PresentsFirst (display : DisplayId) (events : List Event) : Prop :=
  ∃ before event after, events = before ++ event :: after ∧ event.call = .present display ∧
    ∀ earlier ∈ before, earlier.call ≠ .validate display

variable {σ : Type} {past : List Event} {display : DisplayId}

namespace Engine

/-- If the display does not have to be validated, this was tried since the log was `past`. -/
def Checked (past : List Event) (display : DisplayId) (e : Engine (Logged σ) Cache) : Prop :=
  ∃ events, e.hardware.log = past ++ events ∧
    (e.resources.mustValidate display = false → ∃ event ∈ events, event.call = .validate display)

variable {e e' : Engine (Logged σ) Cache}

/-- A display that has to be validated. -/
theorem checked_of_mustValidate (h : e.resources.mustValidate display = true) :
    e.Checked e.hardware.log display := by
  refine ⟨[], (List.append_nil _).symm, fun hnote => ?_⟩
  rw [h] at hnote
  cases hnote

/-- More calls, among which there is one to validate if the note was taken away. -/
theorem Checked.extend (h : e.Checked past display) (more : List Event)
    (hlog : e'.hardware.log = e.hardware.log ++ more)
    (hnote : e'.resources.mustValidate display = false →
      e.resources.mustValidate display = false ∨
        ∃ event ∈ more, event.call = .validate display) : e'.Checked past display := by
  obtain ⟨events, hevents, hchecked⟩ := h
  refine ⟨events ++ more, by rw [hlog, hevents, List.append_assoc], fun hnone => ?_⟩
  rcases hnote hnone with hbefore | ⟨event, hevent, hcall⟩
  · obtain ⟨event, hevent, hcall⟩ := hchecked hbefore
    exact ⟨event, List.mem_append_left _ hevent, hcall⟩
  · exact ⟨event, List.mem_append_right _ hevent, hcall⟩

/-- More calls, and the same note. -/
theorem Checked.congr (h : e.Checked past display) (more : List Event)
    (hlog : e'.hardware.log = e.hardware.log ++ more)
    (hnote : e'.resources.mustValidate display = e.resources.mustValidate display) :
    e'.Checked past display :=
  h.extend more hlog fun hnone => .inl (hnote ▸ hnone)

theorem checked_ofNote : OfNote display (Checked (σ := σ) past display) :=
  fun _ _ he hhardware hnote => he.congr [] (by rw [hhardware, List.append_nil]) hnote

theorem Checked.mem_calls {f : Engine (Logged σ) Cache}
    (h : e.Checked f.hardware.log display) (hnote : e.resources.mustValidate display = false) :
    ∃ event ∈ f.calls e, event.call = .validate display := by
  obtain ⟨events, hevents, hchecked⟩ := h
  rw [calls_eq hevents]
  exact hchecked hnote

end Engine

/-! ### Commands -/

namespace Action

open Engine (Checked)

variable [Hardware σ]

theorem keeps_checked_perform (call : Call) :
    (perform call : Action (Logged σ) Cache _).Keeps (Checked past display) := by
  intro e ran he hrun
  obtain ⟨hardware, hcall, -, hengine⟩ := perform_ok.1 hrun
  rw [hengine]
  exact he.congr [⟨call, ran.value⟩] (Logged.perform_ok.1 hcall).2 rfl

/-- The note is taken away just before the call to validate. -/
theorem keeps_checked_validate (other : DisplayId) :
    (validate other : Action (Logged σ) Cache _).Keeps (Checked past display) := by
  intro e ran he hrun
  rw [validate_eq] at hrun
  obtain ⟨⟨out, hardware⟩, hcall, rfl⟩ := Except.map_eq_ok_iff.1 hrun
  refine he.extend [⟨.validate other, out⟩] (Logged.perform_ok.1 hcall).2 fun hnote => ?_
  by_cases hother : other = display
  · exact .inr ⟨_, List.mem_singleton_self _, congrArg Call.validate hother⟩
  · have hsame := Cache.mustValidate_setMustValidate other display false e.resources
    rw [if_neg hother] at hsame
    exact .inl (hsame ▸ hnote)

/-- **Every command keeps it,** whatever the hardware answers. -/
theorem keeps_checked_command (c : DisplayCommand) :
    (command c : Action (Logged σ) Cache Unit).Keeps (Checked past display) :=
  Engine.checked_ofNote.keeps_command (fun _ _ _ => keeps_checked_perform _)
    (fun _ _ => keeps_checked_perform _) (keeps_checked_validate c.display)

/-- As long as the note is there, present-or-validate tells the hardware the time and then
validates. -/
theorem validates_first {time : Option Timestamp} {e : Engine (Logged σ) Cache}
    {ran : Ran (Logged σ) Cache Unit} (hnote : e.resources.mustValidate display = true)
    (hrun : presentOrValidate display time e = .ok ran) :
    ∃ hint event more, e.calls ran.engine = hint :: event :: more ∧
      hint.call = .set display (.property (.expectedPresentTime time)) ∧
      event.call = .validate display := by
  rw [presentOrValidate_of_mustValidate hnote] at hrun
  obtain ⟨told, last, htold, hfallback, rfl⟩ := bind_ok.1 hrun
  rw [expectPresent_eq] at htold
  obtain ⟨⟨answer, hardware⟩, hhint, rfl⟩ := Except.map_eq_ok_iff.1 htold
  rw [fallback_eq] at hfallback
  obtain ⟨validated, after, hvalidate, hafter, rfl⟩ := bind_ok.1 hfallback
  rw [validate_eq] at hvalidate
  obtain ⟨⟨outcome, next⟩, hcall, rfl⟩ := Except.map_eq_ok_iff.1 hvalidate
  have hlogged : next.log = e.hardware.log ++ [⟨_, answer⟩, ⟨.validate display, outcome⟩] := by
    rw [(Logged.perform_ok.1 hcall).2, (Logged.perform_ok.1 hhint).2, List.append_assoc]
    rfl
  obtain ⟨more, hmore⟩ :=
    ((composed_afterValidation (τ := Logged σ) display outcome).reaches hafter).log_extends
  refine ⟨⟨_, answer⟩, ⟨.validate display, outcome⟩, more, Engine.calls_eq ?_, rfl, rfl⟩
  show after.engine.hardware.log = _
  rw [← hmore]
  show next.log ++ more = _
  rw [hlogged, List.append_assoc]
  rfl

/-- Present-or-validate presents first only if the note is not there. -/
theorem mustValidate_of_presentsFirst {time : Option Timestamp} {e : Engine (Logged σ) Cache}
    {ran : Ran (Logged σ) Cache Unit} (hrun : presentOrValidate display time e = .ok ran)
    (hfirst : Event.PresentsFirst display (e.calls ran.engine)) :
    e.resources.mustValidate display = false := by
  refine Bool.eq_false_iff.2 fun hnote => ?_
  obtain ⟨hint, event, more, hcalls, hhint, hvalidate⟩ := validates_first hnote hrun
  obtain ⟨before, shown, after, hsplit, hshown, hbefore⟩ := hfirst
  rw [hcalls] at hsplit
  -- the call to present is neither of the first two, so it comes after the second
  cases before with
  | nil =>
    obtain ⟨rfl, -⟩ := List.cons.inj hsplit
    rw [hhint] at hshown
    cases hshown
  | cons first before =>
    obtain ⟨-, hsplit⟩ := List.cons.inj hsplit
    cases before with
    | nil =>
      obtain ⟨rfl, -⟩ := List.cons.inj hsplit
      rw [hvalidate] at hshown
      cases hshown
    | cons second before =>
      obtain ⟨rfl, -⟩ := List.cons.inj hsplit
      exact hbefore event (by simp) hvalidate

end Action

/-! ### Runs -/

namespace Engine

variable [Hardware σ] {e e' : Engine (Logged σ) Cache} {moves : List Move}

theorem Checked.request {request : Request} {reply : Reply} (he : e.Checked past display)
    (hno : ∀ commands, request ≠ .execute commands)
    (hrun : e.handle request = .ok (reply, e')) : e'.Checked past display := by
  refine checked_ofNote.keeps_request he hno (fun call _ => Action.keeps_checked_perform call)
    (fun other _ => ?_) hrun
  refine he.extend [] (List.append_nil _).symm fun hnote => .inl ?_
  have hset := Cache.mustValidate_setMustValidate other display true e.resources
  rw [show (e.resources.setMustValidate other true).mustValidate display = false from hnote,
    Bool.true_or] at hset
  split at hset
  · cases hset
  · exact hset.symm

/-- Every run keeps it. -/
theorem checked_moveAll (he : e.Checked past display) (hrun : e.moveAll moves = .ok e') :
    e'.Checked past display :=
  moveAll_keeps (P := Checked past display)
    (fun _ _ _ _ hf hmove => keeps_move hf hmove
      (fun c _ => Action.keeps_checked_command c)
      (fun _ _ hf => hf.congr [] (List.append_nil _).symm rfl)
      fun _ _ _ hrequest hhandle => hf.request hrequest hhandle)
    he hrun

/-- **What is shown at once was validated since the last refresh.** In any run on any hardware,
from a cache in which displays were just registered: if the present-or-validate of a command
calls the hardware to present before it calls it to validate, then the cache knows the display,
and the hardware was called to validate it before, since the beginning of the run and since
every refresh of the display. -/
theorem validated_before_present {e₀ : Engine (Logged σ) Cache} (hfresh : e₀.resources.Fresh)
    (hmoves : e₀.moveAll moves = .ok e) {c : DisplayCommand} (hasked : c.presentOrValidate = true)
    {ran : Ran (Logged σ) Cache Unit} (hrun : Action.command c e = .ok ran) :
    ∃ lead short, Action.command c.lead e = .ok lead ∧
      Action.presentOrValidate c.display c.expectedPresentTime lead.engine = .ok short ∧
      short.engine = ran.engine ∧
      (Event.PresentsFirst c.display (lead.engine.calls short.engine) →
        (∃ entry, lead.engine.resources.displays.get? c.display = some entry) ∧
        (∃ event ∈ e₀.calls lead.engine, event.call = .validate c.display) ∧
        ∀ before after f, moves = before ++ .request (.refresh c.display) :: after →
          e₀.moveAll before = .ok f →
          ∃ event ∈ f.calls lead.engine, event.call = .validate c.display) := by
  rw [Action.command_eq_lead, hasked] at hrun
  obtain ⟨lead, short, hlead, hshort, rfl⟩ := Action.bind_ok.1 hrun
  refine ⟨lead, short, hlead, hshort, rfl, fun hfirst => ?_⟩
  have hnote := Action.mustValidate_of_presentsFirst hshort hfirst
  have hstart : lead.engine.Checked e₀.hardware.log c.display :=
    Action.keeps_checked_command c.lead e lead
      (checked_moveAll (checked_of_mustValidate (hfresh c.display)) hmoves) hlead
  refine ⟨Cache.registered_of_mustValidate hnote, hstart.mem_calls hnote, ?_⟩
  rintro before after f rfl hbefore
  obtain ⟨f', hf', hrest⟩ := moveAll_append_ok.1 hmoves
  obtain rfl := Except.ok.inj (hbefore.symm.trans hf')
  obtain ⟨g, hg, hafter⟩ := moveAll_cons_ok.1 hrest
  obtain rfl : f.refresh c.display = g := Except.ok.inj hg
  -- the note is back after the refresh, and no call was made for it
  have hback : (f.refresh c.display).resources.mustValidate c.display = true := by
    show (f.resources.setMustValidate c.display true).mustValidate c.display = true
    rw [Cache.mustValidate_setMustValidate, if_pos rfl, Bool.true_or]
  have hagain : (f.refresh c.display).Checked f.hardware.log c.display :=
    checked_of_mustValidate hback
  have hsince : lead.engine.Checked f.hardware.log c.display :=
    Action.keeps_checked_command c.lead e lead (checked_moveAll hagain hafter) hlead
  exact hsince.mem_calls hnote

/-- At startup displays were just registered. -/
theorem fresh_ofConfigs {configs : List DisplayConfig} {cache : Cache}
    (hcache : Cache.ofConfigs configs = .ok cache) : cache.Fresh := by
  have hadd : ∀ (configs : List DisplayConfig) (c : Cache), c.Fresh →
      configs.foldlM (fun c d => Cache.addDisplay d.id d.targetSlots d.isVirtual c) c =
        .ok cache → cache.Fresh := by
    intro configs
    induction configs with
    | nil =>
      intro c hc hrun
      obtain rfl := Except.ok.inj hrun
      exact hc
    | cons config rest ih =>
      intro c hc hrun
      rw [List.foldlM_cons] at hrun
      obtain ⟨c', hfirst, hrest⟩ := Except.bind_eq_ok_iff.1 hrun
      exact ih c' (Cache.fresh_addDisplay hc hfirst) hrest
  exact hadd configs .empty (fun _ => rfl) hcache

/-- A first frame, a refresh, and a call to validate. -/
def refreshed : List Move :=
  [.request (.execute [frame]), .request (.refresh 0),
    .command { DisplayCommand.idle 0 with validate := true }]

/-- The next frame is shown at once, and was validated after the refresh. -/
theorem validated_before_present_refreshed : ∃ e f ran,
    (single.logged []).moveAll refreshed = .ok e ∧ Action.command frame e = .ok ran ∧
      Event.PresentsFirst 0 (e.calls ran.engine) ∧
      (single.logged []).moveAll (refreshed.take 1) = .ok f ∧
      ∃ event ∈ f.calls e, event.call = .validate 0 := by
  have hruns : (((single.logged []).moveAll refreshed).bind fun e =>
      (Action.command frame e).map fun ran => (e.calls ran.engine).map Event.call).toOption =
        some [.set 0 (.property (.expectedPresentTime none)), .present 0] := by decide +kernel
  obtain ⟨e, hmoves, hrest⟩ := Except.bind_eq_ok_iff.1 (Except.toOption_eq_some_iff.1 hruns)
  obtain ⟨ran, hrun, hcalls⟩ := Except.map_eq_ok_iff.1 hrest
  have hcache : Cache.ofConfigs [.standard] = .ok (single.logged []).resources := rfl
  obtain ⟨lead, short, hlead, -, hshort, hvalidated⟩ :=
    validated_before_present (fresh_ofConfigs hcache) hmoves rfl hrun
  -- nothing comes before the present-or-validate of this command
  obtain rfl : (⟨(), [], e⟩ : Ran (Logged Headless) Cache Unit) = lead := Except.ok.inj hlead
  obtain ⟨hint, rest, hsplit, hhint, hrest⟩ := List.map_eq_cons_iff.1 hcalls
  obtain ⟨shown, rfl, hshown⟩ := List.map_eq_singleton_iff.1 hrest
  have hfirst : Event.PresentsFirst 0 (e.calls ran.engine) := by
    refine ⟨[hint], shown, [], hsplit, hshown, fun earlier hearlier hcall => ?_⟩
    rw [List.mem_singleton.1 hearlier, hhint] at hcall
    cases hcall
  obtain ⟨-, -, hsince⟩ := hvalidated (by rw [hshort]; exact hfirst)
  have hmiddle : refreshed = refreshed.take 1 ++ .request (.refresh 0) :: refreshed.drop 2 := rfl
  have hparts := hmoves
  rw [hmiddle] at hparts
  obtain ⟨f, hf, -⟩ := moveAll_append_ok.1 hparts
  exact ⟨e, f, ran, hmoves, hrun, hfirst, hf, hsince _ _ f hmiddle hf⟩

end Engine

end DisplayComposer
