import DisplayComposer.Proofs.Engine.Moves
import DisplayComposer.Proofs.Hardware.Presenting
/-!
# DisplayComposer.Proofs.Engine.Note

**The note that a display has to be validated.** The cache keeps it, and the engine hardly
ever touches it: a validation takes it away, a refresh puts it back, and nothing else says
anything about it. So whatever is only about the hardware and this note (`Engine.OfNote`) is
kept by commands and requests if it is kept by the calls that they make, by validations and
by refreshes.

* `Request.unsettled?` — the display whose layers or note a request changes;
* `Engine.OfNote` — what is about the hardware and the note of a display;
* `OfNote.keeps_command`, `OfNote.keeps_request` — what is left to be shown of it;
* `Action.resources_presentOrValidate` — what present-or-validate makes of the cache.
-/

namespace DisplayComposer

/-- The display whose layers come or go with a request, or that it has validated again. -/
def Request.unsettled? : Request → Option DisplayId
  | .execute _ => none
  | .createLayer display _ | .destroyLayer display _ | .refresh display => some display

variable {σ : Type} {display : DisplayId}

/-- What is about the hardware and the note of a display, and nothing else. -/
def Engine.OfNote (display : DisplayId) (P : Engine σ Cache → Prop) : Prop :=
  ∀ e e' : Engine σ Cache, P e → e'.hardware = e.hardware →
    e'.resources.mustValidate display = e.resources.mustValidate display → P e'

namespace Engine.OfNote

open DisplayComposer.Action

variable {P : Engine σ Cache → Prop} (hP : OfNote display P)

include hP

theorem keeps_setState (other : DisplayId) (s : PresentState) :
    (Action.setState other s : Action σ Cache Unit).Keeps P := by
  intro e ran he hrun
  obtain rfl := Except.ok.inj hrun
  exact hP e _ he rfl rfl

/-- An image that is found is none of the note's business. -/
theorem keeps_resolve (ref : ImageRef) : (resolve ref : Action σ Cache _).Keeps P := by
  intro e ran he hrun
  rw [resolve_eq] at hrun
  obtain rfl := Except.ok.inj hrun
  cases hfound : e.resources.resolve ref with
  | error refusal => exact he
  | ok found => exact hP e _ he rfl ((Cache.resolve_cases hfound).mustValidate display)

theorem keeps_release (images : List Image) : (release images : Action σ Cache Unit).Keeps P := by
  intro e ran he hrun
  obtain rfl := Except.ok.inj hrun
  exact hP e _ he rfl rfl

variable [Hardware σ]

/-- The calls of the protocol do not unsettle the display. -/
theorem partsKeep {other : DisplayId}
    (hquiet : ∀ call : Call, call.unsettles = false → (perform call : Action σ Cache _).Keeps P)
    (hvalidate : (validate other : Action σ Cache _).Keeps P) : PartsKeep other P where
  expectPresent _ := keeps_expectPresent (hquiet _ rfl)
  validate := hvalidate
  accept := keeps_accept (hquiet _ rfl)
  present := keeps_present (hquiet _ rfl) (hP.keeps_setState other)
  clientMustAct _ := keeps_clientMustAct (hquiet _ rfl)

/-- **What a command keeps** of the note: what the calls that set something keep, and a
validation. -/
theorem keeps_command {c : DisplayCommand}
    (hset : ∀ s ∈ c.settings, ∀ f, (perform (.set c.display (s.map f)) : Action σ Cache _).Keeps P)
    (hquiet : ∀ call : Call, call.unsettles = false → (perform call : Action σ Cache _).Keeps P)
    (hvalidate : (validate c.display : Action σ Cache _).Keeps P) :
    (command c : Action σ Cache Unit).Keeps P := by
  have hsettings : ∀ s ∈ c.settings, (applySetting c.display s : Action σ Cache Unit).Keeps P :=
    fun s hs => keeps_applySetting (hset s hs) hP.keeps_resolve hP.keeps_release
  exact Action.keeps_command (keeps_settle hsettings (hP.keeps_setState _ _))
    (hP.partsKeep hquiet hvalidate)

/-- **What a request keeps** of the note: what the calls about its display keep, and a
refresh. -/
theorem keeps_request {request : Request} {reply : Reply} {e e' : Engine σ Cache} (he : P e)
    (hno : ∀ commands, request ≠ .execute commands)
    (hcalls : ∀ call : Call, request.unsettled? = some call.display →
      (perform call : Action σ Cache _).Keeps P)
    (hrefresh : ∀ other, request = .refresh other → P (e.refresh other))
    (hrun : e.handle request = .ok (reply, e')) : P e' := by
  have hcall : ∀ {call : Call} {out : Except HardwareError call.Answer} {f : Engine σ Cache}
      {hardware : σ}, request.unsettled? = some call.display → P f →
        Hardware.perform call f.hardware = .ok (out, hardware) → P { f with hardware } :=
    fun {call} out f hardware hdisplay hf hcall =>
      hcalls call hdisplay f ⟨out, [], _⟩ hf (perform_ok.2 ⟨hardware, hcall, rfl, rfl⟩)
  cases handle_cases hrun with
  | executed => exact absurd rfl (hno _)
  | created hcreate hadd =>
    exact hP _ _ (hcall rfl he hcreate) rfl (Cache.mustValidate_addLayer hadd display)
  | notCreated hcreate => exact hcall rfl he hcreate
  | @withdrawn _ _ _ _ hardware _ _ hcreate hadd hdestroy =>
    exact hcall (f := { e with hardware }) rfl (hcall rfl he hcreate) hdestroy
  | destroyed hdestroy hremove =>
    refine hP _ _ (hcall rfl he hdestroy) rfl ?_
    rcases hremove with hremove | ⟨rfl, -⟩
    · exact Cache.mustValidate_removeLayer hremove display
    · rfl
  | notDestroyed hdestroy => exact hcall rfl he hdestroy
  | @refreshed other => exact hrefresh other rfl

end Engine.OfNote

/-! ### The protocol -/

namespace Action

variable [Hardware σ]

/-- Of the parts of the protocol only a validation touches the cache, and that takes the note
away. -/
theorem settled_partsKeep (cache : Cache) : PartsKeep display
    fun e : Engine σ Cache => e.resources = cache.setMustValidate display false := by
  have hcall : ∀ call : Call, (perform call : Action σ Cache _).Keeps
      fun e => e.resources = cache.setMustValidate display false := by
    intro call e ran he hrun
    obtain ⟨hardware, -, -, hengine⟩ := perform_ok.1 hrun
    rw [hengine]
    exact he
  have hstate : ∀ s, (setState display s : Action σ Cache Unit).Keeps
      fun e => e.resources = cache.setMustValidate display false := by
    intro s e ran he hrun
    obtain rfl := Except.ok.inj hrun
    exact he
  refine ⟨fun _ => keeps_expectPresent (hcall _), ?_, keeps_accept (hcall _),
    keeps_present (hcall _) hstate, fun _ => keeps_clientMustAct (hcall _)⟩
  intro e ran he hrun
  rw [validate_eq] at hrun
  obtain ⟨r, -, rfl⟩ := Except.map_eq_ok_iff.1 hrun
  show e.resources.setMustValidate display false = _
  rw [he, Cache.setMustValidate_setMustValidate]

/-- **Present-or-validate takes the note away** if it is there, and does nothing else to the
cache. -/
theorem resources_presentOrValidate {time : Option Timestamp} {e : Engine σ Cache}
    {ran : Ran σ Cache Unit} (hrun : presentOrValidate display time e = .ok ran) :
    ran.engine.resources = e.resources.setMustValidate display false := by
  have hparts : PartsKeep display fun f : Engine σ Cache =>
      f.resources = e.resources.setMustValidate display false := settled_partsKeep e.resources
  cases hmust : e.resources.mustValidate display with
  | false =>
    have he := (Cache.setMustValidate_of_mustValidate hmust).symm
    exact hparts.presentOrValidate time e ran he hrun
  | true =>
    rw [presentOrValidate_of_mustValidate hmust] at hrun
    obtain ⟨told, last, htold, hfallback, rfl⟩ := bind_ok.1 hrun
    rw [expectPresent_eq] at htold
    obtain ⟨r, -, rfl⟩ := Except.map_eq_ok_iff.1 htold
    rw [fallback_eq] at hfallback
    obtain ⟨validated, after, hvalidate, hafter, rfl⟩ := bind_ok.1 hfallback
    rw [validate_eq] at hvalidate
    obtain ⟨r', -, rfl⟩ := Except.map_eq_ok_iff.1 hvalidate
    exact hparts.afterValidation _ _ after rfl hafter

end Action

end DisplayComposer
