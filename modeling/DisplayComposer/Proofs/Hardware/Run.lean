import DisplayComposer.Hardware.Log
/-!
# DisplayComposer.Proofs.Hardware.Run

**Runs of calls.** A state is reached from another if some sequence of calls, with
any arguments and whatever comes of them, leads there without stopping the
program. The calls of a run are in the log, when there is one: a logged run is a
run of the hardware below it, and every run can be logged.

* `Hardware.Reaches`, `Hardware.after` — runs of calls;
* `Logged.perform_ok` — a logged call, and the call below it;
* `Hardware.Reaches.unlogged`, `Hardware.Reaches.logged` — between the two.
-/

namespace DisplayComposer

/-- What calls make of a state. -/
inductive Hardware.Reaches {σ : Type} [Hardware σ] (s : σ) : σ → Prop where
  | refl : Reaches s s
  /-- One more call at the end. -/
  | call {t u : σ} {c : Call} {out : Except HardwareError c.Answer} :
      Reaches s t → Hardware.perform c t = .ok (out, u) → Reaches s u

variable {σ : Type} [Hardware σ]

/-- The state after some calls, up to one that would stop the program. -/
def Hardware.after : List Call → σ → σ
  | [], s => s
  | c :: rest, s =>
    match Hardware.perform c s with
    | .ok (_, t) => after rest t
    | .error _ => s

namespace Hardware.Reaches

theorem trans {s t u : σ} (hst : Reaches s t) (htu : Reaches t u) : Reaches s u := by
  induction htu with
  | refl => exact hst
  | call _ hrun ih => exact .call ih hrun

theorem after (calls : List Call) (s : σ) : Reaches s (Hardware.after calls s) := by
  induction calls generalizing s with
  | nil => exact .refl
  | cons c rest ih =>
    rw [Hardware.after]
    cases hrun : Hardware.perform c s with
    | error crash => exact .refl
    | ok r => exact (Reaches.call .refl hrun).trans (ih r.2)

/-- What every call keeps, a run keeps. -/
theorem invariant {P : σ → Prop} {s t : σ} (hst : Reaches s t)
    (hstep : ∀ {c : Call} {s t : σ} {out : Except HardwareError c.Answer},
      P s → Hardware.perform c s = .ok (out, t) → P t) (hs : P s) : P t := by
  induction hst with
  | refl => exact hs
  | call _ hrun ih => exact hstep ih hrun

end Hardware.Reaches

/-! ### Logs -/

namespace Logged

/-- Whether or not it returns, a logged call does what the call does. -/
theorem perform_eq (c : Call) (s : σ) (log : List Event) :
    Hardware.perform c (Logged.mk s log) =
      (Hardware.perform c s).map fun r => (r.1, ⟨r.2, log ++ [⟨c, r.1⟩]⟩) := by
  show (Hardware.perform c s).bind _ = _
  cases Hardware.perform c s <;> rfl

/-- A logged call is a call of the hardware, written down at the end of the log. -/
theorem perform_ok {c : Call} {s t : Logged σ} {out : Except HardwareError c.Answer} :
    Hardware.perform c s = .ok (out, t) ↔
      Hardware.perform c s.hardware = .ok (out, t.hardware) ∧ t.log = s.log ++ [⟨c, out⟩] := by
  show ((Hardware.perform c s.hardware).bind fun r =>
    .ok (r.1, Logged.mk r.2 (s.log ++ [⟨c, r.1⟩]))) = .ok (out, t) ↔ _
  rw [Except.bind_eq_ok_iff]
  constructor
  · rintro ⟨r, hrun, hlogged⟩
    cases hlogged
    exact ⟨hrun, rfl⟩
  · rintro ⟨hrun, hlog⟩
    refine ⟨(out, t.hardware), hrun, ?_⟩
    rw [← hlog]

theorem perform_of_ok {c : Call} {s : Logged σ} {t : σ} {out : Except HardwareError c.Answer}
    (hrun : Hardware.perform c s.hardware = .ok (out, t)) :
    Hardware.perform c s = .ok (out, ⟨t, s.log ++ [⟨c, out⟩]⟩) :=
  perform_ok.2 ⟨hrun, rfl⟩

end Logged

namespace Hardware.Reaches

/-- A logged run is a run of the hardware. -/
theorem unlogged {s t : Logged σ} (hst : Reaches s t) : Reaches s.hardware t.hardware := by
  induction hst with
  | refl => exact .refl
  | call _ hrun ih => exact .call ih (Logged.perform_ok.1 hrun).1

/-- What was logged stays logged. -/
theorem log_extends {s t : Logged σ} (hst : Reaches s t) : s.log <+: t.log := by
  induction hst with
  | refl => exact List.prefix_refl _
  | call _ hrun ih =>
    rw [(Logged.perform_ok.1 hrun).2]
    exact ih.trans (List.prefix_append _ _)

/-- Every run of the hardware can be logged. -/
theorem logged {s t : σ} (hst : Reaches s t) (log : List Event) :
    ∃ more, Reaches (Logged.mk s log) ⟨t, more⟩ := by
  induction hst with
  | refl => exact ⟨log, .refl⟩
  | call _ hrun ih =>
    obtain ⟨more, hmore⟩ := ih
    exact ⟨_, .call hmore (Logged.perform_ok.2 ⟨hrun, rfl⟩)⟩

end Hardware.Reaches

end DisplayComposer
