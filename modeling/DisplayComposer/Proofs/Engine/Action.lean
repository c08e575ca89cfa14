import DisplayComposer.Engine.Basic
import DisplayComposer.Proofs.Hardware.Run
/-!
# DisplayComposer.Proofs.Engine.Action

**Actions and what they are made of.** An action that does not stop the program
did all of its parts one after the other, and reports what they reported, in this
order (`Action.bind_ok`). Everything that the engine does for a command is composed
of a few primitives, in the same way on all hardware (`Action.composed_command`); so
what the primitives keep, every command keeps, whatever the hardware answers.

* `Action.bind_ok` and an equation for each primitive;
* `Action.settle`, `Action.protocol` — the two parts of a command;
* `Action.Composed` — what is made of the primitives;
* `Composed.reaches`, `counting`, `returns`, `logged` — what that gives;
* `Action.Keeps` — what is so after an action if it was so before.
-/

namespace DisplayComposer

namespace Engine

variable {σ ρ : Type}

/-- An engine with another count of batches. -/
def counting (n : Nat) (e : Engine σ ρ) : Engine σ ρ := { e with batches := n }

/-- An engine whose hardware keeps a log. -/
def logged (log : List Event) (e : Engine σ ρ) : Engine (Logged σ) ρ :=
  ⟨⟨e.hardware, log⟩, e.resources, e.states, e.batches⟩

/-- The calls that were made on the way from one state to another. -/
def calls (e f : Engine (Logged σ) ρ) : List Event := f.hardware.log.drop e.hardware.log.length

theorem calls_eq {e f : Engine (Logged σ) ρ} {events : List Event}
    (h : f.hardware.log = e.hardware.log ++ events) : e.calls f = events := by
  rw [calls, h, List.drop_left]

theorem presentState_setState (e : Engine σ ρ) (display other : DisplayId) (s : PresentState) :
    (e.setState display s).presentState other =
      if display = other then s else e.presentState other := by
  rw [presentState, presentState, setState, Table.get?_insert]
  split <;> rfl

end Engine

namespace Action

variable {σ ρ α β : Type}

/-! ### Running parts one after the other -/

theorem bind_eq (x : Action σ ρ α) (f : α → Action σ ρ β) (e : Engine σ ρ) :
    (x >>= f) e = (x e).bind fun first => (f first.value first.engine).map fun second =>
      { second with entries := first.entries ++ second.entries } := rfl

theorem bind_ok {x : Action σ ρ α} {f : α → Action σ ρ β} {e : Engine σ ρ} {ran : Ran σ ρ β} :
    (x >>= f) e = .ok ran ↔
      ∃ first second, x e = .ok first ∧ f first.value first.engine = .ok second ∧
        ran = { second with entries := first.entries ++ second.entries } := by
  rw [bind_eq, Except.bind_eq_ok_iff]
  constructor
  · rintro ⟨first, hfirst, hrest⟩
    obtain ⟨second, hsecond, rfl⟩ := Except.map_eq_ok_iff.1 hrest
    exact ⟨first, second, hfirst, hsecond, rfl⟩
  · rintro ⟨first, second, hfirst, hsecond, rfl⟩
    exact ⟨first, hfirst, Except.map_eq_ok_iff.2 ⟨second, hsecond, rfl⟩⟩

instance : LawfulMonad (Action σ ρ) := LawfulMonad.mk' (Action σ ρ)
  (by
    intro α x
    funext e
    show (x e >>= fun first => Except.ok (Ran.mk first.value (first.entries ++ []) first.engine))
      = x e
    cases x e with
    | error crash => rfl
    | ok first => simp [bind, Except.bind])
  (by
    intro α β a f
    funext e
    show (f a e >>= fun second => Except.ok (Ran.mk second.value ([] ++ second.entries)
      second.engine)) = f a e
    cases f a e <;> rfl)
  (by
    intro α β γ x f g
    funext e
    cases hx : x e with
    | error crash => simp [bind, Except.bind, hx]
    | ok first =>
      cases hf : f first.value first.engine with
      | error crash => simp [bind, Except.bind, hx, hf]
      | ok second =>
        cases hg : g second.value second.engine with
        | error crash => simp [bind, Except.bind, hx, hf, hg]
        | ok third => simp [bind, Except.bind, hx, hf, hg])

/-! ### The parts of a command -/

/-- An action, on a condition. -/
def onlyIf (b : Bool) (x : Action σ ρ Unit) : Action σ ρ Unit := if b then x else pure ()

@[simp] theorem onlyIf_true (x : Action σ ρ Unit) : onlyIf true x = x := rfl

@[simp] theorem onlyIf_false (x : Action σ ρ Unit) : onlyIf false x = pure () := rfl

theorem onlyIf_bind (b : Bool) (x : Action σ ρ Unit) (next : Unit → Action σ ρ α) :
    (onlyIf b x >>= next) = if b then x >>= next else next () := by
  cases b
  · exact pure_bind () next
  · rfl

section Parts

variable [Hardware σ] [Resources ρ]

/-- What a command sets, and that its display has to be validated for it. -/
def settle (c : DisplayCommand) : Action σ ρ Unit := do
  each (applySetting c.display) c.settings
  onlyIf (!c.settings.isEmpty) (setState c.display .unvalidated)

/-- What a command does about validating and presenting. -/
def protocol (c : DisplayCommand) : Action σ ρ Unit := do
  onlyIf c.validate do
    expectPresent c.display c.expectedPresentTime
    let _ ← validate c.display
  onlyIf c.accept (accept c.display)
  onlyIf c.present do reportFailure (← present c.display)
  onlyIf c.presentOrValidate (presentOrValidate c.display c.expectedPresentTime)

/-- What present-or-validate does with the outcome of a validation. -/
def afterValidation (display : DisplayId) : Except HardwareError Validation → Action σ ρ Unit
  | .error _ => pure ()
  | .ok v => do
    if ← clientMustAct display v then report (.presentOrValidate .validated)
    else
      accept display
      if succeeded (← present display) then report (.presentOrValidate .presented)

theorem command_eq (c : DisplayCommand) :
    (command c : Action σ ρ Unit) = settle c >>= fun _ => protocol c := by
  simp only [settle, protocol, onlyIf_bind, bind_assoc, pure_bind]
  rfl

end Parts

/-! ### What the primitives do -/

section Primitives

variable {e : Engine σ ρ}

theorem perform_eq [Hardware σ] (call : Call) (e : Engine σ ρ) :
    perform call e = (Hardware.perform call e.hardware).map fun r =>
      ⟨r.1, [], { e with hardware := r.2 }⟩ := by
  show (Hardware.perform call e.hardware).bind _ = _
  cases Hardware.perform call e.hardware <;> rfl

theorem perform_ok [Hardware σ] {call : Call} {ran : Ran σ ρ (Except HardwareError call.Answer)} :
    perform call e = .ok ran ↔
      ∃ hardware, Hardware.perform call e.hardware = .ok (ran.value, hardware) ∧
        ran.entries = [] ∧ ran.engine = { e with hardware } := by
  rw [perform_eq, Except.map_eq_ok_iff]
  constructor
  · rintro ⟨r, hrun, rfl⟩
    exact ⟨r.2, hrun, rfl, rfl⟩
  · rintro ⟨hardware, hrun, hentries, hengine⟩
    refine ⟨(ran.value, hardware), hrun, ?_⟩
    rw [← hentries, ← hengine]

theorem resolve_eq (ref : ImageRef) (e : Engine σ Cache) :
    resolve ref e = .ok (match e.resources.resolve ref with
      | .ok (r, resources) => ⟨.ok r, [], { e with resources }⟩
      | .error refusal => ⟨.error refusal, [], e⟩) := by
  show Except.ok (Ran.mk (e.resources.orKeep (e.resources.resolve ref)).1 []
    { e with resources := (e.resources.orKeep (e.resources.resolve ref)).2 }) = _
  cases e.resources.resolve ref <;> rfl

/-- What is reported of the outcome of a call. -/
def failures : Except HardwareError α → List Entry
  | .ok _ => []
  | .error failure => [.error failure]

theorem reportFailure_eq (outcome : Except HardwareError α) :
    (reportFailure outcome : Action σ ρ Unit) e = .ok ⟨(), failures outcome, e⟩ := by
  cases outcome <;> rfl

end Primitives

/-! ### Composed actions -/

variable {τ : Type} [Hardware σ] [Hardware τ] [Resources ρ]

/-- Actions that are made of the same primitives in the same way, each on hardware
of its own. -/
inductive Composed : {α : Type} → Action σ ρ α → Action τ ρ α → Prop where
  | pure {α : Type} (a : α) : Composed (Pure.pure a) (Pure.pure a)
  | bind {α β : Type} {x : Action σ ρ α} {y : Action τ ρ α} {f : α → Action σ ρ β}
      {g : α → Action τ ρ β} :
      Composed x y → (∀ a, Composed (f a) (g a)) → Composed (x >>= f) (y >>= g)
  | perform (call : Call) : Composed (perform call) (perform call)
  | resolve (ref : ImageRef) : Composed (resolve ref) (resolve ref)
  | release (images : List Image) : Composed (release images) (release images)
  | mustValidate (display : DisplayId) : Composed (mustValidate display) (mustValidate display)
  | clearMustValidate (display : DisplayId) :
      Composed (clearMustValidate display) (clearMustValidate display)
  | setState (display : DisplayId) (state : PresentState) :
      Composed (setState display state) (setState display state)
  | report (entry : Entry) : Composed (report entry) (report entry)

theorem composed_onlyIf {b : Bool} {x : Action σ ρ Unit} {y : Action τ ρ Unit}
    (hxy : Composed x y) : Composed (onlyIf b x) (onlyIf b y) := by
  cases b with
  | true => exact hxy
  | false => exact .pure ()

theorem composed_reportFailure (outcome : Except HardwareError α) :
    Composed (reportFailure outcome : Action σ ρ _) (reportFailure outcome : Action τ ρ _) := by
  cases outcome with
  | ok _ => exact .pure ()
  | error failure => exact .report _

theorem composed_each {f : α → Action σ ρ Unit} {g : α → Action τ ρ Unit}
    (hfg : ∀ a, Composed (f a) (g a)) (as : List α) : Composed (each f as) (each g as) := by
  induction as with
  | nil => exact .pure ()
  | cons a rest ih => exact .bind (hfg a) fun _ => ih

theorem composed_applySetting (display : DisplayId) (setting : Setting ImageRef) :
    Composed (applySetting display setting : Action σ ρ _)
      (applySetting display setting : Action τ ρ _) := by
  cases setting with
  | property p => exact .bind (.perform _) composed_reportFailure
  | image use ref =>
    refine .bind (.resolve ref) fun found => ?_
    cases found with
    | error refusal => exact .report _
    | ok r =>
      refine .bind (.perform _) fun outcome => ?_
      exact .bind (.release _) fun _ => composed_reportFailure outcome

theorem composed_expectPresent (display : DisplayId) (time : Option Timestamp) :
    Composed (expectPresent display time : Action σ ρ _)
      (expectPresent display time : Action τ ρ _) :=
  .bind (.perform _) fun _ => .pure ()

theorem composed_validate (display : DisplayId) :
    Composed (validate display : Action σ ρ _) (validate display : Action τ ρ _) := by
  refine .bind (.clearMustValidate _) fun _ => .bind (.perform _) fun outcome => ?_
  cases outcome with
  | error failure => exact .bind (.report _) fun _ => .bind (.setState _ _) fun _ => .pure _
  | ok v =>
    refine .bind (.setState _ _) fun _ => .bind (.report _) fun _ => ?_
    exact .bind (.report _) fun _ => .bind (.report _) fun _ => .pure _

theorem composed_accept (display : DisplayId) :
    Composed (accept display : Action σ ρ _) (accept display : Action τ ρ _) :=
  .bind (.perform _) composed_reportFailure

omit [Hardware τ] [Resources ρ] in
theorem present_eq_onlyIf (display : DisplayId) :
    (present display : Action σ ρ _) = do
      let outcome ← perform (.present display)
      match outcome with
      | .error _ => setState display .failed
      | .ok p =>
        onlyIf p.presentFence.isValid (report (.presentFence p.presentFence))
        report (.releaseFences p.releaseFences)
        setState display .presented
      return outcome := by
  rw [present]
  congr 1
  funext outcome
  cases outcome with
  | error failure => rfl
  | ok p => simp only [onlyIf_bind]

theorem composed_present (display : DisplayId) :
    Composed (present display : Action σ ρ _) (present display : Action τ ρ _) := by
  rw [present_eq_onlyIf, present_eq_onlyIf]
  refine .bind (.perform _) fun outcome => ?_
  cases outcome with
  | error failure => exact .bind (.setState _ _) fun _ => .pure _
  | ok p =>
    refine .bind (composed_onlyIf (.report _)) fun _ => .bind (.report _) fun _ => ?_
    exact .bind (.setState _ _) fun _ => .pure _

theorem composed_presentDirectly (display : DisplayId) :
    Composed (presentDirectly display : Action σ ρ _) (presentDirectly display : Action τ ρ _) := by
  refine .bind (.mustValidate _) fun must => ?_
  cases must with
  | true => exact .pure false
  | false => exact .bind (composed_present display) fun _ => .pure _

theorem composed_clientMustAct (display : DisplayId) (v : Validation) :
    Composed (clientMustAct display v : Action σ ρ _)
      (clientMustAct display v : Action τ ρ _) := by
  rw [clientMustAct, clientMustAct]
  cases v.hasChanges with
  | true => exact .pure true
  | false =>
    refine .bind (.perform _) fun outcome => ?_
    cases outcome <;> exact .pure _

theorem composed_afterValidation (display : DisplayId)
    (outcome : Except HardwareError Validation) :
    Composed (afterValidation display outcome : Action σ ρ _)
      (afterValidation display outcome : Action τ ρ _) := by
  cases outcome with
  | error failure => exact .pure ()
  | ok v =>
    refine .bind (composed_clientMustAct display v) fun acts => ?_
    cases acts with
    | true => exact .report _
    | false =>
      refine .bind (composed_accept display) fun _ => .bind (composed_present display) ?_
      intro outcome
      cases outcome with
      | ok p => exact .report _
      | error failure => exact .pure ()

theorem composed_presentOrValidate (display : DisplayId) (time : Option Timestamp) :
    Composed (presentOrValidate display time : Action σ ρ _)
      (presentOrValidate display time : Action τ ρ _) := by
  refine .bind (composed_expectPresent display time) fun _ =>
    .bind (composed_presentDirectly display) fun presented => ?_
  cases presented with
  | true => exact .report _
  | false => exact .bind (composed_validate display) (composed_afterValidation display)

theorem composed_settle (c : DisplayCommand) :
    Composed (settle c : Action σ ρ _) (settle c : Action τ ρ _) :=
  .bind (composed_each (composed_applySetting c.display) c.settings) fun _ =>
    composed_onlyIf (.setState _ _)

/-- **Everything that the engine does for a command is made of the primitives,** in
a way that does not depend on the hardware. -/
theorem composed_command (c : DisplayCommand) :
    Composed (command c : Action σ ρ _) (command c : Action τ ρ _) := by
  rw [command_eq, command_eq]
  refine .bind (composed_settle c) fun _ => .bind (composed_onlyIf ?_) fun _ =>
    .bind (composed_onlyIf ?_) fun _ => .bind (composed_onlyIf ?_) fun _ => composed_onlyIf ?_
  · refine .bind (composed_expectPresent _ _) fun _ => ?_
    exact .bind (composed_validate _) fun _ => .pure ()
  · exact composed_accept _
  · exact .bind (composed_present _) composed_reportFailure
  · exact composed_presentOrValidate _ _

/-! ### What composed actions keep -/

namespace Composed

/-- An action touches the hardware by calls only. -/
theorem reaches {x : Action σ ρ α} {y : Action τ ρ α} (hxy : Composed x y) {e : Engine σ ρ}
    {ran : Ran σ ρ α} (hrun : x e = .ok ran) :
    Hardware.Reaches e.hardware ran.engine.hardware := by
  induction hxy generalizing e with
  | bind _ _ ihx ihf =>
    obtain ⟨first, second, hfirst, hsecond, rfl⟩ := bind_ok.1 hrun
    have hnext := ihf first.value hsecond
    exact (ihx hfirst).trans hnext
  | perform call =>
    obtain ⟨hardware, hcall, -, hengine⟩ := perform_ok.1 hrun
    rw [hengine]
    exact .call .refl hcall
  | _ =>
    -- no other primitive makes calls
    obtain rfl := Except.ok.inj hrun
    exact .refl

/-- What an action does has nothing to do with the count of batches. -/
theorem counting {x : Action σ ρ α} {y : Action τ ρ α} (hxy : Composed x y) (n : Nat)
    (e : Engine σ ρ) :
    x (e.counting n) = (x e).map fun ran => { ran with engine := ran.engine.counting n } := by
  induction hxy generalizing e with
  | @bind _ _ x _ f _ _ _ ihx ihf =>
    rw [bind_eq, bind_eq, ihx]
    cases hfirst : x e with
    | error crash => rfl
    | ok first =>
      show (f first.value (first.engine.counting n)).map _ = ((f _ _).map _).map _
      rw [ihf]
      cases f first.value first.engine <;> rfl
  | perform call =>
    show (Hardware.perform call e.hardware).bind _ =
      ((Hardware.perform call e.hardware).bind _).map _
    cases Hardware.perform call e.hardware <;> rfl
  | _ => rfl

/-- An action returns if the hardware does. -/
theorem returns (hardware : ∀ (call : Call) (s : σ), ∃ r, Hardware.perform call s = .ok r)
    {x : Action σ ρ α} {y : Action τ ρ α} (hxy : Composed x y) (e : Engine σ ρ) :
    ∃ ran, x e = .ok ran := by
  induction hxy generalizing e with
  | bind _ _ ihx ihf =>
    obtain ⟨first, hfirst⟩ := ihx e
    obtain ⟨second, hsecond⟩ := ihf first.value first.engine
    exact ⟨_, bind_ok.2 ⟨first, second, hfirst, hsecond, rfl⟩⟩
  | perform call =>
    obtain ⟨r, hr⟩ := hardware call e.hardware
    exact ⟨⟨r.1, [], { e with hardware := r.2 }⟩, perform_ok.2 ⟨r.2, hr, rfl, rfl⟩⟩
  | _ => exact ⟨_, rfl⟩

/-- An action does the same on hardware that keeps a log. -/
theorem logged_eq {x : Action σ ρ α} {y : Action (Logged σ) ρ α} (hxy : Composed x y)
    (e : Engine σ ρ) (log : List Event) :
    ∃ more, y (e.logged log) =
      (x e).map fun ran => ⟨ran.value, ran.entries, ran.engine.logged more⟩ := by
  induction hxy generalizing e log with
  | @bind _ _ x _ f g _ _ ihx ihf =>
    obtain ⟨between, hfirst⟩ := ihx e log
    cases hx : x e with
    | error crash =>
      refine ⟨log, ?_⟩
      rw [bind_eq, bind_eq, hfirst, hx]
      rfl
    | ok first =>
      obtain ⟨more, hsecond⟩ := ihf first.value first.engine between
      refine ⟨more, ?_⟩
      rw [bind_eq, bind_eq, hfirst, hx]
      show (g first.value (first.engine.logged between)).map _ = ((f _ _).map _).map _
      rw [hsecond]
      cases f first.value first.engine <;> rfl
  | perform call =>
    have hlogged := Logged.perform_eq call e.hardware
    cases hcall : Hardware.perform call e.hardware with
    | error crash =>
      refine ⟨log, ?_⟩
      rw [perform_eq, perform_eq, hcall]
      show (Hardware.perform call (Logged.mk e.hardware log)).map _ = _
      rw [hlogged, hcall]
      rfl
    | ok r =>
      refine ⟨log ++ [⟨call, r.1⟩], ?_⟩
      rw [perform_eq, perform_eq, hcall]
      show (Hardware.perform call (Logged.mk e.hardware log)).map _ = _
      rw [hlogged, hcall]
      rfl
  | _ =>
    -- nothing else writes to the log
    exact ⟨log, rfl⟩

theorem logged {x : Action σ ρ α} {y : Action (Logged σ) ρ α} (hxy : Composed x y)
    {e : Engine σ ρ} {ran : Ran σ ρ α} (hrun : x e = .ok ran) (log : List Event) :
    ∃ more, y (e.logged log) = .ok ⟨ran.value, ran.entries, ran.engine.logged more⟩ := by
  obtain ⟨more, hmore⟩ := hxy.logged_eq e log
  rw [hrun] at hmore
  exact ⟨more, hmore⟩

end Composed

/-! ### What actions keep -/

section Keeps

variable {P : Engine σ ρ → Prop}

/-- What an action keeps. -/
def Keeps (P : Engine σ ρ → Prop) (x : Action σ ρ α) : Prop :=
  ∀ e ran, P e → x e = .ok ran → P ran.engine

omit [Hardware σ] [Resources ρ] in
theorem Keeps.bind {x : Action σ ρ α} {f : α → Action σ ρ β} (hx : x.Keeps P)
    (hf : ∀ a, (f a).Keeps P) : (x >>= f).Keeps P := by
  intro e ran he hrun
  obtain ⟨first, second, hfirst, hsecond, rfl⟩ := bind_ok.1 hrun
  exact hf first.value first.engine second (hx e first he hfirst) hsecond

omit [Hardware σ] [Resources ρ] in
theorem keeps_pure (a : α) : (pure a : Action σ ρ α).Keeps P := by
  intro e ran he hrun
  obtain rfl := Except.ok.inj hrun
  exact he

omit [Hardware σ] [Resources ρ] in
theorem keeps_report (entry : Entry) : (report entry : Action σ ρ Unit).Keeps P := by
  intro e ran he hrun
  obtain rfl := Except.ok.inj hrun
  exact he

omit [Hardware σ] [Resources ρ] in
theorem keeps_onlyIf {b : Bool} {x : Action σ ρ Unit} (hx : x.Keeps P) :
    (onlyIf b x).Keeps P := by
  cases b with
  | true => exact hx
  | false => exact keeps_pure ()

omit [Hardware σ] [Resources ρ] in
theorem keeps_reportFailure (outcome : Except HardwareError α) :
    (reportFailure outcome : Action σ ρ Unit).Keeps P := by
  cases outcome with
  | ok a => exact keeps_pure ()
  | error failure => exact keeps_report _

omit [Hardware σ] [Resources ρ] in
theorem keeps_each {f : α → Action σ ρ Unit} {as : List α} (hf : ∀ a ∈ as, (f a).Keeps P) :
    (each f as).Keeps P := by
  induction as with
  | nil => exact keeps_pure ()
  | cons a rest ih =>
    have hfirst := hf a (List.mem_cons_self ..)
    exact hfirst.bind fun _ => ih fun b hb => hf b (List.mem_cons_of_mem _ hb)

end Keeps

end Action

end DisplayComposer
