import DisplayComposer.Proofs.Engine.Backing
import DisplayComposer.Proofs.Engine.Protocol
import DisplayComposer.Proofs.Hardware.Local
/-!
# DisplayComposer.Proofs.Engine.Confined

**A command is about one display.** Whatever the engine does for a command is made of
primitives that are about the display of the command, and no layer is created or destroyed
for it. What comes up on the way can differ from one engine to another in the numbers that
were handed out for all displays together, the serial numbers of imports and the fences;
the steps of a command do not depend on them. Both are said by one relation between
actions, so what is to be known of a command is shown for its primitives.

* `Image.bare`, `Fence.bare`, `Entry.bare` — what is left without such numbers;
* `Action.Confined` — two actions that take the same steps for a display;
* `Action.confined_command` — every command, and itself.
-/

namespace DisplayComposer

/-! ### Without the numbers -/

def Entry.bare : Entry → Entry
  | .presentFence fence => .presentFence fence.bare
  | .releaseFences fences => .releaseFences (fences.map (·.bare))
  | entry => entry

/-- Calls that neither create nor destroy a layer. -/
def Call.steady : Call → Bool
  | .createLayer _ | .destroyLayer _ _ => false
  | _ => true

/-- The images that a command looks for are those of its display. -/
theorem DisplayCommand.aimed_of_mem_settings {c : DisplayCommand} {s : Setting ImageRef}
    (h : s ∈ c.settings) : s.Aimed c.display := by
  refine aimed_of_mem_agenda ?_
  rw [agenda, ← settings_eq, List.append_assoc]
  exact List.mem_append_left _ h

namespace Action

variable {σ ρ : Type} [Hardware σ] [Resources ρ] {α β : Type} {display : DisplayId}

/-! ### The same steps for a display -/

/-- Outcomes of a call that differ in the numbers of fences at most. -/
def SameOutcome (call : Call) (out out' : Except HardwareError call.Answer) : Prop :=
  out.map call.bare = out'.map call.bare

/-- The same refusal, or images from the same handle. -/
def SameFound (found found' : Except CacheError Resolution) : Prop :=
  found.map (·.image.bare) = found'.map (·.image.bare)

/-- Actions that take the same steps for a display. Their values are related. -/
inductive Confined (display : DisplayId) :
    {α β : Type} → (α → β → Prop) → Action σ ρ α → Action σ ρ β → Prop where
  | pure {α β : Type} {R : α → β → Prop} {a : α} {b : β} :
      R a b → Confined display R (Pure.pure a) (Pure.pure b)
  | bind {α β γ δ : Type} {Q : α → β → Prop} {R : γ → δ → Prop} {x : Action σ ρ α}
      {y : Action σ ρ β} {f : α → Action σ ρ γ} {g : β → Action σ ρ δ} :
      Confined display Q x y → (∀ a b, Q a b → Confined display R (f a) (g b)) →
        Confined display R (x >>= f) (y >>= g)
  | perform (call : Call) : call.display = display → call.steady = true →
      Confined display (SameOutcome call) (perform call) (perform call)
  | setImage (use : ImageUse) {image image' : Image} : image.bare = image'.bare →
      Confined display Eq (perform (.set display (.image use image)))
        (perform (.set display (.image use image')))
  | resolve (ref : ImageRef) : ref.scope.display = display →
      Confined display SameFound (resolve ref) (resolve ref)
  | release (images images' : List Image) :
      Confined display (fun _ _ => True) (release images) (release images')
  | mustValidate : Confined display Eq (mustValidate display) (mustValidate display)
  | clearMustValidate :
      Confined display (fun _ _ => True) (clearMustValidate display) (clearMustValidate display)
  | setState (state : PresentState) :
      Confined display (fun _ _ => True) (setState display state) (setState display state)
  | report {entry entry' : Entry} : entry.bare = entry'.bare →
      Confined display (fun _ _ => True) (report entry) (report entry')

/-! ### What a command sets -/

/-- Nothing is to be known of the value of an action that returns none. -/
abbrev Alike (display : DisplayId) (x y : Action σ ρ Unit) : Prop :=
  Confined display (fun _ _ => True) x y

theorem alike_onlyIf {b : Bool} {x y : Action σ ρ Unit} (h : Alike display x y) :
    Alike display (onlyIf b x) (onlyIf b y) := by
  cases b with
  | true => exact h
  | false => exact .pure trivial

theorem alike_reportFailure {out : Except HardwareError α} {out' : Except HardwareError β}
    (h : failures out = failures out') :
    Alike display (reportFailure out : Action σ ρ Unit) (reportFailure out') := by
  cases out with
  | ok a =>
    cases out' with
    | ok b => exact .pure trivial
    | error failure => cases h
  | error failure =>
    cases out' with
    | ok b => cases h
    | error failure' =>
      obtain rfl : failure = failure' := by simpa [failures] using h
      exact .report rfl

omit [Hardware σ] [Resources ρ] in
theorem failures_of_sameOutcome {call : Call} {out out' : Except HardwareError call.Answer}
    (h : SameOutcome call out out') : failures out = failures out' := by
  rcases Except.map_eq_map_cases h with ⟨failure, rfl, rfl⟩ | ⟨a, a', rfl, rfl, -⟩ <;> rfl

omit [Hardware σ] [Resources ρ] in
/-- All that is to be known of some outcomes is whether they are successes. -/
theorem succeeded_of_sameOutcome {call : Call} {out out' : Except HardwareError call.Answer}
    (h : SameOutcome call out out') : succeeded out = succeeded out' := by
  rcases Except.map_eq_map_cases h with ⟨failure, rfl, rfl⟩ | ⟨a, a', rfl, rfl, -⟩ <;> rfl

theorem alike_each {f g : α → Action σ ρ Unit} {as : List α}
    (h : ∀ a ∈ as, Alike display (f a) (g a)) : Alike display (each f as) (each g as) := by
  induction as with
  | nil => exact .pure trivial
  | cons a rest ih =>
    refine .bind (h a (List.mem_cons_self ..)) fun _ _ _ => ?_
    exact ih fun b hb => h b (List.mem_cons_of_mem _ hb)

theorem alike_applySetting {setting : Setting ImageRef} (h : setting.Aimed display) :
    Alike display (applySetting display setting : Action σ ρ Unit)
      (applySetting display setting) := by
  cases setting with
  | property p =>
    exact .bind (.perform _ rfl rfl) fun out out' hout =>
      alike_reportFailure (failures_of_sameOutcome hout)
  | image use ref =>
    refine .bind (.resolve ref h.1) fun found found' hfound => ?_
    rcases Except.map_eq_map_cases hfound with ⟨refusal, rfl, rfl⟩ | ⟨r, r', rfl, rfl, himage⟩
    · exact .report rfl
    · refine .bind (.setImage use himage) fun out out' hout => ?_
      refine .bind (.release _ _) fun _ _ _ => alike_reportFailure ?_
      rw [hout]

theorem alike_settle (c : DisplayCommand) :
    Alike c.display (settle c : Action σ ρ Unit) (settle c) :=
  .bind (alike_each fun _ hs => alike_applySetting (DisplayCommand.aimed_of_mem_settings hs))
    fun _ _ _ => alike_onlyIf (.setState _)

/-! ### The protocol -/

theorem alike_expectPresent (time : Option Timestamp) :
    Alike display (expectPresent display time : Action σ ρ Unit) (expectPresent display time) :=
  .bind (.perform _ rfl rfl) fun _ _ _ => .pure trivial

theorem confined_validate :
    Confined display Eq (validate display : Action σ ρ _) (validate display) := by
  refine .bind .clearMustValidate fun _ _ _ => .bind (.perform _ rfl rfl) fun out out' hout => ?_
  rcases Except.map_eq_map_cases hout with ⟨failure, rfl, rfl⟩ | ⟨v, v', rfl, rfl, hv⟩
  · exact .bind (.report rfl) fun _ _ _ => .bind (.setState _) fun _ _ _ => .pure rfl
  · obtain rfl : v = v' := hv
    refine .bind (.setState _) fun _ _ _ => .bind (.report rfl) fun _ _ _ => ?_
    exact .bind (.report rfl) fun _ _ _ => .bind (.report rfl) fun _ _ _ => .pure rfl

theorem alike_accept :
    Alike display (accept display : Action σ ρ Unit) (accept display) :=
  .bind (.perform _ rfl rfl) fun _ _ hout => alike_reportFailure (failures_of_sameOutcome hout)

theorem confined_present :
    Confined display (SameOutcome (.present display)) (present display : Action σ ρ _)
      (present display) := by
  rw [present_eq_onlyIf]
  refine .bind (.perform _ rfl rfl) fun out out' hout => ?_
  rcases Except.map_eq_map_cases hout with ⟨failure, rfl, rfl⟩ | ⟨p, p', rfl, rfl, hp⟩
  · exact .bind (.setState _) fun _ _ _ => .pure rfl
  · have hfence : p.presentFence.bare = p'.presentFence.bare :=
      congrArg Presentation.presentFence hp
    have hreleases : p.releaseFences.map (·.bare) = p'.releaseFences.map (·.bare) :=
      congrArg Presentation.releaseFences hp
    dsimp only
    rw [Fence.isValid_of_bare hfence]
    refine .bind (alike_onlyIf (.report (congrArg Entry.presentFence hfence))) fun _ _ _ => ?_
    refine .bind (.report (congrArg Entry.releaseFences hreleases)) fun _ _ _ => ?_
    exact .bind (.setState _) fun _ _ _ => .pure hout

theorem confined_presentDirectly :
    Confined display Eq (presentDirectly display : Action σ ρ Bool) (presentDirectly display) := by
  refine .bind .mustValidate fun must must' hmust => ?_
  obtain rfl := hmust
  cases must with
  | true => exact .pure rfl
  | false =>
    exact .bind confined_present fun _ _ hout => .pure (succeeded_of_sameOutcome hout)

theorem confined_clientMustAct (v : Validation) :
    Confined display Eq (clientMustAct display v : Action σ ρ Bool) (clientMustAct display v) := by
  rw [clientMustAct]
  cases v.hasChanges with
  | true => exact .pure rfl
  | false =>
    refine .bind (.perform _ rfl rfl) fun out out' hout => ?_
    rcases Except.map_eq_map_cases hout with ⟨failure, rfl, rfl⟩ | ⟨uses, uses', rfl, rfl, huses⟩
    · exact .pure rfl
    · exact .pure huses

theorem alike_presentOrValidate (time : Option Timestamp) :
    Alike display (presentOrValidate display time : Action σ ρ Unit)
      (presentOrValidate display time) := by
  refine .bind (alike_expectPresent time) fun _ _ _ =>
    .bind confined_presentDirectly fun presented presented' hpresented => ?_
  obtain rfl := hpresented
  cases presented with
  | true => exact .report rfl
  | false =>
    refine .bind confined_validate fun outcome outcome' houtcome => ?_
    obtain rfl := houtcome
    cases outcome with
    | error failure => exact .pure trivial
    | ok v =>
      refine .bind (confined_clientMustAct v) fun acts acts' hacts => ?_
      obtain rfl := hacts
      cases acts with
      | true => exact .report rfl
      | false =>
        refine .bind alike_accept fun _ _ _ => .bind confined_present fun out out' hout => ?_
        rw [succeeded_of_sameOutcome hout]
        cases succeeded out' with
        | true => exact .report rfl
        | false => exact .pure trivial

/-- **A command is about its own display,** and takes the same steps for it in whatever
engine. -/
theorem confined_command (c : DisplayCommand) :
    Alike c.display (command c : Action σ ρ Unit) (command c) := by
  rw [command_eq]
  refine .bind (alike_settle c) fun _ _ _ => .bind (alike_onlyIf ?_) fun _ _ _ =>
    .bind (alike_onlyIf alike_accept) fun _ _ _ => .bind (alike_onlyIf ?_) fun _ _ _ =>
      alike_onlyIf (alike_presentOrValidate _)
  · exact .bind (alike_expectPresent _) fun _ _ _ => .bind confined_validate fun _ _ _ =>
      .pure trivial
  · exact .bind confined_present fun _ _ hout => alike_reportFailure (failures_of_sameOutcome hout)

/-! ### What commands keep -/

/-- What is kept by all that a command of a display is made of. -/
structure Stable (display : DisplayId) (P : Engine σ ρ → Prop) : Prop where
  perform : ∀ call, call.display = display → call.steady = true → (perform call).Keeps P
  resolve : ∀ ref, ref.scope.display = display → (resolve ref).Keeps P
  release : ∀ images, (release images).Keeps P
  clearMustValidate : (clearMustValidate display).Keeps P
  setState : ∀ state, (setState display state).Keeps P

/-- The value of an action is related to some other, so the parts that depend on it are
about the display too. -/
theorem Confined.keeps_and_related {R : α → β → Prop} {x : Action σ ρ α} {y : Action σ ρ β}
    {P : Engine σ ρ → Prop} (h : Confined display R x y) (hP : Stable display P)
    {e : Engine σ ρ} {ran : Ran σ ρ α} (he : P e) (hrun : x e = .ok ran) :
    P ran.engine ∧ ∃ b, R ran.value b := by
  induction h generalizing e with
  | @pure _ _ _ a b hab =>
    obtain rfl := Except.ok.inj hrun
    exact ⟨he, b, hab⟩
  | bind _ _ ihx ihf =>
    obtain ⟨first, second, hfirst, hsecond, rfl⟩ := bind_ok.1 hrun
    obtain ⟨hbetween, b, hb⟩ := ihx he hfirst
    obtain ⟨hlast, hrelated⟩ := ihf first.value b hb hbetween hsecond
    exact ⟨hlast, hrelated⟩
  | perform call hdisplay hsteady =>
    exact ⟨hP.perform call hdisplay hsteady e ran he hrun, ran.value, rfl⟩
  | setImage use => exact ⟨hP.perform _ rfl rfl e ran he hrun, ran.value, rfl⟩
  | resolve ref hdisplay => exact ⟨hP.resolve ref hdisplay e ran he hrun, ran.value, rfl⟩
  | release images => exact ⟨hP.release images e ran he hrun, (), trivial⟩
  | mustValidate =>
    obtain rfl := Except.ok.inj hrun
    exact ⟨he, _, rfl⟩
  | clearMustValidate => exact ⟨hP.clearMustValidate e ran he hrun, (), trivial⟩
  | setState state => exact ⟨hP.setState state e ran he hrun, (), trivial⟩
  | report _ => exact ⟨keeps_report _ e ran he hrun, (), trivial⟩

theorem Stable.keeps_command {c : DisplayCommand} {P : Engine σ ρ → Prop}
    (hP : Stable c.display P) : (command c).Keeps P :=
  fun _ _ he hrun => ((confined_command c).keeps_and_related hP he hrun).1

section Elsewhere

variable {P : Engine σ ρ → Prop} (hP : ∀ e resources, P e → P { e with resources })

include hP

omit [Hardware σ] in
theorem keeps_resolve_of_resources (ref : ImageRef) : (resolve ref : Action σ ρ _).Keeps P := by
  intro e ran he hrun
  obtain rfl := Except.ok.inj hrun
  exact hP e _ he

omit [Hardware σ] in
theorem keeps_release_of_resources (images : List Image) :
    (release images : Action σ ρ Unit).Keeps P := by
  intro e ran he hrun
  obtain rfl := Except.ok.inj hrun
  exact hP e _ he

/-- Of what has nothing to do with the cache, only the calls matter, and where the display is
said to stand. -/
theorem stable_of_resources
    (hcall : ∀ call : Call, call.steady = true → (perform call : Action σ ρ _).Keeps P)
    (hstate : ∀ state, (setState display state : Action σ ρ Unit).Keeps P) :
    Stable display P where
  perform call _ hsteady := hcall call hsteady
  resolve ref _ := keeps_resolve_of_resources hP ref
  release := keeps_release_of_resources hP
  clearMustValidate e ran he hrun := by
    obtain rfl := Except.ok.inj hrun
    exact hP e _ he
  setState := hstate

end Elsewhere

end Action

end DisplayComposer
