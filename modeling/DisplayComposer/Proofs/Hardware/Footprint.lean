import DisplayComposer.Proofs.Hardware.Fences
import DisplayComposer.Proofs.Hardware.Holding
/-!
# DisplayComposer.Proofs.Hardware.Footprint

**What a call leaves alone.** A call that fails has left no trace at all: whatever it looks at
in the meantime, it writes only when nothing can fail any more. A call that succeeds writes to
its own display, and if it is about a layer, to no other layer of that display. What displays
share are two counters: creating a layer takes an id, and a frame takes the fences that it hands
out.

* `Call.layer?` — the layer that a call is about;
* `Call.ids` — the ids that a call takes;
* `Headless.Spares` — what a successful call leaves alone;
* `Headless.perform_atomic` — all calls.
-/

namespace DisplayComposer

/-- The layer that a setting is of, if it is not one of the whole display. -/
def Setting.layer? {β : Type} : Setting β → Option LayerId
  | .property (.layer layer _) => some layer
  | .property _ => none
  | .image use _ => use.holding.layer?

/-- The layer that a call is about, if it is about one. Creating a layer is about the layer
whose id it answers. -/
def Call.layer? : (call : Call) → call.Answer → Option LayerId
  | .createLayer _, layer => some layer
  | .destroyLayer _ layer, _ => some layer
  | .set _ setting, _ => setting.layer?
  | _, _ => none

/-- How many ids a call takes if it succeeds. -/
def Call.ids : Call → Int64
  | .createLayer _ => 1
  | _ => 0

/-- A step on a layer that is there leaves the other layers as they are. Creation is left out,
since a step does not know which id is next. -/
theorem HeadlessDisplay.Step.get?_layers {d d' : HeadlessDisplay} {call : Call}
    (hstep : d.Step call d') (hcall : ∀ display, call ≠ .createLayer display) {a : call.Answer}
    {layer other : LayerId} (hlayer : call.layer? a = some layer) (hother : other ≠ layer) :
    d'.layers.get? other = d.layers.get? other := by
  cases hstep with
  | createLayer => exact absurd rfl (hcall _)
  | destroyLayer =>
    obtain rfl := Option.some.inj hlayer
    rw [Table.get?_erase, if_neg hother.symm]
  | layerProperty | layerBuffer | sideband =>
    obtain rfl := Option.some.inj hlayer
    exact Table.get?_insert_of_ne _ _ hother.symm
  | _ => cases hlayer

namespace Headless

variable {h t : Headless}

/-- What a successful call leaves alone. -/
structure Spares (call : Call) (a : call.Answer) (h t : Headless) : Prop where
  displays : ∀ other, other ≠ call.display → t.displays.get? other = h.displays.get? other
  layers : ∀ layer, call.layer? a = some layer → ∀ other, other ≠ layer →
    t.layer? call.display other = h.layer? call.display other
  nextLayer : t.nextLayer = h.nextLayer + call.ids
  nextFence : t.nextFence = fenceAfter h.nextFence (call.fences a).length

theorem spares_of_perform {call : Call} {a : call.Answer}
    (hrun : Hardware.perform call h = .ok (.ok a, t)) : Spares call a h t where
  displays other hother := get?_displays_of_perform hrun hother.symm
  layers layer hlayer other hother := by
    by_cases hcreate : ∃ display, call = .createLayer display
    · obtain ⟨display, rfl⟩ := hcreate
      obtain ⟨d, hd, rfl, -, rfl⟩ := createLayer_ok hrun
      obtain rfl := Option.some.inj hlayer
      show layer? _ display other = h.layer? display other
      rw [layer?_of_insert rfl, if_pos rfl, layer?_of_get? hd,
        Table.get?_insert_of_ne _ _ hother.symm]
    · rcases perform_cases hrun with ⟨failure, hr⟩ | ⟨a', d, d', -, hd, hstep, hdisplays⟩
      · cases hr
      · rw [layer?_of_insert hdisplays, if_pos rfl, layer?_of_get? hd]
        exact hstep.get?_layers (fun display heq => hcreate ⟨display, heq⟩) hlayer hother
  nextLayer := by
    by_cases hcreate : ∃ display, call = .createLayer display
    · obtain ⟨display, rfl⟩ := hcreate
      obtain ⟨d, -, -, -, rfl⟩ := createLayer_ok hrun
      rfl
    · have hnone : call.ids = 0 := by
        cases call with
        | createLayer display => exact absurd ⟨display, rfl⟩ hcreate
        | _ => rfl
      rw [hnone, Int64.add_zero]
      exact nextLayer_of_perform (fun display heq => hcreate ⟨display, heq⟩) hrun
  nextFence := (fences_of_perform hrun).2

/-- **A call is atomic and stays at home.** Whatever call returns, in whatever state: if it
answers with an error, the backend is what it was before; if it succeeds, no other display has
changed, no other layer if the call is about one, and of the counters only what the answer gives
away is gone: the id of a layer that was created, and each fence of a frame. -/
theorem perform_atomic {call : Call} {out : Except HardwareError call.Answer}
    (hrun : Hardware.perform call h = .ok (out, t)) :
    (∀ failure, out = .error failure → t = h) ∧ ∀ a, out = .ok a → Spares call a h t := by
  constructor
  · rintro failure rfl
    exact eq_of_perform_error hrun
  · rintro a rfl
    exact spares_of_perform hrun

/-- A frame takes a fence for itself and one for each of the two layers that hold a buffer. A
layer that is moved leaves the other one where it is, and one that is no cursor refuses to be
one, which changes nothing. -/
theorem perform_atomic_takingTurns :
    (∃ p t, Hardware.perform (.present 0) takingTurns.hardware = .ok (.ok p, t) ∧
      t.displays.get? 1 = takingTurns.hardware.displays.get? 1 ∧ t.nextLayer = 3 ∧
      t.nextFence = 10) ∧
    (∃ t, Hardware.perform (.set 0 (.property (.layer 1 (.zOrder 9)))) takingTurns.hardware =
        .ok (.ok (), t) ∧
      t.layer? 0 2 = takingTurns.hardware.layer? 0 2) ∧
    ∃ t, Hardware.perform (.set 0 (.property (.layer 1 (.cursorPosition .origin))))
        takingTurns.hardware = .ok (.error .badLayer, t) ∧
      t = takingTurns.hardware := by
  have shown : ∃ p t, Hardware.perform (.present 0) takingTurns.hardware = .ok (.ok p, t) :=
    ⟨_, _, rfl⟩
  have moved : ∃ t, Hardware.perform (.set 0 (.property (.layer 1 (.zOrder 9))))
      takingTurns.hardware = .ok (.ok (), t) := ⟨_, rfl⟩
  have refused : ∃ t, Hardware.perform (.set 0 (.property (.layer 1 (.cursorPosition .origin))))
      takingTurns.hardware = .ok (.error .badLayer, t) := ⟨_, rfl⟩
  obtain ⟨p, t, hshown⟩ := shown
  obtain ⟨u, hmoved⟩ := moved
  obtain ⟨v, hrefused⟩ := refused
  have hspared := (perform_atomic hshown).2 p rfl
  refine ⟨⟨p, t, hshown, hspared.displays 1 (by decide), hspared.nextLayer, ?_⟩,
    ⟨u, hmoved, ((perform_atomic hmoved).2 () rfl).layers 1 rfl 2 (by decide)⟩,
    ⟨v, hrefused, (perform_atomic hrefused).1 _ rfl⟩⟩
  cases hshown
  exact hspared.nextFence

end Headless

end DisplayComposer
