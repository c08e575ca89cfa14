import DisplayComposer.Proofs.Hardware.Presenting
/-!
# DisplayComposer.Proofs.Hardware.Readiness

**A display stays ready to present.** A display can present as it is when it is validated,
waits for nothing and has the buffers that it needs. Then only a call that makes another
validation necessary (`Call.unsettles`) can change this: to validate the display again plans
the same as before, to accept finds nothing to accept, and buffers come but never go. The
first of these needs that what the display waits for is what its plan asks for
(`HeadlessDisplay.Current`).

* `HeadlessDisplay.Ready` — a display that can present as it is;
* `HeadlessDisplay.Step.ready` — what every other call keeps;
* `Headless.Primed`, `Primed.perform` — whatever a call is about, and whether or not it fails;
* `Headless.primed_of_present` — after a frame that was shown.
-/

namespace DisplayComposer

namespace HeadlessDisplay

/-- A display that can present as it is. -/
structure Ready (d : HeadlessDisplay) : Prop where
  validated : d.validated = true
  pending : d.pending = []
  /-- A virtual display has something to show into. -/
  outputBuffer : d.config.isVirtual = true → d.outputBuffer.isSome = true
  /-- If the client composes a layer, it has said into which buffer. -/
  clientTarget : d.usesClientComposition = true → d.clientTarget.isSome = true

theorem ready_iff {d : HeadlessDisplay} : d.Ready ↔ d.refusal? = none := by
  constructor
  · intro h
    refine (refusal?_of_ready h.validated h.pending).2 ?_
    rintro (⟨hvirtual, hnone⟩ | ⟨huses, hnone⟩)
    · exact hnone (h.outputBuffer hvirtual)
    · exact hnone (h.clientTarget huses)
  · intro h
    obtain ⟨hvalidated, hpending, houtput, htarget⟩ := of_refusal?_eq_none h
    exact ⟨hvalidated, hpending, houtput, htarget⟩

instance (d : HeadlessDisplay) : Decidable d.Ready := decidable_of_iff _ ready_iff.symm

variable {d d' : HeadlessDisplay} {call : Call}

/-- A change of a layer that keeps its composition. -/
theorem usesClientComposition_insert {layer : LayerId} {l l' : HeadlessLayer}
    (hl : d.layers.get? layer = some l) (hc : l'.composition = l.composition)
    (h : usesClientComposition { d with layers := d.layers.insert layer l' } = true) :
    d.usesClientComposition = true := by
  obtain ⟨other, m, hm, hclient⟩ := usesClientComposition_iff.1 h
  rw [Table.get?_insert] at hm
  split at hm
  · obtain rfl := Option.some.inj hm
    exact usesClientComposition_of_get? hl (hc ▸ hclient)
  · exact usesClientComposition_of_get? hm hclient

/-- **A display that is ready stays ready** for as long as nothing makes another validation
necessary. -/
theorem Step.ready (hstep : d.Step call d') (hquiet : call.unsettles = false)
    (hcurrent : d.Current) (h : d.Ready) : d'.Ready := by
  obtain ⟨hvalidated, hpending, houtput, htarget⟩ := id h
  cases hstep with
  | createLayer | destroyLayer | colorTransform | sideband => cases hquiet
  | @layerProperty _ _ l p hl =>
    have hp : p.unsettles = false := hquiet
    obtain ⟨-, hc⟩ := LayerProperty.applyTo_of_not_unsettles hp l
    refine ⟨?_, hpending, houtput, fun huses => htarget (usesClientComposition_insert hl hc huses)⟩
    simpa [hp] using hvalidated
  | layerBuffer fence image hl =>
    exact ⟨hvalidated, hpending, houtput, fun huses =>
      htarget (usesClientComposition_insert hl (by rfl) huses)⟩
  | clientTarget => exact ⟨hvalidated, hpending, houtput, fun _ => rfl⟩
  | outputBuffer => exact ⟨hvalidated, hpending, fun _ => rfl, htarget⟩
  | validate => exact ⟨rfl, (hcurrent hvalidated).symm.trans hpending, houtput, htarget⟩
  | accept =>
    -- there is nothing to accept
    refine ⟨hvalidated, rfl, houtput, fun huses => htarget ?_⟩
    rw [hpending] at huses
    exact huses
  | brightness | present => exact ⟨hvalidated, hpending, houtput, htarget⟩
  | expectedPresentTime | hasClientComposition => exact h

end HeadlessDisplay

namespace Headless

variable {h t : Headless} {display : DisplayId}

/-- A display is known and can present as it is. -/
structure Primed (h : Headless) (display : DisplayId) (d : HeadlessDisplay) : Prop where
  known : h.displays.get? display = some d
  current : d.Current
  ready : d.Ready

/-- **No call changes this** that is about another display, or that does not make another
validation necessary; no matter whether it fails. -/
theorem Primed.perform {d : HeadlessDisplay} (hd : h.Primed display d) {call : Call}
    {out : Except HardwareError call.Answer}
    (hquiet : call.display = display → call.unsettles = false)
    (hrun : Hardware.perform call h = .ok (out, t)) : ∃ d', t.Primed display d' := by
  rcases perform_cases hrun with ⟨failure, hr⟩ | ⟨a, d₀, d', -, hd₀, hstep, hdisplays⟩
  · obtain rfl : t = h := congrArg Prod.snd hr
    exact ⟨d, hd⟩
  · have hdisplays : t.displays = h.displays.insert call.display d' := hdisplays
    by_cases hdisplay : call.display = display
    · subst hdisplay
      obtain rfl := Option.some.inj (hd₀.symm.trans hd.known)
      refine ⟨d', by rw [hdisplays, Table.get?_insert_self], hstep.current hd.current, ?_⟩
      exact hstep.ready (hquiet rfl) hd.current hd.ready
    · refine ⟨d, ?_, hd.current, hd.ready⟩
      rw [hdisplays, Table.get?_insert_of_ne _ _ hdisplay, hd.known]

/-- A display that is ready presents. -/
theorem shows_of_ready {d : HeadlessDisplay} (known : h.displays.get? display = some d)
    (hready : d.Ready) : ∃ p, (h.present display).1 = .ok p ∧
      (h.present display).2.displays =
        h.displays.insert display { d with framesPresented := d.framesPresented + 1 } := by
  unfold present
  rw [known]
  dsimp only
  rw [HeadlessDisplay.ready_iff.1 hready]
  exact ⟨_, rfl, rfl⟩

/-- A frame that was shown leaves its display ready for the next one. -/
theorem primed_of_present {p : Presentation}
    (hcurrent : ∀ d, t.displays.get? display = some d → d.Current)
    (hrun : Hardware.perform (.present display) h = .ok (.ok p, t)) : ∃ d, t.Primed display d := by
  rcases perform_cases hrun with ⟨failure, hr⟩ | ⟨a, d, d', -, -, hstep, hdisplays⟩
  · cases hr
  · have known : t.displays.get? display = some d' := by
      rw [show t.displays = h.displays.insert display d' from hdisplays, Table.get?_insert_self]
    cases hstep with
    | present hready =>
      exact ⟨_, known, hcurrent _ known, HeadlessDisplay.ready_iff.2 hready⟩

end Headless

end DisplayComposer
