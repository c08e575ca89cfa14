import DisplayComposer.Hardware.Headless
import DisplayComposer.Proofs.Table
/-!
# DisplayComposer.Proofs.Hardware.Effect

**What a call can do.** Every call of the headless backend is about one display. It
fails and leaves everything as it was, or it finds that display and makes one
`HeadlessDisplay.Step` there. The relation lists what the calls can do to a
display, one case for each kind of call, so that what all calls keep can be shown
by looking at its cases. No later proof opens the calls themselves.

* `Call.display` — the display that a call is about;
* `HeadlessDisplay.Step` — what a successful call makes of its display;
* `Headless.perform_cases` — a call fails, or makes a step.
-/

namespace DisplayComposer

/-- The display that a call is about. -/
def Call.display : Call → DisplayId
  | .createLayer display | .destroyLayer display _ | .set display _ | .validate display
  | .accept display | .present display | .hasClientComposition display => display

namespace LayerProperty

/-- What a property makes of a layer. -/
def applyTo (l : HeadlessLayer) : LayerProperty → HeadlessLayer
  | .cursorPosition p => { l with cursor := p }
  | .composition c => { l with composition := c }
  | .displayFrame frame => { l with displayFrame := frame }
  | .planeAlpha alpha => { l with planeAlpha := alpha }
  | .zOrder z => { l with z := z }
  | _ => l

/-- Whether a display has to be validated again for a property of a layer. -/
def unsettles : LayerProperty → Bool
  | .cursorPosition _ | .surfaceDamage _ => false
  | _ => true

theorem applyTo_of_not_unsettles {p : LayerProperty} (hp : p.unsettles = false)
    (l : HeadlessLayer) : (p.applyTo l).z = l.z ∧ (p.applyTo l).composition = l.composition := by
  cases p <;> simp_all [unsettles, applyTo]

end LayerProperty

/-- What a successful call makes of its display. -/
inductive HeadlessDisplay.Step (d : HeadlessDisplay) : Call → HeadlessDisplay → Prop where
  | createLayer {display : DisplayId} (layer : LayerId) :
      Step d (.createLayer display)
        { d with layers := d.layers.insert layer .fresh, validated := false }
  | destroyLayer {display : DisplayId} {layer : LayerId} :
      d.layers.contains layer = true →
      Step d (.destroyLayer display layer)
        { d with layers := d.layers.erase layer, validated := false }
  | layerProperty {display : DisplayId} {layer : LayerId} {l : HeadlessLayer}
      (p : LayerProperty) :
      d.layers.get? layer = some l →
      Step d (.set display (.property (.layer layer p)))
        { d with
          layers := d.layers.insert layer (p.applyTo l)
          validated := if p.unsettles then false else d.validated }
  | colorTransform {display : DisplayId} (matrix : List Single) :
      Step d (.set display (.property (.colorTransform matrix))) { d with validated := false }
  | brightness {display : DisplayId} (level : Single) :
      Step d (.set display (.property (.brightness level))) { d with brightness := level }
  | expectedPresentTime {display : DisplayId} (time : Option Timestamp) :
      Step d (.set display (.property (.expectedPresentTime time))) d
  | clientTarget {display : DisplayId} (fence : Fence) (dataspace : Dataspace) (damage : Region)
      (image : Image) :
      Step d (.set display (.image (.clientTarget fence dataspace damage) image))
        { d with clientTarget := some image }
  | outputBuffer {display : DisplayId} (fence : Fence) (image : Image) :
      d.config.isVirtual = true →
      Step d (.set display (.image (.outputBuffer fence) image))
        { d with outputBuffer := some image }
  | layerBuffer {display : DisplayId} {layer : LayerId} {l : HeadlessLayer} (fence : Fence)
      (image : Image) :
      d.layers.get? layer = some l →
      Step d (.set display (.image (.layerBuffer layer fence) image))
        { d with layers := d.layers.insert layer { l with buffer := some image } }
  | sideband {display : DisplayId} {layer : LayerId} {l : HeadlessLayer} (image : Image) :
      d.layers.get? layer = some l →
      Step d (.set display (.image (.sideband layer) image))
        { d with
          layers := d.layers.insert layer { l with sideband := some image }, validated := false }
  | validate {display : DisplayId} :
      Step d (.validate display) { d with pending := d.plan.changes, validated := true }
  | accept {display : DisplayId} :
      d.validated = true →
      Step d (.accept display)
        { d with layers := d.pending.foldl HeadlessDisplay.apply d.layers, pending := [] }
  | present {display : DisplayId} :
      d.refusal? = none →
      Step d (.present display) { d with framesPresented := d.framesPresented + 1 }
  | hasClientComposition {display : DisplayId} : Step d (.hasClientComposition display) d

namespace Headless

/-- A call that leaves `r` of the backend `h` has failed and changed nothing, or
has made a step on its display. -/
def Effect (call : Call) (h : Headless) (r : Result call.Answer) : Prop :=
  (∃ failure, r = h.fail failure) ∨
    ∃ a d d', r.1 = .ok a ∧ h.displays.get? call.display = some d ∧ d.Step call d' ∧
      r.2.displays = h.displays.insert call.display d'

/-! ### Changes of a display -/

/-- A change of a display fails, or is put in place of the display. -/
theorem onDisplay_cases {α : Type} (h : Headless) (display : DisplayId)
    (f : HeadlessDisplay → Except HardwareError (α × HeadlessDisplay)) :
    (∃ failure, h.onDisplay display f = h.fail failure) ∨
      ∃ a d d', h.displays.get? display = some d ∧ f d = .ok (a, d') ∧
        h.onDisplay display f = (.ok a, { h with displays := h.displays.insert display d' }) := by
  unfold onDisplay
  cases hd : h.displays.get? display with
  | none => exact .inl ⟨.badDisplay, rfl⟩
  | some d =>
    cases hf : f d with
    | error failure => exact .inl ⟨failure, by simp only [hf]⟩
    | ok r => exact .inr ⟨r.1, d, r.2, rfl, hf, by simp only [hf]⟩

/-- Nothing changes if the display stays as it is. -/
theorem onDisplay_unchanged {α : Type} {h : Headless} {display : DisplayId}
    {f : HeadlessDisplay → Except HardwareError (α × HeadlessDisplay)}
    (hf : ∀ d a d', h.displays.get? display = some d → f d = .ok (a, d') → d' = d) :
    (h.onDisplay display f).2 = h := by
  rcases onDisplay_cases h display f with ⟨failure, hr⟩ | ⟨a, d, d', hd, had, hr⟩
  · rw [hr]
    rfl
  · obtain rfl := hf d a d' hd had
    rw [hr, Table.insert_self hd]

theorem effect_fail (call : Call) (h : Headless) (failure : HardwareError) :
    Effect call h (h.fail failure) := .inl ⟨failure, rfl⟩

theorem effect_onDisplay (call : Call) {h : Headless}
    {f : HeadlessDisplay → Except HardwareError (call.Answer × HeadlessDisplay)}
    (hf : ∀ d a d', f d = .ok (a, d') → d.Step call d') :
    Effect call h (h.onDisplay call.display f) := by
  rcases onDisplay_cases h call.display f with ⟨failure, hr⟩ | ⟨a, d, d', hd, had, hr⟩
  · rw [hr]
    exact effect_fail call h failure
  · rw [hr]
    exact .inr ⟨a, d, d', rfl, hd, hf d a d' had, rfl⟩

theorem effect_onLayer {display : DisplayId} {layer : LayerId} {setting : Setting Image}
    {h : Headless} {validated : Bool → Bool}
    {f : HeadlessLayer → Except HardwareError HeadlessLayer}
    (hf : ∀ (d : HeadlessDisplay) l l', d.layers.get? layer = some l → f l = .ok l' →
      d.Step (.set display setting)
        { d with layers := d.layers.insert layer l', validated := validated d.validated }) :
    Effect (.set display setting) h (h.onLayer display layer validated f) := by
  refine effect_onDisplay (.set display setting) fun d a d' had => ?_
  cases hl : d.layers.get? layer with
  | none =>
    rw [hl] at had
    cases had
  | some l =>
    rw [hl] at had
    cases hl' : f l with
    | error failure =>
      simp only [hl'] at had
      cases had
    | ok l' =>
      simp only [hl'] at had
      cases had
      exact hf d l l' hl hl'

/-! ### Calls that set something -/

variable {h t : Headless} {display : DisplayId}

/-- A change of a layer after which its display has to be validated. -/
theorem effect_revise {layer : LayerId} {p : LayerProperty} {f : HeadlessLayer → HeadlessLayer}
    (hf : ∀ l, f l = p.applyTo l) (hp : p.unsettles = true) :
    Effect (.set display (.property (.layer layer p))) h (h.revise display layer f) := by
  refine effect_onLayer fun d l l' hl hl' => ?_
  obtain rfl := Except.ok.inj hl'
  have hstep : d.Step (.set display (.property (.layer layer p))) _ := .layerProperty p hl
  rwa [if_pos hp, ← hf l] at hstep

theorem setLayer_effect {layer : LayerId} {p : LayerProperty} {r : Result Unit}
    (hrun : h.setLayer display layer p = .ok r) :
    Effect (.set display (.property (.layer layer p))) h r := by
  cases p with
  | cursorPosition position =>
    obtain rfl := Except.ok.inj hrun
    refine effect_onLayer fun d l l' hl hl' => ?_
    by_cases hc : l.composition = .cursor
    · rw [if_pos hc] at hl'
      obtain rfl := Except.ok.inj hl'
      exact .layerProperty (.cursorPosition position) hl
    · rw [if_neg hc] at hl'
      cases hl'
  | surfaceDamage damage =>
    obtain rfl := Except.ok.inj hrun
    refine effect_onLayer fun d l l' hl hl' => ?_
    obtain rfl := Except.ok.inj hl'
    exact .layerProperty (.surfaceDamage damage) hl
  | blendMode mode =>
    obtain rfl := Except.ok.inj hrun
    split
    · exact effect_fail _ h _
    · exact effect_revise (fun _ => rfl) rfl
  | composition c =>
    obtain rfl := Except.ok.inj hrun
    split
    · exact effect_fail _ h _
    · exact effect_revise (fun _ => rfl) rfl
  | displayFrame frame =>
    -- the size of a frame can overflow, and then the call does not return
    cases hinv : inverted frame with
    | error crash =>
      simp only [setLayer, hinv] at hrun
      cases hrun
    | ok inv =>
      simp only [setLayer, hinv] at hrun
      cases inv with
      | true =>
        obtain rfl := Except.ok.inj hrun
        exact effect_fail _ h _
      | false =>
        obtain rfl := Except.ok.inj hrun
        exact effect_revise (fun _ => rfl) rfl
  | planeAlpha alpha =>
    obtain rfl := Except.ok.inj hrun
    split
    · exact effect_revise (fun _ => rfl) rfl
    · exact effect_fail _ h _
  | sourceCrop crop =>
    obtain rfl := Except.ok.inj hrun
    split
    · exact effect_fail _ h _
    · exact effect_revise (fun _ => rfl) rfl
  | colorTransform matrix =>
    obtain rfl := Except.ok.inj hrun
    split
    · exact effect_revise (fun _ => rfl) rfl
    · exact effect_fail _ h _
  | zOrder _ | color _ | dataspace _ | transform _ | visibleRegion _ | metadata _
  | metadataBlobs _ =>
    obtain rfl := Except.ok.inj hrun
    exact effect_revise (fun _ => rfl) rfl

theorem setProperty_effect {p : Property} {r : Result Unit}
    (hrun : h.setProperty display p = .ok r) : Effect (.set display (.property p)) h r := by
  cases p with
  | layer layer p => exact setLayer_effect hrun
  | colorTransform matrix =>
    obtain rfl := Except.ok.inj hrun
    split
    · refine effect_onDisplay (.set display _) fun d a d' had => ?_
      cases had
      exact .colorTransform matrix
    · exact effect_fail _ h _
  | brightness level =>
    obtain rfl := Except.ok.inj hrun
    refine effect_onDisplay (.set display _) fun d a d' had => ?_
    split at had
    · cases had
    · split at had
      · cases had
        exact .brightness level
      · cases had
  | expectedPresentTime time =>
    obtain rfl := Except.ok.inj hrun
    refine effect_onDisplay (.set display _) fun d a d' had => ?_
    cases had
    exact .expectedPresentTime time

theorem setImage_effect (use : ImageUse) (image : Image) :
    Effect (.set display (.image use image)) h (h.setImage display use image) := by
  cases use with
  | clientTarget fence dataspace damage =>
    dsimp only [setImage]
    refine effect_onDisplay (.set display _) fun d a d' had => ?_
    cases had
    exact .clientTarget fence dataspace damage image
  | outputBuffer fence =>
    dsimp only [setImage]
    refine effect_onDisplay (.set display _) fun d a d' had => ?_
    split at had
    · rename_i hvirtual
      cases had
      exact .outputBuffer fence image hvirtual
    · cases had
  | layerBuffer layer fence =>
    dsimp only [setImage]
    refine effect_onLayer fun d l l' hl hl' => ?_
    obtain rfl := Except.ok.inj hl'
    exact .layerBuffer fence image hl
  | sideband layer =>
    dsimp only [setImage]
    refine effect_onLayer fun d l l' hl hl' => ?_
    obtain rfl := Except.ok.inj hl'
    exact .sideband image hl

/-! ### All calls -/

theorem createLayer_effect {r : Result LayerId} (hrun : h.createLayer display = .ok r) :
    Effect (.createLayer display) h r := by
  dsimp only [createLayer] at hrun
  rcases onDisplay_cases h display fun d => .ok (h.nextLayer,
      { d with layers := d.layers.insert h.nextLayer .fresh, validated := false }) with
    ⟨failure, hr⟩ | ⟨layer, d, d', hd, had, hr⟩
  · rw [hr] at hrun
    obtain rfl := Except.ok.inj hrun
    exact effect_fail _ h failure
  · rw [hr] at hrun
    cases had
    dsimp only at hrun
    -- the id behind the last one overflows
    split at hrun
    · cases hrun
    · obtain rfl := Except.ok.inj hrun
      exact .inr ⟨_, d, _, rfl, hd, .createLayer _, rfl⟩

theorem present_effect (h : Headless) (display : DisplayId) :
    Effect (.present display) h (h.present display) := by
  unfold present
  cases hd : h.displays.get? display with
  | none => exact effect_fail _ h _
  | some d =>
    dsimp only
    cases hr : d.refusal? with
    | some failure => exact effect_fail _ h _
    | none => exact .inr ⟨_, d, _, rfl, hd, .present hr, rfl⟩

/-- **What a call can do.** It fails and changes nothing, or it makes a step on the
display that it is about and leaves all other displays alone. -/
theorem perform_cases {call : Call} {r : Result call.Answer}
    (hrun : Hardware.perform call h = .ok r) :
    (∃ failure, r = h.fail failure) ∨
      ∃ a d d', r.1 = .ok a ∧ h.displays.get? call.display = some d ∧ d.Step call d' ∧
        r.2.displays = h.displays.insert call.display d' := by
  show Effect call h r
  cases call with
  | createLayer display => exact createLayer_effect hrun
  | destroyLayer display layer =>
    obtain rfl := Except.ok.inj hrun
    refine effect_onDisplay (.destroyLayer display layer) fun d a d' had => ?_
    split at had
    · rename_i hl
      cases had
      exact .destroyLayer hl
    · cases had
  | set display setting =>
    cases setting with
    | property p => exact setProperty_effect hrun
    | image use image =>
      obtain rfl := Except.ok.inj hrun
      exact setImage_effect use image
  | validate display =>
    obtain rfl := Except.ok.inj hrun
    refine effect_onDisplay (.validate display) fun d a d' had => ?_
    cases had
    exact .validate
  | accept display =>
    obtain rfl := Except.ok.inj hrun
    refine effect_onDisplay (.accept display) fun d a d' had => ?_
    split at had
    · rename_i hvalidated
      cases had
      exact .accept hvalidated
    · cases had
  | present display =>
    obtain rfl := Except.ok.inj hrun
    exact present_effect h display
  | hasClientComposition display =>
    obtain rfl := Except.ok.inj hrun
    refine effect_onDisplay (.hasClientComposition display) fun d a d' had => ?_
    cases had
    exact .hasClientComposition

/-! ### What a call leaves -/

/-- A call that fails changes nothing. -/
theorem eq_of_perform_error {call : Call} {failure : HardwareError}
    (hrun : Hardware.perform call h = .ok (.error failure, t)) : t = h := by
  rcases perform_cases hrun with ⟨failure, hr⟩ | ⟨a, d, d', ha, -⟩
  · exact congrArg Prod.snd hr
  · cases ha

theorem layer?_of_get? {d : HeadlessDisplay} (hd : h.displays.get? display = some d)
    (layer : LayerId) : h.layer? display layer = d.layers.get? layer := by
  rw [layer?, hd, Option.bind_some]

theorem layer?_of_insert {d : HeadlessDisplay}
    (hdisplays : t.displays = h.displays.insert display d) (other : DisplayId) (layer : LayerId) :
    t.layer? other layer =
      if display = other then d.layers.get? layer else h.layer? other layer := by
  rw [layer?, layer?, hdisplays, Table.get?_insert]
  split <;> rfl

/-- A layer that is created gets the next id, and there is one after that. -/
theorem createLayer_ok {layer : LayerId}
    (hrun : Hardware.perform (.createLayer display) h = .ok (.ok layer, t)) :
    ∃ d, h.displays.get? display = some d ∧ layer = h.nextLayer ∧ h.nextLayer ≠ Int64.maxValue ∧
      t = { h with
        displays := h.displays.insert display
          { d with layers := d.layers.insert h.nextLayer .fresh, validated := false }
        nextLayer := h.nextLayer + 1 } := by
  have hcreate : h.createLayer display = .ok (.ok layer, t) := hrun
  dsimp only [createLayer] at hcreate
  rcases onDisplay_cases h display fun d => .ok (h.nextLayer,
      { d with layers := d.layers.insert h.nextLayer .fresh, validated := false }) with
    ⟨failure, hr⟩ | ⟨created, d, d', hd, had, hr⟩
  · rw [hr] at hcreate
    cases hcreate
  · rw [hr] at hcreate
    cases had
    dsimp only at hcreate
    split at hcreate
    · cases hcreate
    · rename_i hmax
      cases hcreate
      exact ⟨d, hd, rfl, hmax, rfl⟩

theorem destroyLayer_ok {layer : LayerId}
    (hrun : Hardware.perform (.destroyLayer display layer) h = .ok (.ok (), t)) :
    ∃ d, h.displays.get? display = some d ∧ (h.layer? display layer).isSome = true ∧
      t.displays = h.displays.insert display
        { d with layers := d.layers.erase layer, validated := false } := by
  rcases perform_cases hrun with ⟨failure, hr⟩ | ⟨a, d, d', -, hd, hstep, hdisplays⟩
  · cases hr
  · cases hstep with
    | destroyLayer hknown => exact ⟨d, hd, (layer?_of_get? hd layer).symm ▸ hknown, hdisplays⟩

/-- A call leaves all displays alone but its own. -/
theorem get?_displays_of_perform {call : Call} {r : Result call.Answer}
    (hrun : Hardware.perform call h = .ok r) {display : DisplayId}
    (hdisplay : call.display ≠ display) :
    r.2.displays.get? display = h.displays.get? display := by
  rcases perform_cases hrun with ⟨failure, rfl⟩ | ⟨a, d, d', -, -, -, hdisplays⟩
  · rfl
  · rw [hdisplays, Table.get?_insert_of_ne _ _ hdisplay]

/-- No call makes a display known, or has it forgotten. -/
theorem isSome_displays_of_perform {call : Call} {r : Result call.Answer}
    (hrun : Hardware.perform call h = .ok r) (display : DisplayId) :
    (r.2.displays.get? display).isSome = (h.displays.get? display).isSome := by
  rcases perform_cases hrun with ⟨failure, rfl⟩ | ⟨a, d, d', -, hd, -, hdisplays⟩
  · rfl
  · rw [hdisplays, Table.get?_insert]
    by_cases hdisplay : call.display = display
    · rw [if_pos hdisplay, ← hdisplay, hd]
      rfl
    · rw [if_neg hdisplay]

end Headless

end DisplayComposer
