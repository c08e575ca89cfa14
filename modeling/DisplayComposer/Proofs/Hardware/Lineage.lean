import DisplayComposer.Proofs.Hardware.Footprint
import DisplayComposer.Proofs.Hardware.Overflow
/-!
# DisplayComposer.Proofs.Hardware.Lineage

**Where a layer comes from.** A layer that is there after a call was created by it, or was
there before, and then the call has set something of it, has accepted a change of it, or has
left it alone. So a field of a layer holds what was set last, if nothing but setting it
touches the field. What the backend accepts at all is told by the setters that look before
they write.

* `Setting.applyTo` — what setting something makes of a layer;
* `Headless.Descends`, `descends_of_perform` — layers before and after a call;
* `Headless.composition_ok` and its fellows — what is accepted.
-/

namespace DisplayComposer

/-- What setting something makes of a layer. -/
def Setting.applyTo (l : HeadlessLayer) : Setting Image → HeadlessLayer
  | .property (.layer _ p) => p.applyTo l
  | .image (.layerBuffer _ _) used => { l with buffer := some used }
  | .image (.sideband _) used => { l with sideband := some used }
  | _ => l

/-- Whether an event has created a layer, has set something of it, or has accepted changes
of its display. -/
def Event.Touches (display : DisplayId) (layer : LayerId) : Event → Prop
  | ⟨.createLayer d, .ok l⟩ => d = display ∧ l = layer
  | ⟨.set d setting, .ok _⟩ => d = display ∧ setting.layer? = some layer
  | ⟨.accept d, .ok _⟩ => d = display
  | _ => False

namespace HeadlessDisplay

/-- Setting something of a layer changes this layer and no other. -/
theorem get?_insert_applyTo {d : HeadlessDisplay} {target : LayerId} {l : HeadlessLayer}
    (hl : d.layers.get? target = some l) (setting : Setting Image)
    (htarget : setting.layer? = some target) (layer : LayerId) :
    (d.layers.insert target (setting.applyTo l)).get? layer =
      if setting.layer? = some layer then (d.layers.get? layer).map setting.applyTo
      else d.layers.get? layer := by
  rw [htarget, Table.get?_insert]
  by_cases hlayer : target = layer
  · subst hlayer
    rw [if_pos rfl, if_pos rfl, hl, Option.map_some]
  · rw [if_neg hlayer, if_neg fun h => hlayer (Option.some.inj h)]

/-- What setting something makes of the layers of its display. -/
theorem Step.get?_layers_set {d d' : HeadlessDisplay} {display : DisplayId}
    {setting : Setting Image} (hstep : d.Step (.set display setting) d') (layer : LayerId) :
    d'.layers.get? layer =
      if setting.layer? = some layer then (d.layers.get? layer).map setting.applyTo
      else d.layers.get? layer := by
  cases hstep with
  | layerProperty p hl => exact get?_insert_applyTo hl (.property (.layer _ p)) rfl layer
  | layerBuffer fence used hl =>
    exact get?_insert_applyTo hl (.image (.layerBuffer _ fence) used) rfl layer
  | sideband used hl => exact get?_insert_applyTo hl (.image (.sideband _) used) rfl layer
  | _ => exact (if_neg fun h => nomatch h).symm

end HeadlessDisplay

namespace Headless

/-- What a layer that is there after an event comes from. -/
inductive Descends (h : Headless) (display : DisplayId) (layer : LayerId) :
    Event → HeadlessLayer → Prop where
  | created : Descends h display layer ⟨.createLayer display, .ok layer⟩ .fresh
  | set {setting : Setting Image} {l : HeadlessLayer} : setting.layer? = some layer →
      h.layer? display layer = some l →
      Descends h display layer ⟨.set display setting, .ok ()⟩ (setting.applyTo l)
  | accepted {d : HeadlessDisplay} {l : HeadlessLayer} :
      h.displays.get? display = some d → h.layer? display layer = some l →
      Descends h display layer ⟨.accept display, .ok ()⟩
        { l with composition := .after d.pending layer l.composition }
  | untouched {event : Event} {l : HeadlessLayer} : ¬ event.Touches display layer →
      h.layer? display layer = some l → Descends h display layer event l

variable {h t : Headless} {display : DisplayId} {layer : LayerId}

/-- A layer after another one was created, or the layer that was. -/
theorem descends_of_createLayer {created : LayerId}
    (hrun : Hardware.perform (.createLayer display) h = .ok (.ok created, t))
    {l' : HeadlessLayer} (hl' : t.layer? display layer = some l') :
    h.Descends display layer ⟨.createLayer display, .ok created⟩ l' := by
  obtain ⟨d, hd, hnew, -, rfl⟩ := createLayer_ok hrun
  rw [layer?_of_insert rfl, if_pos rfl, Table.get?_insert] at hl'
  by_cases hlayer : h.nextLayer = layer
  · rw [if_pos hlayer] at hl'
    obtain rfl := Option.some.inj hl'
    obtain rfl : created = layer := hnew.trans hlayer
    exact .created
  · rw [if_neg hlayer, ← layer?_of_get? hd] at hl'
    exact .untouched (fun htouches => hlayer (hnew.symm.trans htouches.2)) hl'

/-- A layer of the display that a successful call is about. -/
theorem descends_of_ok {call : Call} {a : call.Answer}
    (hrun : Hardware.perform call h = .ok (.ok a, t)) {l' : HeadlessLayer}
    (hl' : t.layer? call.display layer = some l') :
    h.Descends call.display layer ⟨call, .ok a⟩ l' := by
  by_cases hcreate : ∃ display, call = .createLayer display
  · obtain ⟨display, rfl⟩ := hcreate
    exact descends_of_createLayer hrun hl'
  rcases perform_cases hrun with ⟨failure, hr⟩ | ⟨a', d, d', ha, hd, hstep, hdisplays⟩
  · cases hr
  rw [layer?_of_insert hdisplays, if_pos rfl] at hl'
  cases call with
  | createLayer display => exact absurd ⟨display, rfl⟩ hcreate
  | destroyLayer display gone =>
    cases hstep
    rw [Table.get?_erase] at hl'
    split at hl'
    · cases hl'
    · exact .untouched (fun htouches => htouches) ((layer?_of_get? hd layer).trans hl')
  | set display setting =>
    rw [hstep.get?_layers_set, ← layer?_of_get? hd] at hl'
    by_cases hlayer : setting.layer? = some layer
    · rw [if_pos hlayer] at hl'
      obtain ⟨l, hl, rfl⟩ := Option.map_eq_some_iff.1 hl'
      exact .set hlayer hl
    · rw [if_neg hlayer] at hl'
      exact .untouched (fun htouches => hlayer htouches.2) hl'
  | accept display =>
    cases hstep
    rw [HeadlessDisplay.foldl_apply, Table.get?_mapValues, ← layer?_of_get? hd] at hl'
    obtain ⟨l, hl, rfl⟩ := Option.map_eq_some_iff.1 hl'
    exact .accepted hd hl
  | validate | present | hasClientComposition =>
    cases hstep
    exact .untouched (fun htouches => htouches) ((layer?_of_get? hd layer).trans hl')

/-- **Where a layer comes from,** after any call and whatever has come of it. -/
theorem descends_of_perform {call : Call} {out : Except HardwareError call.Answer}
    (hrun : Hardware.perform call h = .ok (out, t)) {l' : HeadlessLayer}
    (hl' : t.layer? display layer = some l') : h.Descends display layer ⟨call, out⟩ l' := by
  cases out with
  | error failure =>
    obtain rfl := eq_of_perform_error hrun
    exact .untouched (by simp [Event.Touches]) hl'
  | ok a =>
    by_cases hdisplay : call.display = display
    · subst hdisplay
      exact descends_of_ok hrun hl'
    · have hsame := get?_displays_of_perform hrun hdisplay
      rw [layer?, show t.displays.get? display = _ from hsame] at hl'
      refine .untouched (fun htouches => hdisplay ?_) hl'
      cases call with
      | createLayer _ | set _ _ => exact htouches.1
      | accept _ => exact htouches
      | _ => exact htouches.elim

/-! ### What is accepted -/

/-- No layer is given a composition that is none. -/
theorem composition_ok {c : Composition}
    (hrun : Hardware.perform (.set display (.property (.layer layer (.composition c)))) h =
      .ok (.ok (), t)) : c ≠ .invalid := by
  rintro rfl
  cases (hrun : Except.ok (h.fail .badParameter) = _)

/-- No layer is given an inverted frame. -/
theorem displayFrame_ok {frame : Rect}
    (hrun : Hardware.perform (.set display (.property (.layer layer (.displayFrame frame)))) h =
      .ok (.ok (), t)) : frame.Upright := by
  have hset : (inverted frame).bind (fun inv => if inv then .ok (h.fail .badParameter)
      else .ok (h.revise display layer fun l => { l with displayFrame := frame })) =
        .ok (.ok (), t) := hrun
  rw [inverted_eq] at hset
  by_cases hover : frame.Overflows
  · rw [if_pos hover] at hset
    cases hset
  · rw [if_neg hover] at hset
    by_cases hupright : frame.Upright
    · exact hupright
    · rw [decide_eq_false hupright] at hset
      cases hset

/-- Only a layer that is the cursor is given a position of the cursor. -/
theorem cursorPosition_ok {p : Point}
    (hrun : Hardware.perform (.set display (.property (.layer layer (.cursorPosition p)))) h =
      .ok (.ok (), t)) : ∃ l, h.layer? display layer = some l ∧ l.composition = .cursor := by
  rcases onDisplay_cases h display _ with ⟨failure, hr⟩ | ⟨a, d, d', hd, had, hr⟩
  · have hfailed := hr.symm.trans (Except.ok.inj hrun)
    cases hfailed
  · cases hl : d.layers.get? layer with
    | none =>
      rw [hl] at had
      cases had
    | some l =>
      rw [hl] at had
      by_cases hcursor : l.composition = .cursor
      · exact ⟨l, (layer?_of_get? hd layer).trans hl, hcursor⟩
      · simp only [hcursor, if_false] at had
        cases had

/-- Only a physical display is given a brightness. -/
theorem brightness_ok {level : Single}
    (hrun : Hardware.perform (.set display (.property (.brightness level))) h = .ok (.ok (), t)) :
    ∃ d, h.displays.get? display = some d ∧ d.config.isVirtual = false := by
  rcases onDisplay_cases h display _ with ⟨failure, hr⟩ | ⟨a, d, d', hd, had, hr⟩
  · have hfailed := hr.symm.trans (Except.ok.inj hrun)
    cases hfailed
  · cases hvirtual : d.config.isVirtual with
    | false => exact ⟨d, hd, hvirtual⟩
    | true =>
      rw [hvirtual, if_pos rfl] at had
      cases had

end Headless

end DisplayComposer
