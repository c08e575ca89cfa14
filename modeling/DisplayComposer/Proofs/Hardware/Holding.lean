import DisplayComposer.Proofs.Hardware.Validation
/-!
# DisplayComposer.Proofs.Hardware.Holding

**The images that the headless backend holds.** A display holds what the client composed
and, if it is virtual, an output buffer; a layer holds a buffer and a stream. An image is
held from the call that sets it until another is set in its place, or until the layer is
destroyed. No other call touches it.

A call that sets an image can fail, but only where none can be held: there is no such
display, no such layer, or no output buffer. So after a call that was to set an image no
older one is held in its place, whatever came of the call.

* `Holding`, `Headless.held?` — what is held, and as what;
* `Setting.holds` — what is held once something is set;
* `Headless.held_of_set`, `held_of_perform`, `held_of_destroyLayer` — what calls leave.
-/

namespace DisplayComposer

/-- What a display holds an image as. -/
inductive Holding where
  | clientTarget
  | outputBuffer
  | layerBuffer (layer : LayerId)
  | sideband (layer : LayerId)
  deriving DecidableEq

/-- The layer that holds an image, if it is one. -/
def Holding.layer? : Holding → Option LayerId
  | .clientTarget | .outputBuffer => none
  | .layerBuffer layer | .sideband layer => some layer

/-- What an image is held as that is used. -/
def ImageUse.holding : ImageUse → Holding
  | .clientTarget _ _ _ => .clientTarget
  | .outputBuffer _ => .outputBuffer
  | .layerBuffer layer _ => .layerBuffer layer
  | .sideband layer => .sideband layer

/-- What is held as `x` once something is set, where `held` was held before. -/
def Setting.holds (x : Holding) (held : Option Image) : Setting Image → Option Image
  | .property _ => held
  | .image use set => if use.holding = x then some set else held

/-- The image that a layer holds as its part of `x`. -/
def HeadlessLayer.held? (l : HeadlessLayer) : Holding → Option Image
  | .clientTarget | .outputBuffer => none
  | .layerBuffer _ => l.buffer
  | .sideband _ => l.sideband

namespace HeadlessDisplay

/-- The image that a display holds as `x`. -/
def held? (d : HeadlessDisplay) : Holding → Option Image
  | .clientTarget => d.clientTarget
  | .outputBuffer => d.outputBuffer
  | .layerBuffer layer => (d.layers.get? layer).bind (·.buffer)
  | .sideband layer => (d.layers.get? layer).bind (·.sideband)

theorem held?_of_layer {x : Holding} {layer : LayerId} (hx : x.layer? = some layer)
    (d : HeadlessDisplay) : d.held? x = (d.layers.get? layer).bind (·.held? x) := by
  cases x with
  | layerBuffer other =>
    obtain rfl := Option.some.inj hx
    rfl
  | sideband other =>
    obtain rfl := Option.some.inj hx
    rfl
  | _ => cases hx

/-- What a display holds depends on no layer but the one that holds it. -/
theorem held?_congr {d : HeadlessDisplay} {layers : Table LayerId HeadlessLayer} {x : Holding}
    (validated : Bool)
    (hlayers : ∀ layer, x.layer? = some layer → layers.get? layer = d.layers.get? layer) :
    held? { d with layers, validated } x = d.held? x := by
  cases x with
  | layerBuffer layer => rw [held?, held?, hlayers layer rfl]
  | sideband layer => rw [held?, held?, hlayers layer rfl]
  | _ => rfl

/-- Where a layer is put in place, its own images are held, and all others as before. -/
theorem held?_insert (d : HeadlessDisplay) (layer : LayerId) (l : HeadlessLayer)
    (validated : Bool) (x : Holding) :
    held? { d with layers := d.layers.insert layer l, validated } x =
      if x.layer? = some layer then l.held? x else d.held? x := by
  by_cases hx : x.layer? = some layer
  · rw [if_pos hx, held?_of_layer hx, Table.get?_insert_self]
    rfl
  · rw [if_neg hx]
    refine held?_congr validated fun other hother => Table.get?_insert_of_ne _ _ fun heq => hx ?_
    rw [hother, heq]

/-- Changing compositions leaves the images alone. -/
theorem held?_foldl_apply (d : HeadlessDisplay) (changes : List CompositionChange)
    (pending : List CompositionChange) (x : Holding) :
    held? { d with layers := changes.foldl apply d.layers, pending } x = d.held? x := by
  rw [foldl_apply]
  cases x with
  | layerBuffer layer => cases h : d.layers.get? layer <;> simp [held?, h]
  | sideband layer => cases h : d.layers.get? layer <;> simp [held?, h]
  | _ => rfl

namespace Step

variable {d d' : HeadlessDisplay} {call : Call} {x : Holding} {image : Image}

/-- A layer holds what was set last. -/
theorem held?_set_layer {layer : LayerId} {l l' : HeadlessLayer} {setting : Setting Image}
    (hl : d.layers.get? layer = some l) (validated : Bool)
    (hset : ∀ x, x.layer? = some layer → l'.held? x = setting.holds x (l.held? x))
    (hothers : ∀ x, x.layer? ≠ some layer → ∀ held, setting.holds x held = held) (x : Holding) :
    held? { d with layers := d.layers.insert layer l', validated } x =
      setting.holds x (d.held? x) := by
  rw [held?_insert]
  by_cases hx : x.layer? = some layer
  · rw [if_pos hx, hset x hx, held?_of_layer hx, hl]
    rfl
  · rw [if_neg hx, hothers x hx]

/-- A display holds what was set last. -/
theorem held?_set {display : DisplayId} {setting : Setting Image}
    (h : d.Step (.set display setting) d') (x : Holding) :
    d'.held? x = setting.holds x (d.held? x) := by
  cases h with
  | layerProperty p hl =>
    refine held?_set_layer hl _ (fun x _ => ?_) (fun x _ held => ?_) x
    · cases p <;> cases x <;> rfl
    · rfl
  | colorTransform | brightness | expectedPresentTime => cases x <;> rfl
  | clientTarget fence dataspace damage image =>
    cases x <;> simp [held?, Setting.holds, ImageUse.holding]
  | outputBuffer fence image hvirtual =>
    cases x <;> simp [held?, Setting.holds, ImageUse.holding]
  | layerBuffer fence image hl =>
    refine held?_set_layer hl _ (fun x hx => ?_) (fun x hx held => ?_) x
    · cases x <;> cases hx <;> simp [HeadlessLayer.held?, Setting.holds, ImageUse.holding]
    · rw [Setting.holds, if_neg]
      rintro rfl
      exact hx rfl
  | sideband image hl =>
    refine held?_set_layer hl _ (fun x hx => ?_) (fun x hx held => ?_) x
    · cases x <;> cases hx <;> simp [HeadlessLayer.held?, Setting.holds, ImageUse.holding]
    · rw [Setting.holds, if_neg]
      rintro rfl
      exact hx rfl

/-- A layer takes its images with it. -/
theorem held?_destroyLayer {display : DisplayId} {layer : LayerId}
    (h : d.Step (.destroyLayer display layer) d') (hx : x.layer? = some layer) :
    d'.held? x = none := by
  cases h
  rw [held?_of_layer hx, Table.get?_erase, if_pos rfl]
  rfl

/-- A call that sets nothing brings no image. -/
theorem held_of_not_set (h : d.Step call d')
    (hcall : ∀ display setting, call ≠ .set display setting) (hheld : d'.held? x = some image) :
    d.held? x = some image := by
  cases h with
  | createLayer layer =>
    rw [held?_insert] at hheld
    split at hheld
    · -- a new layer holds none
      cases x <;> cases hheld
    · exact hheld
  | @destroyLayer display layer hl =>
    by_cases hx : x.layer? = some layer
    · rw [held?_destroyLayer (@destroyLayer d display layer hl) hx] at hheld
      cases hheld
    · rwa [held?_congr] at hheld
      intro other hother
      rw [Table.get?_erase, if_neg]
      rintro rfl
      exact hx hother
  | accept hvalidated =>
    rwa [held?_foldl_apply] at hheld
  | validate | present | hasClientComposition => exact hheld
  | _ => exact absurd rfl (hcall _ _)

theorem config_eq (h : d.Step call d') : d'.config = d.config := by
  cases h <;> rfl

end Step

end HeadlessDisplay

/-! ### The backend -/

namespace Headless

/-- The image that a display holds as `x`. -/
def held? (h : Headless) (display : DisplayId) (x : Holding) : Option Image :=
  (h.displays.get? display).bind (·.held? x)

/-- No display holds an output buffer that is not virtual. -/
def Outputs (h : Headless) : Prop :=
  ∀ display d, h.displays.get? display = some d → d.config.isVirtual = false →
    d.outputBuffer = none

variable {h h' : Headless} {call : Call} {display : DisplayId} {x : Holding} {image : Image}

theorem held?_of_insert {display : DisplayId} {d' : HeadlessDisplay}
    (hdisplays : h'.displays = h.displays.insert display d') (other : DisplayId) (x : Holding) :
    h'.held? other x = if display = other then d'.held? x else h.held? other x := by
  rw [held?, held?, hdisplays, Table.get?_insert]
  by_cases hdisplay : display = other
  · rw [if_pos hdisplay, if_pos hdisplay]
    rfl
  · rw [if_neg hdisplay, if_neg hdisplay]

theorem held?_of_get? {d : HeadlessDisplay} (hd : h.displays.get? display = some d)
    (x : Holding) : h.held? display x = d.held? x := by
  rw [held?, hd]
  rfl

/-- Nothing is held before anything was set. -/
theorem held?_ofConfigs (configs : List DisplayConfig) (display : DisplayId) (x : Holding) :
    (ofConfigs configs).held? display x = none := by
  cases hd : (ofConfigs configs).displays.get? display with
  | none => rw [held?, hd]; rfl
  | some d =>
    rw [held?_of_get? hd]
    obtain ⟨config, -, hconfig⟩ := List.mem_map.1 (Table.mem_of_get?_ofList hd)
    obtain ⟨rfl, rfl⟩ := Prod.mk.inj hconfig
    cases x <;> rfl

theorem outputs_ofConfigs (configs : List DisplayConfig) : (ofConfigs configs).Outputs := by
  intro display d hd _
  exact (held?_of_get? hd .outputBuffer).symm.trans (held?_ofConfigs configs display .outputBuffer)

theorem Outputs.perform {r : Result call.Answer} (houtputs : h.Outputs)
    (hrun : Hardware.perform call h = .ok r) : r.2.Outputs := by
  rcases perform_cases hrun with ⟨failure, rfl⟩ | ⟨a, d, d', -, hd, hstep, hdisplays⟩
  · exact houtputs
  · intro display f hf hvirtual
    rw [hdisplays, Table.get?_insert] at hf
    by_cases hdisplay : call.display = display
    · rw [if_pos hdisplay] at hf
      obtain rfl := Option.some.inj hf
      rw [hstep.config_eq] at hvirtual
      have hnone := houtputs _ d hd hvirtual
      cases hstep with
      | outputBuffer fence image hv => rw [hv] at hvirtual; cases hvirtual
      | _ => exact hnone
    · rw [if_neg hdisplay] at hf
      exact houtputs display f hf hvirtual

/-- A call that was to set an image fails only where none is held. -/
theorem held?_of_setImage_fails {use : ImageUse} {failure : HardwareError}
    (houtputs : h.Outputs) (hfail : h.setImage display use image = h.fail failure) :
    h.held? display use.holding = none := by
  cases hd : h.displays.get? display with
  | none => rw [held?, hd]; rfl
  | some d =>
    rw [held?_of_get? hd]
    cases use with
    | clientTarget fence dataspace damage =>
      simp [setImage, onDisplay, hd, fail] at hfail
    | outputBuffer fence =>
      cases hv : d.config.isVirtual with
      | false => exact houtputs display d hd hv
      | true => simp [setImage, onDisplay, hd, hv, fail] at hfail
    | layerBuffer layer fence =>
      cases hl : d.layers.get? layer with
      | none => simp [ImageUse.holding, HeadlessDisplay.held?, hl]
      | some l =>
        simp only [setImage, adjust, onLayer, onDisplay, hd, hl] at hfail
        cases hfail
    | sideband layer =>
      cases hl : d.layers.get? layer with
      | none => simp [ImageUse.holding, HeadlessDisplay.held?, hl]
      | some l =>
        simp only [setImage, revise, onLayer, onDisplay, hd, hl] at hfail
        cases hfail

/-- **After a call that sets something** nothing is held that was held before in the place
of what was set, whatever came of the call. -/
theorem held_of_set {setting : Setting Image} {target : DisplayId} {r : Result Unit}
    (houtputs : h.Outputs) (hrun : Hardware.perform (.set target setting) h = .ok r)
    (hheld : r.2.held? display x = some image) :
    (if target = display then setting.holds x (h.held? display x) else h.held? display x) =
      some image := by
  rcases perform_cases hrun with ⟨failure, rfl⟩ | ⟨a, d, d', -, hd, hstep, hdisplays⟩
  · have hbefore : h.held? display x = some image := hheld
    rw [hbefore, ite_eq_right_iff]
    rintro rfl
    cases setting with
    | property p => rfl
    | image use set =>
      by_cases hx : use.holding = x
      · -- the call has failed where an image was held
        have hnone : h.held? target use.holding = none :=
          held?_of_setImage_fails houtputs (Except.ok.inj hrun)
        rw [hx, hbefore] at hnone
        cases hnone
      · rw [Setting.holds, if_neg hx]
  · rw [show (Call.set target setting).display = target from rfl] at hd hdisplays
    rw [held?_of_insert hdisplays] at hheld
    by_cases htarget : target = display
    · subst htarget
      rw [if_pos rfl, hstep.held?_set] at hheld
      rw [if_pos rfl, held?_of_get? hd]
      exact hheld
    · rw [if_neg htarget] at hheld
      rw [if_neg htarget]
      exact hheld

/-- **A call that sets nothing** brings no image. -/
theorem held_of_perform {r : Result call.Answer} (hrun : Hardware.perform call h = .ok r)
    (hcall : ∀ display setting, call ≠ .set display setting)
    (hheld : r.2.held? display x = some image) : h.held? display x = some image := by
  rcases perform_cases hrun with ⟨failure, rfl⟩ | ⟨a, d, d', -, hd, hstep, hdisplays⟩
  · exact hheld
  · rw [held?_of_insert hdisplays] at hheld
    by_cases hdisplay : call.display = display
    · rw [if_pos hdisplay] at hheld
      rw [← hdisplay, held?_of_get? hd]
      exact hstep.held_of_not_set hcall hheld
    · rw [if_neg hdisplay] at hheld
      exact hheld

/-- A layer that is destroyed takes its images with it. -/
theorem held?_of_destroyLayer {layer : LayerId}
    (hrun : Hardware.perform (.destroyLayer display layer) h = .ok (.ok (), h'))
    (hx : x.layer? = some layer) : h'.held? display x = none := by
  rcases perform_cases hrun with ⟨failure, hr⟩ | ⟨a, d, d', -, hd, hstep, hdisplays⟩
  · cases hr
  · rw [held?_of_insert hdisplays]
    exact (if_pos rfl).trans (hstep.held?_destroyLayer hx)

end Headless

end DisplayComposer
