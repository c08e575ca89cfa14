import DisplayComposer.Proofs.Hardware.Effect
/-!
# DisplayComposer.Proofs.Hardware.Overflow

**The frames that stop the program.** To tell whether a frame is inverted, the headless
backend takes its width and then its height. They are differences of 32-bit coordinates,
and if one does not fit into 32 bits the program stops, whatever the layer, and whether
the frame is inverted or not. All other calls return, but for one: no layer can be created
once there is no id left for the one after it.

* `Rect.Overflows` — the frames that cannot be measured;
* `Headless.inverted_eq` — what looking at a frame comes to;
* `Headless.perform_returns`, `Headless.perform_overflows` — which calls return.
-/

namespace DisplayComposer

/-- Whether a number is one of 32 bits. -/
def FitsInt32 (d : Int) : Prop := Int32.minValue.toInt ≤ d ∧ d ≤ Int32.maxValue.toInt

instance (d : Int) : Decidable (FitsInt32 d) :=
  inferInstanceAs (Decidable (Int32.minValue.toInt ≤ d ∧ d ≤ Int32.maxValue.toInt))

namespace Rect

/-- A rectangle that ends no earlier than it begins. -/
def Upright (r : Rect) : Prop := r.left ≤ r.right ∧ r.top ≤ r.bottom

instance (r : Rect) : Decidable r.Upright :=
  inferInstanceAs (Decidable (r.left ≤ r.right ∧ r.top ≤ r.bottom))

/-- A rectangle whose width does not fit into 32 bits, or whose height does not, where the
width is not negative already. -/
def Overflows (r : Rect) : Prop :=
  ¬ FitsInt32 (r.right.toInt - r.left.toInt) ∨
    r.left ≤ r.right ∧ ¬ FitsInt32 (r.bottom.toInt - r.top.toInt)

instance (r : Rect) : Decidable r.Overflows :=
  inferInstanceAs (Decidable (¬ FitsInt32 (r.right.toInt - r.left.toInt) ∨
    r.left ≤ r.right ∧ ¬ FitsInt32 (r.bottom.toInt - r.top.toInt)))

theorem extent_eq (low high : Int32) : extent low high =
    if FitsInt32 (high.toInt - low.toInt) then .ok (.ofInt (high.toInt - low.toInt))
    else .error .subtractionOverflow := rfl

/-- A difference that fits is negative if the greater coordinate is not the greater one. -/
theorem ofInt_sub_neg_iff {low high : Int32} (h : FitsInt32 (high.toInt - low.toInt)) :
    Int32.ofInt (high.toInt - low.toInt) < 0 ↔ ¬ low ≤ high := by
  have hgreatest : Int32.maxValue.toInt < 2 ^ 31 := by decide
  have hvalue : (Int32.ofInt (high.toInt - low.toInt)).toInt = high.toInt - low.toInt :=
    Int32.toInt_ofInt_of_le h.1 (Int.lt_of_le_of_lt h.2 hgreatest)
  rw [Int32.lt_iff_toInt_lt, hvalue, Int32.le_iff_toInt_le, Int32.toInt_zero]
  omega

end Rect

namespace Headless

variable {h : Headless} {display : DisplayId}

/-- **What looking at a frame comes to.** -/
theorem inverted_eq (r : Rect) :
    inverted r = if r.Overflows then .error .subtractionOverflow else .ok (!decide r.Upright) := by
  rw [inverted, Rect.width, Rect.height, Rect.extent_eq, Rect.extent_eq]
  by_cases hwidth : FitsInt32 (r.right.toInt - r.left.toInt)
  · rw [if_pos hwidth]
    by_cases hleft : r.left ≤ r.right
    · -- the width is not negative, so the height is looked at
      have hwide : ¬ Int32.ofInt (r.right.toInt - r.left.toInt) < 0 := fun hneg =>
        (Rect.ofInt_sub_neg_iff hwidth).1 hneg hleft
      show (if _ then _ else _) = _
      rw [if_neg hwide]
      by_cases hheight : FitsInt32 (r.bottom.toInt - r.top.toInt)
      · have hsound : ¬ r.Overflows := fun hover =>
          hover.elim (fun hno => hno hwidth) fun hno => hno.2 hheight
        have hupright : r.Upright ↔ r.top ≤ r.bottom := ⟨fun h => h.2, fun h => ⟨hleft, h⟩⟩
        rw [if_pos hheight, if_neg hsound]
        show Except.ok (decide (Int32.ofInt (r.bottom.toInt - r.top.toInt) < 0)) = _
        simp only [Rect.ofInt_sub_neg_iff hheight, hupright, decide_not]
      · have hover : r.Overflows := .inr ⟨hleft, hheight⟩
        rw [if_neg hheight, if_pos hover]
        rfl
    · have hnarrow : Int32.ofInt (r.right.toInt - r.left.toInt) < 0 :=
        (Rect.ofInt_sub_neg_iff hwidth).2 hleft
      have hsound : ¬ r.Overflows := fun hover =>
        hover.elim (fun hno => hno hwidth) fun hno => hleft hno.1
      have hinverted : ¬ r.Upright := fun h => hleft h.1
      show (if _ then _ else _) = _
      rw [if_pos hnarrow, if_neg hsound, decide_eq_false hinverted]
      rfl
  · have hover : r.Overflows := .inl hwidth
    rw [if_neg hwidth, if_pos hover]
    rfl

end Headless

/-- The frame that setting something measures. -/
def Setting.frame? {β : Type} : Setting β → Option Rect
  | .property (.layer _ (.displayFrame frame)) => some frame
  | _ => none

/-- The frame that a call measures. -/
def Call.frame? : Call → Option Rect
  | .set _ setting => setting.frame?
  | _ => none

namespace Headless

variable {h : Headless}

/-- A call stops the program if it measures a frame that overflows. -/
theorem perform_overflows {call : Call} {frame : Rect} (hframe : call.frame? = some frame)
    (hover : frame.Overflows) (h : Headless) :
    Hardware.perform call h = .error .subtractionOverflow := by
  obtain ⟨display, layer, rfl⟩ : ∃ display layer,
      call = .set display (.property (.layer layer (.displayFrame frame))) := by
    unfold Call.frame? Setting.frame? at hframe
    split at hframe
    · split at hframe
      · obtain rfl := Option.some.inj hframe
        exact ⟨_, _, rfl⟩
      · cases hframe
    · cases hframe
  show ((inverted frame).bind _) = _
  rw [inverted_eq, if_pos hover]
  rfl

/-- **Every other call returns,** but for one that creates a layer. -/
theorem perform_returns {call : Call} (hframe : ∀ frame, call.frame? = some frame →
    ¬ frame.Overflows) (hcall : ∀ display, call ≠ .createLayer display) (h : Headless) :
    ∃ r, Hardware.perform call h = .ok r := by
  cases call with
  | createLayer display => exact absurd rfl (hcall display)
  | set display setting =>
    cases setting with
    | image use image => exact ⟨_, rfl⟩
    | property p =>
      cases p with
      | layer layer p =>
        cases p with
        | displayFrame frame =>
          show ∃ r, (inverted frame).bind _ = _
          rw [inverted_eq, if_neg (hframe frame rfl)]
          cases decide frame.Upright <;> exact ⟨_, rfl⟩
        | _ => exact ⟨_, rfl⟩
      | _ => exact ⟨_, rfl⟩
  | _ => exact ⟨_, rfl⟩

/-- A layer is created, or refused, while there is an id for the next one. -/
theorem createLayer_returns (display : DisplayId) (hids : h.nextLayer ≠ Int64.maxValue) :
    ∃ r, Hardware.perform (.createLayer display) h = .ok r := by
  show ∃ r, h.createLayer display = .ok r
  dsimp only [createLayer]
  rcases onDisplay_cases h display fun d => .ok (h.nextLayer,
      { d with layers := d.layers.insert h.nextLayer .fresh, validated := false }) with
    ⟨failure, hr⟩ | ⟨layer, d, d', -, had, hr⟩
  · rw [hr]
    exact ⟨_, rfl⟩
  · rw [hr]
    cases had
    exact ⟨_, if_neg hids⟩

/-! ### A frame for a layer -/

/-- **What becomes of a frame** that is set for a layer: it stops the program, or it is taken
if it is upright and refused otherwise. -/
theorem perform_displayFrame {display : DisplayId} {layer : LayerId} {l : HeadlessLayer}
    (hl : h.layer? display layer = some l) {frame : Rect} (hsound : ¬ frame.Overflows) :
    ∃ h', Hardware.perform (.set display (.property (.layer layer (.displayFrame frame)))) h =
        .ok (if frame.Upright then .ok () else .error .badParameter, h') ∧
      h'.layer? display layer =
        some (if frame.Upright then { l with displayFrame := frame } else l) := by
  obtain ⟨d, hd, hlayer⟩ := Option.bind_eq_some_iff.1 hl
  show ∃ h', (inverted frame).bind _ = _ ∧ _
  rw [inverted_eq, if_neg hsound]
  by_cases hupright : frame.Upright
  · simp only [hupright, if_true, decide_true]
    show ∃ h', Except.ok (h.revise display layer fun l => { l with displayFrame := frame }) = _ ∧ _
    simp only [revise, onLayer, onDisplay, hd, hlayer]
    refine ⟨_, rfl, ?_⟩
    simp [layer?]
  · simp only [hupright, if_false, decide_false]
    exact ⟨h, rfl, hl⟩

end Headless

end DisplayComposer
