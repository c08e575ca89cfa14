import DisplayComposer.Proofs.Cache.Bare
import DisplayComposer.Proofs.Hardware.Validation
/-!
# DisplayComposer.Proofs.Hardware.Local

**A call looks at one display.** Apart from the ids of new layers and the numbers of fences,
all that a call of the headless backend depends on is the state of the display that it is
about, and that is all that it changes. Nor does it look at the serial numbers of the images
that it is given. So two backends that agree on a display go on agreeing on it, whatever
they do with others in between.

* `HeadlessDisplay.bare`, `Headless.bare?` — a display without the numbers of its images;
* `Headless.Local` — a call as a change of one display;
* `Headless.present_bare`, `perform_bare` — a call on two backends that agree on its display.
-/

namespace DisplayComposer

/-! ### Without the numbers of images and fences -/

def HeadlessLayer.bare (l : HeadlessLayer) : HeadlessLayer :=
  { l with buffer := l.buffer.map Image.bare, sideband := l.sideband.map Image.bare }

def HeadlessDisplay.bare (d : HeadlessDisplay) : HeadlessDisplay :=
  { d with
    layers := d.layers.mapValues fun _ l => l.bare
    clientTarget := d.clientTarget.map Image.bare
    outputBuffer := d.outputBuffer.map Image.bare }

/-- What the backend holds for a display. -/
def Headless.bare? (h : Headless) (display : DisplayId) : Option HeadlessDisplay :=
  (h.displays.get? display).map (·.bare)

/-- A fence without its number: all that is left is whether there is one. -/
def Fence.bare (f : Fence) : Fence := if f.isValid then ⟨0⟩ else .absent

def ReleaseFence.bare (f : ReleaseFence) : ReleaseFence := { f with fence := f.fence.bare }

def Presentation.bare (p : Presentation) : Presentation :=
  ⟨p.presentFence.bare, p.releaseFences.map (·.bare)⟩

/-- An answer without the numbers of fences. -/
def Call.bare : (call : Call) → call.Answer → call.Answer
  | .present _, p => Presentation.bare p
  | _, a => a

theorem Fence.isValid_bare (f : Fence) : f.bare.isValid = f.isValid := by
  rw [bare]
  cases h : f.isValid with
  | true => rfl
  | false => rfl

theorem Fence.isValid_of_bare {f g : Fence} (h : f.bare = g.bare) : f.isValid = g.isValid := by
  rw [← isValid_bare f, ← isValid_bare g, h]

namespace HeadlessDisplay

/-! ### What does not depend on the numbers -/

theorem stackedLayers_bare (d : HeadlessDisplay) : d.bare.stackedLayers = d.stackedLayers :=
  stackedLayers_mapValues d fun _ l => l.bare

theorem plan_bare (d : HeadlessDisplay) : d.bare.plan = d.plan := by
  rw [plan, stackedLayers_bare]
  rfl

theorem usesClientComposition_bare (d : HeadlessDisplay) :
    d.bare.usesClientComposition = d.usesClientComposition := by
  simp only [usesClientComposition, bare, Table.values, Table.mapValues, List.map_map, List.any_map]
  rfl

theorem bufferedLayers_bare (d : HeadlessDisplay) : d.bare.bufferedLayers = d.bufferedLayers := by
  simp only [bufferedLayers, bare, Table.mapValues, List.filter_map, List.map_map]
  simp [HeadlessLayer.bare, Function.comp_def]

theorem validation_bare (d : HeadlessDisplay) : d.bare.validation = d.validation := by
  simp only [validation, willUseClientComposition, plan_bare, usesClientComposition_bare]
  rfl

theorem refusal?_bare (d : HeadlessDisplay) : d.bare.refusal? = d.refusal? := by
  simp only [refusal?, usesClientComposition_bare]
  simp [bare]

theorem contains_bare (d : HeadlessDisplay) (layer : LayerId) :
    d.bare.layers.contains layer = d.layers.contains layer := by
  simp [Table.contains, bare]

theorem foldl_apply_bare (d : HeadlessDisplay) (changes : List CompositionChange) :
    changes.foldl apply d.bare.layers =
      (changes.foldl apply d.layers).mapValues fun _ l => l.bare := by
  rw [foldl_apply, foldl_apply]
  refine Table.ext_get? fun layer => ?_
  simp only [bare, Table.get?_mapValues, Option.map_map]
  rfl

end HeadlessDisplay

/-! ### Changes of a display -/

/-- A change of a display that may fail. -/
abbrev Change (α : Type) : Type := HeadlessDisplay → Except HardwareError (α × HeadlessDisplay)

namespace Change

variable {α : Type}

/-- A change, and one that does the same without the numbers of images. -/
def Bare (f g : Change α) : Prop := ∀ d, g d.bare = (f d).map fun r => (r.1, r.2.bare)

/-- A change of one layer of a display. -/
def ofLayer (layer : LayerId) (validated : Bool → Bool)
    (f : HeadlessLayer → Except HardwareError HeadlessLayer) : Change Unit := fun d =>
  match d.layers.get? layer with
  | none => .error .badLayer
  | some l => do
    let l ← f l
    pure ((), { d with layers := d.layers.insert layer l, validated := validated d.validated })

theorem bare_ofLayer (layer : LayerId) (validated : Bool → Bool)
    {f g : HeadlessLayer → Except HardwareError HeadlessLayer}
    (hf : ∀ l, g l.bare = (f l).map HeadlessLayer.bare) :
    (ofLayer layer validated f).Bare (ofLayer layer validated g) := by
  intro d
  have hget : d.bare.layers.get? layer = (d.layers.get? layer).map HeadlessLayer.bare :=
    Table.get?_mapValues ..
  rw [ofLayer, ofLayer, hget]
  cases d.layers.get? layer with
  | none => rfl
  | some l =>
    simp only [Option.map_some, hf]
    cases f l with
    | error failure => rfl
    | ok l' =>
      refine congrArg Except.ok (Prod.ext rfl ?_)
      simp only [HeadlessDisplay.bare, Table.mapValues_insert]

end Change

namespace Headless

variable {h : Headless} {display : DisplayId}

/-- A call that changes its display, if it changes anything, and does not look at the numbers
of images. -/
def Local (call : Call) : Prop :=
  ∃ act : Except Crash (Except HardwareError (Change call.Answer)),
    (∀ f, act = .ok (.ok f) → f.Bare f) ∧
      ∀ h : Headless, Hardware.perform call h = act.map fun
        | .error failure => h.fail failure
        | .ok f => h.onDisplay call.display f

theorem local_fail {call : Call} (failure : HardwareError)
    (hcall : ∀ h : Headless, Hardware.perform call h = .ok (h.fail failure)) : Local call :=
  ⟨.ok (.error failure), by simp, hcall⟩

theorem local_onDisplay {call : Call} (f : Change call.Answer) (hf : f.Bare f)
    (hcall : ∀ h : Headless, Hardware.perform call h = .ok (h.onDisplay call.display f)) :
    Local call := by
  refine ⟨.ok (.ok f), fun g hg => ?_, hcall⟩
  obtain rfl : f = g := by simpa using hg
  exact hf

theorem local_revise {layer : LayerId} {p : LayerProperty} (f : HeadlessLayer → HeadlessLayer)
    (hf : ∀ l, f l.bare = (f l).bare)
    (hcall : ∀ h : Headless, h.setLayer display layer p = .ok (h.revise display layer f)) :
    Local (.set display (.property (.layer layer p))) := by
  refine local_onDisplay _ (Change.bare_ofLayer layer (fun _ => false) fun l => ?_) hcall
  exact congrArg Except.ok (hf l)

/-- A property of a layer that is refused under a condition. -/
theorem local_revise_or {layer : LayerId} {p : LayerProperty} (refused : Prop)
    [Decidable refused] (f : HeadlessLayer → HeadlessLayer) (hf : ∀ l, f l.bare = (f l).bare)
    (hcall : ∀ h : Headless, h.setLayer display layer p =
      .ok (if refused then h.fail .badParameter else h.revise display layer f)) :
    Local (.set display (.property (.layer layer p))) := by
  by_cases hrefused : refused
  · refine local_fail .badParameter fun h => (hcall h).trans ?_
    rw [if_pos hrefused]
  · refine local_revise f hf fun h => (hcall h).trans ?_
    rw [if_neg hrefused]

theorem local_setLayer (layer : LayerId) (p : LayerProperty) :
    Local (.set display (.property (.layer layer p))) := by
  cases p with
  | cursorPosition position =>
    refine local_onDisplay (.ofLayer layer id fun l =>
      if l.composition = .cursor then .ok { l with cursor := position } else .error .badLayer)
      (Change.bare_ofLayer layer id fun l => ?_) fun _ => rfl
    show (if l.composition = .cursor then _ else _) = _
    split <;> rfl
  | surfaceDamage damage =>
    exact local_onDisplay (.ofLayer layer id .ok) (Change.bare_ofLayer layer id fun _ => rfl)
      fun _ => rfl
  | blendMode mode => exact local_revise_or _ id (fun _ => rfl) fun _ => rfl
  | composition c =>
    exact local_revise_or _ (fun l => { l with composition := c }) (fun _ => rfl) fun _ => rfl
  | sourceCrop crop => exact local_revise_or _ id (fun _ => rfl) fun _ => rfl
  | planeAlpha alpha =>
    refine local_revise_or (¬ isFraction alpha) (fun l => { l with planeAlpha := alpha })
      (fun _ => rfl) fun h => ?_
    rw [setLayer, ite_not]
  | colorTransform matrix =>
    refine local_revise_or (¬ matrix.length = matrixSize) id (fun _ => rfl) fun h => ?_
    rw [setLayer, ite_not]
  | displayFrame frame =>
    -- whether a frame can be measured has nothing to do with the display
    cases hinv : inverted frame with
    | error crash =>
      refine ⟨.error crash, by simp, fun h => ?_⟩
      show h.setLayer display layer (.displayFrame frame) = _
      rw [setLayer, hinv]
      rfl
    | ok inv =>
      refine local_revise_or (inv = true) (fun l => { l with displayFrame := frame })
        (fun _ => rfl) fun h => ?_
      rw [setLayer, hinv]
      cases inv <;> rfl
  | zOrder z => exact local_revise (fun l => { l with z := z }) (fun _ => rfl) fun _ => rfl
  | color _ | dataspace _ | transform _ | visibleRegion _ | metadata _ | metadataBlobs _ =>
    exact local_revise id (fun _ => rfl) fun _ => rfl

theorem local_setProperty (p : Property) : Local (.set display (.property p)) := by
  cases p with
  | layer layer p => exact local_setLayer layer p
  | colorTransform matrix =>
    by_cases hsize : matrix.length = matrixSize
    · refine local_onDisplay (fun d => .ok ((), { d with validated := false })) (fun _ => rfl) ?_
      intro h
      show h.setProperty display (.colorTransform matrix) = _
      rw [setProperty, if_pos hsize]
      rfl
    · refine local_fail .badParameter fun h => ?_
      show h.setProperty display (.colorTransform matrix) = _
      rw [setProperty, if_neg hsize]
  | brightness level =>
    refine local_onDisplay _ (fun d => ?_) fun _ => rfl
    show (if d.config.isVirtual then _ else _) = _
    split
    · rfl
    · split <;> rfl
  | expectedPresentTime time =>
    exact local_onDisplay (fun d => .ok ((), d)) (fun _ => rfl) fun _ => rfl

/-- A call that neither creates a layer, nor sets an image, nor presents. -/
theorem local_call {call : Call} (hcreate : ∀ display, call ≠ .createLayer display)
    (himage : ∀ display use image, call ≠ .set display (.image use image))
    (hpresent : ∀ display, call ≠ .present display) : Local call := by
  cases call with
  | createLayer display => exact absurd rfl (hcreate display)
  | present display => exact absurd rfl (hpresent display)
  | destroyLayer display layer =>
    refine local_onDisplay _ (fun d => ?_) fun _ => rfl
    rw [HeadlessDisplay.contains_bare]
    cases d.layers.contains layer with
    | true =>
      refine congrArg Except.ok (Prod.ext rfl ?_)
      simp [HeadlessDisplay.bare, Table.mapValues_erase]
    | false => rfl
  | set display setting =>
    cases setting with
    | property p => exact local_setProperty p
    | image use image => exact absurd rfl (himage display use image)
  | validate display =>
    refine local_onDisplay _ (fun d => ?_) fun _ => rfl
    dsimp only
    rw [HeadlessDisplay.validation_bare]
    rfl
  | accept display =>
    refine local_onDisplay _ (fun d => ?_) fun _ => rfl
    show (if d.validated then _ else _) = Except.map _ (if d.validated then _ else _)
    split
    · refine congrArg Except.ok (Prod.ext rfl ?_)
      have hlayers := d.foldl_apply_bare d.pending
      simp only [HeadlessDisplay.bare] at hlayers ⊢
      rw [hlayers]
    · rfl
  | hasClientComposition display =>
    refine local_onDisplay _ (fun d => ?_) fun _ => rfl
    rw [HeadlessDisplay.usesClientComposition_bare]
    rfl

/-- Setting an image, as a change of the display. -/
def imageChange (use : ImageUse) (image : Image) : Change Unit :=
  match use with
  | .clientTarget _ _ _ => fun d => .ok ((), { d with clientTarget := some image })
  | .outputBuffer _ => fun d =>
    if d.config.isVirtual then .ok ((), { d with outputBuffer := some image })
    else .error .unsupported
  | .layerBuffer layer _ => .ofLayer layer id fun l => .ok { l with buffer := some image }
  | .sideband layer =>
    .ofLayer layer (fun _ => false) fun l => .ok { l with sideband := some image }

theorem setImage_eq (h : Headless) (display : DisplayId) (use : ImageUse) (image : Image) :
    h.setImage display use image = h.onDisplay display (imageChange use image) := by
  cases use <;> rfl

theorem bare_imageChange (use : ImageUse) (image : Image) :
    (imageChange use image).Bare (imageChange use image.bare) := by
  cases use with
  | clientTarget fence dataspace damage => exact fun _ => rfl
  | outputBuffer fence =>
    intro d
    show (if d.config.isVirtual then _ else _) =
      Except.map _ (if d.config.isVirtual then _ else _)
    split <;> rfl
  | layerBuffer layer fence =>
    refine Change.bare_ofLayer layer id fun l => ?_
    rfl
  | sideband layer =>
    refine Change.bare_ofLayer layer (fun _ => false) fun l => ?_
    rfl

/-! ### Two backends that agree on a display -/

variable {h' : Headless}

/-- Changes that come to the same without the numbers of images. -/
theorem onDisplay_bare {α : Type} {f f' g : Change α} (hf : f.Bare g) (hf' : f'.Bare g)
    (hsame : h.bare? display = h'.bare? display) :
    (h.onDisplay display f).1 = (h'.onDisplay display f').1 ∧
      (h.onDisplay display f).2.bare? display = (h'.onDisplay display f').2.bare? display := by
  rw [onDisplay, onDisplay]
  rcases Option.map_eq_map_cases hsame with ⟨hd, hd'⟩ | ⟨d, d', hd, hd', hbare⟩
  · rw [hd, hd']
    exact ⟨rfl, hsame⟩
  · have hchange : (f d).map (fun r => (r.1, r.2.bare)) = (f' d').map fun r => (r.1, r.2.bare) := by
      rw [← hf, ← hf', hbare]
    rw [hd, hd']
    dsimp only
    rcases Except.map_eq_map_cases hchange with ⟨failure, hr, hr'⟩ | ⟨r, r', hr, hr', heq⟩
    · rw [hr, hr']
      exact ⟨rfl, hsame⟩
    · obtain ⟨ha, hafter⟩ := Prod.mk.inj heq
      rw [hr, hr']
      refine ⟨congrArg Except.ok ha, ?_⟩
      rw [bare?, bare?, Table.get?_insert_self, Table.get?_insert_self, Option.map_some,
        Option.map_some, hafter]

/-- **A call depends on its display,** and leaves the same there. -/
theorem Local.perform_bare {call : Call} (hcall : Local call)
    (hsame : h.bare? call.display = h'.bare? call.display)
    {out : Except HardwareError call.Answer} {t : Headless}
    (hrun : Hardware.perform call h = .ok (out, t)) :
    ∃ t', Hardware.perform call h' = .ok (out, t') ∧
      t.bare? call.display = t'.bare? call.display := by
  obtain ⟨act, hbare, hact⟩ := hcall
  rw [hact] at hrun ⊢
  cases act with
  | error crash => cases hrun
  | ok decided =>
    cases decided with
    | error failure =>
      cases hrun
      exact ⟨h', rfl, hsame⟩
    | ok f =>
      obtain ⟨hout, hafter⟩ := onDisplay_bare (hbare f rfl) (hbare f rfl) hsame
      have heq : h.onDisplay call.display f = (out, t) := Except.ok.inj hrun
      rw [heq] at hout hafter
      exact ⟨(h'.onDisplay call.display f).2, congrArg Except.ok (Prod.ext hout.symm rfl), hafter⟩

/-- Nor does it matter which number the image has that a display is given. -/
theorem setImage_bare {use : ImageUse} {image image' : Image} (himage : image.bare = image'.bare)
    (hsame : h.bare? display = h'.bare? display) {out : Except HardwareError Unit} {t : Headless}
    (hrun : Hardware.perform (.set display (.image use image)) h = .ok (out, t)) :
    ∃ t', Hardware.perform (.set display (.image use image')) h' = .ok (out, t') ∧
      t.bare? display = t'.bare? display := by
  have hset : h.setImage display use image = (out, t) := Except.ok.inj hrun
  obtain ⟨hout, hafter⟩ := onDisplay_bare (bare_imageChange use image)
    (himage ▸ bare_imageChange use image') hsame
  rw [← setImage_eq, ← setImage_eq, hset] at hout hafter
  exact ⟨(h'.setImage display use image').2, congrArg Except.ok (Prod.ext hout.symm rfl), hafter⟩

/-! ### Ids and fences -/

theorem counters_onDisplay {α : Type} (f : Change α) :
    (h.onDisplay display f).2.nextLayer = h.nextLayer ∧
      (h.onDisplay display f).2.nextFence = h.nextFence := by
  rcases onDisplay_cases h display f with ⟨failure, hr⟩ | ⟨a, d, d', -, -, hr⟩ <;> rw [hr] <;>
    exact ⟨rfl, rfl⟩

theorem Local.counters {call : Call} (hcall : Local call) {r : Result call.Answer}
    (hrun : Hardware.perform call h = .ok r) :
    r.2.nextLayer = h.nextLayer ∧ r.2.nextFence = h.nextFence := by
  obtain ⟨act, -, hact⟩ := hcall
  rw [hact] at hrun
  obtain ⟨decided, -, rfl⟩ := Except.map_eq_ok_iff.1 hrun
  cases decided with
  | error failure => exact ⟨rfl, rfl⟩
  | ok f => exact counters_onDisplay f

/-- All other calls create a layer, present, or set an image. -/
theorem call_cases (call : Call) :
    (∃ display, call = .createLayer display) ∨ (∃ display, call = .present display) ∨
      (∃ display use image, call = .set display (.image use image)) ∨ Local call := by
  by_cases hcreate : ∃ display, call = .createLayer display
  · exact .inl hcreate
  · by_cases hpresent : ∃ display, call = .present display
    · exact .inr (.inl hpresent)
    · by_cases himage : ∃ display use image, call = .set display (.image use image)
      · exact .inr (.inr (.inl himage))
      · refine .inr (.inr (.inr (local_call ?_ ?_ ?_)))
        · exact fun display h => hcreate ⟨display, h⟩
        · exact fun display use image h => himage ⟨display, use, image, h⟩
        · exact fun display h => hpresent ⟨display, h⟩

/-- Ids are used up by creating layers only. -/
theorem nextLayer_of_perform {call : Call} (hcall : ∀ display, call ≠ .createLayer display)
    {r : Result call.Answer} (hrun : Hardware.perform call h = .ok r) :
    r.2.nextLayer = h.nextLayer := by
  rcases call_cases call with ⟨d, rfl⟩ | ⟨d, rfl⟩ | ⟨d, use, image, rfl⟩ | hlocal
  · exact absurd rfl (hcall d)
  · obtain rfl := Except.ok.inj hrun
    unfold present
    split
    · rfl
    · split <;> rfl
  · obtain rfl := Except.ok.inj hrun
    show (h.setImage d use image).2.nextLayer = h.nextLayer
    rw [setImage_eq]
    exact (counters_onDisplay _).1
  · exact (hlocal.counters hrun).1

/-- Fences are used up by presenting only. -/
theorem nextFence_of_perform {call : Call} (hcall : ∀ display, call ≠ .present display)
    {r : Result call.Answer} (hrun : Hardware.perform call h = .ok r) :
    r.2.nextFence = h.nextFence := by
  rcases call_cases call with ⟨d, rfl⟩ | ⟨d, rfl⟩ | ⟨d, use, image, rfl⟩ | hlocal
  · have hcreate : h.createLayer d = .ok r := hrun
    dsimp only [createLayer] at hcreate
    rcases onDisplay_cases h d fun d => .ok (h.nextLayer,
        { d with layers := d.layers.insert h.nextLayer .fresh, validated := false }) with
      ⟨failure, hr⟩ | ⟨layer, d, d', -, -, hr⟩
    · rw [hr] at hcreate
      cases hcreate
      rfl
    · rw [hr] at hcreate
      dsimp only at hcreate
      split at hcreate <;> cases hcreate
      rfl
  · exact absurd rfl (hcall d)
  · obtain rfl := Except.ok.inj hrun
    show (h.setImage d use image).2.nextFence = h.nextFence
    rw [setImage_eq]
    exact (counters_onDisplay _).2
  · exact (hlocal.counters hrun).2

/-- The fence that is handed out next is one. -/
def Fenced (h : Headless) : Prop := (Fence.mk h.nextFence).isValid = true

theorem isValid_takeFence {fence : Int32} (hfence : (Fence.mk fence).isValid = true) :
    (Fence.mk (takeFence fence).2).isValid = true := by
  rw [takeFence]
  split
  · rfl
  · rename_i hmax
    have hle : fence.toInt ≤ 2147483647 := Int32.toInt_le fence
    have hne : fence.toInt ≠ 2147483647 := fun heq => hmax (Int32.toInt_inj.1 heq)
    have hzero : 0 ≤ fence.toInt := Int32.le_iff_toInt_le.1 (of_decide_eq_true hfence)
    have hsucc : (fence + 1).toInt = fence.toInt + 1 := by
      rw [Int32.toInt_add]
      refine Int.bmod_eq_of_le ?_ ?_
      · show _ ≤ fence.toInt + 1
        omega
      · show fence.toInt + 1 < _
        omega
    refine decide_eq_true (Int32.le_iff_toInt_le.2 ?_)
    rw [hsucc]
    show 0 ≤ fence.toInt + 1
    omega

/-- Without its number every fence that is handed out is the same. -/
theorem bare_takeReleaseFences {fence : Int32} (hfence : (Fence.mk fence).isValid = true)
    (layers : List LayerId) :
    (takeReleaseFences fence layers).1.map ReleaseFence.bare = layers.map (⟨·, ⟨0⟩⟩) ∧
      (Fence.mk (takeReleaseFences fence layers).2).isValid = true := by
  induction layers generalizing fence with
  | nil => exact ⟨rfl, hfence⟩
  | cons layer rest ih =>
    obtain ⟨hrest, hlast⟩ := ih (isValid_takeFence hfence)
    refine ⟨?_, hlast⟩
    rw [List.map_cons, ← hrest]
    show ReleaseFence.mk layer (Fence.bare ⟨fence⟩) :: List.map _ _ = _
    rw [Fence.bare, if_pos hfence]
    rfl

/-- A presentation without the numbers of its fences. -/
theorem present_of_ready {d : HeadlessDisplay} (hd : h.displays.get? display = some d)
    (hready : d.refusal? = none) (hfences : h.Fenced) :
    ∃ p, (h.present display).1 = .ok p ∧ p.bare = ⟨⟨0⟩, d.bufferedLayers.map (⟨·, ⟨0⟩⟩)⟩ ∧
      (h.present display).2.displays =
        h.displays.insert display { d with framesPresented := d.framesPresented + 1 } ∧
      (h.present display).2.Fenced := by
  obtain ⟨hreleases, hlast⟩ := bare_takeReleaseFences (isValid_takeFence hfences) d.bufferedLayers
  unfold present
  rw [hd]
  dsimp only
  rw [hready]
  refine ⟨_, rfl, ?_, rfl, hlast⟩
  show Presentation.mk (Fence.bare ⟨h.nextFence⟩) (List.map _ _) = _
  have hfence : (Fence.mk h.nextFence).isValid = true := hfences
  rw [hreleases, Fence.bare, if_pos hfence]

theorem present_of_refusal {d : HeadlessDisplay} (hd : h.displays.get? display = some d)
    {failure : HardwareError} (hrefused : d.refusal? = some failure) :
    h.present display = (.error failure, h) := by
  unfold present
  rw [hd]
  dsimp only
  rw [hrefused]
  rfl

/-- **Presenting depends on the display** but for the numbers of the fences. -/
theorem present_bare (hsame : h.bare? display = h'.bare? display) (hfences : h.Fenced)
    (hfences' : h'.Fenced) :
    (h.present display).1.map Presentation.bare = (h'.present display).1.map Presentation.bare ∧
      (h.present display).2.bare? display = (h'.present display).2.bare? display := by
  rcases Option.map_eq_map_cases hsame with ⟨hd, hd'⟩ | ⟨d, d', hd, hd', hbare⟩
  · have hunknown : ∀ {h : Headless}, h.displays.get? display = none →
        h.present display = (.error .badDisplay, h) := by
      intro h hd
      unfold present
      rw [hd]
      rfl
    rw [hunknown hd, hunknown hd']
    exact ⟨rfl, hsame⟩
  · have hrefusal : d.refusal? = d'.refusal? := by
      rw [← d.refusal?_bare, ← d'.refusal?_bare, hbare]
    cases hr : d.refusal? with
    | some failure =>
      rw [present_of_refusal hd hr, present_of_refusal hd' (hrefusal ▸ hr)]
      exact ⟨rfl, hsame⟩
    | none =>
      obtain ⟨p, hp, hpbare, hafter, -⟩ := present_of_ready hd hr hfences
      obtain ⟨p', hp', hpbare', hafter', -⟩ := present_of_ready hd' (hrefusal ▸ hr) hfences'
      have hbuffered : d.bufferedLayers = d'.bufferedLayers := by
        rw [← d.bufferedLayers_bare, ← d'.bufferedLayers_bare, hbare]
      rw [hp, hp', bare?, bare?, hafter, hafter', Table.get?_insert_self, Table.get?_insert_self]
      refine ⟨congrArg Except.ok (hpbare.trans ?_), congrArg some ?_⟩
      · rw [hpbare', hbuffered]
      · simp only [HeadlessDisplay.bare, HeadlessDisplay.mk.injEq] at hbare ⊢
        simp only [hbare, and_self]

/-- Whatever calls are made, there is a next fence. -/
theorem Fenced.perform {call : Call} {out : Except HardwareError call.Answer} {t : Headless}
    (hfences : h.Fenced) (hrun : Hardware.perform call h = .ok (out, t)) : t.Fenced := by
  by_cases hpresent : ∃ display, call = .present display
  · obtain ⟨display, rfl⟩ := hpresent
    have hpresented : h.present display = (out, t) := Except.ok.inj hrun
    cases hd : h.displays.get? display with
    | none =>
      unfold present at hpresented
      rw [hd] at hpresented
      cases hpresented
      exact hfences
    | some d =>
      cases hr : d.refusal? with
      | some failure =>
        rw [present_of_refusal hd hr] at hpresented
        cases hpresented
        exact hfences
      | none =>
        obtain ⟨p, -, -, -, hafter⟩ := present_of_ready hd hr hfences
        rwa [hpresented] at hafter
  · have hsame := nextFence_of_perform (fun display heq => hpresent ⟨display, heq⟩) hrun
    rw [Fenced, show t.nextFence = h.nextFence from hsame]
    exact hfences

/-- **A call that creates no layer depends on its display,** but for the numbers of fences, and
leaves the same there. -/
theorem perform_bare {call : Call} (hcall : ∀ display, call ≠ .createLayer display)
    (hfences : h.Fenced) (hfences' : h'.Fenced)
    (hsame : h.bare? call.display = h'.bare? call.display)
    {out : Except HardwareError call.Answer} {t : Headless}
    (hrun : Hardware.perform call h = .ok (out, t)) :
    ∃ out' t', Hardware.perform call h' = .ok (out', t') ∧
      out.map call.bare = out'.map call.bare ∧ t.bare? call.display = t'.bare? call.display := by
  rcases call_cases call with ⟨d, rfl⟩ | ⟨d, rfl⟩ | ⟨d, use, image, rfl⟩ | hlocal
  · exact absurd rfl (hcall d)
  · dsimp only [Call.display] at hsame ⊢
    have hpresented : h.present d = (out, t) := Except.ok.inj hrun
    obtain ⟨hout, hafter⟩ := present_bare hsame hfences hfences'
    rw [hpresented] at hout hafter
    exact ⟨_, _, rfl, hout, hafter⟩
  · obtain ⟨t', hrun', hafter⟩ := setImage_bare (rfl : image.bare = image.bare) hsame hrun
    exact ⟨out, t', hrun', rfl, hafter⟩
  · obtain ⟨t', hrun', hafter⟩ := hlocal.perform_bare hsame hrun
    exact ⟨out, t', hrun', rfl, hafter⟩

theorem fenced_of_reaches {configs : List DisplayConfig}
    (reached : Hardware.Reaches (Headless.ofConfigs configs) h) : h.Fenced :=
  reached.invariant (P := Fenced) Fenced.perform rfl

end Headless

end DisplayComposer
