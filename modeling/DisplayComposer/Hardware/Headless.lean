import DisplayComposer.Config.Display
import DisplayComposer.Hardware.Call
import DisplayComposer.Hardware.Plan
import DisplayComposer.Table
/-!
# DisplayComposer.Hardware.Headless

**Display hardware without displays.** This backend keeps for every layer what
later answers depend on, plans compositions as a display with a limited number
of scan-out layers would, and hands out fences that grow by one. So the composer
runs from end to end without a driver.

A change of what is shown where makes a display unvalidated: it has to be
validated, and changes accepted, before it can present again. A new buffer, a
cursor position and damage do not.

* `HeadlessLayer`, `HeadlessDisplay`, `Headless` — the state;
* `Headless.ofConfigs` — the displays of a configuration;
* `Headless.set`, `validate`, `accept`, `present` — the calls;
* `Headless.layer?`, `framesPresented?`, `brightness?` — looking at the state.
-/

namespace DisplayComposer

/-- What is kept for a layer. -/
structure HeadlessLayer where
  composition : Composition
  z : UInt32
  buffer : Option Image
  sideband : Option Image
  planeAlpha : Single
  displayFrame : Rect
  cursor : Point
  deriving DecidableEq

/-- What is kept for a display. -/
structure HeadlessDisplay where
  config : DisplayConfig
  layers : Table LayerId HeadlessLayer
  validated : Bool
  /-- Changes that validating asked for and that were not accepted yet. -/
  pending : List CompositionChange
  clientTarget : Option Image
  outputBuffer : Option Image
  brightness : Single
  framesPresented : Nat
  deriving DecidableEq

/-- The backend. -/
structure Headless where
  displays : Table DisplayId HeadlessDisplay
  /-- The next layer to be created. -/
  nextLayer : LayerId
  /-- The next fence to be handed out. -/
  nextFence : Int32
  deriving DecidableEq

/-- The number 1. -/
def Binary.one : Single := .ofInt 1

namespace HeadlessLayer

/-- A new layer. -/
def fresh : HeadlessLayer where
  composition := .device
  z := 0
  buffer := none
  sideband := none
  planeAlpha := .one
  displayFrame := .empty
  cursor := .origin

end HeadlessLayer

namespace HeadlessDisplay

/-- A display that was not used yet. -/
def ofConfig (config : DisplayConfig) : HeadlessDisplay where
  config
  layers := .empty
  validated := false
  pending := []
  clientTarget := none
  outputBuffer := none
  brightness := .one
  framesPresented := 0

/-- The layers as planning sees them, in ascending order of their ids. -/
def stackedLayers (d : HeadlessDisplay) : List StackedLayer :=
  d.layers.entries.map fun e => ⟨e.1, e.2.z, e.2.composition⟩

def plan (d : HeadlessDisplay) : Plan := .make d.config.deviceLayers.toNat d.stackedLayers

/-- Whether the client composes some layer. -/
def usesClientComposition (d : HeadlessDisplay) : Bool :=
  d.layers.values.any fun l => l.composition = .client

/-- Whether the client composes some layer once the changes are accepted. -/
def willUseClientComposition (d : HeadlessDisplay) (changes : List CompositionChange) : Bool :=
  d.usesClientComposition || changes.any fun c => c.composition = .client

/-- What validating the display returns. -/
def validation (d : HeadlessDisplay) : Validation :=
  let plan := d.plan
  let mask := if d.config.isVirtual && d.willUseClientComposition plan.changes then
      DisplayRequest.writeClientTargetToOutput
    else 0
  { hasChanges := !plan.changes.isEmpty
    changes := plan.changes
    request := ⟨mask, plan.requests⟩
    target := ⟨.rgba8888, .srgb⟩ }

/-- Give a layer the composition of a change. -/
def apply (layers : Table LayerId HeadlessLayer) (change : CompositionChange) :
    Table LayerId HeadlessLayer :=
  match layers.get? change.layer with
  | none => layers
  | some l => layers.insert change.layer { l with composition := change.composition }

/-- Why the display cannot present. -/
def refusal? (d : HeadlessDisplay) : Option HardwareError :=
  if !d.validated || !d.pending.isEmpty then some .notValidated
  else if d.config.isVirtual && d.outputBuffer.isNone then some .noResources
  else if d.usesClientComposition && d.clientTarget.isNone then some .noResources
  else none

/-- The layers that hold a buffer, ascending. -/
def bufferedLayers (d : HeadlessDisplay) : List LayerId :=
  (d.layers.entries.filter fun e => e.2.buffer.isSome).map Prod.fst

end HeadlessDisplay

namespace Headless

/-- The first fence handed out; the lower numbers belong to standard streams. -/
def firstFence : Int32 := 3

/-- The displays of a configuration. Of two with one id the later one stays. -/
def ofConfigs (configs : List DisplayConfig) : Headless where
  displays := .ofList (configs.map fun c => (c.id, .ofConfig c))
  nextLayer := 1
  nextFence := firstFence

/-! ## Looking at the state -/

/-- The state of a layer. -/
def layer? (h : Headless) (display : DisplayId) (layer : LayerId) : Option HeadlessLayer :=
  (h.displays.get? display).bind (·.layers.get? layer)

/-- How many frames a display has presented. -/
def framesPresented? (h : Headless) (display : DisplayId) : Option Nat :=
  (h.displays.get? display).map (·.framesPresented)

/-- The brightness of a display. -/
def brightness? (h : Headless) (display : DisplayId) : Option Single :=
  (h.displays.get? display).map (·.brightness)

/-! ## Changing the state -/

/-- What a call leaves that does not stop the program. -/
abbrev Result (α : Type) : Type := Except HardwareError α × Headless

/-- A failure, which changes nothing. -/
def fail {α : Type} (h : Headless) (e : HardwareError) : Result α := (.error e, h)

/-- Change a display. -/
def onDisplay {α : Type} (h : Headless) (display : DisplayId)
    (f : HeadlessDisplay → Except HardwareError (α × HeadlessDisplay)) : Result α :=
  match h.displays.get? display with
  | none => h.fail .badDisplay
  | some d =>
    match f d with
    | .error e => h.fail e
    | .ok (a, d) => (.ok a, { h with displays := h.displays.insert display d })

/-- Change a layer of a display. -/
def onLayer (h : Headless) (display : DisplayId) (layer : LayerId) (validated : Bool → Bool)
    (f : HeadlessLayer → Except HardwareError HeadlessLayer) : Result Unit :=
  h.onDisplay display fun d =>
    match d.layers.get? layer with
    | none => .error .badLayer
    | some l => do
      let l ← f l
      pure ((), { d with layers := d.layers.insert layer l, validated := validated d.validated })

/-- Change a layer without consequences for validation. -/
def adjust (h : Headless) (display : DisplayId) (layer : LayerId)
    (f : HeadlessLayer → Except HardwareError HeadlessLayer) : Result Unit :=
  h.onLayer display layer id f

/-- Change a layer so that its display has to be validated again. -/
def revise (h : Headless) (display : DisplayId) (layer : LayerId)
    (f : HeadlessLayer → HeadlessLayer) : Result Unit :=
  h.onLayer display layer (fun _ => false) fun l => .ok (f l)

/-- The next fence; behind the greatest the first one follows. -/
def takeFence (fence : Int32) : Fence × Int32 :=
  (⟨fence⟩, if fence = Int32.maxValue then firstFence else fence + 1)

/-- A fence for each of some layers, in their order. -/
def takeReleaseFences (fence : Int32) : List LayerId → List ReleaseFence × Int32
  | [] => ([], fence)
  | layer :: rest =>
    let (taken, fence) := takeFence fence
    let (fences, fence) := takeReleaseFences fence rest
    (⟨layer, taken⟩ :: fences, fence)

/-! ## Properties -/

/-- The entries of a colour matrix. -/
def matrixSize : Nat := 16

/-- Whether a number is from 0 to 1. -/
def isFraction (x : Single) : Bool := (Binary.zero : Single).le x && x.le .one

/-- Whether a rectangle ends before it begins. The height is looked at only if
the width is not negative already. -/
def inverted (r : Rect) : Except Crash Bool := do
  if (← r.width) < 0 then pure true else return (← r.height) < 0

/-- Set a property of a layer. -/
def setLayer (h : Headless) (display : DisplayId) (layer : LayerId) :
    LayerProperty → Except Crash (Result Unit)
  | .cursorPosition p => .ok <| h.adjust display layer fun l =>
    if l.composition = .cursor then .ok { l with cursor := p } else .error .badLayer
  | .surfaceDamage _ => .ok <| h.adjust display layer .ok
  | .blendMode mode => .ok <|
    if mode = .invalid then h.fail .badParameter else h.revise display layer id
  | .composition c => .ok <|
    if c = .invalid then h.fail .badParameter
    else h.revise display layer fun l => { l with composition := c }
  | .displayFrame frame => do
    if ← inverted frame then pure (h.fail .badParameter)
    else pure (h.revise display layer fun l => { l with displayFrame := frame })
  | .planeAlpha alpha => .ok <|
    if isFraction alpha then h.revise display layer fun l => { l with planeAlpha := alpha }
    else h.fail .badParameter
  | .sourceCrop crop => .ok <|
    if crop.inverted then h.fail .badParameter else h.revise display layer id
  | .zOrder z => .ok <| h.revise display layer fun l => { l with z := z }
  | .colorTransform matrix => .ok <|
    if matrix.length = matrixSize then h.revise display layer id else h.fail .badParameter
  | .color _ | .dataspace _ | .transform _ | .visibleRegion _ | .metadata _ | .metadataBlobs _ =>
    .ok <| h.revise display layer id

/-- Set a property that is not an image. -/
def setProperty (h : Headless) (display : DisplayId) : Property → Except Crash (Result Unit)
  | .layer layer property => h.setLayer display layer property
  | .colorTransform matrix => .ok <|
    if matrix.length = matrixSize then
      h.onDisplay display fun d => .ok ((), { d with validated := false })
    else h.fail .badParameter
  | .brightness level => .ok <| h.onDisplay display fun d =>
    if d.config.isVirtual then .error .unsupported
    else if isFraction level || level.eq (.neg .one) then .ok ((), { d with brightness := level })
    else .error .badParameter
  | .expectedPresentTime _ => .ok <| h.onDisplay display fun d => .ok ((), d)

/-- Use an image. -/
def setImage (h : Headless) (display : DisplayId) (use : ImageUse) (image : Image) :
    Result Unit :=
  match use with
  | .clientTarget _ _ _ =>
    h.onDisplay display fun d => .ok ((), { d with clientTarget := some image })
  | .outputBuffer _ => h.onDisplay display fun d =>
    if d.config.isVirtual then .ok ((), { d with outputBuffer := some image })
    else .error .unsupported
  | .layerBuffer layer _ => h.adjust display layer fun l => .ok { l with buffer := some image }
  | .sideband layer => h.revise display layer fun l => { l with sideband := some image }

/-- Set a property. -/
def set (h : Headless) (display : DisplayId) : Setting Image → Except Crash (Result Unit)
  | .property property => h.setProperty display property
  | .image use image => .ok (h.setImage display use image)

/-! ## Layers -/

/-- Create a layer. Ids are never used twice. -/
def createLayer (h : Headless) (display : DisplayId) : Except Crash (Result LayerId) :=
  let layer := h.nextLayer
  match h.onDisplay display fun d =>
    .ok (layer, { d with layers := d.layers.insert layer .fresh, validated := false }) with
  | (.error e, h) => .ok (.error e, h)
  | (.ok layer, h) =>
    if layer = Int64.maxValue then .error .additionOverflow
    else .ok (.ok layer, { h with nextLayer := layer + 1 })

/-- Destroy a layer. -/
def destroyLayer (h : Headless) (display : DisplayId) (layer : LayerId) : Result Unit :=
  h.onDisplay display fun d =>
    if d.layers.contains layer then
      .ok ((), { d with layers := d.layers.erase layer, validated := false })
    else .error .badLayer

/-! ## Validating and presenting -/

/-- Validate a display: plan its layers, and wait for the changes to be accepted. -/
def validate (h : Headless) (display : DisplayId) : Result Validation :=
  h.onDisplay display fun d =>
    let v := d.validation
    .ok (v, { d with pending := v.changes, validated := true })

/-- Accept the changes that validating asked for. -/
def accept (h : Headless) (display : DisplayId) : Result Unit :=
  h.onDisplay display fun d =>
    if d.validated then
      .ok ((), { d with layers := d.pending.foldl HeadlessDisplay.apply d.layers, pending := [] })
    else .error .notValidated

/-- Present a display: one fence for the frame, then one for each buffered layer. -/
def present (h : Headless) (display : DisplayId) : Result Presentation :=
  match h.displays.get? display with
  | none => h.fail .badDisplay
  | some d =>
    match d.refusal? with
    | some e => h.fail e
    | none =>
      let (presentFence, fence) := takeFence h.nextFence
      let (releaseFences, fence) := takeReleaseFences fence d.bufferedLayers
      let d := { d with framesPresented := d.framesPresented + 1 }
      (.ok ⟨presentFence, releaseFences⟩,
        { h with displays := h.displays.insert display d, nextFence := fence })

/-- Whether the client composes some layer of a display. -/
def hasClientComposition (h : Headless) (display : DisplayId) : Result Bool :=
  h.onDisplay display fun d => .ok (d.usesClientComposition, d)

instance : Hardware Headless where
  perform call h := match call with
    | .createLayer display => h.createLayer display
    | .destroyLayer display layer => .ok (h.destroyLayer display layer)
    | .set display setting => h.set display setting
    | .validate display => .ok (h.validate display)
    | .accept display => .ok (h.accept display)
    | .present display => .ok (h.present display)
    | .hasClientComposition display => .ok (h.hasClientComposition display)

end Headless

end DisplayComposer
