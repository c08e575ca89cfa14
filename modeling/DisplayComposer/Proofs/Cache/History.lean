import DisplayComposer.Cache.Usage
import DisplayComposer.Proofs.Cache.Places
/-!
# DisplayComposer.Proofs.Cache.History

**What a history says of a cache.** The steps of a cache in use and their answers are its
history. It tells which displays and layers are registered, with how many slots, and which
image was imported last into a place since its display or layer was registered. That is all
that the answer to a resolution depends on: when it succeeds, which image it finds without a
handle, and otherwise which of several objections comes first.

* `CacheEvent`, `CacheHistory` — steps and their answers;
* `CacheHistory.display?`, `layerSlots?`, `imported?` — what a history says;
* `CacheHistory.Accepts` — when a resolution succeeds;
* `CacheHistory.objections`, `CacheHistory.refusal?` — and why it does not;
* `CacheHistory.accepts_iff` — nothing else is objected.
-/

namespace DisplayComposer

/-! ### Histories -/

/-- A step of a cache in use, and its answer. -/
structure CacheEvent where
  step : CacheStep
  answer : Except CacheError CacheAnswer

namespace CacheEvent

/-- What an event says of the registration of a display: its slots for client targets and
whether it is virtual, or that it is not registered any more. -/
def display? (display : DisplayId) : CacheEvent → Option (Option (UInt32 × Bool))
  | ⟨.addDisplay d targets isVirtual, .ok _⟩ =>
    if d = display then some (some (targets, isVirtual)) else none
  | ⟨.removeDisplay d, .ok _⟩ => if d = display then some none else none
  | _ => none

/-- What an event says of the registration of a layer: its slots, or that it is not
registered any more. A layer goes with its display. -/
def layer? (display : DisplayId) (layer : LayerId) : CacheEvent → Option (Option UInt32)
  | ⟨.addLayer d l slots, .ok _⟩ => if d = display ∧ l = layer then some (some slots) else none
  | ⟨.removeLayer d l, .ok _⟩ => if d = display ∧ l = layer then some none else none
  | ⟨.removeDisplay d, .ok _⟩ => if d = display then some none else none
  | _ => none

/-- What an event says of the image of a place: that it was imported there, and from which
handle, or that the display or layer of the place was registered, and has no images yet. -/
def import? (place : Scope) : CacheEvent → Option (Option (NativeHandle × Image))
  | ⟨.resolve ⟨scope, some handle⟩ _, .ok (.image image _)⟩ =>
    if scope = place then some (some (handle, image)) else none
  | ⟨.addDisplay d _ _, .ok _⟩ => if d = place.display then some none else none
  | ⟨.addLayer d l _, .ok _⟩ =>
    if d = place.display ∧ place.layer? = some l then some none else none
  | _ => none

end CacheEvent

/-- The slot of a place, if it is one. -/
def Scope.slot? : Scope → Option Int32
  | .clientTarget _ slot | .outputBuffer _ slot | .layerBuffer _ _ slot => some slot
  | .sideband _ _ => none

/-- The steps of a cache in use so far, and their answers. -/
abbrev CacheHistory : Type := List CacheEvent

namespace CacheHistory

/-- What the last event says that says anything. -/
def latest {α : Type} (tells : CacheEvent → Option (Option α)) (log : CacheHistory) : Option α :=
  (log.reverse.findSome? tells).join

/-- The registration of a display: its slots for client targets, and whether it is virtual. -/
def display? (log : CacheHistory) (display : DisplayId) : Option (UInt32 × Bool) :=
  log.latest (·.display? display)

/-- The slots of a registered layer. -/
def layerSlots? (log : CacheHistory) (display : DisplayId) (layer : LayerId) : Option UInt32 :=
  log.latest (·.layer? display layer)

/-- The image that was imported last into a place, with its handle, since the display or
layer of the place was registered. -/
def imported? (log : CacheHistory) (place : Scope) : Option (NativeHandle × Image) :=
  log.latest (·.import? place)

/-- Whether the display of a place is registered, as a virtual one where output buffers are
meant, and its layer if it has one. -/
def Registered (log : CacheHistory) : Scope → Prop
  | .clientTarget display _ => ∃ r, log.display? display = some r
  | .outputBuffer display _ => ∃ targets, log.display? display = some (targets, true)
  | .layerBuffer display layer _ | .sideband display layer =>
    (∃ r, log.display? display = some r) ∧ ∃ slots, log.layerSlots? display layer = some slots

/-- The number of slots of the kind of a place. A stream is in no slot. -/
def slotCount (log : CacheHistory) : Scope → Nat
  | .clientTarget display _ => ((log.display? display).map (·.1.toNat)).getD 0
  | .outputBuffer _ _ => 1
  | .layerBuffer display layer _ => ((log.layerSlots? display layer).map (·.toNat)).getD 0
  | .sideband _ _ => 0

/-- When a resolution succeeds. -/
def Accepts (log : CacheHistory) (ref : ImageRef) : Prop :=
  log.Registered ref.scope ∧
    (∀ slot, ref.scope.slot? = some slot →
      0 ≤ slot.toInt ∧ slot.toInt < log.slotCount ref.scope) ∧
    match ref.handle with
    | none => ref.scope.slot?.isSome ∧ (log.imported? ref.scope).isSome
    | some handle => handle.descriptors ≠ [] ∨ handle.integers ≠ []

/-- What can be objected to a slot, in order. -/
def slotObjections (slot : Int32) (count : Nat) (hasImage : Bool) (handle : Option NativeHandle) :
    List (Bool × CacheError) :=
  [(decide ¬ (0 ≤ slot.toInt ∧ slot.toInt < count), .slotOutOfRange slot count),
    (handle.isNone && !hasImage, .emptySlot slot),
    (handle.any (·.isEmpty), .invalidHandle)]

/-- What can be objected to a resolution, in order. A stream always comes with a handle,
which is looked at before the layer. -/
def objections (log : CacheHistory) (ref : ImageRef) : List (Bool × CacheError) :=
  let noDisplay (display : DisplayId) :=
    ((log.display? display).isNone, CacheError.noDisplay display)
  let noLayer (display : DisplayId) (layer : LayerId) :=
    ((log.layerSlots? display layer).isNone, CacheError.noLayer display layer)
  let ofSlot (slot : Int32) :=
    slotObjections slot (log.slotCount ref.scope) (log.imported? ref.scope).isSome ref.handle
  match ref.scope with
  | .clientTarget display slot => noDisplay display :: ofSlot slot
  | .outputBuffer display slot => noDisplay display ::
    ((log.display? display).all (!·.2), .notVirtual display) :: ofSlot slot
  | .layerBuffer display layer slot => noDisplay display :: noLayer display layer :: ofSlot slot
  | .sideband display layer =>
    [(ref.handle.all (·.isEmpty), .invalidHandle), noDisplay display, noLayer display layer]

/-- The first objection that applies. -/
def firstOf (objections : List (Bool × CacheError)) : Option CacheError :=
  (objections.find? (·.1)).map (·.2)

/-- Why a resolution is refused, if it is. -/
def refusal? (log : CacheHistory) (ref : ImageRef) : Option CacheError :=
  firstOf (log.objections ref)

theorem latest_concat {α : Type} (tells : CacheEvent → Option (Option α)) (log : CacheHistory)
    (event : CacheEvent) :
    latest tells (log ++ [event]) = (tells event).getD (latest tells log) := by
  cases h : tells event <;> simp [latest, h]

/-! #### Refusals -/

@[simp] theorem firstOf_nil : firstOf [] = none := rfl

@[simp] theorem firstOf_cons (applies : Bool) (e : CacheError) (rest : List (Bool × CacheError)) :
    firstOf ((applies, e) :: rest) = if applies then some e else firstOf rest := by
  cases applies <;> rfl

theorem isEmpty_eq_false {h : NativeHandle} :
    h.isEmpty = false ↔ h.descriptors ≠ [] ∨ h.integers ≠ [] := by
  simp only [NativeHandle.isEmpty, Bool.and_eq_false_iff, List.isEmpty_eq_false_iff]

theorem firstOf_slotObjections_eq_none {slot : Int32} {count : Nat} {hasImage : Bool}
    {handle : Option NativeHandle} :
    firstOf (slotObjections slot count hasImage handle) = none ↔
      (0 ≤ slot.toInt ∧ slot.toInt < count) ∧
        match handle with
        | none => hasImage
        | some handle => handle.descriptors ≠ [] ∨ handle.integers ≠ [] := by
  by_cases hrange : 0 ≤ slot.toInt ∧ slot.toInt < count
  · cases handle <;> simp [slotObjections, hrange, ← isEmpty_eq_false]
  · simp [slotObjections, hrange]

/-- A resolution succeeds if nothing can be objected to it. -/
theorem accepts_iff {log : CacheHistory} {ref : ImageRef} :
    log.Accepts ref ↔ log.refusal? ref = none := by
  obtain ⟨scope, handle⟩ := ref
  cases scope with
  | clientTarget display slot =>
    cases hdisplay : log.display? display with
    | none => simp [Accepts, Registered, refusal?, objections, hdisplay]
    | some r =>
      simp [Accepts, Registered, refusal?, objections, hdisplay, firstOf_slotObjections_eq_none,
        Scope.slot?]
  | outputBuffer display slot =>
    cases hdisplay : log.display? display with
    | none => simp [Accepts, Registered, refusal?, objections, hdisplay]
    | some r =>
      obtain ⟨targets, isVirtual⟩ := r
      cases isVirtual <;>
        simp [Accepts, Registered, refusal?, objections, hdisplay, firstOf_slotObjections_eq_none,
          Scope.slot?]
  | layerBuffer display layer slot =>
    cases hdisplay : log.display? display with
    | none => simp [Accepts, Registered, refusal?, objections, hdisplay]
    | some r =>
      cases hlayer : log.layerSlots? display layer <;>
        simp [Accepts, Registered, refusal?, objections, hdisplay, hlayer,
          firstOf_slotObjections_eq_none, Scope.slot?]
  | sideband display layer =>
    cases handle with
    | none => simp [Accepts, refusal?, objections, Scope.slot?]
    | some handle =>
      cases hempty : handle.isEmpty with
      | true => simp [Accepts, refusal?, objections, ← isEmpty_eq_false, hempty]
      | false =>
        cases hdisplay : log.display? display <;> cases hlayer : log.layerSlots? display layer <;>
          simp [Accepts, Registered, refusal?, objections, hdisplay, hlayer, Scope.slot?,
            ← isEmpty_eq_false, hempty]

end CacheHistory

end DisplayComposer
