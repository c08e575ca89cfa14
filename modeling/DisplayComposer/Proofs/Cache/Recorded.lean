import DisplayComposer.Proofs.Cache.Custody
import DisplayComposer.Proofs.Cache.History
import DisplayComposer.Proofs.Cache.Rooms
/-!
# DisplayComposer.Proofs.Cache.Recorded

**A cache is what its history says.** Every step changes the slots, layers and images of the
cache just as its event says, so after any steps the cache is known from the history alone,
and with it the answer to every resolution.

* `Cache.Recorded` — a cache that is what a history says;
* `CacheUse.recorded_step`, `CacheUse.recorded_run` — one step, and any steps;
* `Cache.Recorded.refusalOf_resolve` — why a resolution is refused;
* `CacheUse.resolve_answers` — how a resolution is answered.
-/

namespace DisplayComposer

/-! ### The cache after some steps -/

namespace CacheUse

/-- The history of some steps. -/
def history : List CacheStep → CacheUse → CacheHistory
  | [], _ => []
  | s :: rest, u => ⟨s, (u.step s).1⟩ :: history rest (u.step s).2

/-- A step that fails changes nothing. -/
theorem step_of_error {u : CacheUse} {s : CacheStep} {refusal : CacheError}
    (h : (u.step s).1 = .error refusal) : (u.step s).2 = u := by
  have hchange : ∀ outcome : Except CacheError Cache, (u.change outcome).1 = .error refusal →
      (u.change outcome).2 = u := by
    intro outcome hfailed
    cases outcome with
    | error e => rfl
    | ok c' => cases hfailed
  cases s with
  | addDisplay | removeDisplay | addLayer | removeLayer => exact hchange _ h
  | mustValidate | setMustValidate | drop => cases h
  | resolve ref name =>
    cases hfound : u.cache.resolve ref with
    | error e => simp only [step, hfound]
    | ok found => cases name <;> simp only [step, hfound] at h <;> cases h

end CacheUse

namespace Cache

/-- The image of a place, with its handle. -/
def native? (c : Cache) (place : Scope) : Option (NativeHandle × Image) :=
  (c.imageAt? place).map fun image => (image.handle, image)

/-- A cache that is what a history says. -/
structure Recorded (log : CacheHistory) (c : Cache) : Prop where
  displays : ∀ display, c.rooms? display = (log.display? display).map roomsOf
  layers : ∀ display layer,
    c.layerSlots? display layer = (log.layerSlots? display layer).map (·.toNat)
  images : ∀ place, c.Has place → c.native? place = log.imported? place

namespace Recorded

variable {log : CacheHistory} {c c' : Cache} {event : CacheEvent}

/-- Nothing is recorded of the images that are let go. -/
theorem congr (h : Recorded log c) (hdisplays : c'.displays = c.displays) : Recorded log c' where
  displays display := by
    rw [rooms?, hdisplays]
    exact h.displays display
  layers display layer := by
    rw [layerSlots?, hdisplays]
    exact h.layers display layer
  images place hplace := by
    have hentry : c'.displays.get? place.display = c.displays.get? place.display := by
      rw [hdisplays]
    rw [native?, imageAt?_congr hentry]
    exact h.images place ((has_congr hentry).1 hplace)

theorem start : Recorded [] .empty where
  displays _ := rfl
  layers _ _ := rfl
  images _ _ := rfl

/-- One more event: what it says is so afterwards, and the rest is as it was. -/
theorem concat (h : Recorded log c)
    (hdisplays : ∀ display, c'.rooms? display =
      (event.display? display).elim (c.rooms? display) (·.map roomsOf))
    (hlayers : ∀ display layer, c'.layerSlots? display layer =
      (event.layer? display layer).elim (c.layerSlots? display layer) (·.map (·.toNat)))
    (himages : ∀ place, c'.Has place →
      event.import? place = some (c'.native? place) ∨
        event.import? place = none ∧ c.Has place ∧ c'.imageAt? place = c.imageAt? place) :
    Recorded (log ++ [event]) c' where
  displays display := by
    rw [hdisplays, CacheHistory.display?, CacheHistory.latest_concat]
    cases event.display? display with
    | none => exact h.displays display
    | some said => rfl
  layers display layer := by
    rw [hlayers, CacheHistory.layerSlots?, CacheHistory.latest_concat]
    cases event.layer? display layer with
    | none => exact h.layers display layer
    | some said => rfl
  images place hplace := by
    rw [CacheHistory.imported?, CacheHistory.latest_concat]
    obtain hsaid | ⟨hsilent, hbefore, hsame⟩ := himages place hplace
    · rw [hsaid, Option.getD_some]
    · rw [hsilent, Option.getD_none, native?, hsame]
      exact h.images place hbefore

/-- An event that says nothing of registrations. -/
theorem concat_sameRooms (h : Recorded log c) (hrooms : c.SameRooms c')
    (hdisplay : ∀ display, event.display? display = none)
    (hlayer : ∀ display layer, event.layer? display layer = none)
    (himages : ∀ place, event.import? place = some (c'.native? place) ∨
      event.import? place = none ∧ c'.imageAt? place = c.imageAt? place) :
    Recorded (log ++ [event]) c' := by
  refine h.concat (fun display => ?_) (fun display layer => ?_) fun place hplace => ?_
  · rw [hdisplay, hrooms.rooms, Option.elim_none]
  · rw [hlayer, hrooms.layers, Option.elim_none]
  · exact (himages place).imp_right fun hsilent => ⟨hsilent.1, hrooms.has.1 hplace, hsilent.2⟩

/-- An event that says nothing. -/
theorem silent (h : Recorded log c) (hrooms : c.SameRooms c')
    (himages : ∀ place, c'.imageAt? place = c.imageAt? place)
    (hdisplay : ∀ display, event.display? display = none)
    (hlayer : ∀ display layer, event.layer? display layer = none)
    (himport : ∀ place, event.import? place = none) : Recorded (log ++ [event]) c' :=
  h.concat_sameRooms hrooms hdisplay hlayer fun place => .inr ⟨himport place, himages place⟩

/-- A step that fails is of no consequence. -/
theorem failed (h : Recorded log c) (s : CacheStep) (refusal : CacheError) :
    Recorded (log ++ [⟨s, .error refusal⟩]) c := by
  refine h.silent .refl (fun _ => rfl) (fun display => ?_)
    (fun display layer => ?_) fun place => ?_
  · cases s <;> rfl
  · cases s <;> rfl
  · cases s <;> simp [CacheEvent.import?]

theorem addDisplay {display : DisplayId} {targets : UInt32} {isVirtual : Bool}
    {answer : CacheAnswer} (h : Recorded log c)
    (hadd : c.addDisplay display targets isVirtual = .ok c') :
    Recorded (log ++ [⟨.addDisplay display targets isVirtual, .ok answer⟩]) c' := by
  obtain ⟨hnew, rfl⟩ := addDisplay_ok.1 hadd
  refine h.concat (fun other => ?_) (fun other layer => ?_) fun place hplace => ?_
  · rw [rooms?_insert rfl, CacheEvent.display?]
    split
    · cases isVirtual <;> rfl
    · rfl
  · rw [layerSlots?_insert rfl]
    split
    · rename_i heq
      subst heq
      simp [CacheEvent.layer?, layerSlots?, hnew, newDisplay]
    · rfl
  · by_cases hdisplay : display = place.display
    · left
      have hentry := Table.get?_insert_self c.displays display (newDisplay targets isVirtual)
      rw [CacheEvent.import?, if_pos hdisplay, native?, imageAt?_of_get? hentry hdisplay.symm,
        imageIn?_newDisplay, Option.map_none]
    · right
      have hentry : (c.displays.insert display (newDisplay targets isVirtual)).get? place.display =
          c.displays.get? place.display := Table.get?_insert_of_ne _ _ hdisplay
      exact ⟨if_neg hdisplay, (has_congr hentry).1 hplace, imageAt?_congr hentry⟩

theorem removeDisplay {display : DisplayId} {answer : CacheAnswer} (h : Recorded log c)
    (hremove : c.removeDisplay display = .ok c') :
    Recorded (log ++ [⟨.removeDisplay display, .ok answer⟩]) c' := by
  obtain ⟨entry, hentry, rfl⟩ := removeDisplay_ok.1 hremove
  refine h.concat (fun other => ?_) (fun other layer => ?_) fun place hplace => ?_
  · rw [rooms?_erase rfl, CacheEvent.display?]
    split <;> rfl
  · rw [layerSlots?_erase rfl, CacheEvent.layer?]
    split <;> rfl
  · have hdisplay : display ≠ place.display := by
      intro heq
      have hrooms := hplace.1
      rw [rooms?_erase rfl, if_pos heq] at hrooms
      cases hrooms
    have hothers : (c.displays.erase display).get? place.display =
        c.displays.get? place.display := by
      rw [Table.get?_erase, if_neg hdisplay]
    exact .inr ⟨rfl, (has_congr hothers).1 hplace, imageAt?_congr hothers⟩

theorem addLayer {display : DisplayId} {layer : LayerId} {slots : UInt32} {answer : CacheAnswer}
    (h : Recorded log c) (hadd : c.addLayer display layer slots = .ok c') :
    Recorded (log ++ [⟨.addLayer display layer slots, .ok answer⟩]) c' := by
  have hrooms := rooms?_addLayer hadd
  have hlayers := layerSlots?_addLayer hadd
  have himages := imageAt?_addLayer hadd
  refine h.concat hrooms (fun other l => ?_) fun place hplace => ?_
  · rw [hlayers, CacheEvent.layer?]
    split <;> rfl
  · by_cases hnew : display = place.display ∧ place.layer? = some layer
    · -- the layer was not there before, so it had no images
      left
      have hnone : c.imageAt? place = none := by
        obtain ⟨entry, hentry, hlayer, -⟩ := addLayer_ok.1 hadd
        rw [imageAt?_of_get? hentry hnew.1.symm]
        cases place with
        | clientTarget | outputBuffer => cases hnew.2
        | layerBuffer d l | sideband d l =>
          obtain rfl := Option.some.inj hnew.2
          simp only [imageIn?, hlayer, Option.bind_none]
      rw [CacheEvent.import?, if_pos hnew, native?, himages, hnone, Option.map_none]
    · right
      refine ⟨if_neg hnew, ⟨hrooms place.display ▸ hplace.1, fun l hl => ?_⟩, himages place⟩
      have hthere := hplace.2 l hl
      have hother : ¬ (display = place.display ∧ layer = l) := by
        rintro ⟨hdisplay, rfl⟩
        exact hnew ⟨hdisplay, hl⟩
      rwa [hlayers, if_neg hother] at hthere

theorem removeLayer {display : DisplayId} {layer : LayerId} {answer : CacheAnswer}
    (h : Recorded log c) (hremove : c.removeLayer display layer = .ok c') :
    Recorded (log ++ [⟨.removeLayer display layer, .ok answer⟩]) c' := by
  have hrooms := rooms?_removeLayer hremove
  have hlayers := layerSlots?_removeLayer hremove
  refine h.concat hrooms (fun other l => ?_) fun place hplace => ?_
  · rw [hlayers, CacheEvent.layer?]
    split <;> rfl
  · right
    have hother : ∀ l, place.layer? = some l → ¬ (display = place.display ∧ layer = l) := by
      intro l hl hremoved
      have hthere := hplace.2 l hl
      rw [hlayers, if_pos hremoved] at hthere
      cases hthere
    refine ⟨rfl, ⟨hrooms place.display ▸ hplace.1, fun l hl => ?_⟩, ?_⟩
    · have hthere := hplace.2 l hl
      rwa [hlayers, if_neg (hother l hl)] at hthere
    · exact imageAt?_removeLayer hremove fun hdisplay hl => hother layer hl ⟨hdisplay.symm, rfl⟩

theorem setMustValidate {display : DisplayId} {b : Bool} {answer : CacheAnswer}
    (h : Recorded log c) : Recorded (log ++ [⟨.setMustValidate display b, .ok answer⟩])
      (c.setMustValidate display b) :=
  h.silent (setMustValidate_sameRooms display b c) (imageAt?_setMustValidate display b)
    (fun _ => rfl) (fun _ _ => rfl) fun _ => rfl

theorem resolve {ref : ImageRef} {r : Resolution} (h : Recorded log c)
    (hresolve : c.resolve ref = .ok (r, c')) (name : Option String) (sameAs : List String) :
    Recorded (log ++ [⟨.resolve ref name, .ok (.image r.image sameAs)⟩]) c' := by
  have hresolves := resolve_cases hresolve
  have himages := hresolves.imageAt?_eq
  have hfound := hresolves.found
  obtain ⟨scope, handle⟩ := ref
  refine h.concat_sameRooms hresolves.sameRooms (fun _ => rfl) (fun _ _ => rfl) fun place => ?_
  cases handle with
  | none =>
    refine .inr ⟨rfl, ?_⟩
    rw [himages]
    split
    · rename_i heq
      rw [heq, hfound.1 rfl]
    · rfl
  | some native =>
    by_cases hplace : scope = place
    · left
      rw [CacheEvent.import?, if_pos hplace, native?, himages, if_pos hplace.symm,
        hfound.2 native rfl, Option.map_some]
    · right
      rw [himages, if_neg (Ne.symm hplace)]
      exact ⟨if_neg hplace, rfl⟩

end Recorded

end Cache

namespace CacheUse

open Cache (Recorded)

variable {log : CacheHistory} {u : CacheUse}

theorem displays_drop (u : CacheUse) (name : String) :
    (u.drop name).cache.displays = u.cache.displays := by
  unfold drop
  split <;> rfl

/-- One step, recorded. -/
theorem recorded_step (h : Recorded log u.cache) (s : CacheStep) :
    Recorded (log ++ [⟨s, (u.step s).1⟩]) (u.step s).2.cache := by
  have hchange : ∀ outcome : Except CacheError Cache,
      (∀ c', outcome = .ok c' → Recorded (log ++ [⟨s, .ok .done⟩]) c') →
      Recorded (log ++ [⟨s, (u.change outcome).1⟩]) (u.change outcome).2.cache := by
    intro outcome hok
    cases outcome with
    | error refusal => exact h.failed s refusal
    | ok c' => exact hok c' rfl
  cases s with
  | addDisplay => exact hchange _ fun _ hadd => h.addDisplay hadd
  | removeDisplay => exact hchange _ fun _ hremove => h.removeDisplay hremove
  | addLayer => exact hchange _ fun _ hadd => h.addLayer hadd
  | removeLayer => exact hchange _ fun _ hremove => h.removeLayer hremove
  | mustValidate display =>
    exact h.silent .refl (fun _ => rfl) (fun _ => rfl) (fun _ _ => rfl) fun _ => rfl
  | setMustValidate display b => exact h.setMustValidate
  | drop name =>
    exact (h.silent .refl (fun _ => rfl) (fun _ => rfl) (fun _ _ => rfl) fun _ => rfl).congr
      (displays_drop u name)
  | resolve ref name =>
    cases hresolve : u.cache.resolve ref with
    | error refusal =>
      simp only [step, hresolve]
      exact h.failed _ refusal
    | ok found =>
      obtain ⟨r, c'⟩ := found
      have hfound := h.resolve hresolve name (u.namesOf r.image)
      cases name with
      | none =>
        simp only [step, hresolve]
        exact hfound.congr rfl
      | some name =>
        simp only [step, hresolve]
        exact hfound.congr (displays_drop ..)

/-- **The cache is what its history says** after any steps. -/
theorem recorded_run (h : Recorded log u.cache) (steps : List CacheStep) :
    Recorded (log ++ history steps u) (u.run steps).cache := by
  induction steps generalizing u log with
  | nil => rwa [history, List.append_nil]
  | cons s rest ih =>
    rw [history, List.append_cons]
    exact ih (recorded_step h s)

end CacheUse

namespace Cache

/-! ### Answers -/

/-- Why something is refused, if it is. -/
def refusalOf {α : Type} : Except CacheError α → Option CacheError
  | .error refusal => some refusal
  | .ok _ => none

@[simp] theorem refusalOf_error {α : Type} (refusal : CacheError) :
    refusalOf (.error refusal : Except CacheError α) = some refusal := rfl

@[simp] theorem refusalOf_throw {α : Type} (refusal : CacheError) :
    refusalOf (throwThe CacheError refusal : Except CacheError α) = some refusal := rfl

@[simp] theorem refusalOf_pure {α : Type} (a : α) : refusalOf (pure a) = none := rfl

@[simp] theorem refusalOf_ok {α : Type} (a : α) : refusalOf (.ok a) = none := rfl

@[simp] theorem refusalOf_map {α β : Type} (x : Except CacheError α) (f : α → β) :
    refusalOf (f <$> x) = refusalOf x := by
  cases x <;> rfl

theorem refusalOf_importImage (n : Nat) (handle : NativeHandle) :
    refusalOf (importImage n handle) = if handle.isEmpty then some .invalidHandle else none := by
  rw [importImage]
  split <;> rfl

/-- A lookup is refused as can be objected to it. -/
theorem refusalOf_lookup (s : Slots) (slot : Int32) (handle : Option NativeHandle) (n : Nat) :
    refusalOf (s.lookup slot handle n) = CacheHistory.firstOf
      (CacheHistory.slotObjections slot s.count (s.imageAt? slot).isSome handle) := by
  rw [Slots.lookup, Slots.imageAt?, CacheHistory.slotObjections]
  cases hi : s.index? slot with
  | none =>
    have hrange : ¬ (0 ≤ slot.toInt ∧ slot.toInt < s.count) := by
      simpa [Slots.index?] using hi
    simp [hrange]
  | some i =>
    have hrange : 0 ≤ slot.toInt ∧ slot.toInt < s.count := by
      rw [Slots.index?] at hi
      split at hi
      · assumption
      · cases hi
    cases handle with
    | none => cases himage : s.cached.get? i <;> simp [hrange, himage]
    | some handle => simp [hrange, refusalOf_importImage]

end Cache

namespace Cache.Recorded

variable {log : CacheHistory} {c : Cache}

/-- What the history says of the images of a display that is registered. -/
theorem imageIn?_isSome {entry : DisplayEntry} (h : Recorded log c) (place : Scope)
    (hentry : c.displays.get? place.display = some entry)
    (hlayer : ∀ layer, place.layer? = some layer → (entry.layers.get? layer).isSome) :
    (imageIn? entry place).isSome = (log.imported? place).isSome := by
  have hplace : c.Has place := by
    refine ⟨by rw [rooms?, hentry]; rfl, fun layer hl => ?_⟩
    rw [layerSlots?_of_get? hentry, Option.isSome_map]
    exact hlayer layer hl
  rw [← h.images place hplace, native?, imageAt?_of_get? hentry rfl, Option.isSome_map]

theorem display?_of_none {display : DisplayId} (h : Recorded log c)
    (hentry : c.displays.get? display = none) : log.display? display = none := by
  have hrooms := h.displays display
  rwa [rooms?, hentry, Option.map_none, eq_comm, Option.map_eq_none_iff] at hrooms

/-- What the history says of a display that is registered. -/
theorem display?_of_some {display : DisplayId} {entry : DisplayEntry} (h : Recorded log c)
    (hentry : c.displays.get? display = some entry) :
    ∃ targets isVirtual, log.display? display = some (targets, isVirtual) ∧
      entry.clientTargets.count = targets.toNat ∧
        entry.outputBuffers.map (·.count) = if isVirtual then some outputSlots else none := by
  have hrooms := h.displays display
  rw [rooms?, hentry, Option.map_some, eq_comm, Option.map_eq_some_iff] at hrooms
  obtain ⟨⟨targets, isVirtual⟩, hlog, hcounts⟩ := hrooms
  exact ⟨targets, isVirtual, hlog, (congrArg Prod.fst hcounts).symm,
    (congrArg Prod.snd hcounts).symm⟩

theorem layerSlots?_of_none {display : DisplayId} {entry : DisplayEntry} {layer : LayerId}
    (h : Recorded log c) (hentry : c.displays.get? display = some entry)
    (hlayer : entry.layers.get? layer = none) : log.layerSlots? display layer = none := by
  have hslots := h.layers display layer
  rwa [layerSlots?_of_get? hentry, hlayer, Option.map_none, eq_comm,
    Option.map_eq_none_iff] at hslots

/-- What the history says of a layer that is registered. -/
theorem layerSlots?_of_some {display : DisplayId} {entry : DisplayEntry} {layer : LayerId}
    {cached : LayerEntry} (h : Recorded log c) (hentry : c.displays.get? display = some entry)
    (hlayer : entry.layers.get? layer = some cached) :
    ∃ slots, log.layerSlots? display layer = some slots ∧ cached.buffers.count = slots.toNat := by
  have hslots := h.layers display layer
  rw [layerSlots?_of_get? hentry, hlayer, Option.map_some, eq_comm,
    Option.map_eq_some_iff] at hslots
  obtain ⟨slots, hlog, hcount⟩ := hslots
  exact ⟨slots, hlog, hcount.symm⟩

/-! #### One place after the other -/

theorem refusalOf_clientTarget (h : Recorded log c) (display : DisplayId) (slot : Int32)
    (handle : Option NativeHandle) :
    refusalOf (c.resolve ⟨.clientTarget display slot, handle⟩) =
      log.refusal? ⟨.clientTarget display slot, handle⟩ := by
  rw [CacheHistory.refusal?]
  simp only [Cache.resolve, CacheHistory.objections, CacheHistory.slotCount]
  cases hentry : c.displays.get? display with
  | none => simp [h.display?_of_none hentry]
  | some entry =>
    obtain ⟨targets, isVirtual, hlog, htargets, -⟩ := h.display?_of_some hentry
    have himage := h.imageIn?_isSome (.clientTarget display slot) hentry (by simp [Scope.layer?])
    simp [hlog, refusalOf_lookup, htargets, ← himage, imageIn?]

theorem refusalOf_outputBuffer (h : Recorded log c) (display : DisplayId) (slot : Int32)
    (handle : Option NativeHandle) :
    refusalOf (c.resolve ⟨.outputBuffer display slot, handle⟩) =
      log.refusal? ⟨.outputBuffer display slot, handle⟩ := by
  rw [CacheHistory.refusal?]
  simp only [Cache.resolve, CacheHistory.objections, CacheHistory.slotCount]
  cases hentry : c.displays.get? display with
  | none => simp [h.display?_of_none hentry]
  | some entry =>
    obtain ⟨targets, isVirtual, hlog, -, houtputs⟩ := h.display?_of_some hentry
    have himage := h.imageIn?_isSome (.outputBuffer display slot) hentry (by simp [Scope.layer?])
    cases hslots : entry.outputBuffers with
    | none =>
      obtain rfl : isVirtual = false := by
        cases isVirtual <;> simp [hslots] at houtputs ⊢
      simp [hlog, hslots]
    | some slots =>
      obtain ⟨rfl, hcount⟩ : isVirtual = true ∧ slots.count = 1 := by
        cases isVirtual <;> simp_all [outputSlots]
      simp [hlog, refusalOf_lookup, hcount, ← himage, imageIn?, hslots]

theorem refusalOf_layerBuffer (h : Recorded log c) (display : DisplayId) (layer : LayerId)
    (slot : Int32) (handle : Option NativeHandle) :
    refusalOf (c.resolve ⟨.layerBuffer display layer slot, handle⟩) =
      log.refusal? ⟨.layerBuffer display layer slot, handle⟩ := by
  rw [CacheHistory.refusal?]
  simp only [Cache.resolve, CacheHistory.objections, CacheHistory.slotCount]
  cases hentry : c.displays.get? display with
  | none => simp [h.display?_of_none hentry]
  | some entry =>
    obtain ⟨targets, isVirtual, hlog, -, -⟩ := h.display?_of_some hentry
    cases hcached : entry.layers.get? layer with
    | none => simp [hlog, h.layerSlots?_of_none hentry hcached, hcached]
    | some cached =>
      obtain ⟨slots, hslots, hcount⟩ := h.layerSlots?_of_some hentry hcached
      have himage := h.imageIn?_isSome (.layerBuffer display layer slot) hentry
        (by simp [Scope.layer?, hcached])
      simp [hlog, hslots, refusalOf_lookup, hcount, ← himage, imageIn?, hcached]

theorem refusalOf_sideband (h : Recorded log c) (display : DisplayId) (layer : LayerId)
    (handle : Option NativeHandle) :
    refusalOf (c.resolve ⟨.sideband display layer, handle⟩) =
      log.refusal? ⟨.sideband display layer, handle⟩ := by
  rw [CacheHistory.refusal?]
  cases handle with
  | none => rfl
  | some handle =>
    simp only [Cache.resolve, CacheHistory.objections, importImage]
    cases hempty : handle.isEmpty with
    | true => simp [hempty, bind, Except.bind]
    | false =>
      cases hentry : c.displays.get? display with
      | none => simp [h.display?_of_none hentry, hempty, bind, Except.bind, throw]
      | some entry =>
        obtain ⟨targets, isVirtual, hlog, -, -⟩ := h.display?_of_some hentry
        cases hcached : entry.layers.get? layer with
        | none =>
          simp [hlog, h.layerSlots?_of_none hentry hcached, hcached, hempty, bind, Except.bind,
            throw]
        | some cached =>
          obtain ⟨slots, hslots, -⟩ := h.layerSlots?_of_some hentry hcached
          simp [hlog, hslots, hcached, hempty, bind, Except.bind]

/-- A resolution is refused as the history says. -/
theorem refusalOf_resolve (h : Recorded log c) (ref : ImageRef) :
    refusalOf (c.resolve ref) = log.refusal? ref := by
  obtain ⟨scope, handle⟩ := ref
  cases scope with
  | clientTarget display slot => exact h.refusalOf_clientTarget display slot handle
  | outputBuffer display slot => exact h.refusalOf_outputBuffer display slot handle
  | layerBuffer display layer slot => exact h.refusalOf_layerBuffer display layer slot handle
  | sideband display layer => exact h.refusalOf_sideband display layer handle

/-- Without a handle a resolution finds the image that was imported last. -/
theorem imported?_of_resolve (h : Recorded log c) {ref : ImageRef} {r : Resolution} {c' : Cache}
    (hresolve : c.resolve ref = .ok (r, c')) (hhandle : ref.handle = none) :
    log.imported? ref.scope = some (r.image.handle, r.image) := by
  have himage := (resolve_cases hresolve).found.1 hhandle
  rw [← h.images ref.scope (has_of_imageAt? himage), native?, himage, Option.map_some]

end Cache.Recorded

namespace CacheUse

theorem answer_resolve (u : CacheUse) (ref : ImageRef) (name : Option String) :
    (u.step (.resolve ref name)).1 =
      (u.cache.resolve ref).map fun r => .image r.1.image (u.namesOf r.1.image) := by
  rw [step]
  cases u.cache.resolve ref with
  | error refusal => rfl
  | ok r => cases name <;> rfl

/-- **How a resolution is answered** is told by the history: whether it succeeds, for which
reason it is refused, and which image it finds, an import of its own or the last one of its
place. And whatever fails changes nothing. -/
theorem resolve_answers (steps : List CacheStep) :
    let u := empty.run steps
    let log := history steps empty
    (∀ ref name,
      ((∃ image sameAs, (u.step (.resolve ref name)).1 = .ok (.image image sameAs)) ↔
        log.Accepts ref) ∧
      (∀ refusal, (u.step (.resolve ref name)).1 = .error refusal ↔
        log.refusal? ref = some refusal) ∧
      ∀ image sameAs, (u.step (.resolve ref name)).1 = .ok (.image image sameAs) →
        match ref.handle with
        | none => log.imported? ref.scope = some (image.handle, image)
        | some handle => image = ⟨(empty.imports steps).length, handle⟩) ∧
    ∀ s refusal, (u.step s).1 = .error refusal → (u.step s).2 = u := by
  intro u log
  have hrecorded : Cache.Recorded log u.cache :=
    @recorded_run [] empty .start steps
  refine ⟨fun ref name => ?_, fun s refusal => step_of_error⟩
  rw [answer_resolve, CacheHistory.accepts_iff, ← hrecorded.refusalOf_resolve ref]
  cases hresolve : u.cache.resolve ref with
  | error refusal => simp [Except.map]
  | ok found =>
    obtain ⟨r, c'⟩ := found
    refine ⟨by simp [Except.map], by simp [Except.map], fun image sameAs heq => ?_⟩
    cases heq
    cases hhandle : ref.handle with
    | none => exact hrecorded.imported?_of_resolve hresolve hhandle
    | some handle =>
      dsimp only
      rw [length_imports]
      exact (Cache.resolve_cases hresolve).found.2 handle hhandle

/-- An image is not found any more once its display was registered anew. -/
theorem resolve_answers_registered_anew :
    let steps : List CacheStep := [.addDisplay 1 2 false,
      .resolve ⟨.clientTarget 1 0, some ⟨[7], []⟩⟩ none, .removeDisplay 1, .addDisplay 1 2 false]
    ((empty.run steps).step (.resolve ⟨.clientTarget 1 0, none⟩ none)).1 =
      .error (.emptySlot 0) :=
  ((resolve_answers _).1 _ _).2.1 _ |>.2 (by decide +kernel)

end CacheUse

end DisplayComposer
