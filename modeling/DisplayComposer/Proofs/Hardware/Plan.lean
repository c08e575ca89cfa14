import DisplayComposer.Hardware.Plan
/-!
# DisplayComposer.Proofs.Hardware.Plan

**Plans are stable.** A plan demotes layers to the client, and the client accepts
that. What is planned next must then be that nothing has to change any more: the
demoted layers take no room on the display, and all others keep the room they
got. So the layers as they were placed are a fixpoint of `StackedLayer.place`, at
every budget and for every stack.

* `place_settled` — the fixpoint, for a stack;
* `Composition.after`, `adopt` — the layers once changes are accepted;
* `make_adopt` — the fixpoint, for a plan;
* `changesOf_place_eq_nil` — what a stack without changes looks like.
-/

namespace DisplayComposer

namespace Composition

/-- The composition of a layer after some changes of layers, one after the other. -/
def after (changes : List CompositionChange) (layer : LayerId) (c : Composition) : Composition :=
  changes.foldl (fun c change => if change.layer = layer then change.composition else c) c

theorem after_of_forall_ne {changes : List CompositionChange} {layer : LayerId}
    (h : ∀ change ∈ changes, change.layer ≠ layer) (c : Composition) :
    after changes layer c = c := by
  induction changes generalizing c with
  | nil => rfl
  | cons change rest ih =>
    have hne : change.layer ≠ layer := h change (List.mem_cons_self ..)
    rw [after, List.foldl_cons, if_neg hne]
    exact ih (fun other hother => h other (List.mem_cons_of_mem _ hother)) c

/-- A layer that some changes are about is left to the client, if they leave all layers to it. -/
theorem after_of_client {changes : List CompositionChange} {layer : LayerId}
    (hclient : ∀ change ∈ changes, change.composition = .client)
    (hlayer : ∃ change ∈ changes, change.layer = layer) (c : Composition) :
    after changes layer c = .client := by
  induction changes generalizing c with
  | nil =>
    obtain ⟨change, hchange, -⟩ := hlayer
    cases hchange
  | cons change rest ih =>
    obtain ⟨hfirst, hrest⟩ := List.forall_mem_cons.1 hclient
    rw [after, List.foldl_cons]
    by_cases hlater : ∃ change ∈ rest, change.layer = layer
    · exact ih hrest hlater _
    · have hother : ∀ change ∈ rest, change.layer ≠ layer := fun other hother heq =>
        hlater ⟨other, hother, heq⟩
      have hthis : change.layer = layer := by
        obtain ⟨other, hmem, heq⟩ := hlayer
        rcases List.mem_cons.1 hmem with rfl | hmem
        · exact heq
        · exact absurd heq (hother other hmem)
      rw [if_pos hthis, hfirst]
      exact after_of_forall_ne hother _

theorem impossible_of_scannedOut {c : Composition} (h : c.scannedOut = true) :
    c.impossible = false := by
  cases c <;> simp_all [scannedOut, impossible]

theorem ne_client_of_scannedOut {c : Composition} (h : c.scannedOut = true) : c ≠ .client := by
  rintro rfl
  cases h

theorem ne_client_of_impossible {c : Composition} (h : c.impossible = true) : c ≠ .client := by
  rintro rfl
  cases h

end Composition

namespace StackedLayer

/-! ### Stacks -/

theorem insert_perm (l : StackedLayer) (ls : List StackedLayer) :
    (insert l ls).Perm (l :: ls) := by
  induction ls with
  | nil => exact .refl _
  | cons m rest ih =>
    rw [insert]
    split
    · exact .refl _
    · exact (ih.cons m).trans (.swap l m rest)

/-- A stack has the layers it was made of. -/
theorem stack_perm (ls : List StackedLayer) : (stack ls).Perm ls := by
  induction ls with
  | nil => exact .refl _
  | cons l rest ih => exact (insert_perm l _).trans (ih.cons l)

theorem insert_map {f : StackedLayer → StackedLayer} (hf : ∀ l, (f l).z = l.z)
    (l : StackedLayer) (ls : List StackedLayer) :
    insert (f l) (ls.map f) = (insert l ls).map f := by
  induction ls with
  | nil => rfl
  | cons m rest ih =>
    rw [List.map_cons, insert, insert, hf, hf]
    split
    · rfl
    · rw [ih, List.map_cons]

/-- Where a layer is in the stack depends on its height only. -/
theorem stack_map {f : StackedLayer → StackedLayer} (hf : ∀ l, (f l).z = l.z)
    (ls : List StackedLayer) : stack (ls.map f) = (stack ls).map f := by
  induction ls with
  | nil => rfl
  | cons l rest ih =>
    show insert (f l) (stack (rest.map f)) = (insert l (stack rest)).map f
    rw [ih, insert_map hf]

/-! ### Placing -/

/-- A placed layer with the composition that it got. -/
def settled (p : StackedLayer × Composition) : StackedLayer := { p.1 with composition := p.2 }

theorem map_fst_place (budget used : Nat) (ls : List StackedLayer) :
    (place budget used ls).map Prod.fst = ls := by
  induction ls generalizing used with
  | nil => rfl
  | cons l rest ih =>
    rw [place]
    split
    · split <;> rw [List.map_cons, ih]
    · split <;> rw [List.map_cons, ih]

/-- **Placing is stable.** Layers that have the compositions they got get them
again: a demoted layer does not ask for room any more, so the others find as much
of it as before. -/
theorem place_settled (budget used : Nat) (ls : List StackedLayer) :
    place budget used ((place budget used ls).map settled) =
      (place budget used ls).map fun p => (settled p, p.2) := by
  induction ls generalizing used with
  | nil => rfl
  | cons l rest ih =>
    by_cases hout : l.composition.scannedOut = true
    · by_cases hroom : used < budget
      · -- it keeps its composition, and takes the same room again
        have hstay : settled (l, l.composition) = l := rfl
        rw [place, if_pos hout, if_pos hroom, List.map_cons, List.map_cons, hstay, place,
          if_pos hout, if_pos hroom, ih]
      · -- it was left to the client, and a layer of the client takes no room
        rw [place, if_pos hout, if_neg hroom, List.map_cons, List.map_cons, place,
          if_neg (by simp [settled, Composition.scannedOut]),
          if_neg (by simp [settled, Composition.impossible]), ih]
        rfl
    · by_cases himp : l.composition.impossible = true
      · -- what the display has no means for is the client's from now on
        rw [place, if_neg hout, if_pos himp, List.map_cons, List.map_cons, place,
          if_neg (by simp [settled, Composition.scannedOut]),
          if_neg (by simp [settled, Composition.impossible]), ih]
        rfl
      · have hstay : settled (l, l.composition) = l := rfl
        rw [place, if_neg hout, if_neg himp, List.map_cons, List.map_cons, hstay, place,
          if_neg hout, if_neg himp, ih]

/-- A layer once changes are accepted. -/
def adopt (changes : List CompositionChange) (l : StackedLayer) : StackedLayer :=
  { l with composition := .after changes l.layer l.composition }

end StackedLayer

namespace Plan

open StackedLayer

/-! ### Changes -/

theorem changesOf_cons (p : StackedLayer × Composition)
    (placed : List (StackedLayer × Composition)) :
    changesOf (p :: placed) =
      if p.2 = p.1.composition then changesOf placed
      else ⟨p.1.layer, p.2⟩ :: changesOf placed := by
  by_cases h : p.2 = p.1.composition <;> simp [changesOf, h]

theorem exists_of_mem_changesOf {placed : List (StackedLayer × Composition)}
    {change : CompositionChange} (h : change ∈ changesOf placed) :
    ∃ p ∈ placed, p.1.layer = change.layer ∧ p.2 = change.composition := by
  obtain ⟨p, hp, rfl⟩ := List.mem_map.1 h
  exact ⟨p, (List.mem_filter.1 hp).1, rfl, rfl⟩

/-- The changes of placed layers lead each layer to the composition it got. -/
theorem after_changesOf {placed : List (StackedLayer × Composition)}
    (hids : (placed.map fun p => p.1.layer).Nodup) {p : StackedLayer × Composition}
    (hp : p ∈ placed) :
    Composition.after (changesOf placed) p.1.layer p.1.composition = p.2 := by
  induction placed with
  | nil => simp at hp
  | cons q rest ih =>
    rw [List.map_cons, List.nodup_cons] at hids
    obtain ⟨hq, hrest⟩ := hids
    rcases List.mem_cons.1 hp with rfl | hp
    · -- no later change is about this layer
      have hother : ∀ change ∈ changesOf rest, change.layer ≠ p.1.layer := by
        intro change hchange heq
        obtain ⟨r, hr, hlayer, -⟩ := exists_of_mem_changesOf hchange
        exact hq (List.mem_map.2 ⟨r, hr, hlayer.trans heq⟩)
      rw [changesOf_cons]
      by_cases hkeep : p.2 = p.1.composition
      · rw [if_pos hkeep, Composition.after_of_forall_ne hother, hkeep]
      · rw [if_neg hkeep, Composition.after, List.foldl_cons, if_pos rfl]
        exact Composition.after_of_forall_ne hother _
    · -- the first change is about another layer
      have hne : q.1.layer ≠ p.1.layer := fun heq =>
        hq (heq ▸ List.mem_map.2 ⟨p, hp, rfl⟩)
      rw [changesOf_cons]
      by_cases hkeep : q.2 = q.1.composition
      · rw [if_pos hkeep]
        exact ih hrest hp
      · rw [if_neg hkeep, Composition.after, List.foldl_cons, if_neg hne]
        exact ih hrest hp

theorem map_adopt_changesOf {budget used : Nat} {ls : List StackedLayer}
    (hids : (ls.map (·.layer)).Nodup) :
    ls.map (adopt (changesOf (place budget used ls))) = (place budget used ls).map settled := by
  have hids' : ((place budget used ls).map fun p => p.1.layer).Nodup := by
    rw [← map_fst_place budget used ls, List.map_map] at hids
    exact hids
  calc ls.map (adopt (changesOf (place budget used ls)))
      = ((place budget used ls).map Prod.fst).map (adopt (changesOf (place budget used ls))) := by
        rw [map_fst_place]
    _ = (place budget used ls).map settled := by
        rw [List.map_map]
        refine List.map_congr_left fun p hp => ?_
        show StackedLayer.mk _ _ (Composition.after _ p.1.layer p.1.composition) = settled p
        rw [after_changesOf hids' hp]
        rfl

theorem changesOf_settled (placed : List (StackedLayer × Composition)) :
    changesOf (placed.map fun p => (settled p, p.2)) = [] := by
  rw [changesOf, List.map_eq_nil_iff, List.filter_eq_nil_iff]
  intro p hp
  obtain ⟨q, -, rfl⟩ := List.mem_map.1 hp
  simp [settled]

/-- What is to be cut out of the client target does not depend on the
compositions that layers had before. -/
theorem requestsOf_settled (placed : List (StackedLayer × Composition)) :
    requestsOf (placed.map fun p => (settled p, p.2)) = requestsOf placed := by
  have hany : (placed.map fun p => (settled p, p.2)).any (fun p => p.2 = .client) =
      placed.any fun p => p.2 = .client := by
    rw [List.any_map]
    rfl
  rw [requestsOf, requestsOf, hany, List.takeWhile_map, List.filter_map, List.map_map]
  rfl

/-! ### Plans -/

/-- **Plans are stable.** Once its changes are accepted, a plan asks for no
changes, and for the same of the layers below the client's. -/
theorem make_adopt {budget : Nat} {layers : List StackedLayer}
    (hids : (layers.map (·.layer)).Nodup) :
    make budget (layers.map (adopt (make budget layers).changes)) =
      ⟨[], (make budget layers).requests⟩ := by
  have hstack : ((stack layers).map (·.layer)).Nodup :=
    ((stack_perm layers).map _).nodup_iff.2 hids
  have hplaced : place budget 0 (stack (layers.map (adopt (make budget layers).changes))) =
      (place budget 0 (stack layers)).map fun p => (settled p, p.2) := by
    have hz : ∀ l, (adopt (make budget layers).changes l).z = l.z := fun _ => rfl
    rw [stack_map hz]
    show place budget 0 ((stack layers).map
      (adopt (changesOf (place budget 0 (stack layers))))) = _
    rw [map_adopt_changesOf hstack, place_settled]
  show Plan.mk (changesOf (place budget 0 (stack _))) (requestsOf (place budget 0 (stack _))) = _
  rw [hplaced, changesOf_settled, requestsOf_settled]
  rfl

theorem exists_of_mem_changes {budget : Nat} {layers : List StackedLayer}
    {change : CompositionChange} (h : change ∈ (make budget layers).changes) :
    ∃ l ∈ layers, l.layer = change.layer := by
  obtain ⟨p, hp, hlayer, -⟩ := exists_of_mem_changesOf h
  have hmem : p.1 ∈ stack layers := by
    have := List.mem_map_of_mem (f := Prod.fst) hp
    rwa [map_fst_place] at this
  exact ⟨p.1, (stack_perm layers).mem_iff.1 hmem, hlayer⟩

/-- A layer that is left to the client against its will is a change. -/
theorem changesOf_client_ne_nil {l : StackedLayer} (h : l.composition ≠ .client)
    (placed : List (StackedLayer × Composition)) : changesOf ((l, .client) :: placed) ≠ [] := by
  rw [changesOf_cons, if_neg h.symm]
  exact List.cons_ne_nil _ _

/-- If nothing changes, the display can do what every layer asks for, and has
room for all the layers that it scans out. -/
theorem changesOf_place_eq_nil {budget used : Nat} {ls : List StackedLayer}
    (hroom : used ≤ budget) (h : changesOf (place budget used ls) = []) :
    (∀ l ∈ ls, l.composition.impossible = false) ∧
      used + ls.countP (·.composition.scannedOut) ≤ budget := by
  induction ls generalizing used with
  | nil => simpa using hroom
  | cons l rest ih =>
    rw [place] at h
    by_cases hout : l.composition.scannedOut = true
    · rw [if_pos hout] at h
      by_cases hlt : used < budget
      · -- it takes its room, and the rest fits into what is left
        rw [if_pos hlt, changesOf_cons, if_pos rfl] at h
        obtain ⟨hrest, hcount⟩ := ih hlt h
        refine ⟨List.forall_mem_cons.2 ⟨Composition.impossible_of_scannedOut hout, hrest⟩, ?_⟩
        rw [List.countP_cons, if_pos hout]
        omega
      · -- without room it would be left to the client, and that is a change
        rw [if_neg hlt] at h
        exact absurd h (changesOf_client_ne_nil (Composition.ne_client_of_scannedOut hout) _)
    · rw [if_neg hout] at h
      by_cases himp : l.composition.impossible = true
      · rw [if_pos himp] at h
        exact absurd h (changesOf_client_ne_nil (Composition.ne_client_of_impossible himp) _)
      · rw [if_neg himp, changesOf_cons, if_pos rfl] at h
        obtain ⟨hrest, hcount⟩ := ih hroom h
        refine ⟨List.forall_mem_cons.2 ⟨by simpa using himp, hrest⟩, ?_⟩
        rw [List.countP_cons, if_neg hout]
        exact hcount

/-- The same for a plan. -/
theorem changes_eq_nil {budget : Nat} {layers : List StackedLayer}
    (h : (make budget layers).changes = []) :
    (∀ l ∈ layers, l.composition.impossible = false) ∧
      layers.countP (·.composition.scannedOut) ≤ budget := by
  obtain ⟨himp, hcount⟩ := changesOf_place_eq_nil (Nat.zero_le budget) h
  refine ⟨fun l hl => himp l ((stack_perm layers).mem_iff.2 hl), ?_⟩
  rw [← (stack_perm layers).countP_eq]
  omega

end Plan

end DisplayComposer
