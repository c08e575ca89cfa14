import DisplayComposer.Proofs.Hardware.Presenting
/-!
# DisplayComposer.Proofs.Hardware.Decision

**What validating decides.** Planning goes through a stack of layers once, from the lowest up,
and counts the room that is used. What comes of it can be said of each layer on its own: it is
demoted if the display has no means for it, or if as many layers below it are to be scanned out
as the display has room for (`StackedLayer.Demoted`). Where a layer stands in the stack is
decided by its height and its id, so the answer depends on nothing else.

Accepting makes of the layers what they end up as. The demoted ones do not ask for room any
more, and each of the others finds as much of it as before. So validating again after that has
nothing left to change.

* `StackedLayer.Below`, `stack_pairwise` — the order of layers;
* `StackedLayer.Demoted`, `outcome`, `place_eq_map` — what placing makes of them;
* `Validation.Decides`, `Headless.validate_decides` — the answer;
* `HeadlessDisplay.validation_accepted`, `Headless.validate_converges` — the next answer.
-/

namespace DisplayComposer

theorem Composition.scannedOut_iff {c : Composition} :
    c.scannedOut = true ↔ c ∈ [Composition.device, .cursor] := by
  cases c <;> decide

theorem Composition.impossible_iff {c : Composition} : c.impossible = true ↔
    c ∈ [Composition.sideband, .displayDecoration, .refreshRateIndicator, .invalid] := by
  cases c <;> decide

namespace StackedLayer

variable {a b c l : StackedLayer} {ls : List StackedLayer}

/-! ### Which layer is below which -/

/-- The first layer is the lower one. Of two at one height it is the one with the smaller id. -/
def Below (a b : StackedLayer) : Prop := a.z < b.z ∨ a.z = b.z ∧ a.layer < b.layer

instance (a b : StackedLayer) : Decidable (a.Below b) := inferInstanceAs (Decidable (_ ∨ _))

theorem Below.irrefl (a : StackedLayer) : ¬ a.Below a := by
  rintro (hz | ⟨-, hid⟩)
  · exact LinearKeys.irrefl _ hz
  · exact LinearKeys.irrefl _ hid

theorem Below.trans (hab : a.Below b) (hbc : b.Below c) : a.Below c := by
  rcases hab with hz | ⟨hz, hid⟩
  · rcases hbc with hz' | ⟨hz', -⟩
    · exact .inl (LinearKeys.trans _ _ _ hz hz')
    · exact .inl (hz' ▸ hz)
  · rcases hbc with hz' | ⟨hz', hid'⟩
    · exact .inl (hz ▸ hz')
    · exact .inr ⟨hz.trans hz', LinearKeys.trans _ _ _ hid hid'⟩

theorem Below.asymm (hab : a.Below b) : ¬ b.Below a := fun hba => Below.irrefl a (hab.trans hba)

/-- A layer that comes before all others of its height finds its place among them. -/
theorem insert_pairwise (hls : ls.Pairwise Below) (hfirst : ∀ m ∈ ls, l.layer < m.layer) :
    (insert l ls).Pairwise Below := by
  induction ls with
  | nil => exact List.pairwise_singleton ..
  | cons m rest ih =>
    obtain ⟨hm, hrest⟩ := List.pairwise_cons.1 hls
    obtain ⟨hid, hfirst⟩ := List.forall_mem_cons.1 hfirst
    rw [insert]
    split
    · rename_i hz
      have hlm : l.Below m := by
        rcases UInt32.lt_or_eq_of_le hz with hz | hz
        · exact .inl hz
        · exact .inr ⟨hz, hid⟩
      have hbelow : ∀ n ∈ m :: rest, l.Below n :=
        List.forall_mem_cons.2 ⟨hlm, fun n hn => hlm.trans (hm n hn)⟩
      exact List.pairwise_cons.2 ⟨hbelow, hls⟩
    · rename_i hz
      refine List.pairwise_cons.2 ⟨fun n hn => ?_, ih hrest hfirst⟩
      rcases List.mem_cons.1 ((insert_perm l rest).mem_iff.1 hn) with rfl | hn
      · exact .inl (UInt32.not_le.1 hz)
      · exact hm n hn

/-- A stack has the lower of two layers first. -/
theorem stack_pairwise (hids : ls.Pairwise fun a b => a.layer < b.layer) :
    (stack ls).Pairwise Below := by
  induction ls with
  | nil => exact .nil
  | cons l rest ih =>
    obtain ⟨hl, hrest⟩ := List.pairwise_cons.1 hids
    exact insert_pairwise (ih hrest) fun m hm => hl m ((stack_perm rest).mem_iff.1 hm)

/-- There is one way only to have the lower of two layers first. -/
theorem eq_of_perm_of_pairwise {ms : List StackedLayer} (hperm : ls.Perm ms)
    (hls : ls.Pairwise Below) (hms : ms.Pairwise Below) : ls = ms :=
  hperm.eq_of_pairwise (fun _ _ _ _ hab hba => absurd hba hab.asymm) hls hms

/-! ### Who composes a layer in the end -/

/-- A layer goes to the client if the display has no means for it, or if it is to be scanned
out and enough layers below it are already. -/
def Demoted (budget : Nat) (layers : List StackedLayer) (l : StackedLayer) : Prop :=
  l.composition ∈ [Composition.sideband, .displayDecoration, .refreshRateIndicator, .invalid] ∨
    l.composition ∈ [Composition.device, .cursor] ∧
      budget ≤ layers.countP fun m => m.composition ∈ [Composition.device, .cursor] ∧ m.Below l

instance (budget : Nat) (layers : List StackedLayer) (l : StackedLayer) :
    Decidable (l.Demoted budget layers) := inferInstanceAs (Decidable (_ ∨ _))

/-- The composition that a layer ends up with. -/
def outcome (budget : Nat) (layers : List StackedLayer) (l : StackedLayer) : Composition :=
  if l.Demoted budget layers then .client else l.composition

/-- To be demoted is to end up with another composition. -/
theorem outcome_ne_iff {budget : Nat} {layers : List StackedLayer} {l : StackedLayer} :
    l.outcome budget layers ≠ l.composition ↔ l.Demoted budget layers := by
  unfold outcome
  split
  · rename_i hdemoted
    refine iff_of_true (fun heq => ?_) hdemoted
    -- the client's own layers are not demoted
    rcases hdemoted with himpossible | ⟨hout, -⟩
    · rw [← heq] at himpossible
      simp at himpossible
    · rw [← heq] at hout
      simp at hout
  · rename_i hkept
    exact iff_of_false (fun hne => hne rfl) hkept

/-- In a stack, the layers below one of them are those before it. -/
theorem countP_below {pre rest : List StackedLayer} (hls : (pre ++ l :: rest).Pairwise Below) :
    ((pre ++ l :: rest).countP fun m =>
        m.composition ∈ [Composition.device, .cursor] ∧ m.Below l) =
      pre.countP (·.composition.scannedOut) := by
  obtain ⟨-, hrest, hpre⟩ := List.pairwise_append.1 hls
  have hbelow : ∀ m ∈ pre, m.Below l := fun m hm => hpre m hm l (List.mem_cons_self ..)
  have hnone : ((l :: rest).countP fun m =>
      m.composition ∈ [Composition.device, .cursor] ∧ m.Below l) = 0 := by
    refine List.countP_eq_zero.2 fun m hm => ?_
    have hnot : ¬ m.Below l := by
      rcases List.mem_cons.1 hm with rfl | hm
      · exact Below.irrefl m
      · exact ((List.pairwise_cons.1 hrest).1 m hm).asymm
    simp [hnot]
  rw [List.countP_append, hnone, Nat.add_zero]
  refine List.countP_congr fun m hm => ?_
  rw [decide_eq_true_iff, Composition.scannedOut_iff]
  exact and_iff_left (hbelow m hm)

/-- Whether a layer of a stack is demoted, from the layers before it. -/
theorem demoted_iff {budget : Nat} {pre rest : List StackedLayer}
    (hls : (pre ++ l :: rest).Pairwise Below) :
    l.Demoted budget (pre ++ l :: rest) ↔
      l.composition.impossible = true ∨
        l.composition.scannedOut = true ∧ budget ≤ pre.countP (·.composition.scannedOut) := by
  rw [Demoted, countP_below hls, Composition.impossible_iff, Composition.scannedOut_iff]

/-- **Placing demotes the layers that it is to demote.** By the time that the layers `pre` are
placed, the room that they asked for is used, or all that there is. -/
theorem place_eq_map {budget : Nat} {pre : List StackedLayer} (hls : (pre ++ ls).Pairwise Below) :
    place budget (min budget (pre.countP (·.composition.scannedOut))) ls =
      ls.map fun l => (l, l.outcome budget (pre ++ ls)) := by
  induction ls generalizing pre with
  | nil => rfl
  | cons l rest ih =>
    have hdemoted : l.Demoted budget (pre ++ l :: rest) ↔ _ := demoted_iff hls
    have hrest := @ih (pre ++ [l]) (by rwa [List.append_assoc])
    rw [List.append_assoc, List.singleton_append, List.countP_append,
      List.countP_singleton] at hrest
    rw [List.map_cons, place, ← hrest, outcome]
    by_cases hout : l.composition.scannedOut = true
    · have hpossible := Composition.impossible_of_scannedOut hout
      rw [if_pos hout, if_pos hout]
      by_cases hroom : pre.countP (·.composition.scannedOut) < budget
      · rw [if_pos (by omega), if_neg (by simp [hdemoted, hpossible, hroom])]
        congr 2
        omega
      · rw [if_neg (by omega), if_pos (hdemoted.2 (.inr ⟨hout, Nat.le_of_not_lt hroom⟩))]
        congr 2
        omega
    · rw [if_neg hout, if_neg hout, Nat.add_zero]
      by_cases himpossible : l.composition.impossible = true
      · rw [if_pos himpossible, if_pos (hdemoted.2 (.inl himpossible))]
      · rw [if_neg himpossible, if_neg (by simp [hdemoted, himpossible, hout])]

/-- The composition that each layer of a stack gets, from nothing placed on. -/
theorem place_stack {budget : Nat} (hids : ls.Pairwise fun a b => a.layer < b.layer) :
    place budget 0 (stack ls) = (stack ls).map fun l => (l, l.outcome budget (stack ls)) := by
  have hplace := @place_eq_map (stack ls) budget [] (stack_pairwise hids)
  rwa [List.countP_nil, Nat.min_zero] at hplace

/-- In a stack, the layers before the first of some kind are those below all of that kind. -/
theorem takeWhile_eq_filter (p : StackedLayer → Prop) [DecidablePred p] (hls : ls.Pairwise Below) :
    (ls.takeWhile fun l => ¬ p l) = ls.filter fun l => ∀ m ∈ ls, p m → l.Below m := by
  induction ls with
  | nil => rfl
  | cons l rest ih =>
    obtain ⟨hl, hrest⟩ := List.pairwise_cons.1 hls
    by_cases hp : p l
    · -- no layer is below the first one
      have hnone : ∀ n ∈ l :: rest, ¬ n.Below l := by
        intro n hn
        rcases List.mem_cons.1 hn with rfl | hn
        · exact Below.irrefl n
        · exact (hl n hn).asymm
      rw [List.takeWhile_cons_of_neg (by simpa using hp), eq_comm, List.filter_eq_nil_iff]
      intro n hn hall
      exact hnone n hn (of_decide_eq_true hall l (List.mem_cons_self ..) hp)
    · have hfirst : ∀ n : StackedLayer,
          (∀ m ∈ l :: rest, p m → n.Below m) ↔ ∀ m ∈ rest, p m → n.Below m := by
        intro n
        rw [List.forall_mem_cons]
        exact and_iff_right fun h => absurd h hp
      rw [List.takeWhile_cons_of_pos (by simpa using hp), ih hrest]
      simp only [hfirst]
      rw [List.filter_cons_of_pos (by simpa using fun m hm _ => hl m hm)]

end StackedLayer

namespace Plan

open StackedLayer

variable {budget : Nat} {ls : List StackedLayer}

/-! ### Plans -/

theorem changesOf_map (budget : Nat) (layers ls : List StackedLayer) :
    changesOf (ls.map fun l => (l, l.outcome budget layers)) =
      (ls.filter fun l => l.Demoted budget layers).map fun l => ⟨l.layer, .client⟩ := by
  rw [changesOf, List.filter_map, List.map_map]
  have hfilter : (ls.filter fun l => l.outcome budget layers ≠ l.composition) =
      ls.filter fun l => l.Demoted budget layers :=
    List.filter_congr fun l _ => decide_eq_decide.2 outcome_ne_iff
  show List.map _ (ls.filter fun l => l.outcome budget layers ≠ l.composition) = _
  rw [hfilter]
  refine List.map_congr_left fun l hl => ?_
  have hdemoted : l.Demoted budget layers := by simpa using (List.mem_filter.1 hl).2
  show CompositionChange.mk l.layer (l.outcome budget layers) = _
  rw [outcome, if_pos hdemoted]

theorem requestsOf_map (hls : ls.Pairwise Below) (layers : List StackedLayer) :
    requestsOf (ls.map fun l => (l, l.outcome budget layers)) =
      if ∃ l ∈ ls, l.outcome budget layers = .client then
        (ls.filter fun l => l.outcome budget layers = .device ∧
          ∀ m ∈ ls, m.outcome budget layers = .client → l.Below m).map fun l =>
            ⟨l.layer, LayerRequest.clearClientTarget⟩
      else [] := by
  have hany : ((ls.map fun l => (l, l.outcome budget layers)).any fun p => p.2 = .client) = true ↔
      ∃ l ∈ ls, l.outcome budget layers = .client := by
    simp
  rw [requestsOf]
  by_cases hclient : ∃ l ∈ ls, l.outcome budget layers = .client
  · rw [if_pos (hany.2 hclient), if_pos hclient, List.takeWhile_map, List.filter_map, List.map_map]
    show List.map _ (List.filter (fun l => l.outcome budget layers = .device)
      (ls.takeWhile fun l => ¬ l.outcome budget layers = .client)) = _
    rw [takeWhile_eq_filter (fun l => l.outcome budget layers = .client) hls, List.filter_filter]
    simp
  · rw [if_neg (mt hany.1 hclient), if_neg hclient]

/-- Once its changes are accepted, each layer has the composition that it ends up with. -/
theorem map_adopt_make {layers : List StackedLayer}
    (hids : layers.Pairwise fun a b => a.layer < b.layer) :
    (stack layers).map (adopt (make budget layers).changes) =
      (stack layers).map fun l =>
        { l with composition := l.outcome budget (stack layers) } := by
  have hnodup : ((stack layers).map (·.layer)).Nodup := by
    rw [((stack_perm layers).map _).nodup_iff, List.nodup_iff_pairwise_ne, List.pairwise_map]
    refine hids.imp fun hlt heq => ?_
    rw [heq] at hlt
    exact LinearKeys.irrefl _ hlt
  have hadopt := @map_adopt_changesOf budget 0 (stack layers) hnodup
  rw [make, hadopt, place_stack hids, List.map_map]
  rfl

end Plan

/-! ### Validating -/

/-- **What is to be answered** when a display with room for `budget` layers is validated. Its
layers are given from the lowest up. -/
structure Validation.Decides (isVirtual : Bool) (budget : Nat) (layers : List StackedLayer)
    (v : Validation) : Prop where
  /-- The demoted layers are to be changed, and no others. -/
  changes : v.changes =
    (layers.filter fun l => l.Demoted budget layers).map fun l => ⟨l.layer, .client⟩
  hasChanges : v.hasChanges = true ↔ v.changes ≠ []
  /-- The client is to leave out of its target the layers below all that it composes. -/
  requests : v.request.layerRequests =
    if ∃ l ∈ layers, l.outcome budget layers = .client then
      (layers.filter fun l => l.outcome budget layers = .device ∧
        ∀ m ∈ layers, m.outcome budget layers = .client → l.Below m).map fun l =>
          ⟨l.layer, LayerRequest.clearClientTarget⟩
    else []
  mask : v.request.mask =
    if isVirtual = true ∧ ∃ l ∈ layers, l.outcome budget layers = .client then
      DisplayRequest.writeClientTargetToOutput
    else 0

namespace HeadlessDisplay

open StackedLayer

/-- The layers of a display from the lowest up. -/
def stack (d : HeadlessDisplay) : List StackedLayer := StackedLayer.stack d.stackedLayers

/-- How many layers the display scans out. -/
def budget (d : HeadlessDisplay) : Nat := d.config.deviceLayers.toNat

theorem stackedLayers_pairwise (d : HeadlessDisplay) :
    d.stackedLayers.Pairwise fun a b => a.layer < b.layer :=
  List.pairwise_map.2 d.layers.sorted

theorem usesClientComposition_eq (d : HeadlessDisplay) :
    d.usesClientComposition = d.stackedLayers.any fun l => l.composition = .client := by
  rw [usesClientComposition, Table.values, stackedLayers, List.any_map, List.any_map]
  rfl

theorem changes_plan (d : HeadlessDisplay) : d.plan.changes =
    (d.stack.filter fun l => l.Demoted d.budget d.stack).map fun l => ⟨l.layer, .client⟩ := by
  rw [plan, Plan.make, place_stack d.stackedLayers_pairwise]
  exact Plan.changesOf_map ..

/-- The client composes a layer once the changes are accepted if some layer ends up so. -/
theorem willUseClientComposition_iff {d : HeadlessDisplay} :
    d.willUseClientComposition d.plan.changes = true ↔
      ∃ l ∈ d.stack, l.outcome d.budget d.stack = .client := by
  have hmem : ∀ l, l ∈ d.stack ↔ l ∈ d.stackedLayers :=
    fun l => (stack_perm d.stackedLayers).mem_iff
  have hchanges : (∃ change ∈ d.plan.changes, change.composition = .client) ↔
      ∃ l ∈ d.stack, l.Demoted d.budget d.stack := by
    rw [changes_plan]
    simp only [List.mem_map, List.mem_filter, decide_eq_true_eq]
    constructor
    · rintro ⟨change, ⟨l, ⟨hl, hdemoted⟩, -⟩, -⟩
      exact ⟨l, hl, hdemoted⟩
    · rintro ⟨l, hl, hdemoted⟩
      exact ⟨_, ⟨l, ⟨hl, hdemoted⟩, rfl⟩, rfl⟩
  rw [willUseClientComposition, usesClientComposition_eq, Bool.or_eq_true]
  simp only [List.any_eq_true, decide_eq_true_eq]
  rw [hchanges]
  constructor
  · rintro (⟨l, hl, hclient⟩ | ⟨l, hl, hdemoted⟩)
    · refine ⟨l, (hmem l).2 hl, ?_⟩
      rw [outcome, hclient, ite_self]
    · exact ⟨l, hl, if_pos hdemoted⟩
  · rintro ⟨l, hl, houtcome⟩
    by_cases hdemoted : l.Demoted d.budget d.stack
    · exact .inr ⟨l, hl, hdemoted⟩
    · rw [outcome, if_neg hdemoted] at houtcome
      exact .inl ⟨l, (hmem l).1 hl, houtcome⟩

/-- Then it does. -/
theorem usesClientComposition_accepted (d : HeadlessDisplay) :
    usesClientComposition { d with layers := d.plan.changes.foldl apply d.layers } =
      d.willUseClientComposition d.plan.changes := by
  have hadopted : d.stack.map (adopt d.plan.changes) =
      d.stack.map fun l => { l with composition := l.outcome d.budget d.stack } :=
    Plan.map_adopt_make d.stackedLayers_pairwise
  rw [usesClientComposition_eq, stackedLayers_foldl_apply,
    ← ((stack_perm d.stackedLayers).map (adopt d.plan.changes)).any_eq]
  show (d.stack.map (adopt d.plan.changes)).any _ = _
  rw [hadopted, List.any_map, Bool.eq_iff_iff, willUseClientComposition_iff]
  simp

theorem validation_decides (d : HeadlessDisplay) :
    d.validation.Decides d.config.isVirtual d.budget d.stack := by
  refine ⟨d.changes_plan, hasChanges_iff, ?_, ?_⟩
  · show d.plan.requests = _
    rw [plan, Plan.make, place_stack d.stackedLayers_pairwise]
    exact Plan.requestsOf_map (stack_pairwise d.stackedLayers_pairwise) _
  · show (if d.config.isVirtual && d.willUseClientComposition d.plan.changes then _ else _) = _
    simp only [Bool.and_eq_true, willUseClientComposition_iff]

/-- A display is planned alike in whatever order its layers are given. -/
theorem stackedLayers_eq_of_perm {d d' : HeadlessDisplay}
    (hperm : d'.stackedLayers.Perm d.stackedLayers) : d'.stackedLayers = d.stackedLayers :=
  hperm.eq_of_pairwise
    (fun _ _ _ _ hab hba => absurd (LinearKeys.trans _ _ _ hab hba) (LinearKeys.irrefl _))
    d'.stackedLayers_pairwise d.stackedLayers_pairwise

theorem validation_congr {d d' : HeadlessDisplay} (hlayers : d'.stackedLayers = d.stackedLayers)
    (hvirtual : d'.config.isVirtual = d.config.isVirtual)
    (hroom : d'.config.deviceLayers = d.config.deviceLayers) : d'.validation = d.validation := by
  have hplan : d'.plan = d.plan := by rw [plan, plan, hlayers, hroom]
  have huses : d'.usesClientComposition = d.usesClientComposition := by
    rw [usesClientComposition_eq, usesClientComposition_eq, hlayers]
  rw [validation, validation, hplan, hvirtual, willUseClientComposition, huses]
  rfl

/-- Once its changes are accepted, a display is answered the same but for the changes. -/
theorem validation_accepted (d : HeadlessDisplay) :
    validation { d with layers := d.plan.changes.foldl apply d.layers } =
      { d.validation with hasChanges := false, changes := [] } := by
  rw [validation, plan_accepted, willUseClientComposition, usesClientComposition_accepted,
    List.any_nil, Bool.or_false]
  rfl

end HeadlessDisplay

namespace Headless

variable {h : Headless} {display : DisplayId} {d : HeadlessDisplay}

/-- **Validating decides as it should.** The layers are taken from the lowest up, and of two at
one height first the one with the smaller id. The changes are the demoted layers, in this order
and each once; the requests are the scanned-out layers below all those that the client composes.
Another display with the same layers and the same configuration gets the same answer, whatever
else is different. -/
theorem validate_decides (known : h.displays.get? display = some d) :
    ∃ (v : Validation) (layers : List StackedLayer) (t : Headless),
      Hardware.perform (.validate display) h = .ok (.ok v, t) ∧
      layers.Perm d.stackedLayers ∧ layers.Pairwise StackedLayer.Below ∧
      v.Decides d.config.isVirtual d.config.deviceLayers.toNat layers ∧
      (v.changes.map (·.layer)).Nodup ∧
      ∀ (g : Headless) (other : DisplayId) (d' : HeadlessDisplay),
        g.displays.get? other = some d' → d'.stackedLayers.Perm d.stackedLayers →
        d'.config.isVirtual = d.config.isVirtual →
        d'.config.deviceLayers = d.config.deviceLayers →
        ∃ u, Hardware.perform (.validate other) g = .ok (.ok v, u) := by
  have hanswer : ∀ {g : Headless} {other : DisplayId} {d' : HeadlessDisplay},
      g.displays.get? other = some d' →
      ∃ u, Hardware.perform (.validate other) g = .ok (.ok d'.validation, u) := by
    intro g other d' known'
    exact ⟨_, congrArg Except.ok (validate_of_known known')⟩
  have hstack : d.stack.Perm d.stackedLayers := StackedLayer.stack_perm _
  have hdecides := d.validation_decides
  obtain ⟨t, ht⟩ := hanswer known
  refine ⟨d.validation, d.stack, t, ht, hstack,
    StackedLayer.stack_pairwise d.stackedLayers_pairwise, hdecides, ?_, ?_⟩
  · rw [hdecides.changes, List.map_map]
    have hids : (d.stack.map (·.layer)).Nodup :=
      (hstack.map _).nodup_iff.2 d.ids_stackedLayers_nodup
    exact hids.sublist (List.filter_sublist.map _)
  · intro g other d' known' hperm hvirtual hroom
    have hsame := HeadlessDisplay.validation_congr
      (HeadlessDisplay.stackedLayers_eq_of_perm hperm) hvirtual hroom
    exact hsame ▸ hanswer known'

/-- A virtual display that scans out one layer, after some calls. -/
def piled (calls : List Call) : Headless :=
  Hardware.after calls
    (.ofConfigs [{ DisplayConfig.standard with isVirtual := true, deviceLayers := 1 }])

/-- Four layers. The first one is lifted above the others, which are at one height. -/
def pile : List Call :=
  [.createLayer 0, .createLayer 0, .createLayer 0, .createLayer 0,
    .set 0 (.property (.layer 1 (.composition .sideband))),
    .set 0 (.property (.layer 1 (.zOrder 7))),
    .set 0 (.property (.layer 4 (.composition .cursor)))]

/-- The same layers, set up in another order and with a stop on the way. -/
def pileAgain : List Call :=
  [.createLayer 0, .createLayer 0, .set 0 (.property (.layer 1 (.zOrder 7))), .validate 0,
    .createLayer 0, .createLayer 0, .set 0 (.property (.layer 4 (.composition .cursor))),
    .set 0 (.property (.layer 3 (.planeAlpha .zero))),
    .set 0 (.property (.layer 1 (.composition .sideband)))]

/-- Of the three layers at one height the first one is scanned out. The others go to the client,
and so does the layer above them, for which the display has no means. -/
theorem validate_decides_piled :
    ∃ d v layers t, (piled pile).displays.get? 0 = some d ∧
      Hardware.perform (.validate 0) (piled pile) = .ok (.ok v, t) ∧
      layers.map (·.layer) = [2, 3, 4, 1] ∧ v.Decides true 1 layers ∧
      v.changes = [⟨3, .client⟩, ⟨4, .client⟩, ⟨1, .client⟩] ∧
      v.request = ⟨DisplayRequest.writeClientTargetToOutput,
        [⟨2, LayerRequest.clearClientTarget⟩]⟩ ∧
      ∃ u, Hardware.perform (.validate 0) (piled pileAgain) = .ok (.ok v, u) := by
  have known : (piled pile).displays.get? 0 = some _ := rfl
  obtain ⟨v, layers, t, hrun, hperm, hlayers, hdecides, -, hother⟩ := validate_decides known
  have hvalidate : Hardware.perform (.validate 0) (piled pile) = .ok (.ok _, _) := rfl
  obtain ⟨hv, rfl⟩ := Prod.mk.inj (Except.ok.inj (hrun.symm.trans hvalidate))
  obtain rfl := Except.ok.inj hv
  have hstack : layers = [⟨2, 0, .device⟩, ⟨3, 0, .device⟩, ⟨4, 0, .cursor⟩, ⟨1, 7, .sideband⟩] :=
    StackedLayer.eq_of_perm_of_pairwise (hperm.trans (by decide)) hlayers (by decide)
  exact ⟨_, _, layers, _, known, hrun, hstack ▸ rfl, hdecides, rfl, rfl,
    hother (piled pileAgain) 0 _ rfl (by decide) rfl rfl⟩

/-! ### Accepting -/

/-- A display that is validated accepts what it waits for. -/
theorem accept_of_validated (known : h.displays.get? display = some d)
    (hvalidated : d.validated = true) :
    h.accept display = (.ok (), { h with
      displays := h.displays.insert display
        { d with layers := d.pending.foldl HeadlessDisplay.apply d.layers, pending := [] } }) := by
  unfold accept onDisplay
  rw [known]
  dsimp only
  rw [if_pos hvalidated]

/-- **One round is enough.** Validating again changes neither the answer nor the state. Once
the changes are accepted, validating finds nothing more to change, asks for the same otherwise,
and leaves the state as it is. -/
theorem validate_converges (known : h.displays.get? display = some d) :
    ∃ (v : Validation) (validated accepted : Headless),
      Hardware.perform (.validate display) h = .ok (.ok v, validated) ∧
      Hardware.perform (.validate display) validated = .ok (.ok v, validated) ∧
      Hardware.perform (.accept display) validated = .ok (.ok (), accepted) ∧
      Hardware.perform (.validate display) accepted =
        .ok (.ok { v with hasChanges := false, changes := [] }, accepted) := by
  let d₁ : HeadlessDisplay := { d with pending := d.plan.changes, validated := true }
  let d₂ : HeadlessDisplay :=
    { d₁ with layers := d.plan.changes.foldl HeadlessDisplay.apply d.layers, pending := [] }
  let holding (d' : HeadlessDisplay) : Headless :=
    { h with displays := h.displays.insert display d' }
  have known' : ∀ d', (holding d').displays.get? display = some d' :=
    fun d' => Table.get?_insert_self ..
  have hsettled : ∀ d' : HeadlessDisplay, d'.validated = true → d'.pending = d'.plan.changes →
      (holding d').validate display = (.ok d'.validation, holding d') := by
    intro d' hvalidated hpending
    rw [validate_of_known (known' d'), ← hvalidated, ← hpending, Table.insert_insert]
  have haccept : (holding d₁).accept display = (.ok (), holding d₂) := by
    rw [accept_of_validated (known' d₁) rfl, Table.insert_insert]
  have hplan : d₂.plan = ⟨[], d.plan.requests⟩ := d.plan_accepted
  have hagain : (holding d₂).validate display =
      (.ok { d.validation with hasChanges := false, changes := [] }, holding d₂) := by
    rw [hsettled d₂ rfl (congrArg Plan.changes hplan).symm, ← d.validation_accepted]
    rfl
  exact ⟨d.validation, holding d₁, holding d₂, congrArg Except.ok (validate_of_known known),
    congrArg Except.ok (hsettled d₁ rfl rfl), congrArg Except.ok haccept,
    congrArg Except.ok hagain⟩

/-- What is accepted leaves the client with the layers that it was to compose, and the display
with the same request for the other one. -/
theorem validate_converges_piled :
    ∃ (v : Validation) (validated accepted : Headless),
      Hardware.perform (.validate 0) (piled pile) = .ok (.ok v, validated) ∧
      v.hasChanges = true ∧ v.request.layerRequests = [⟨2, LayerRequest.clearClientTarget⟩] ∧
      Hardware.perform (.validate 0) validated = .ok (.ok v, validated) ∧
      Hardware.perform (.accept 0) validated = .ok (.ok (), accepted) ∧
      Hardware.perform (.validate 0) accepted =
        .ok (.ok { v with hasChanges := false, changes := [] }, accepted) := by
  have known : (piled pile).displays.get? 0 = some _ := rfl
  obtain ⟨v, validated, accepted, hfirst, hsecond, haccept, hlast⟩ := validate_converges known
  have hvalidate : Hardware.perform (.validate 0) (piled pile) = .ok (.ok _, _) := rfl
  obtain ⟨hv, -⟩ := Prod.mk.inj (Except.ok.inj (hfirst.symm.trans hvalidate))
  obtain rfl := Except.ok.inj hv
  exact ⟨_, validated, accepted, hfirst, rfl, rfl, hsecond, haccept, hlast⟩

end Headless

end DisplayComposer
