import DisplayComposer.Proofs.Hardware.Effect
import DisplayComposer.Proofs.Hardware.Plan
import DisplayComposer.Proofs.Hardware.Run
/-!
# DisplayComposer.Proofs.Hardware.Validation

**What it means that a display is validated.** While a display of the headless
backend is validated, the changes that wait to be accepted are those that planning
its layers would ask for now (`HeadlessDisplay.Current`). Whatever could alter the
plan makes the display unvalidated. Accepting is the exception: it alters the very
compositions that the plan depends on, and the display stays validated. That this
is right is the stability of plans (`Plan.make_adopt`).

So a display that presents, validated and with nothing left to accept, has nothing
to change: it can do what all its layers ask for, and has room for all the layers
that it scans out.

* `HeadlessDisplay.Current`, `Step.current` — the invariant, and what keeps it;
* `Headless.Kept`, `kept_of_reaches` — the invariant of a run, with what was set;
* `Headless.Presentable`, `pending_eq_changes_of_reaches` — what follows for a run.
-/

namespace DisplayComposer

namespace HeadlessDisplay

/-- While the display is validated, what it waits for is what its plan asks for. -/
def Current (d : HeadlessDisplay) : Prop := d.validated = true → d.pending = d.plan.changes

/-! ### What planning sees -/

theorem stackedLayers_mapValues (d : HeadlessDisplay)
    (f : LayerId → HeadlessLayer → HeadlessLayer) :
    stackedLayers { d with layers := d.layers.mapValues f } =
      d.layers.entries.map fun e => ⟨e.1, (f e.1 e.2).z, (f e.1 e.2).composition⟩ := by
  rw [stackedLayers, Table.mapValues, List.map_map]
  rfl

theorem ids_stackedLayers_nodup (d : HeadlessDisplay) :
    (d.stackedLayers.map (·.layer)).Nodup := by
  have hids : d.stackedLayers.map (·.layer) = d.layers.keys := by
    rw [stackedLayers, List.map_map]
    rfl
  exact hids ▸ d.layers.keys_nodup

theorem mem_stackedLayers {d : HeadlessDisplay} {layer : LayerId} {l : HeadlessLayer}
    (hl : d.layers.get? layer = some l) : ⟨layer, l.z, l.composition⟩ ∈ d.stackedLayers :=
  List.mem_map.2 ⟨(layer, l), Table.mem_entries_iff.2 hl, rfl⟩

/-- Planning sees nothing of a change that leaves height and composition alone. -/
theorem stackedLayers_insert {d : HeadlessDisplay} {layer : LayerId} {l l' : HeadlessLayer}
    (hl : d.layers.get? layer = some l) (hz : l'.z = l.z)
    (hc : l'.composition = l.composition) :
    stackedLayers { d with layers := d.layers.insert layer l' } = d.stackedLayers := by
  have hinsert : d.layers.insert layer l' =
      d.layers.mapValues fun id old => if layer = id then l' else old := by
    refine Table.ext_get? fun id => ?_
    rw [Table.get?_insert, Table.get?_mapValues]
    by_cases hid : layer = id
    · subst hid
      simp [hl]
    · simp [hid]
  rw [hinsert, stackedLayers_mapValues]
  refine List.map_congr_left fun e he => ?_
  by_cases hid : layer = e.1
  · have heq : e.2 = l := by
      have := Table.mem_entries_iff.1 he
      rw [← hid, hl] at this
      exact (Option.some.inj this).symm
    rw [if_pos hid, hz, hc, heq]
  · rw [if_neg hid]

theorem hasChanges_iff {d : HeadlessDisplay} :
    d.validation.hasChanges = true ↔ d.plan.changes ≠ [] := by
  show (!d.plan.changes.isEmpty) = true ↔ _
  simp

/-! ### Accepting changes -/

theorem apply_eq_mapValues (layers : Table LayerId HeadlessLayer) (change : CompositionChange) :
    apply layers change = layers.mapValues fun id l =>
      { l with composition := .after [change] id l.composition } := by
  refine Table.ext_get? fun id => ?_
  rw [apply, Table.get?_mapValues]
  by_cases hid : change.layer = id
  · subst hid
    cases hl : layers.get? change.layer with
    | none => exact hl
    | some l => simp [Composition.after]
  · have hsame : (layers.get? id).map (fun l =>
        { l with composition := Composition.after [change] id l.composition }) =
        layers.get? id := by
      simp [Composition.after, hid]
    rw [hsame]
    cases hl : layers.get? change.layer with
    | none => rfl
    | some l => exact Table.get?_insert_of_ne _ _ hid

/-- Accepting changes gives every layer the composition that they lead to. -/
theorem foldl_apply (changes : List CompositionChange) (layers : Table LayerId HeadlessLayer) :
    changes.foldl apply layers = layers.mapValues fun id l =>
      { l with composition := .after changes id l.composition } := by
  induction changes generalizing layers with
  | nil =>
    refine Table.ext_get? fun id => ?_
    rw [Table.get?_mapValues]
    exact Option.map_id.symm ▸ rfl
  | cons change rest ih =>
    rw [List.foldl_cons, ih, apply_eq_mapValues]
    refine Table.ext_get? fun id => ?_
    rw [Table.get?_mapValues, Table.get?_mapValues, Table.get?_mapValues, Option.map_map]
    rfl

theorem stackedLayers_foldl_apply (d : HeadlessDisplay) (changes : List CompositionChange) :
    stackedLayers { d with layers := changes.foldl apply d.layers } =
      d.stackedLayers.map (StackedLayer.adopt changes) := by
  rw [foldl_apply, stackedLayers_mapValues, stackedLayers, List.map_map]
  rfl

/-- Once the changes of its plan are accepted, a display has nothing to change. -/
theorem plan_accepted (d : HeadlessDisplay) :
    plan { d with layers := d.plan.changes.foldl apply d.layers } = ⟨[], d.plan.requests⟩ := by
  rw [plan, stackedLayers_foldl_apply]
  exact Plan.make_adopt d.ids_stackedLayers_nodup

/-- Changes are planned for layers that are there. -/
theorem exists_of_mem_changes (d : HeadlessDisplay) {change : CompositionChange}
    (h : change ∈ d.plan.changes) : ∃ l, d.layers.get? change.layer = some l := by
  obtain ⟨l, hl, hlayer⟩ := Plan.exists_of_mem_changes h
  obtain ⟨e, he, rfl⟩ := List.mem_map.1 hl
  exact ⟨e.2, hlayer ▸ Table.mem_entries_iff.1 he⟩

/-! ### The invariant -/

/-- A new display is not validated. -/
theorem current_ofConfig (config : DisplayConfig) : (ofConfig config).Current :=
  fun h => absurd h (by simp [ofConfig])

theorem Current.congr {d d' : HeadlessDisplay} (hd : d.Current)
    (hvalidated : d'.validated = d.validated) (hpending : d'.pending = d.pending)
    (hplan : d'.plan = d.plan) : d'.Current := by
  intro h
  rw [hpending, hplan]
  exact hd (hvalidated ▸ h)

/-- A change of a layer that planning does not see keeps what is planned. -/
theorem plan_insert {d : HeadlessDisplay} {layer : LayerId} {l l' : HeadlessLayer}
    (hl : d.layers.get? layer = some l) (hz : l'.z = l.z)
    (hc : l'.composition = l.composition) :
    plan { d with layers := d.layers.insert layer l' } = d.plan := by
  rw [plan, stackedLayers_insert hl hz hc]
  rfl

/-- **Every call keeps the invariant.** -/
theorem Step.current {d d' : HeadlessDisplay} {call : Call} (hstep : d.Step call d')
    (hd : d.Current) : d'.Current := by
  cases hstep with
  | createLayer | destroyLayer | colorTransform | sideband =>
    -- the display is not validated any more
    intro h
    cases h
  | @layerProperty _ _ l p hl =>
    cases hp : p.unsettles with
    | true =>
      intro h
      simp at h
    | false =>
      -- the plan looks at heights and compositions only
      obtain ⟨hz, hc⟩ := LayerProperty.applyTo_of_not_unsettles hp l
      exact hd.congr rfl rfl (plan_insert hl hz hc)
  | layerBuffer _ _ hl => exact hd.congr rfl rfl (plan_insert hl rfl rfl)
  | brightness | clientTarget | outputBuffer | present => exact hd.congr rfl rfl rfl
  | expectedPresentTime | hasClientComposition => exact hd
  | validate => exact fun _ => rfl
  | accept hvalidated =>
    -- what was pending was the plan, so the layers that come of it have nothing to change
    intro _
    have hplan := d.plan_accepted
    rw [← hd hvalidated] at hplan
    exact (congrArg Plan.changes hplan).symm

/-! ### Presenting -/

theorem usesClientComposition_of_get? {d : HeadlessDisplay} {layer : LayerId} {l : HeadlessLayer}
    (hl : d.layers.get? layer = some l) (hc : l.composition = .client) :
    d.usesClientComposition = true :=
  List.any_eq_true.2 ⟨l, Table.mem_values_iff.2 ⟨layer, hl⟩, by simpa using hc⟩

/-- What has to be there when nothing keeps a display from presenting. -/
theorem of_refusal?_eq_none {d : HeadlessDisplay} (h : d.refusal? = none) :
    d.validated = true ∧ d.pending = [] ∧
      (d.config.isVirtual = true → d.outputBuffer.isSome = true) ∧
      (d.usesClientComposition = true → d.clientTarget.isSome = true) := by
  unfold refusal? at h
  split at h
  · cases h
  · rename_i hready
    split at h
    · cases h
    · rename_i houtput
      split at h
      · cases h
      · rename_i htarget
        simp only [Bool.or_eq_true, not_or, Bool.not_eq_true, Bool.not_eq_false',
          List.isEmpty_iff] at hready
        refine ⟨hready.1, hready.2, fun hv => ?_, fun hu => ?_⟩
        · cases ho : d.outputBuffer <;> simp_all
        · cases ht : d.clientTarget <;> simp_all

end HeadlessDisplay

/-! ### Runs -/

namespace Event

/-- A call that set the client target of a display. -/
def SetsClientTarget (display : DisplayId) (event : Event) : Prop :=
  ∃ fence dataspace damage image,
    event = ⟨.set display (.image (.clientTarget fence dataspace damage) image), .ok ()⟩

/-- A call that set the output buffer of a display. -/
def SetsOutputBuffer (display : DisplayId) (event : Event) : Prop :=
  ∃ fence image, event = ⟨.set display (.image (.outputBuffer fence) image), .ok ()⟩

end Event

namespace Headless

/-- What holds of a display during a run. -/
structure Kept (log : List Event) (display : DisplayId) (d : HeadlessDisplay) : Prop where
  current : d.Current
  /-- A client target that is there was set at some time. -/
  clientTarget : d.clientTarget.isSome = true → ∃ event ∈ log, event.SetsClientTarget display
  /-- An output buffer that is there was set at some time. -/
  outputBuffer : d.outputBuffer.isSome = true → ∃ event ∈ log, event.SetsOutputBuffer display

theorem Kept.log_append {log : List Event} {display : DisplayId} {d : HeadlessDisplay}
    (hd : Kept log display d) (more : List Event) : Kept (log ++ more) display d where
  current := hd.current
  clientTarget h := by
    obtain ⟨event, hevent, hset⟩ := hd.clientTarget h
    exact ⟨event, List.mem_append_left more hevent, hset⟩
  outputBuffer h := by
    obtain ⟨event, hevent, hset⟩ := hd.outputBuffer h
    exact ⟨event, List.mem_append_left more hevent, hset⟩

/-- A step of the display, written down in the log. -/
theorem Kept.step {log : List Event} {call : Call} {d d' : HeadlessDisplay} (a : call.Answer)
    (hd : Kept log call.display d) (hstep : d.Step call d') :
    Kept (log ++ [⟨call, .ok a⟩]) call.display d' := by
  have hcurrent := hstep.current hd.current
  have hlog := hd.log_append [⟨call, .ok a⟩]
  have hlast : (⟨call, .ok a⟩ : Event) ∈ log ++ [⟨call, .ok a⟩] :=
    List.mem_append_right log (List.mem_singleton_self _)
  cases hstep with
  | clientTarget fence dataspace damage image =>
    exact ⟨hcurrent, fun _ => ⟨_, hlast, fence, dataspace, damage, image, rfl⟩,
      hlog.outputBuffer⟩
  | outputBuffer fence image =>
    exact ⟨hcurrent, hlog.clientTarget, fun _ => ⟨_, hlast, fence, image, rfl⟩⟩
  | _ =>
    -- no other call touches either of the two
    exact ⟨hcurrent, hlog.clientTarget, hlog.outputBuffer⟩

theorem kept_of_reaches {configs : List DisplayConfig} {s : Logged Headless}
    (reached : Hardware.Reaches ⟨.ofConfigs configs, []⟩ s) :
    ∀ display d, s.hardware.displays.get? display = some d → Kept s.log display d := by
  refine reached.invariant
    (P := fun s => ∀ display d, s.hardware.displays.get? display = some d → Kept s.log display d)
    (fun {call s t out} hs hrun display d hd => ?_) fun display d hd => ?_
  · obtain ⟨hrun, hlog⟩ := Logged.perform_ok.1 hrun
    rw [hlog]
    rcases perform_cases hrun with ⟨failure, hr⟩ | ⟨a, d₀, d₁, ha, hd₀, hstep, hdisplays⟩
    · -- a failed call leaves every display as it was
      have hsame : t.hardware = s.hardware := congrArg Prod.snd hr
      rw [hsame] at hd
      exact (hs display d hd).log_append _
    · dsimp only at ha hdisplays
      rw [hdisplays, Table.get?_insert] at hd
      by_cases hdisplay : call.display = display
      · rw [if_pos hdisplay] at hd
        obtain rfl := Option.some.inj hd
        subst hdisplay
        rw [ha]
        exact (hs _ d₀ hd₀).step a hstep
      · -- the call was about another display
        rw [if_neg hdisplay] at hd
        exact (hs display d hd).log_append _
  · -- before the first call, every display is as its configuration makes it
    obtain ⟨config, -, heq⟩ := List.mem_map.1 (Table.mem_of_get?_ofList hd)
    obtain ⟨-, rfl⟩ := Prod.mk.inj heq
    exact ⟨HeadlessDisplay.current_ofConfig config, fun h => absurd h Bool.false_ne_true,
      fun h => absurd h Bool.false_ne_true⟩

/-- The invariant holds in every state that calls lead to. -/
theorem current_of_reaches {configs : List DisplayConfig} {h : Headless}
    (reached : Hardware.Reaches (.ofConfigs configs) h) {display : DisplayId}
    {d : HeadlessDisplay} (known : h.displays.get? display = some d) : d.Current := by
  obtain ⟨log, hlogged⟩ := reached.logged []
  exact (kept_of_reaches hlogged display d known).current

/-- What is known of a display that presents. -/
structure Presentable (log : List Event) (display : DisplayId) (d : HeadlessDisplay) : Prop where
  /-- The display can do what its layers ask for. -/
  possible : ∀ layer l, d.layers.get? layer = some l →
    l.composition ∉
      [Composition.sideband, .displayDecoration, .refreshRateIndicator, .invalid]
  /-- It has room for the layers that it scans out. -/
  room : (d.layers.values.filter fun l =>
      l.composition = .device || l.composition = .cursor).length ≤
    d.config.deviceLayers.toNat
  /-- If the client composes a layer, it has said into which buffer. -/
  clientTarget : ∀ layer l, d.layers.get? layer = some l → l.composition = .client →
    ∃ event ∈ log, event.SetsClientTarget display
  /-- A virtual display has something to show into. -/
  outputBuffer : d.config.isVirtual = true → ∃ event ∈ log, event.SetsOutputBuffer display

theorem Kept.presentable {log : List Event} {display : DisplayId} {d : HeadlessDisplay}
    (hd : Kept log display d) (hready : d.refusal? = none) : Presentable log display d := by
  obtain ⟨hvalidated, hpending, houtput, htarget⟩ := HeadlessDisplay.of_refusal?_eq_none hready
  have hnone : d.plan.changes = [] := hd.current hvalidated ▸ hpending
  obtain ⟨himpossible, hroom⟩ := Plan.changes_eq_nil hnone
  refine ⟨fun layer l hl => ?_, ?_, fun layer l hl hc => ?_, fun hv => ?_⟩
  · have hl := himpossible _ (HeadlessDisplay.mem_stackedLayers hl)
    cases hc : l.composition <;> simp_all [Composition.impossible]
  · rw [HeadlessDisplay.stackedLayers, List.countP_map, List.countP_eq_length_filter] at hroom
    rw [Table.values, List.filter_map, List.length_map]
    refine Nat.le_trans (Nat.le_of_eq ?_) hroom
    congr 2
    funext e
    cases hc : e.2.composition <;> simp [hc, Composition.scannedOut]
  · exact hd.clientTarget (htarget (HeadlessDisplay.usesClientComposition_of_get? hl hc))
  · exact hd.outputBuffer (houtput hv)

/-- **While a display is validated, it waits for what its plan asks for.** So
whenever it presents it can do what its layers ask for and has all that it needs,
and no change that it accepts is about a layer that is gone. -/
theorem pending_eq_changes_of_reaches {configs : List DisplayConfig} {s : Logged Headless}
    (reached : Hardware.Reaches ⟨.ofConfigs configs, []⟩ s) {display : DisplayId}
    {d : HeadlessDisplay} (known : s.hardware.displays.get? display = some d) :
    (d.validated = true → d.pending = d.plan.changes) ∧
      (∀ p t, Hardware.perform (.present display) s = .ok (.ok p, t) →
        Presentable s.log display d) ∧
      (∀ t, Hardware.perform (.accept display) s = .ok (.ok (), t) →
        ∀ change ∈ d.pending, ∃ l, d.layers.get? change.layer = some l) := by
  have hd := kept_of_reaches reached display d known
  refine ⟨hd.current, fun p t hrun => ?_, fun t hrun change hchange => ?_⟩
  · rcases perform_cases (Logged.perform_ok.1 hrun).1 with
      ⟨failure, hr⟩ | ⟨a, d₀, d₁, ha, hd₀, hstep, hdisplays⟩
    · cases hr
    · obtain rfl := Option.some.inj (hd₀.symm.trans known)
      cases hstep with
      | present hready => exact hd.presentable hready
  · rcases perform_cases (Logged.perform_ok.1 hrun).1 with
      ⟨failure, hr⟩ | ⟨a, d₀, d₁, ha, hd₀, hstep, hdisplays⟩
    · cases hr
    · obtain rfl := Option.some.inj (hd₀.symm.trans known)
      cases hstep with
      | accept hvalidated =>
        rw [hd.current hvalidated] at hchange
        exact d₀.exists_of_mem_changes hchange

/-- A display that scans out one layer, after some calls. -/
def crowded (calls : List Call) : Logged Headless :=
  Hardware.after calls ⟨.ofConfigs [{ DisplayConfig.standard with deviceLayers := 1 }], []⟩

/-- Two layers on a display for one: the upper one is left to the client. -/
def crowdedCalls : List Call := [.createLayer 0, .createLayer 0, .validate 0]

/-- The client agrees, and says into which buffer it composes. -/
def settledCalls : List Call := crowdedCalls ++
  [.accept 0, .set 0 (.image (.clientTarget .absent .srgb []) ⟨0, .empty⟩)]

theorem pending_eq_changes_crowded :
    (∃ d, (crowded crowdedCalls).hardware.displays.get? 0 = some d ∧ d.validated = true ∧
      d.pending = [⟨2, .client⟩] ∧ d.pending = d.plan.changes) ∧
    ∃ d p t, (crowded settledCalls).hardware.displays.get? 0 = some d ∧
      Hardware.perform (.present 0) (crowded settledCalls) = .ok (.ok p, t) ∧
      Presentable (crowded settledCalls).log 0 d := by
  have reached : ∀ calls, Hardware.Reaches _ (crowded calls) := fun calls => .after calls _
  have hasked : (crowded crowdedCalls).hardware.displays.get? 0 = some _ := rfl
  have hready : (crowded settledCalls).hardware.displays.get? 0 = some _ := rfl
  refine ⟨⟨_, hasked, rfl, rfl, ?_⟩, _, _, _, hready, rfl, ?_⟩
  · exact (pending_eq_changes_of_reaches (reached _) hasked).1 rfl
  · exact (pending_eq_changes_of_reaches (reached _) hready).2.1 _ _ rfl

end Headless

end DisplayComposer
