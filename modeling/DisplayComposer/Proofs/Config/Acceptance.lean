import DisplayComposer.Proofs.Startup
import DisplayComposer.Proofs.Table
/-!
# DisplayComposer.Proofs.Config.Acceptance

**An accepted configuration starts.** A configuration can name a display twice, and three
parts of the program would make something else of that: the check objects, the cache refuses
the second one, and the hardware forgets the first. The check comes first, so that the other
two never get to see it. What they make of the displays is then the same: a table with the
displays of the configuration, each as it was configured and not used yet.

* `ComposerConfig.FirstRepeated` — the display that the check objects to;
* `ComposerConfig.check_eq_none_iff`, `check_eq_repeatedDisplay_iff` — when it objects;
* `Cache.ofConfigs_eq` — the cache after registration, as a table made of a list;
* `Engine.Knows` — an engine that knows some displays and has not done anything;
* `ComposerConfig.accepted_starts` — what is accepted, and what it starts.
-/

namespace DisplayComposer

namespace ComposerConfig

/-! ### The check -/

/-- The display of a configuration that is the first to have the id of an earlier one. -/
def FirstRepeated (c : ComposerConfig) (id : DisplayId) : Prop :=
  ∃ before d after, c.displays = before ++ d :: after ∧ d.id = id ∧
    (before.map (·.id)).Nodup ∧ d.id ∈ before.map (·.id)

/-- Ids that are different, and were not seen before. -/
def Unseen (seen ids : List DisplayId) : Prop := ids.Nodup ∧ ∀ x ∈ ids, x ∉ seen

variable {seen ids before : List DisplayId} {x id : DisplayId}

/-- When the first of some ids is taken up, it has been seen. -/
theorem unseen_cons : Unseen seen (x :: ids) ↔ x ∉ seen ∧ Unseen (x :: seen) ids := by
  rw [Unseen, Unseen, List.nodup_cons, List.forall_mem_cons]
  simp only [List.mem_cons, not_or]
  constructor
  · rintro ⟨⟨hx, hnodup⟩, hseen, hnew⟩
    exact ⟨hseen, hnodup, fun y hy => ⟨fun heq => hx (heq ▸ hy), hnew y hy⟩⟩
  · rintro ⟨hseen, hnodup, hnew⟩
    exact ⟨⟨fun hx => (hnew x hx).1 rfl, hnodup⟩, hseen, fun y hy => (hnew y hy).2⟩

theorem mem_cons_or_mem : id ∈ x :: before ∨ id ∈ seen ↔ id ∈ before ∨ id ∈ x :: seen := by
  rw [List.mem_cons, List.mem_cons, or_assoc, or_left_comm]

/-- The search stops at the first id that was seen, and all ids before it were new. -/
theorem repeated?_eq_some_iff :
    repeated? seen ids = some id ↔ ∃ before after, ids = before ++ id :: after ∧
      Unseen seen before ∧ (id ∈ before ∨ id ∈ seen) := by
  induction ids generalizing seen with
  | nil => simp [repeated?]
  | cons first rest ih =>
    rw [repeated?]
    by_cases hseen : first ∈ seen
    · rw [if_pos hseen, Option.some_inj]
      constructor
      · rintro rfl
        exact ⟨[], rest, rfl, ⟨List.nodup_nil, List.forall_mem_nil _⟩, .inr hseen⟩
      · rintro ⟨before, after, hsplit, hnew, -⟩
        cases before with
        | nil => exact (List.cons.inj hsplit).1
        | cons x before =>
          -- the first id would have been a new one
          obtain rfl := (List.cons.inj hsplit).1
          exact absurd hseen (unseen_cons.1 hnew).1
    · rw [if_neg hseen, ih]
      constructor
      · rintro ⟨before, after, rfl, hnew, hid⟩
        exact ⟨first :: before, after, rfl, unseen_cons.2 ⟨hseen, hnew⟩, mem_cons_or_mem.2 hid⟩
      · rintro ⟨before, after, hsplit, hnew, hid⟩
        cases before with
        | nil =>
          obtain rfl := (List.cons.inj hsplit).1
          exact absurd (hid.resolve_left List.not_mem_nil) hseen
        | cons x before =>
          obtain ⟨rfl, rfl⟩ := List.cons.inj hsplit
          exact ⟨before, after, rfl, (unseen_cons.1 hnew).2, mem_cons_or_mem.1 hid⟩

theorem repeated?_eq_none_iff : repeated? [] ids = none ↔ ids.Nodup := by
  refine ⟨fun h => (repeated?_eq_none h).1, fun hnodup => ?_⟩
  cases h : repeated? [] ids with
  | none => rfl
  | some id =>
    obtain ⟨before, after, rfl, -, hid⟩ := repeated?_eq_some_iff.1 h
    have hbefore : id ∈ before := hid.resolve_right List.not_mem_nil
    exact absurd rfl ((List.nodup_append.1 hnodup).2.2 id hbefore id (List.mem_cons_self ..))

variable {c : ComposerConfig}

theorem repeated?_eq_some_iff_firstRepeated :
    repeated? [] (c.displays.map (·.id)) = some id ↔ c.FirstRepeated id := by
  rw [repeated?_eq_some_iff]
  constructor
  · rintro ⟨before, after, hsplit, ⟨hnodup, -⟩, hid⟩
    obtain ⟨front, back, hdisplays, rfl, hback⟩ := List.map_eq_append_iff.1 hsplit
    obtain ⟨d, rest, rfl, rfl, -⟩ := List.map_eq_cons_iff.1 hback
    exact ⟨front, d, rest, hdisplays, rfl, hnodup, hid.resolve_right List.not_mem_nil⟩
  · rintro ⟨before, d, after, hdisplays, rfl, hnodup, hid⟩
    refine ⟨before.map (·.id), after.map (·.id), ?_,
      ⟨hnodup, fun _ _ => List.not_mem_nil⟩, .inl hid⟩
    rw [hdisplays, List.map_append, List.map_cons]

/-- What the service insists on: different displays, and room in its queue. -/
theorem check_eq_none_iff :
    c.check = none ↔ (c.displays.map (·.id)).Nodup ∧ c.server.queueDepth ≠ 0 := by
  rw [check, ← repeated?_eq_none_iff]
  cases repeated? [] (c.displays.map (·.id)) with
  | some id => simp
  | none => by_cases hqueue : c.server.queueDepth = 0 <;> simp [hqueue]

/-- Displays are looked at before the queue. -/
theorem check_eq_repeatedDisplay_iff :
    c.check = some (.repeatedDisplay id) ↔ c.FirstRepeated id := by
  rw [check, ← repeated?_eq_some_iff_firstRepeated]
  cases repeated? [] (c.displays.map (·.id)) with
  | some other => simp
  | none => by_cases hqueue : c.server.queueDepth = 0 <;> simp [hqueue]

theorem exists_firstRepeated (h : ¬ (c.displays.map (·.id)).Nodup) : ∃ id, c.FirstRepeated id := by
  simp only [← repeated?_eq_some_iff_firstRepeated, ← Option.isSome_iff_exists]
  rw [Option.isSome_iff_ne_none, ne_eq, repeated?_eq_none_iff]
  exact h

/-- What comes of a text that is a configuration. -/
theorem ofFile_of_text {content : Bytes} {text : String} (htext : ofUtf8? content = some text)
    (hparse : ofText? text = some c) :
    ofFile content = c.check.elim (.ok c) fun objection => .error (.refused objection) := by
  cases hcheck : c.check <;>
    simp only [ofFile, htext, hparse, hcheck, Option.elim_none, Option.elim_some]

end ComposerConfig

/-! ### Registration -/

/-- What the cache holds of a display that was registered and not used yet. -/
def DisplayEntry.vacant (d : DisplayConfig) : DisplayEntry where
  mustValidate := true
  clientTargets := .vacant d.targetSlots.toNat
  outputBuffers := if d.isVirtual then some (.vacant Cache.outputSlots) else none
  layers := .empty

namespace Cache

/-- If all displays can be registered, they are written one after the other. -/
theorem foldlM_addDisplay_eq {displays : List DisplayConfig} {c c' : Cache}
    (h : displays.foldlM (fun c d => addDisplay d.id d.targetSlots d.isVirtual c) c = .ok c') :
    c' = { c with
      displays := (displays.map fun d => (d.id, DisplayEntry.vacant d)).foldl
        (fun t e => t.insert e.1 e.2) c.displays } := by
  induction displays generalizing c with
  | nil => exact (Except.ok.inj h).symm
  | cons d rest ih =>
    rw [List.foldlM_cons, addDisplay] at h
    split at h
    · cases h
    · exact ih h

/-- The cache for some displays that are different: the table of these displays. -/
theorem ofConfigs_eq {displays : List DisplayConfig} (hnodup : (displays.map (·.id)).Nodup) :
    Cache.ofConfigs displays =
      .ok ⟨.ofList (displays.map fun d => (d.id, .vacant d)), 0, 0⟩ := by
  obtain ⟨cache, hcache⟩ := exists_ofConfigs hnodup
  rw [hcache, foldlM_addDisplay_eq hcache]
  rfl

end Cache

/-- A display of the cache as it was configured, and not used yet. -/
structure DisplayEntry.Registers (d : DisplayConfig) (entry : DisplayEntry) : Prop where
  mustValidate : entry.mustValidate = true
  slots : entry.clientTargets.count = d.targetSlots.toNat
  /-- Virtual displays alone have an output buffer, with one slot. -/
  output : entry.outputBuffers.map (·.count) = if d.isVirtual then some 1 else none
  /-- Every slot is empty. -/
  images : entry.images = []
  layers : entry.layers.keys = []

theorem DisplayEntry.registers_vacant (d : DisplayConfig) : (vacant d).Registers d where
  mustValidate := rfl
  slots := rfl
  output := by
    rw [vacant]
    cases d.isVirtual <;> rfl
  images := by
    rw [images, vacant]
    cases d.isVirtual <;> rfl
  layers := rfl

/-- A display of the hardware as it was configured, and not used yet. -/
structure HeadlessDisplay.Unused (d : DisplayConfig) (display : HeadlessDisplay) : Prop where
  config : display.config = d
  layers : display.layers.keys = []
  clientTarget : display.clientTarget = none
  outputBuffer : display.outputBuffer = none

/-- An engine that knows some displays, and has not done anything. -/
structure Engine.Knows (displays : List DisplayConfig) (e : Engine Headless Cache) : Prop where
  registered : ∀ id entry, e.resources.displays.get? id = some entry →
    ∃ d ∈ displays, d.id = id ∧ entry.Registers d
  present : ∀ id display, e.hardware.displays.get? id = some display →
    ∃ d ∈ displays, d.id = id ∧ display.Unused d
  /-- Every display is known. -/
  all : ∀ d ∈ displays, (e.resources.displays.get? d.id).isSome = true ∧
    (e.hardware.displays.get? d.id).isSome = true

/-- Where no id occurs twice, the table of the cache and that of the hardware have the same
displays. -/
theorem Engine.ofConfigs_knows {displays : List DisplayConfig}
    (hnodup : (displays.map (·.id)).Nodup) :
    ∃ e, Engine.ofConfigs displays = .ok e ∧ e.Knows displays := by
  have hkeys : ∀ {α : Type} (f : DisplayConfig → α),
      ((displays.map fun d => (d.id, f d)).map Prod.fst).Nodup := by
    intro α f
    rwa [List.map_map]
  have hget : ∀ {α : Type} (f : DisplayConfig → α) (id : DisplayId) (a : α),
      (Table.ofList (displays.map fun d => (d.id, f d))).get? id = some a ↔
        ∃ d ∈ displays, d.id = id ∧ f d = a := by
    intro α f id a
    rw [Table.get?_ofList_iff (hkeys f)]
    simp only [List.mem_map, Prod.mk.injEq]
  refine ⟨start (.ofConfigs displays) ⟨.ofList (displays.map fun d => (d.id, .vacant d)), 0, 0⟩,
    by rw [Engine.ofConfigs, Cache.ofConfigs_eq hnodup]; rfl, fun id entry hentry => ?_,
    fun id display hdisplay => ?_, fun d hd => ⟨?_, ?_⟩⟩
  · obtain ⟨d, hd, hid, rfl⟩ := (hget _ id entry).1 hentry
    exact ⟨d, hd, hid, DisplayEntry.registers_vacant d⟩
  · obtain ⟨d, hd, hid, rfl⟩ := (hget _ id display).1 hdisplay
    exact ⟨d, hd, hid, rfl, rfl, rfl, rfl⟩
  · exact Option.isSome_iff_exists.2 ⟨_, (hget _ d.id _).2 ⟨d, hd, rfl, rfl⟩⟩
  · exact Option.isSome_iff_exists.2 ⟨_, (hget _ d.id _).2 ⟨d, hd, rfl, rfl⟩⟩

namespace ComposerConfig

/-- **An accepted configuration starts.** Of the texts that are configurations, those are
accepted whose displays are different and whose queue has room. If displays repeat, the
first display whose id occurred before is named, whatever the length of the queue. And
whatever is accepted, from a file or where there is none, can be registered display by
display, and then cache and hardware know these displays and no others. -/
theorem accepted_starts :
    (∀ (content : Bytes) (text : String) (c : ComposerConfig), ofUtf8? content = some text →
      ofText? text = some c →
        ((load (.file content)).1 = .ok c ↔
          (c.displays.map (·.id)).Nodup ∧ c.server.queueDepth ≠ 0) ∧
        (∀ other, (load (.file content)).1 = .ok other → other = c) ∧
        (¬ (c.displays.map (·.id)).Nodup → ∃ id, c.FirstRepeated id ∧
          (load (.file content)).1 = .error (.refused (.repeatedDisplay id)))) ∧
      ∀ (place : Place) (c : ComposerConfig), (load place).1 = .ok c →
        (∃ e, Engine.ofConfigs c.displays = .ok e ∧ e.Knows c.displays) ∧
        ∀ socket there failure, c.start socket there ≠ .error (.display failure) := by
  refine ⟨fun content text c htext hparse => ?_, fun place c hload => ?_⟩
  · have hfile : (load (.file content)).1 = _ := ofFile_of_text htext hparse
    rw [hfile, ← check_eq_none_iff]
    refine ⟨?_, fun other hother => ?_, fun hrepeated => ?_⟩
    · cases c.check <;> simp
    · cases hcheck : c.check <;> rw [hcheck] at hother <;> cases hother
      rfl
    · obtain ⟨id, hid⟩ := exists_firstRepeated hrepeated
      exact ⟨id, hid, by rw [check_eq_repeatedDisplay_iff.2 hid, Option.elim_some]⟩
  · obtain ⟨e, he, hknows⟩ := Engine.ofConfigs_knows (nodup_of_load hload)
    refine ⟨⟨e, he, hknows⟩, fun socket there failure hstart => ?_⟩
    rw [start, he] at hstart
    cases hlisten : listen socket there with
    | error failure =>
      rw [hlisten] at hstart
      cases hstart
    | ok _ =>
      rw [hlisten] at hstart
      dsimp only at hstart
      split at hstart <;> cases hstart

/-- Two displays, of which the second one is virtual. -/
def twoDisplays : String :=
  "[[displays]]\nid = 7\n\n[[displays]]\nid = -2\nvirtual = true\nclient_target_slots = 2\n"

/-- Three displays with two ids, and no room in the queue. -/
def repeatedDisplays : String :=
  "[server]\nqueue_depth = 0\n[[displays]]\nid = 7\n[[displays]]\n[[displays]]\nid = 7\n"

theorem accepted_starts_twoDisplays :
    (∃ c, (load (.file (utf8 twoDisplays))).1 = .ok c ∧
      ∃ e, Engine.ofConfigs c.displays = .ok e ∧ e.Knows c.displays) ∧
    ∃ c, ofText? repeatedDisplays = some c ∧ c.FirstRepeated 7 ∧
      (load (.file (utf8 repeatedDisplays))).1 = .error (.refused (.repeatedDisplay 7)) := by
  obtain ⟨hfile, hstarts⟩ := accepted_starts
  have htwo : ∃ c, ofText? twoDisplays = some c ∧ c.displays.map (·.id) = [7, -2] ∧
      c.server.queueDepth = 64 := ⟨_, rfl, rfl, rfl⟩
  have hparse : ∃ c, ofText? repeatedDisplays = some c ∧
      c.displays.map (·.id) = [7, 0, 7] := ⟨_, rfl, rfl⟩
  obtain ⟨c, hc, hdifferent, hqueue⟩ := htwo
  obtain ⟨c', hc', hids⟩ := hparse
  have hload := (hfile _ _ c (ofUtf8?_utf8 _) hc).1.2
    ⟨hdifferent ▸ by decide, hqueue ▸ by decide⟩
  refine ⟨⟨c, hload, (hstarts _ c hload).1⟩, c', hc', ?_⟩
  obtain ⟨id, hid, herror⟩ := (hfile _ _ c' (ofUtf8?_utf8 _) hc').2.2 (hids ▸ by decide)
  have hseven : c'.FirstRepeated 7 := by
    rw [← repeated?_eq_some_iff_firstRepeated, hids]
    rfl
  have hsame : id = 7 := by
    have hboth := check_eq_repeatedDisplay_iff.2 hid
    rw [check_eq_repeatedDisplay_iff.2 hseven] at hboth
    cases hboth
    rfl
  exact ⟨hseven, hsame ▸ herror⟩

end ComposerConfig

end DisplayComposer
