import DisplayComposer.Server.Startup
/-!
# DisplayComposer.Proofs.Startup

**What the engine starts from.** A configuration that is loaded names no display twice.
So all its displays can be registered in the cache, and the same displays are those of
the hardware.

* `ComposerConfig.nodup_of_load` — no display is configured twice;
* `Engine.ofConfigs_of_load` — the engine for a configuration that is loaded.
-/

namespace DisplayComposer

namespace ComposerConfig

theorem repeated?_eq_none {seen ids : List DisplayId} (h : repeated? seen ids = none) :
    ids.Nodup ∧ ∀ id ∈ ids, id ∉ seen := by
  induction ids generalizing seen with
  | nil => simp
  | cons id rest ih =>
    rw [repeated?] at h
    split at h
    · cases h
    · rename_i hnew
      obtain ⟨hnodup, hrest⟩ := ih h
      refine ⟨List.nodup_cons.2 ⟨fun hmem => ?_, hnodup⟩, fun other hother hseen => ?_⟩
      · exact hrest id hmem (List.mem_cons_self ..)
      · rcases List.mem_cons.1 hother with rfl | hmem
        · exact hnew hseen
        · exact hrest other hmem (List.mem_cons_of_mem _ hseen)

/-- What the service insists on. -/
theorem nodup_of_check {c : ComposerConfig} (h : c.check = none) :
    (c.displays.map (·.id)).Nodup := by
  rw [check] at h
  split at h
  · cases h
  · rename_i hnone
    exact (repeated?_eq_none hnone).1

/-- No display is configured twice in a configuration that is loaded. -/
theorem nodup_of_load {place : Place} {c : ComposerConfig} (h : (load place).1 = .ok c) :
    (c.displays.map (·.id)).Nodup := by
  have hfirst : (firstRun.displays.map (·.id)).Nodup := by decide
  cases place with
  | file content =>
    dsimp only [load, ofFile] at h
    split at h
    · cases h
    · split at h
      · cases h
      · split at h
        · cases h
        · rename_i hcheck
          cases h
          exact nodup_of_check hcheck
  | folder => cases h
  | _ =>
    -- whether or not it can be saved, it is the first configuration
    dsimp only [load] at h
    split at h <;> exact Except.ok.inj h ▸ hfirst

end ComposerConfig

/-- Displays that are not registered yet, and are not the same, can be registered. -/
theorem Cache.exists_foldlM_addDisplay {displays : List DisplayConfig} {c : Cache}
    (hnodup : (displays.map (·.id)).Nodup)
    (hnew : ∀ d ∈ displays, c.displays.contains d.id = false) :
    ∃ c', displays.foldlM (fun c d => Cache.addDisplay d.id d.targetSlots d.isVirtual c) c =
      .ok c' := by
  induction displays generalizing c with
  | nil => exact ⟨c, rfl⟩
  | cons d rest ih =>
    rw [List.map_cons, List.nodup_cons] at hnodup
    rw [List.foldlM_cons, addDisplay, if_neg (by simp [hnew d (List.mem_cons_self ..)])]
    refine ih hnodup.2 fun other hother => ?_
    have hne : d.id ≠ other.id := fun heq =>
      hnodup.1 (heq ▸ List.mem_map_of_mem (f := (·.id)) hother)
    have hold := hnew other (List.mem_cons_of_mem _ hother)
    rw [Table.contains] at hold ⊢
    rwa [Table.get?_insert_of_ne _ _ hne]

theorem Cache.exists_ofConfigs {displays : List DisplayConfig}
    (hnodup : (displays.map (·.id)).Nodup) : ∃ cache, Cache.ofConfigs displays = .ok cache :=
  exists_foldlM_addDisplay hnodup fun _ _ => rfl

/-- The engine for a configuration that is loaded has its displays registered, and has not
done anything. -/
theorem Engine.ofConfigs_of_load {place : Place} {c : ComposerConfig}
    (h : (ComposerConfig.load place).1 = .ok c) :
    ∃ cache, Cache.ofConfigs c.displays = .ok cache ∧
      Engine.ofConfigs c.displays = .ok (start (.ofConfigs c.displays) cache) := by
  obtain ⟨cache, hcache⟩ := Cache.exists_ofConfigs (ComposerConfig.nodup_of_load h)
  refine ⟨cache, hcache, ?_⟩
  rw [Engine.ofConfigs, hcache]
  rfl

end DisplayComposer
