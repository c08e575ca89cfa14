import DisplayComposer.Proofs.Hardware.Local
import DisplayComposer.Proofs.Hardware.Run
import Mathlib.Algebra.Group.Int.Defs
import Mathlib.Algebra.Group.Nat.Defs
/-!
# DisplayComposer.Proofs.Hardware.Fences

**Fences are numbered one after the other.** All displays take their fences from one counter,
and only a frame that is shown takes any: one for the frame, then one for each layer that holds
a buffer, the layers in ascending order. So as long as the counter does not start over, the
fences of a whole run are the numbers from the first one on, whatever happens in between.

* `Call.fences`, `Event.fences` — the fences that an answer hands out;
* `Headless.fencesFrom`, `Headless.fenceAfter` — the next fences of a counter;
* `Headless.present_ok` — what a frame takes;
* `Headless.fences_consecutive` — the fences of a run.
-/

namespace DisplayComposer

/-- The fences that a call hands out, that of the frame first. -/
def Call.fences : (call : Call) → call.Answer → List Fence
  | .present _, p => p.presentFence :: p.releaseFences.map (·.fence)
  | _, _ => []

/-- The fences that were handed out, if the call succeeded. -/
def Event.fences (event : Event) : List Fence :=
  match event.outcome with
  | .ok a => event.call.fences a
  | .error _ => []

namespace Headless

/-! ### Counting -/

/-- The next fences of a counter. -/
def fencesFrom (fence : Int32) : Nat → List Fence
  | 0 => []
  | n + 1 => (takeFence fence).1 :: fencesFrom (takeFence fence).2 n

/-- The counter after some fences. -/
def fenceAfter (fence : Int32) : Nat → Int32
  | 0 => fence
  | n + 1 => fenceAfter (takeFence fence).2 n

theorem length_fencesFrom (fence : Int32) (n : Nat) : (fencesFrom fence n).length = n := by
  induction n generalizing fence with
  | zero => rfl
  | succ n ih => rw [fencesFrom, List.length_cons, ih]

theorem fencesFrom_add (fence : Int32) (m n : Nat) :
    fencesFrom fence (m + n) = fencesFrom fence m ++ fencesFrom (fenceAfter fence m) n := by
  induction m generalizing fence with
  | zero => rw [Nat.zero_add]; rfl
  | succ m ih => rw [Nat.succ_add, fencesFrom, ih]; rfl

theorem fenceAfter_add (fence : Int32) (m n : Nat) :
    fenceAfter fence (m + n) = fenceAfter (fenceAfter fence m) n := by
  induction m generalizing fence with
  | zero => rw [Nat.zero_add]; rfl
  | succ m ih => rw [Nat.succ_add, fenceAfter, ih]; rfl

/-- Release fences are the next ones, one for each layer. -/
theorem takeReleaseFences_eq (fence : Int32) (layers : List LayerId) :
    (takeReleaseFences fence layers).1.map (·.layer) = layers ∧
      (takeReleaseFences fence layers).1.map (·.fence) = fencesFrom fence layers.length ∧
      (takeReleaseFences fence layers).2 = fenceAfter fence layers.length := by
  induction layers generalizing fence with
  | nil => exact ⟨rfl, rfl, rfl⟩
  | cons layer rest ih =>
    obtain ⟨hlayers, hfences, hafter⟩ := ih (takeFence fence).2
    refine ⟨congrArg (layer :: ·) hlayers, congrArg ((takeFence fence).1 :: ·) hfences, hafter⟩

/-- Below the greatest number the counter grows by one. -/
theorem toInt_takeFence {fence : Int32} (hroom : fence.toInt + 1 < 2 ^ 31) :
    (takeFence fence).2.toInt = fence.toInt + 1 := by
  have hmax : fence ≠ Int32.maxValue := by
    rintro rfl
    exact absurd hroom (by decide)
  have hlow : -2 ^ 31 ≤ fence.toInt := Int32.le_toInt fence
  rw [takeFence, if_neg hmax, Int32.toInt_add]
  refine Int.bmod_eq_of_le ?_ ?_
  · show _ ≤ fence.toInt + 1
    omega
  · show fence.toInt + 1 < _
    omega

/-- As long as they last, the next fences are the next numbers. -/
theorem fencesFrom_eq (fence : Int32) (n : Nat) (hroom : fence.toInt + n < 2 ^ 31) :
    (fencesFrom fence n).map (·.code.toInt) = (List.range n).map (fun k : Nat => fence.toInt + k) ∧
      (fenceAfter fence n).toInt = fence.toInt + n := by
  induction n generalizing fence with
  | zero => exact ⟨rfl, (Int.add_zero _).symm⟩
  | succ n ih =>
    have hnext : (takeFence fence).2.toInt = fence.toInt + 1 := toInt_takeFence (by omega)
    obtain ⟨hcodes, hafter⟩ := ih (takeFence fence).2 (by omega)
    refine ⟨?_, by rw [fenceAfter, hafter]; omega⟩
    rw [fencesFrom, List.map_cons, hcodes, List.range_succ_eq_map, List.map_cons, List.map_map]
    refine List.cons_eq_cons.2 ⟨(Int.add_zero _).symm, List.map_congr_left fun k _ => ?_⟩
    show (takeFence fence).2.toInt + (k : Int) = fence.toInt + ((k + 1 : Nat) : Int)
    omega

/-! ### What a frame takes -/

variable {h t : Headless} {display : DisplayId}

/-- A frame that is shown takes a fence, and one for each layer that holds a buffer. -/
theorem present_ok {p : Presentation}
    (hrun : Hardware.perform (.present display) h = .ok (.ok p, t)) :
    ∃ d, h.displays.get? display = some d ∧
      p.releaseFences.map (·.layer) = d.bufferedLayers ∧
      Call.fences (.present display) p = fencesFrom h.nextFence (d.bufferedLayers.length + 1) ∧
      t.nextFence = fenceAfter h.nextFence (d.bufferedLayers.length + 1) := by
  have hpresented : h.present display = (.ok p, t) := Except.ok.inj hrun
  unfold present at hpresented
  cases hd : h.displays.get? display with
  | none =>
    rw [hd] at hpresented
    cases hpresented
  | some d =>
    rw [hd] at hpresented
    dsimp only at hpresented
    cases hr : d.refusal? with
    | some failure =>
      rw [hr] at hpresented
      cases hpresented
    | none =>
      rw [hr] at hpresented
      cases hpresented
      obtain ⟨hlayers, hfences, hafter⟩ :=
        takeReleaseFences_eq (takeFence h.nextFence).2 d.bufferedLayers
      exact ⟨d, rfl, hlayers, congrArg ((takeFence h.nextFence).1 :: ·) hfences, hafter⟩

/-- The layers that hold a buffer, each of them once. -/
theorem bufferedLayers_pairwise (d : HeadlessDisplay) : d.bufferedLayers.Pairwise (· < ·) :=
  List.pairwise_map.2 (d.layers.sorted.sublist List.filter_sublist)

theorem mem_bufferedLayers {d : HeadlessDisplay} {layer : LayerId} :
    layer ∈ d.bufferedLayers ↔
      ∃ l, d.layers.get? layer = some l ∧ l.buffer.isSome = true := by
  simp only [HeadlessDisplay.bufferedLayers, List.mem_map, List.mem_filter, Prod.exists,
    Table.mem_entries_iff, exists_and_right, exists_eq_right]

/-- **What a call takes from the counter** is what its answer hands out: the next fences, and
none if it fails or shows nothing. -/
theorem fences_of_perform {call : Call} {out : Except HardwareError call.Answer}
    (hrun : Hardware.perform call h = .ok (out, t)) :
    (Event.mk call out).fences =
        fencesFrom h.nextFence (Event.mk call out).fences.length ∧
      t.nextFence = fenceAfter h.nextFence (Event.mk call out).fences.length := by
  by_cases hpresent : ∃ display, call = .present display
  · obtain ⟨display, rfl⟩ := hpresent
    cases out with
    | error failure =>
      exact ⟨rfl, congrArg nextFence (eq_of_perform_error hrun)⟩
    | ok p =>
      obtain ⟨d, -, -, hfences, hnext⟩ := present_ok hrun
      have hlength : (Call.fences (.present display) p).length = d.bufferedLayers.length + 1 := by
        rw [hfences, length_fencesFrom]
      show Call.fences _ p = fencesFrom _ (Call.fences _ p).length ∧
        _ = fenceAfter _ (Call.fences _ p).length
      rw [hlength]
      exact ⟨hfences, hnext⟩
  · have hsame := nextFence_of_perform (fun display heq => hpresent ⟨display, heq⟩) hrun
    have hnone : (Event.mk call out).fences = [] := by
      cases out with
      | error failure => rfl
      | ok a =>
        cases call with
        | present display => exact absurd ⟨display, rfl⟩ hpresent
        | _ => rfl
    rw [hnone]
    exact ⟨rfl, hsame⟩

/-! ### The fences of a run -/

/-- Every call takes up where the one before it left off. -/
theorem fences_of_reaches {configs : List DisplayConfig} {s : Logged Headless}
    (reached : Hardware.Reaches (Logged.mk (.ofConfigs configs) []) s) :
    s.log.flatMap Event.fences =
        fencesFrom firstFence (s.log.flatMap Event.fences).length ∧
      s.hardware.nextFence = fenceAfter firstFence (s.log.flatMap Event.fences).length := by
  induction reached with
  | refl => exact ⟨rfl, rfl⟩
  | @call s t call out _ hrun ih =>
    obtain ⟨hperformed, hlog⟩ := Logged.perform_ok.1 hrun
    obtain ⟨hfences, hnext⟩ := fences_of_perform hperformed
    obtain ⟨hbefore, hcounter⟩ := ih
    rw [hcounter] at hfences hnext
    rw [hlog, List.flatMap_append, List.flatMap_singleton, List.length_append, fencesFrom_add,
      fenceAfter_add, ← hbefore, ← hfences]
    exact ⟨rfl, hnext⟩

/-- **Fences are fresh, and go to the layers that hold a buffer.** As long as fewer fences are
handed out than there are numbers from the first one on, those of a run are 3, 4, 5 and so on,
over all displays and in the order in which they were handed out; all of them are valid. And
the release fences of a frame are for the layers of its display that hold a buffer, in
ascending order and each of them once. -/
theorem fences_consecutive {configs : List DisplayConfig} {s : Logged Headless}
    (reached : Hardware.Reaches (Logged.mk (.ofConfigs configs) []) s)
    (few : (s.log.flatMap Event.fences).length < 2 ^ 31 - 3) :
    (s.log.flatMap Event.fences).map (·.code.toInt) =
        (List.range' 3 (s.log.flatMap Event.fences).length).map Int.ofNat ∧
      (∀ fence ∈ s.log.flatMap Event.fences, fence.isValid = true) ∧
      ∀ display p t, Hardware.perform (.present display) s = .ok (.ok p, t) →
        (p.releaseFences.map (·.layer)).Pairwise (· < ·) ∧
          ∀ layer, layer ∈ p.releaseFences.map (·.layer) ↔
            ∃ l, s.hardware.layer? display layer = some l ∧ l.buffer.isSome = true := by
  obtain ⟨hfences, -⟩ := fences_of_reaches reached
  have hfirst : firstFence.toInt = 3 := rfl
  have hcodes := (fencesFrom_eq firstFence (s.log.flatMap Event.fences).length (by omega)).1
  rw [← hfences] at hcodes
  refine ⟨?_, fun fence hmem => ?_, fun display p t hrun => ?_⟩
  · rw [hcodes, List.range'_eq_map_range, List.map_map]
    refine List.map_congr_left fun k _ => ?_
    show firstFence.toInt + (k : Int) = ((3 + k : Nat) : Int)
    omega
  · have hcode : fence.code.toInt ∈ (s.log.flatMap Event.fences).map (·.code.toInt) :=
      List.mem_map_of_mem hmem
    rw [hcodes] at hcode
    obtain ⟨k, -, hk⟩ := List.mem_map.1 hcode
    refine decide_eq_true (Int32.le_iff_toInt_le.2 ?_)
    show 0 ≤ fence.code.toInt
    omega
  · obtain ⟨d, hd, hlayers, -⟩ := present_ok (Logged.perform_ok.1 hrun).1
    rw [hlayers]
    refine ⟨bufferedLayers_pairwise d, fun layer => ?_⟩
    rw [layer?, hd]
    exact mem_bufferedLayers

/-- Two displays that take turns: one with two layers, of which the second gets a buffer before
the first, and one with none. Where a frame is not shown, no fence is taken. -/
def takingTurns : Logged Headless :=
  Hardware.after [.createLayer 0, .createLayer 0,
      .set 0 (.image (.layerBuffer 2 .absent) ⟨0, .empty⟩), .present 0, .validate 0, .present 0,
      .validate 1, .present 1, .present 1,
      .set 0 (.image (.layerBuffer 1 .absent) ⟨1, .empty⟩)]
    ⟨.ofConfigs [.standard, { DisplayConfig.standard with id := 1 }], []⟩

theorem fences_consecutive_takingTurns :
    (takingTurns.log.flatMap Event.fences).length = 4 ∧
      (takingTurns.log.flatMap Event.fences).map (·.code.toInt) = [3, 4, 5, 6] ∧
      ∃ p t, Hardware.perform (.present 0) takingTurns = .ok (.ok p, t) ∧
        p.releaseFences = [⟨1, ⟨8⟩⟩, ⟨2, ⟨9⟩⟩] ∧
        ∀ layer, layer ∈ p.releaseFences.map (·.layer) ↔
          ∃ l, takingTurns.hardware.layer? 0 layer = some l ∧ l.buffer.isSome = true := by
  have hlength : (takingTurns.log.flatMap Event.fences).length = 4 := by decide +kernel
  obtain ⟨hcodes, -, hreleases⟩ := fences_consecutive (s := takingTurns) (.after _ _)
    (hlength ▸ by decide)
  rw [hlength] at hcodes
  exact ⟨hlength, hcodes, _, _, rfl, rfl, (hreleases 0 _ _ rfl).2⟩

end Headless

end DisplayComposer
