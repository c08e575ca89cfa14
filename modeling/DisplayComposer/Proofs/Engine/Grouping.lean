import DisplayComposer.Proofs.Engine.Results
/-!
# DisplayComposer.Proofs.Engine.Grouping

**Results are grouped by index.** The commands of a batch report in the order in which they
run, but nothing rests on that. Reports may come for any commands and in any order: there is
one result for every index that was reported for, and it holds what was reported for this
index, the errors in their order and of everything else the last. Taking the results empties
the collection, so that what is reported afterwards is collected from the start.

* `Report`, `Results.gather`, `Results.rounds` — reports in any order, and rounds of them;
* `CommandResult.Groups` — the result that belongs to some reports;
* `Results.get?_gather` — what is collected for one index;
* `Results.take_groups` — the results that are taken.
-/

namespace DisplayComposer

/-- Something reported, with the command that it is for. -/
structure Report where
  index : UInt32
  display : DisplayId
  entry : Entry
  deriving DecidableEq

namespace Entry

/-- What an entry can be about. Apart from errors, a later entry about the same thing takes
the place of an earlier one. -/
inductive Kind where
  | error
  | changes
  | request
  | property
  | presentFence
  | releaseFences
  | presentOrValidate
  deriving DecidableEq

def kind : Entry → Kind
  | .error _ => .error
  | .changes _ => .changes
  | .request _ => .request
  | .property _ => .property
  | .presentFence _ => .presentFence
  | .releaseFences _ => .releaseFences
  | .presentOrValidate _ => .presentOrValidate

end Entry

/-- What was reported for a command, in order. -/
def Report.entriesFor (index : UInt32) (reports : List Report) : List Entry :=
  (reports.filter (·.index = index)).map (·.entry)

namespace Results

/-- Report something. -/
def report (rs : Results) (x : Report) : Results := rs.write x.index x.display x.entry

/-- Report several things, one after the other. -/
def gather (reports : List Report) (rs : Results) : Results := reports.foldl report rs

/-- Several rounds of reports. The results of each are taken before the next one begins. -/
def rounds : List (List Report) → Results → List (List CommandResult) × Results
  | [], rs => ([], rs)
  | reports :: rest, rs =>
    let (taken, rs) := (gather reports rs).take
    let (later, rs) := rounds rest rs
    (taken :: later, rs)

end Results

/-- A result that says what some reports say of its command. -/
structure CommandResult.Groups (reports : List Report) (r : CommandResult) : Prop where
  /-- The display is that of the first report. -/
  display : ((reports.filter (·.index = r.index)).head?).map (·.display) = some r.display
  errors : r.errors = (Report.entriesFor r.index reports).filterMap Entry.code?
  changes : r.changes = ((Report.entriesFor r.index reports).filterMap Entry.changes?).getLast?
  request : r.request = ((Report.entriesFor r.index reports).filterMap Entry.request?).getLast?
  property : r.property = ((Report.entriesFor r.index reports).filterMap Entry.property?).getLast?
  presentFence : r.presentFence =
    ((Report.entriesFor r.index reports).filterMap Entry.presentFence?).getLast?
  releaseFences : r.releaseFences =
    ((Report.entriesFor r.index reports).filterMap Entry.releaseFences?).getLast?
  presentOrValidate : r.presentOrValidate =
    ((Report.entriesFor r.index reports).filterMap Entry.outcome?).getLast?

namespace CommandResult

/-- The result of some entries, behind a report that was the first. -/
theorem groups_foldl_add {reports : List Report} {index : UInt32} {first : Report}
    (hfirst : (reports.filter (·.index = index)).head? = some first) :
    Groups reports ((Report.entriesFor index reports).foldl add (blank index first.display)) := by
  have hindex : ((Report.entriesFor index reports).foldl add (blank index first.display)).index =
      index := foldl_add_index _ _
  constructor <;> rw [hindex]
  · rw [hfirst, foldl_add_display]
    rfl
  · exact errors_foldl_add _ _
  · exact (changes_foldl_add _ _).trans Option.or_none
  · exact (request_foldl_add _ _).trans Option.or_none
  · exact (property_foldl_add _ _).trans Option.or_none
  · exact (presentFence_foldl_add _ _).trans Option.or_none
  · exact (releaseFences_foldl_add _ _).trans Option.or_none
  · exact (presentOrValidate_foldl_add _ _).trans Option.or_none

/-- Entries of different kinds do not get into each other's way. -/
theorem add_add_swap {x y : Entry} (hkind : x.kind ≠ y.kind) (r : CommandResult) :
    (r.add x).add y = (r.add y).add x := by
  cases x <;> cases y <;> simp_all [Entry.kind, add]

end CommandResult

namespace Results

open CommandResult

/-! ### One index at a time -/

variable {rs : Results} {index : UInt32}

theorem get?_report (rs : Results) (x : Report) (index : UInt32) :
    (rs.report x).get? index =
      if x.index = index then some (((rs.get? index).getD (blank index x.display)).add x.entry)
      else rs.get? index := by
  rw [report, write, Table.get?_insert]
  by_cases hindex : x.index = index
  · rw [hindex]
  · rw [if_neg hindex, if_neg hindex]

/-- To a result that is there, what is reported for it is added. -/
theorem get?_gather_of_some {r : CommandResult} (hr : rs.get? index = some r)
    (reports : List Report) :
    (gather reports rs).get? index = some ((Report.entriesFor index reports).foldl add r) := by
  induction reports generalizing rs r with
  | nil => exact hr
  | cons x rest ih =>
    have hx := get?_report rs x index
    rw [hr, Option.getD_some] at hx
    show (gather rest (rs.report x)).get? index = _
    by_cases hindex : x.index = index
    · rw [if_pos hindex] at hx
      rw [ih hx, Report.entriesFor, Report.entriesFor, List.filter_cons_of_pos (by simp [hindex])]
      rfl
    · rw [if_neg hindex] at hx
      rw [ih hx, Report.entriesFor, Report.entriesFor, List.filter_cons_of_neg (by simp [hindex])]

/-- **What is collected for an index.** There is a result if something was reported, and it
is made of that alone, whatever was reported for other indices in between. -/
theorem get?_gather (hnone : rs.get? index = none) (reports : List Report) :
    (gather reports rs).get? index = ((reports.filter (·.index = index)).head?).map fun first =>
      (Report.entriesFor index reports).foldl add (blank index first.display) := by
  induction reports generalizing rs with
  | nil => exact hnone
  | cons x rest ih =>
    have hx := get?_report rs x index
    rw [hnone, Option.getD_none] at hx
    show (gather rest (rs.report x)).get? index = _
    by_cases hindex : x.index = index
    · rw [if_pos hindex] at hx
      rw [get?_gather_of_some hx, Report.entriesFor, Report.entriesFor,
        List.filter_cons_of_pos (by simp [hindex])]
      rfl
    · rw [if_neg hindex] at hx
      rw [ih hx, Report.entriesFor, Report.entriesFor, List.filter_cons_of_neg (by simp [hindex])]

/-- A result stands under its own index. -/
theorem index_of_get?_gather {reports : List Report} {r : CommandResult}
    (hr : (gather reports .empty).get? index = some r) : r.index = index := by
  rw [get?_gather rfl] at hr
  obtain ⟨first, -, rfl⟩ := Option.map_eq_some_iff.1 hr
  exact foldl_add_index _ _

theorem get?_gather_isSome_iff {reports : List Report} :
    ((gather reports .empty).get? index).isSome = true ↔ ∃ x ∈ reports, x.index = index := by
  rw [get?_gather rfl, Option.isSome_map, List.isSome_head?]
  simp

/-! ### Taking the results -/

/-- The results that are taken are in ascending order of their indices. -/
theorem index_take (reports : List Report) :
    (gather reports .empty).take.1.map (·.index) = (gather reports .empty).keys := by
  show List.map _ (List.map _ _) = _
  rw [List.map_map]
  refine List.map_congr_left fun e he => ?_
  exact index_of_get?_gather (Table.mem_entries_iff.1 he)

theorem rounds_empty (all : List (List Report)) :
    rounds all .empty = (all.map fun reports => (gather reports .empty).take.1, .empty) := by
  induction all with
  | nil => rfl
  | cons reports rest ih =>
    show (_ :: (rounds rest .empty).1, (rounds rest .empty).2) = _
    rw [ih]
    rfl

/-- Reports for different indices can change places, and for an index that has a result
already reports of different kinds can. -/
theorem report_swap {x y : Report} (h : x.index ≠ y.index ∨
      (rs.get? x.index).isSome = true ∧ x.entry.kind ≠ y.entry.kind) :
    (rs.report x).report y = (rs.report y).report x := by
  refine Table.ext_get? fun index => ?_
  rw [get?_report, get?_report, get?_report, get?_report]
  by_cases hx : x.index = index
  · by_cases hy : y.index = index
    · obtain ⟨hsome, hkind⟩ := h.resolve_left fun hne => hne (hx.trans hy.symm)
      obtain ⟨r, hr⟩ := Option.isSome_iff_exists.1 hsome
      rw [hx] at hr
      simp only [if_pos hx, if_pos hy, hr, Option.getD_some, add_add_swap hkind]
    · simp only [if_pos hx, if_neg hy]
  · simp only [if_neg hx]

/-- **Results are grouped by index.** After any reports, one result is taken for every index
that was reported for, in ascending order, and says what the reports for it say; nothing is
left, so each round of reports is collected as if it were the first. And reports for
different indices, or of different kinds for an index that has a result already, can change
places. -/
theorem take_groups (reports : List Report) :
    ((gather reports .empty).take.1.map (·.index)).Pairwise (· < ·) ∧
      (∀ index, index ∈ (gather reports .empty).take.1.map (·.index) ↔
        ∃ x ∈ reports, x.index = index) ∧
      (∀ r ∈ (gather reports .empty).take.1, r.Groups reports) ∧
      (∀ later, rounds (reports :: later) .empty =
        ((reports :: later).map fun round => (gather round .empty).take.1, .empty)) ∧
      ∀ (rs : Results) (x y : Report), (x.index ≠ y.index ∨
          (rs.get? x.index).isSome = true ∧ x.entry.kind ≠ y.entry.kind) →
        (rs.report x).report y = (rs.report y).report x := by
  refine ⟨?_, fun index => ?_, fun r hr => ?_, fun later => rounds_empty _,
    fun rs x y => report_swap⟩
  · rw [index_take]
    exact List.pairwise_map.2 (gather reports .empty).sorted
  · rw [index_take, ← get?_gather_isSome_iff, Option.isSome_iff_exists]
    simp only [Table.keys, List.mem_map, Prod.exists, Table.mem_entries_iff, exists_and_right,
      exists_eq_right]
  · obtain ⟨index, hindex⟩ := Table.mem_values_iff.1 hr
    rw [get?_gather rfl] at hindex
    obtain ⟨first, hfirst, rfl⟩ := Option.map_eq_some_iff.1 hindex
    exact groups_foldl_add hfirst

/-- Two commands whose reports are mixed, and that do not agree on a display. -/
def mixedReports : List Report :=
  [⟨2, 1, .error .badLayer⟩, ⟨0, 1, .presentFence ⟨9⟩⟩, ⟨2, 5, .error .badParameter⟩,
    ⟨0, 1, .presentFence ⟨10⟩⟩]

/-- The second fence stays, and so does the first display. A further fence for the first
command and an error can change places. -/
theorem take_groups_mixed :
    (gather mixedReports .empty).take.1.map (·.index) = [0, 2] ∧
      (∃ r, (gather mixedReports .empty).take.1.head? = some r ∧
        r.presentFence = some ⟨10⟩ ∧ r.Groups mixedReports) ∧
      ((gather mixedReports .empty).report ⟨0, 1, .presentFence ⟨11⟩⟩).report
          ⟨0, 1, .error .noResources⟩ =
        ((gather mixedReports .empty).report ⟨0, 1, .error .noResources⟩).report
          ⟨0, 1, .presentFence ⟨11⟩⟩ := by
  obtain ⟨-, -, hgroups, -, hswap⟩ := take_groups mixedReports
  refine ⟨by decide +kernel, ⟨_, rfl, rfl, hgroups _ (List.mem_cons_self ..)⟩, ?_⟩
  exact hswap _ _ _ (.inr ⟨by decide +kernel, by decide⟩)

end Results

end DisplayComposer
