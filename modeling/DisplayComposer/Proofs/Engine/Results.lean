import DisplayComposer.Engine.Results
import DisplayComposer.Proofs.Table
/-!
# DisplayComposer.Proofs.Engine.Results

**What is collected for a command.** Entries are collected in a table, one after
the other. The entries of one command make one result, if there are any
(`CommandResult.reported`), and as the commands of a batch come in the order of
their indices, the results of later commands are appended to those of earlier ones
(`Results.writeAll_entries`).

* `CommandResult.reported` — the result of some entries;
* `CommandResult.shift`, `atIndex` — the same result at another place;
* `Results.writeAll_entries` — one more command.
-/

namespace DisplayComposer

/-- Whether an entry is about the frame that was shown, or about a failure, and not
about how the frame came to be shown. -/
def Entry.ofFrame : Entry → Bool
  | .error _ | .presentFence _ | .releaseFences _ => true
  | _ => false

namespace Entry

/-- The code that an entry adds to the errors of a result. -/
def code? : Entry → Option Int32
  | .error failure => some failure.code
  | _ => none

def presentFence? : Entry → Option Fence
  | .presentFence fence => some fence
  | _ => none

def releaseFences? : Entry → Option (List ReleaseFence)
  | .releaseFences fences => some fences
  | _ => none

def changes? : Entry → Option (List CompositionChange)
  | .changes listed => some listed
  | _ => none

def request? : Entry → Option DisplayRequest
  | .request asked => some asked
  | _ => none

def property? : Entry → Option TargetProperty
  | .property target => some target
  | _ => none

/-- The outcome of present-or-validate. -/
def outcome? : Entry → Option FastPathOutcome
  | .presentOrValidate outcome => some outcome
  | _ => none

end Entry

namespace CommandResult

@[simp] theorem add_index (r : CommandResult) (entry : Entry) : (r.add entry).index = r.index := by
  cases entry <;> rfl

@[simp] theorem add_display (r : CommandResult) (entry : Entry) :
    (r.add entry).display = r.display := by
  cases entry <;> rfl

theorem foldl_add_index (entries : List Entry) (r : CommandResult) :
    (entries.foldl add r).index = r.index := by
  induction entries generalizing r with
  | nil => rfl
  | cons entry rest ih => rw [List.foldl_cons, ih, add_index]

theorem foldl_add_display (entries : List Entry) (r : CommandResult) :
    (entries.foldl add r).display = r.display := by
  induction entries generalizing r with
  | nil => rfl
  | cons entry rest ih => rw [List.foldl_cons, ih, add_display]

/-- The result of a command that reported some entries; none if there are none. -/
def reported (index : UInt32) (display : DisplayId) (entries : List Entry) :
    Option CommandResult :=
  if entries.isEmpty then none else some (entries.foldl add (blank index display))

/-- The result of a command that stands `n` places further back. -/
def shift (n : Nat) (r : CommandResult) : CommandResult := { r with index := r.index + .ofNat n }

/-- The same result at another place. -/
def atIndex (index : UInt32) (r : CommandResult) : CommandResult := { r with index }

theorem foldl_add_atIndex (index : UInt32) (entries : List Entry) (r : CommandResult) :
    entries.foldl add (r.atIndex index) = (entries.foldl add r).atIndex index := by
  induction entries generalizing r with
  | nil => rfl
  | cons entry rest ih =>
    have hadd : (r.atIndex index).add entry = (r.add entry).atIndex index := by
      cases entry <;> rfl
    rw [List.foldl_cons, List.foldl_cons, hadd, ih]

theorem foldl_add_shift (n : Nat) (entries : List Entry) (r : CommandResult) :
    entries.foldl add (r.shift n) = (entries.foldl add r).shift n := by
  show entries.foldl add (r.atIndex _) = (entries.foldl add r).atIndex _
  rw [foldl_add_atIndex, foldl_add_index]

/-- What a command reports does not depend on its place. -/
theorem reported_add (i n : Nat) (display : DisplayId) (entries : List Entry) :
    reported (.ofNat (i + n)) display entries =
      (reported (.ofNat i) display entries).map (shift n) := by
  rw [reported, reported]
  cases entries with
  | nil => rfl
  | cons entry rest =>
    have hblank : blank (.ofNat (i + n)) display = (blank (.ofNat i) display).shift n := by
      rw [shift, blank, UInt32.ofNat_add]
      rfl
    rw [if_neg (by simp), if_neg (by simp), hblank, foldl_add_shift]
    rfl

theorem eq_of_mem_reported {r : CommandResult} {index : UInt32} {display : DisplayId}
    {entries : List Entry} (h : r ∈ (reported index display entries).toList) :
    r = entries.foldl add (blank index display) := by
  rw [reported] at h
  split at h
  · simp at h
  · simpa using h

theorem mem_reported {r : CommandResult} {index : UInt32} {display : DisplayId}
    {entries : List Entry} (h : r ∈ (reported index display entries).toList) :
    r.index = index ∧ r.display = display := by
  obtain rfl := eq_of_mem_reported h
  rw [foldl_add_index, foldl_add_display]
  exact ⟨rfl, rfl⟩

/-! ### What is about the frame -/

/-- Two results that say the same of the frame that was shown. -/
structure SameFrame (r s : CommandResult) : Prop where
  presentFence : s.presentFence = r.presentFence
  releaseFences : s.releaseFences = r.releaseFences
  errors : s.errors = r.errors

theorem SameFrame.add {r s : CommandResult} (h : SameFrame r s) (entry : Entry) :
    SameFrame (r.add entry) (s.add entry) := by
  obtain ⟨hpresent, hrelease, herrors⟩ := h
  cases entry <;> constructor <;> simp only [CommandResult.add, hpresent, hrelease, herrors]

theorem SameFrame.add_left {r s : CommandResult} (h : SameFrame r s) {entry : Entry}
    (hentry : entry.ofFrame = false) : SameFrame (r.add entry) s := by
  cases entry with
  | error | presentFence | releaseFences => cases hentry
  | changes | request | property | presentOrValidate =>
    exact ⟨h.presentFence, h.releaseFences, h.errors⟩

/-- The other entries are of no consequence for the frame. -/
theorem sameFrame_filter {r s : CommandResult} (h : SameFrame r s) (entries : List Entry) :
    SameFrame (entries.foldl CommandResult.add r)
      ((entries.filter Entry.ofFrame).foldl CommandResult.add s) := by
  induction entries generalizing r s with
  | nil => exact h
  | cons entry rest ih =>
    cases hentry : entry.ofFrame with
    | true =>
      rw [List.filter_cons_of_pos hentry]
      exact ih (h.add entry)
    | false =>
      rw [List.filter_cons_of_neg (by simp [hentry])]
      exact ih (h.add_left hentry)

/-- Entries that agree on the frame make results that do. -/
theorem sameFrame_foldl {xs ys : List Entry} (h : xs.filter Entry.ofFrame = ys.filter Entry.ofFrame)
    (r : CommandResult) :
    SameFrame (xs.foldl CommandResult.add r) (ys.foldl CommandResult.add r) := by
  have hxs := sameFrame_filter ⟨rfl, rfl, rfl⟩ xs (r := r)
  have hys := sameFrame_filter ⟨rfl, rfl, rfl⟩ ys (r := r)
  rw [h] at hxs
  exact ⟨hys.presentFence.symm.trans hxs.presentFence,
    hys.releaseFences.symm.trans hxs.releaseFences, hys.errors.symm.trans hxs.errors⟩

/-! ### What is overwritten -/

/-- Of a field that holds one value the last entry stays. -/
theorem foldl_add_last {β : Type} {field : CommandResult → Option β} {value? : Entry → Option β}
    (hadd : ∀ r entry, field (r.add entry) = (value? entry).or (field r)) (entries : List Entry)
    (r : CommandResult) :
    field (entries.foldl add r) = (entries.filterMap value?).getLast?.or (field r) := by
  induction entries generalizing r with
  | nil => rfl
  | cons entry rest ih =>
    rw [List.foldl_cons, ih, hadd]
    cases hvalue : value? entry with
    | none =>
      rw [List.filterMap_cons_none hvalue, Option.none_or]
    | some value =>
      rw [List.filterMap_cons_some hvalue, List.getLast?_cons]
      cases (rest.filterMap value?).getLast? <;> rfl

/-- Errors are kept in their order. -/
theorem errors_foldl_add (entries : List Entry) (r : CommandResult) :
    (entries.foldl add r).errors = r.errors ++ entries.filterMap Entry.code? := by
  induction entries generalizing r with
  | nil => simp
  | cons entry rest ih =>
    rw [List.foldl_cons, ih]
    cases entry <;> simp [add, Entry.code?, List.filterMap_cons]

theorem presentFence_foldl_add (entries : List Entry) (r : CommandResult) :
    (entries.foldl add r).presentFence =
      (entries.filterMap Entry.presentFence?).getLast?.or r.presentFence :=
  foldl_add_last (fun _ entry => by cases entry <;> rfl) entries r

theorem releaseFences_foldl_add (entries : List Entry) (r : CommandResult) :
    (entries.foldl add r).releaseFences =
      (entries.filterMap Entry.releaseFences?).getLast?.or r.releaseFences :=
  foldl_add_last (fun _ entry => by cases entry <;> rfl) entries r

theorem changes_foldl_add (entries : List Entry) (r : CommandResult) :
    (entries.foldl add r).changes = (entries.filterMap Entry.changes?).getLast?.or r.changes :=
  foldl_add_last (fun _ entry => by cases entry <;> rfl) entries r

theorem request_foldl_add (entries : List Entry) (r : CommandResult) :
    (entries.foldl add r).request = (entries.filterMap Entry.request?).getLast?.or r.request :=
  foldl_add_last (fun _ entry => by cases entry <;> rfl) entries r

theorem property_foldl_add (entries : List Entry) (r : CommandResult) :
    (entries.foldl add r).property = (entries.filterMap Entry.property?).getLast?.or r.property :=
  foldl_add_last (fun _ entry => by cases entry <;> rfl) entries r

theorem presentOrValidate_foldl_add (entries : List Entry) (r : CommandResult) :
    (entries.foldl add r).presentOrValidate =
      (entries.filterMap Entry.outcome?).getLast?.or r.presentOrValidate :=
  foldl_add_last (fun _ entry => by cases entry <;> rfl) entries r

/-- The outcome in the result of a command is the last one that was reported. -/
theorem presentOrValidate_reported (index : UInt32) (display : DisplayId) (entries : List Entry) :
    (reported index display entries).bind (·.presentOrValidate) =
      (entries.filterMap Entry.outcome?).getLast? := by
  cases entries with
  | nil => rfl
  | cons entry rest =>
    show ((entry :: rest).foldl add (blank index display)).presentOrValidate = _
    rw [presentOrValidate_foldl_add]
    exact Option.or_none

theorem mem_of_presentOrValidate {entries : List Entry} {r : CommandResult}
    {outcome : FastPathOutcome} (hr : r.presentOrValidate = none)
    (h : (entries.foldl CommandResult.add r).presentOrValidate = some outcome) :
    .presentOrValidate outcome ∈ entries := by
  rw [presentOrValidate_foldl_add, hr, Option.or_none] at h
  obtain ⟨entry, hentry, houtcome⟩ := List.mem_filterMap.1 (List.mem_of_getLast? h)
  cases entry with
  | presentOrValidate last =>
    obtain rfl := Option.some.inj houtcome
    exact hentry
  | _ => cases houtcome

end CommandResult

namespace Results

open CommandResult

theorem writeAll_cons (rs : Results) (index : UInt32) (display : DisplayId) (entry : Entry)
    (rest : List Entry) :
    rs.writeAll index display (entry :: rest) =
      rs.insert index
        ((entry :: rest).foldl add ((rs.get? index).getD (.blank index display))) := by
  induction rest generalizing rs entry with
  | nil => rfl
  | cons next rest ih =>
    show (rs.write index display entry).writeAll index display (next :: rest) = _
    rw [ih, write, Table.get?_insert_self, Table.insert_insert]
    rfl

/-- The entries of a command behind all others make a result behind all others. -/
theorem writeAll_entries {rs : Results} {index : UInt32} (display : DisplayId)
    (entries : List Entry) (h : ∀ e ∈ rs.entries, e.1 < index) :
    (rs.writeAll index display entries).entries =
      rs.entries ++ (reported index display entries).toList.map fun r => (r.index, r) := by
  cases entries with
  | nil => simp [writeAll, reported]
  | cons entry rest =>
    have hfresh : rs.get? index = none :=
      Table.lookup_eq_none fun e he heq => LinearKeys.irrefl index (heq ▸ h e he)
    rw [writeAll_cons, Table.entries_insert_of_forall_lt _ h, hfresh, reported,
      if_neg (by simp)]
    show _ = rs.entries ++ [(_, _)]
    rw [foldl_add_index]
    rfl

end Results

end DisplayComposer
