import DisplayComposer.Json.Record
import DisplayComposer.Proofs.Json.Codec
/-!
# DisplayComposer.Proofs.Json.Record

**Records and tagged unions are carried.** A record is read by setting one field after the
other, from the blank record on. What is written for a record sets each field to the value
it had, and a field that is not written has its blank value; so the record is carried as
soon as each of its fields is, and no two fields share a name. A tagged union is carried
as the record of its case, which is read twice: as a value, and from that value.

* `Field.Sets`, with `sets_required`, `sets_optional` and their fellows — one field;
* `Record.Fills`, `Record.carries` — all fields of a record;
* `Codec.carries_tagged` — a tagged union.
-/

namespace DisplayComposer.Json

variable {ρ α : Type} {d : Nat} {r before : ρ}

/-! ### Fields -/

/-- What a field does when it reads what it wrote for the record `r`: it takes the record
read before it to the one after it. A field that was not written is not missed. -/
structure Field.Sets (d : Nat) (r : ρ) (field : Field ρ) (before after : ρ) : Prop where
  unwritten : field.encode r = none → field.needed = false ∧ after = before
  written : ∀ j, field.encode r = some j →
    Fits d j ∧ ∀ reading : Reading, reading.Allows d →
      field.decode reading (.ofValue j) before = .ok after

namespace Field

variable {name : String} {c : Codec α}

theorem sets_required {get : ρ → α} {set : α → ρ → ρ} (h : c.Carries d (get r)) :
    (required name c get set).Sets d r before (set (get r) before) where
  unwritten := nofun
  written := by
    rintro _ ⟨⟩
    refine ⟨h.fits, fun reading room => ?_⟩
    simp only [required, h.reads reading room]
    rfl

theorem sets_defaulted {get : ρ → α} {set : α → ρ → ρ} (h : c.Carries d (get r)) :
    (defaulted name c get set).Sets d r before (set (get r) before) where
  unwritten := nofun
  written := by
    have needed : (required name c get set).Sets d r before (set (get r) before) := sets_required h
    exact needed.written

/-- An optional field is set to what it was, as long as its value is not written as an
absent one. -/
theorem sets_optional {get : ρ → Option α} {set : Option α → ρ → ρ}
    (h : ∀ a, get r = some a → c.Carries d a ∧ c.encode a ≠ .null)
    (absent : set none before = before) :
    (optional name c get set).Sets d r before (set (get r) before) where
  unwritten := by
    intro skipped
    rw [Option.map_eq_none_iff.1 skipped, absent]
    exact ⟨rfl, rfl⟩
  written := by
    intro j shown
    obtain ⟨a, value, rfl⟩ := Option.map_eq_some_iff.1 shown
    have carried : c.nullable.Carries d (get r) := Codec.carries_nullable h
    refine ⟨(h a value).1.fits, fun reading room => ?_⟩
    have reads := carried.reads reading room
    rw [value] at reads ⊢
    exact congrArg (fun x => x.bind fun v => .ok (set v before)) reads

/-- A list that is written if it is not empty is set to what it was. -/
theorem sets_sparse {get : ρ → List α} {set : List α → ρ → ρ} (h : ∀ a ∈ get r, c.Carries d a)
    (absent : set [] before = before) :
    (sparse name c get set).Sets (d + 1) r before (set (get r) before) where
  unwritten := by
    intro skipped
    have empty : get r = [] := by simpa [sparse] using skipped
    rw [empty, absent]
    exact ⟨rfl, rfl⟩
  written := by
    intro j shown
    obtain ⟨-, rfl⟩ : get r ≠ [] ∧ c.list.encode (get r) = j := by simpa [sparse] using shown
    have carried := Codec.carries_list h
    refine ⟨carried.fits, fun reading room => ?_⟩
    exact congrArg (fun x => x.bind fun v => .ok (set v before)) (carried.reads reading room)

end Field

/-! ### Records -/

namespace Record

/-- Fields that, one after the other, set what they wrote for the record `r`. -/
inductive Fills (d : Nat) (r : ρ) : List (Field ρ) → ρ → ρ → Prop where
  | nil {before : ρ} : Fills d r [] before before
  | cons {field : Field ρ} {fields : List (Field ρ)} {before between after : ρ}
      (first : field.Sets d r before between) (others : Fills d r fields between after) :
      Fills d r (field :: fields) before after

/-- The members that some fields write. -/
def written (fields : List (Field ρ)) (r : ρ) : List (String × Json) :=
  fields.filterMap fun field => (field.encode r).map fun j => (field.name, j)

theorem written_cons (field : Field ρ) (fields : List (Field ρ)) (r : ρ) :
    written (field :: fields) r = match field.encode r with
      | none => written fields r
      | some j => (field.name, j) :: written fields r := by
  cases shown : field.encode r <;> simp [written, shown]

theorem Fills.fits {fields : List (Field ρ)} {before after : ρ} (h : Fills d r fields before after) :
    ∀ m ∈ written fields r, Fits d m.2 := by
  induction h with
  | nil => exact nofun
  | @cons field fields before between after first _ ih =>
    rw [written_cons]
    cases shown : field.encode r with
    | none => exact ih
    | some j => exact List.forall_mem_cons.2 ⟨(first.written j shown).1, ih⟩

/-- Members are written under the names of the fields. -/
theorem mem_names_of_mem_written {fields : List (Field ρ)} {m : String × Json}
    (h : m ∈ written fields r) : m.1 ∈ fields.map Field.name := by
  obtain ⟨field, mem, shown⟩ := List.mem_filterMap.1 h
  obtain ⟨j, -, rfl⟩ := Option.map_eq_some_iff.1 shown
  exact List.mem_map_of_mem mem

section Members

variable {done rest : List (Field ρ)} {field : Field ρ}

/-- A name that no earlier field has. -/
theorem name_notMem (names : ((done ++ field :: rest).map Field.name).Nodup) :
    field.name ∉ done.map Field.name := by
  rw [List.map_append, List.map_cons, List.nodup_append] at names
  exact fun mem => names.2.2 field.name mem field.name List.mem_cons_self rfl

theorem find?_eq_none {fields : List (Field ρ)} {name : String}
    (unknown : name ∉ fields.map Field.name) : fields.find? (·.name = name) = none := by
  refine List.find?_eq_none.2 fun field mem same => unknown ?_
  rw [← of_decide_eq_true same]
  exact List.mem_map_of_mem mem

theorem find?_name (names : ((done ++ field :: rest).map Field.name).Nodup) :
    (done ++ field :: rest).find? (·.name = field.name) = some field := by
  rw [List.find?_append, find?_eq_none (name_notMem names), Option.none_or]
  exact List.find?_cons_of_pos (decide_eq_true rfl)

/-- A field is found by its name. -/
theorem find?_of_mem {fields : List (Field ρ)} (names : (fields.map Field.name).Nodup)
    (mem : field ∈ fields) : fields.find? (·.name = field.name) = some field := by
  obtain ⟨done, rest, split⟩ := List.append_of_mem mem
  rw [split] at names ⊢
  exact find?_name names

/-- Reading what was written for the fields from some place on, those before it being
done: each member sets its field, and no field that was needed is missed. -/
theorem decodeMembers_written {before after : ρ} {seen : List String} {reading : Reading}
    (names : ((done ++ rest).map Field.name).Nodup) (room : reading.Allows d)
    (fills : Fills d r rest before after) (old : ∀ name ∈ seen, name ∈ done.map Field.name)
    (needed : ∀ field ∈ done, field.needed = true → field.name ∈ seen) :
    decodeMembers (done ++ rest) reading .closed (Node.ofMembers (written rest r)) seen before =
      .ok after := by
  induction fills generalizing done seen with
  | @nil before =>
    have all : (done ++ []).find? (fun field : Field ρ => field.needed && !seen.contains field.name) =
        none := by
      refine List.find?_eq_none.2 fun field mem missed => ?_
      rw [List.append_nil] at mem
      obtain ⟨need, unseen⟩ : field.needed = true ∧ field.name ∉ seen := by simpa using missed
      exact unseen (needed field mem need)
    rw [written, List.filterMap_nil, Node.ofMembers, decodeMembers, complete, all]
    rfl
  | @cons field fields before between after first _ ih =>
    have append : done ++ field :: fields = done ++ [field] ++ fields := by
      rw [List.append_assoc, List.singleton_append]
    have find := find?_name names
    have fresh := name_notMem names
    have old' : ∀ name ∈ seen, name ∈ (done ++ [field]).map Field.name := fun name mem => by
      rw [List.map_append]
      exact List.mem_append_left _ (old name mem)
    have last : field.name ∈ (done ++ [field]).map Field.name :=
      List.mem_map_of_mem (List.mem_append_right _ List.mem_cons_self)
    rw [append] at names
    rw [written_cons]
    cases shown : field.encode r with
    | none =>
      obtain ⟨optional, rfl⟩ := first.unwritten shown
      rw [append]
      refine ih names old' fun other mem need => ?_
      obtain earlier | same := List.mem_append.1 mem
      · exact needed other earlier need
      · rw [List.mem_singleton.1 same, optional] at need
        cases need
    | some j =>
      have unseen : seen.contains field.name = false := by
        simpa using fun mem => fresh (old field.name mem)
      have needed' : ∀ other ∈ done ++ [field], other.needed = true → other.name ∈ field.name :: seen := by
        intro other mem need
        obtain earlier | same := List.mem_append.1 mem
        · exact List.mem_cons_of_mem _ (needed other earlier need)
        · rw [List.mem_singleton.1 same]
          exact List.mem_cons_self
      have others := ih names (List.forall_mem_cons.2 ⟨last, old'⟩) needed'
      rw [← append] at others
      rw [Node.ofMembers, decodeMembers, Quoted.text_ofText]
      simp only [orFault, bind, Except.bind, find, unseen, (first.written j shown).2 reading room]
      exact others

end Members

/-- **A record is carried** if its fields have different names and each of them sets what
it wrote. -/
theorem carries {c : Record ρ} (names : (c.fields.map Field.name).Nodup)
    (fills : Fills d r c.fields c.blank r) : c.codec.Carries (d + 1) r where
  fits := .object fills.fits
  reads reading room := by
    obtain ⟨inside, entered, room⟩ := room.enter
    have members : decodeMembers ([] ++ c.fields) inside .closed (Node.ofMembers (written c.fields r))
        [] c.blank = .ok r := decodeMembers_written names room fills nofun nofun
    simp only [codec, Node.ofValue, entered, bind, Except.bind]
    exact members

end Record

/-! ### Tagged unions -/

namespace Codec

variable {cases : List (Case α)} {a : α} {title : String} {members : List (String × Json)}

/-- What is written for a value of a tagged union, if it is a value of any case. -/
def taggedMembers? (cases : List (Case α)) (a : α) : Option (List (String × Json)) :=
  cases.findSome? fun case => (case.members? a).map fun members =>
    (tagName, .string case.name) :: members

/-- Behind the tag, members are kept as they are. -/
theorem splitMembers_ofMembers {limit : Nat} {case : Case α}
    (names : ∀ m ∈ members, m.1 ≠ tagName) (fits : ∀ m ∈ members, Fits d m.2) (deep : d < limit)
    (done : List (String × Json)) :
    splitMembers cases limit .closed (Node.ofMembers members) (some case) done =
      .ok (case, done ++ members) := by
  induction members generalizing done with
  | nil => rw [List.append_nil]; rfl
  | cons m members ih =>
    obtain ⟨name, j⟩ := m
    obtain ⟨other, names⟩ := List.forall_mem_cons.1 names
    obtain ⟨fit, fits⟩ := List.forall_mem_cons.1 fits
    have rest := ih names fits (done ++ [(name, j)])
    rw [List.append_assoc, List.singleton_append] at rest
    rw [Node.ofMembers, splitMembers, Quoted.text_ofText]
    simp only [orFault, bind, Except.bind, if_neg other, fit.value_ofValue deep]
    exact rest

/-- A value of a tagged union is carried if its case, found by its name, reads what the
value has besides the tag. -/
theorem carries_tagged {case : Case α}
    (written : taggedMembers? cases a = some ((tagName, .string case.name) :: members))
    (found : cases.find? (·.name = case.name) = some case)
    (names : ∀ m ∈ members, m.1 ≠ tagName) (fits : ∀ m ∈ members, Fits d m.2)
    (deep : d < nestingLimit) (reads : case.decode (.ofValue (.object members)) = .ok a) :
    (tagged title cases).Carries (d + 1) a := by
  have text : (tagged title cases).encode a =
      .object ((tagName, .string case.name) :: members) :=
    congrArg (fun members : Option (List (String × Json)) => Json.object (members.getD [])) written
  refine ⟨?_, fun reading room => ?_⟩
  · rw [text]
    exact .object (List.forall_mem_cons.2 ⟨.string, fits⟩)
  · obtain ⟨inside, entered, room⟩ := room.enter
    have deep : d < limitOf inside := by
      cases inside with
      | streamed limit => exact room
      | buffered => exact deep
      | inMemory => exact deep
    have split : splitMembers cases (limitOf inside) .closed (Node.ofMembers members) (some case) [] =
        .ok (case, members) := splitMembers_ofMembers names fits deep []
    have tag : tag cases (.string (Quoted.ofText case.name)) = .ok case := by
      simp only [tag, Quoted.text_ofText, orFault, bind, Except.bind, constant, found]
    rw [text, Node.ofValue, Node.ofMembers, Node.ofValue]
    simp only [tagged, entered, bind, Except.bind, splitMembers, Quoted.text_ofText, orFault, if_true,
      tag, split]
    exact reads

/-- **A case with a record is carried** if the record is, and none of its fields is taken
for the tag. -/
theorem carries_record {name : String} {c : Record ρ} {inject : ρ → α} {project? : α → Option ρ}
    (found : cases.find? (·.name = name) = some (.record name c inject project?))
    (whole : inject r = a)
    (written : taggedMembers? cases a = some ((tagName, .string name) :: c.members r))
    (names : (tagName :: c.fields.map Field.name).Nodup)
    (fills : Record.Fills d r c.fields c.blank r) (deep : d < nestingLimit) :
    (tagged title cases).Carries (d + 1) a := by
  subst whole
  obtain ⟨untagged, names⟩ := List.nodup_cons.1 names
  have read := (Record.carries names fills).reads .buffered trivial
  refine @carries_tagged _ _ _ _ _ _ (.record name c inject project?) written found
    (fun m mem same => untagged ?_) fills.fits deep ?_
  · rw [← same]
    exact Record.mem_names_of_mem_written mem
  · exact congrArg (Except.map inject) read

end Codec

end DisplayComposer.Json
