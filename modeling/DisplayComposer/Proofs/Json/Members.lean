import DisplayComposer.Crash
import DisplayComposer.Json.Record
import Mathlib.Data.List.Find
import Mathlib.Data.List.Pairwise
/-!
# DisplayComposer.Proofs.Json.Members

**The members of an object, one by one.** A record is read from an object that was read
before by one step for each member: a name that is no field is passed over, a field is set,
and a field that comes again is refused. Where no two fields get into each other's way, the
order of the members does not matter.

* `Field.Commutes`, with `commutes_setting` — fields that may be set in either order;
* `Record.read`, with `read_unknown`, `read_known` and `read_again` — one step;
* `Record.read_congr` — how much of what was read before matters;
* `Record.read_perm` — members in any order.
-/

namespace DisplayComposer.Json

variable {ρ α β : Type}

theorem Reading.enter_buffered : Reading.buffered.enter = .ok .buffered := rfl

namespace Field

/-- Which of two fields is set first does not matter. -/
def Commutes (f g : Field ρ) : Prop :=
  ∀ (n m : Node) (r s : ρ), (f.decode .buffered n r).bind (g.decode .buffered m) = .ok s ↔
    (g.decode .buffered m r).bind (f.decode .buffered n) = .ok s

instance : Std.Symm (@Commutes ρ) := ⟨fun _ _ h n m r s => (h m n r s).symm⟩

/-- A field that is set to what it reads. Of its kind are the required, the defaulted and the
optional fields. -/
def setting (name : String) (needed : Bool) (c : Codec α) (set : α → ρ → ρ)
    (encode : ρ → Option Json) : Field ρ where
  name
  needed
  decode reading n r := do pure (set (← c.decode reading n) r)
  encode

section Setting

variable {name name' : String} {needed needed' : Bool} {c : Codec α} {c' : Codec β}

theorem required_eq_setting {get : ρ → α} {set : α → ρ → ρ} :
    required name c get set = setting name true c set fun r => some (c.encode (get r)) := rfl

theorem defaulted_eq_setting {get : ρ → α} {set : α → ρ → ρ} :
    defaulted name c get set = setting name false c set fun r => some (c.encode (get r)) := rfl

theorem optional_eq_setting {get : ρ → Option α} {set : Option α → ρ → ρ} :
    optional name c get set = setting name false c.nullable set fun r => (get r).map c.encode := rfl

/-- Fields commute if setting them does. -/
theorem commutes_setting {set : α → ρ → ρ} {set' : β → ρ → ρ} {encode encode' : ρ → Option Json}
    (h : ∀ v w r, set' w (set v r) = set v (set' w r)) :
    Commutes (setting name needed c set encode) (setting name' needed' c' set' encode') := by
  intro n m r s
  simp only [setting, bind, Except.bind_eq_ok_iff, pure, Except.pure, Except.ok.injEq]
  constructor
  · rintro ⟨_, ⟨v, first, rfl⟩, w, second, rfl⟩
    exact ⟨_, ⟨w, second, rfl⟩, v, first, (h v w r).symm⟩
  · rintro ⟨_, ⟨w, second, rfl⟩, v, first, rfl⟩
    exact ⟨_, ⟨v, first, rfl⟩, w, second, h v w r⟩

end Setting

end Field

/-! ### Passing over a value -/

namespace Node

mutual

/-- A value that was read before is passed over without looking into it. -/
theorem passed_ofValue : ∀ j : Json, (ofValue j).passed = .ok ()
  | .null => rfl
  | .bool _ => rfl
  | .number _ => rfl
  | .string _ => rfl
  | .array items => by
    rw [ofValue, passed, passedItems_ofItems items]
    rfl
  | .object members => by
    rw [ofValue, passed, passedMembers_ofMembers members]
    rfl

theorem passedItems_ofItems : ∀ items : List Json, passedItems (ofItems items) = .ok ()
  | [] => rfl
  | j :: items => by
    rw [ofItems, passedItems, passed_ofValue j, passedItems_ofItems items]
    rfl

theorem passedMembers_ofMembers :
    ∀ members : List (String × Json), passedMembers (ofMembers members) = .ok ()
  | [] => rfl
  | (_, j) :: members => by
    rw [ofMembers, passedMembers, passed_ofValue j, passedMembers_ofMembers members]
    rfl

end

end Node

/-! ### Reading the members -/

namespace Record

variable {fields : List (Field ρ)} {field : Field ρ} {name : String} {j : Json}
  {members members' : List (String × Json)} {seen seen' : List String} {r s : ρ}

/-- Read the members of an object that was read before. -/
def read (fields : List (Field ρ)) (members : List (String × Json)) (seen : List String) (r : ρ) :
    Except DecodeError ρ :=
  decodeMembers fields .buffered .closed (Node.ofMembers members) seen r

/-- Behind the last member nothing is set any more. -/
theorem eq_of_read_nil (h : read fields [] seen r = .ok s) : s = r := by
  have h : complete fields seen r = .ok s := h
  rw [complete] at h
  split at h
  · cases h
  · exact (Except.ok.inj h).symm

theorem decode_object (c : Record ρ) :
    c.codec.decode .buffered (.ofValue (.object members)) = read c.fields members [] c.blank := by
  simp only [codec, Node.ofValue, Reading.enter_buffered, bind, Except.bind]
  rfl

theorem read_unknown (unknown : fields.find? (·.name = name) = none) :
    read fields ((name, j) :: members) seen = read fields members seen := by
  funext r
  simp only [read, Node.ofMembers, decodeMembers, Quoted.text_ofText, orFault, unknown,
    Node.passed_ofValue, bind, Except.bind]

theorem read_known (known : fields.find? (·.name = name) = some field) (fresh : name ∉ seen) :
    read fields ((name, j) :: members) seen = fun r =>
      (field.decode .buffered (.ofValue j) r).bind (read fields members (name :: seen)) := by
  have unseen : seen.contains name = false := by simpa using fresh
  funext r
  simp only [read, Node.ofMembers, decodeMembers, Quoted.text_ofText, orFault, known, unseen, bind,
    Except.bind]
  rfl

theorem read_again (known : fields.find? (·.name = name) = some field) (old : name ∈ seen) :
    read fields ((name, j) :: members) seen = fun _ => mismatch (.duplicateField name) := by
  funext r
  simp [read, Node.ofMembers, decodeMembers, orFault, known, old, bind, Except.bind]

/-- Of the names that were read before, only those matter that come again or are those of
needed fields. -/
theorem read_congr (again : ∀ m ∈ members, m.1 ∈ seen ↔ m.1 ∈ seen')
    (needed : ∀ field ∈ fields, field.needed = true → (field.name ∈ seen ↔ field.name ∈ seen')) :
    read fields members seen = read fields members seen' := by
  induction members generalizing seen seen' with
  | nil =>
    have missed : fields.find? (fun field => field.needed && !seen.contains field.name) =
        fields.find? (fun field => field.needed && !seen'.contains field.name) := by
      refine List.find?_congr fun field mem => ?_
      cases need : field.needed with
      | false => rfl
      | true => simp [needed field mem need]
    funext r
    simp only [read, Node.ofMembers, decodeMembers, complete, missed]
  | cons m members ih =>
    obtain ⟨name, j⟩ := m
    obtain ⟨first, others⟩ := List.forall_mem_cons.1 again
    cases found : fields.find? (·.name = name) with
    | none => rw [read_unknown found, read_unknown found, ih others needed]
    | some field =>
      by_cases old : name ∈ seen
      · rw [read_again found old, read_again found (first.1 old)]
      · have same : read fields members (name :: seen) = read fields members (name :: seen') :=
          ih (fun m mem => by simp only [List.mem_cons, others m mem])
            fun field mem need => by simp only [List.mem_cons, needed field mem need]
        rw [read_known found old, read_known found (first.not.1 old), same]

/-- A field that was read before must not come again. -/
theorem read_ne_ok (known : fields.find? (·.name = name) = some field) (old : name ∈ seen)
    (again : name ∈ members.map Prod.fst) : read fields members seen r ≠ .ok s := by
  induction members generalizing seen r with
  | nil => cases again
  | cons m members ih =>
    obtain ⟨name', j⟩ := m
    by_cases same : name = name'
    · subst same
      rw [read_again known old]
      exact nofun
    · have again := (List.mem_cons.1 again).resolve_left same
      cases found : fields.find? (·.name = name') with
      | none =>
        rw [read_unknown found]
        exact ih old again
      | some other =>
        by_cases seen' : name' ∈ seen
        · rw [read_again found seen']
          exact nofun
        · rw [read_known found seen']
          intro h
          obtain ⟨r', -, h⟩ := Except.bind_eq_ok_iff.1 h
          exact ih (List.mem_cons_of_mem _ old) again h

theorem name_of_find? (found : fields.find? (·.name = name) = some field) :
    field ∈ fields ∧ field.name = name :=
  ⟨List.mem_of_find?_eq_some found, by simpa using List.find?_some found⟩

/-- Two members at the front may change places. -/
theorem read_swap (commutes : fields.Pairwise Field.Commutes) (m m' : String × Json)
    (h : read fields (m :: m' :: members) seen r = .ok s) :
    read fields (m' :: m :: members) seen r = .ok s := by
  obtain ⟨name, j⟩ := m
  obtain ⟨name', j'⟩ := m'
  cases found : fields.find? (·.name = name) with
  | none =>
    rw [read_unknown found] at h
    cases found' : fields.find? (·.name = name') with
    | none => rwa [read_unknown found', read_unknown found, ← read_unknown found']
    | some field' =>
      have fresh' : name' ∉ seen := fun old => read_ne_ok found' old List.mem_cons_self h
      rwa [read_known found' fresh', read_unknown found, ← read_known found' fresh']
  | some field =>
    have fresh : name ∉ seen := fun old => read_ne_ok found old List.mem_cons_self h
    rw [read_known found fresh] at h
    obtain ⟨r₁, first, h⟩ := Except.bind_eq_ok_iff.1 h
    cases found' : fields.find? (·.name = name') with
    | none =>
      rw [read_unknown found'] at h
      rw [read_unknown found', read_known found fresh]
      exact Except.bind_eq_ok_iff.2 ⟨r₁, first, h⟩
    | some field' =>
      have fresh' : name' ∉ name :: seen := fun old => read_ne_ok found' old List.mem_cons_self h
      rw [read_known found' fresh'] at h
      obtain ⟨r₂, second, h⟩ := Except.bind_eq_ok_iff.1 h
      obtain ⟨other, early⟩ : name' ≠ name ∧ name' ∉ seen := by simpa using fresh'
      obtain ⟨mem, rfl⟩ := name_of_find? found
      obtain ⟨mem', rfl⟩ := name_of_find? found'
      have commute : field.Commutes field' :=
        commutes.forall mem mem' fun same => other (congrArg Field.name same.symm)
      obtain ⟨r₃, second, first⟩ :=
        Except.bind_eq_ok_iff.1 ((commute _ _ _ _).1 (Except.bind_eq_ok_iff.2 ⟨r₁, first, second⟩))
      have order : read fields members (field.name :: field'.name :: seen) =
          read fields members (field'.name :: field.name :: seen) :=
        read_congr (fun _ _ => by simp only [List.mem_cons, or_left_comm])
          fun _ _ _ => by simp only [List.mem_cons, or_left_comm]
      rw [read_known found' early, read_known found (List.not_mem_cons_of_ne_of_not_mem other.symm fresh),
        order]
      exact Except.bind_eq_ok_iff.2 ⟨r₃, second, Except.bind_eq_ok_iff.2 ⟨r₂, first, h⟩⟩

/-- **Members may stand in any order.** -/
theorem read_perm (commutes : fields.Pairwise Field.Commutes) (perm : members.Perm members') :
    read fields members seen r = .ok s ↔ read fields members' seen r = .ok s := by
  induction perm generalizing seen r with
  | nil => rfl
  | @cons m members members' perm ih =>
    obtain ⟨name, j⟩ := m
    cases found : fields.find? (·.name = name) with
    | none => rw [read_unknown found, read_unknown found, ih]
    | some field =>
      by_cases old : name ∈ seen
      · rw [read_again found old, read_again found old]
      · simp only [read_known found old, Except.bind_eq_ok_iff, ih]
  | swap m m' members => exact ⟨read_swap commutes m' m, read_swap commutes m m'⟩
  | trans _ _ ih ih' => exact ih.trans ih'

/-- What is read first may stand anywhere. -/
theorem read_middle (commutes : fields.Pairwise Field.Commutes) (m : String × Json)
    (before after : List (String × Json)) :
    read fields (before ++ m :: after) seen r = .ok s ↔
      read fields (m :: (before ++ after)) seen r = .ok s :=
  read_perm commutes List.perm_middle

end Record

end DisplayComposer.Json
