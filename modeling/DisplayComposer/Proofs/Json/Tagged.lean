import DisplayComposer.Json.Record
import DisplayComposer.Proofs.Json.Codec
/-!
# DisplayComposer.Proofs.Json.Tagged

**Tagged unions are read by their value.** What a text says as a value of a tagged union
depends only on the JSON value that it holds: on its one tag, wherever that stands, and on
the other members in their order. A text that holds no JSON value is refused, also where
the fault is in a member that nobody asks for, since all members are read before any is
looked at.

* `Codec.Means` — what a JSON value says;
* `Codec.splitMembers_ok` — the tag and the other members;
* `Codec.decodeBytes_tagged` — a text is read as what its value says.
-/

namespace DisplayComposer.Json

variable {α : Type} {cases : List (Case α)} {a : α} {title : String} {limit : Nat}

/-- The members that would be tags. -/
def tags (members : List (String × Json)) : List (String × Json) :=
  members.filter (·.1 = tagName)

/-- All other members. -/
def untagged (members : List (String × Json)) : List (String × Json) :=
  members.filter (·.1 ≠ tagName)

@[simp] theorem tags_cons (name : String) (j : Json) (members : List (String × Json)) :
    tags ((name, j) :: members) =
      if name = tagName then (name, j) :: tags members else tags members := by
  simp [tags, List.filter_cons]

@[simp] theorem untagged_cons (name : String) (j : Json) (members : List (String × Json)) :
    untagged ((name, j) :: members) =
      if name = tagName then untagged members else (name, j) :: untagged members := by
  simp [untagged, List.filter_cons]

@[simp] theorem tags_append (before after : List (String × Json)) :
    tags (before ++ after) = tags before ++ tags after := List.filter_append ..

@[simp] theorem untagged_append (before after : List (String × Json)) :
    untagged (before ++ after) = untagged before ++ untagged after := List.filter_append ..

theorem tags_eq_nil {members : List (String × Json)} (h : ∀ m ∈ members, m.1 ≠ tagName) :
    tags members = [] :=
  List.filter_eq_nil_iff.2 fun m mem same => h m mem (of_decide_eq_true same)

theorem untagged_eq_self {members : List (String × Json)} (h : ∀ m ∈ members, m.1 ≠ tagName) :
    untagged members = members :=
  List.filter_eq_self.2 fun m mem => decide_eq_true (h m mem)

namespace Codec

/-- What a JSON value says as a value of a tagged union: its one tag names a case, and the
case reads what else is there. -/
inductive Means (cases : List (Case α)) (a : α) : Json → Prop where
  | object {members : List (String × Json)} {name : String} {case : Case α}
      (tag : tags members = [(tagName, .string name)])
      (named : constant cases Case.name name = .ok case)
      (content : case.decode (.ofValue (.object (untagged members))) = .ok a) :
      Means cases a (.object members)
  | array {items : List Json} {name : String} {case : Case α}
      (named : constant cases Case.name name = .ok case)
      (content : case.decode (.ofValue (.array items)) = .ok a) :
      Means cases a (.array (.string name :: items))

theorem orFault_eq_ok {β : Type} {x : Except Fault β} {b : β} : orFault x = .ok b ↔ x = .ok b := by
  cases x <;> simp [orFault]

theorem closed_of_check {ending : Ending} {u : Unit} : ending.check = .ok u ↔ ending = .closed := by
  cases ending <;> simp [Ending.check]

/-- Only a quoted text has a text for its value. -/
theorem value_eq_string {n : Node} {s : String} :
    n.value limit = .ok (.string s) ↔ ∃ q, n = .string q ∧ q.text = .ok s := by
  cases n with
  | string q => simp [Node.value, Except.map_eq_ok_iff]
  | number l => by_cases inRange : l.value?.isSome <;> simp [Node.value, inRange]
  | array items ending =>
    simp [Node.value, bind, Except.bind_eq_ok_iff, pure, Except.pure]
  | object members ending =>
    simp [Node.value, bind, Except.bind_eq_ok_iff, pure, Except.pure]
  | _ => simp [Node.value]

/-- A node names a case if its value is the name of one. -/
theorem tag_eq_ok (limit : Nat) {n : Node} {case : Case α} :
    tag cases n = .ok case ↔
      ∃ name, n.value limit = .ok (.string name) ∧ constant cases Case.name name = .ok case := by
  simp only [value_eq_string]
  cases n with
  | string q => simp [tag, bind, Except.bind_eq_ok_iff, orFault_eq_ok]
  | _ => simp [tag, wrongType_ne_ok]

section Split

variable {ending : Ending} {q : Quoted} {n : Node} {nodes : List (Quoted × Node)} {name : String}
  {case found : Case α} {members done out : List (String × Json)}

theorem memberValues_cons_eq_ok (text : q.text = .ok name) :
    Node.memberValues limit ((q, n) :: nodes) = .ok members ↔
      ∃ j rest, n.value limit = .ok j ∧ Node.memberValues limit nodes = .ok rest ∧
        (name, j) :: rest = members := by
  simp [Node.memberValues, text, bind, Except.bind_eq_ok_iff, pure, Except.pure]

/-- A member that is no tag is put to the others. -/
theorem splitMembers_member {seen : Option (Case α)} (text : q.text = .ok name) (other : name ≠ tagName) :
    splitMembers cases limit ending ((q, n) :: nodes) seen done = .ok (case, out) ↔
      ∃ j, n.value limit = .ok j ∧
        splitMembers cases limit ending nodes seen (done ++ [(name, j)]) = .ok (case, out) := by
  simp [splitMembers, text, other, bind, Except.bind_eq_ok_iff, orFault_eq_ok]

/-- The first tag names the case. -/
theorem splitMembers_tag (text : q.text = .ok tagName) :
    splitMembers cases limit ending ((q, n) :: nodes) none done = .ok (case, out) ↔
      ∃ found, tag cases n = .ok found ∧
        splitMembers cases limit ending nodes (some found) done = .ok (case, out) := by
  simp [splitMembers, text, bind, Except.bind_eq_ok_iff, orFault_eq_ok]

/-- A second tag is refused. -/
theorem splitMembers_tag_again (text : q.text = .ok tagName) :
    splitMembers cases limit ending ((q, n) :: nodes) (some found) done ≠ .ok (case, out) := by
  simp [splitMembers, text, bind, Except.bind, orFault, mismatch]

/-- Behind the tag all members have values, and none of them is a tag. -/
theorem splitMembers_tagged :
    splitMembers cases limit ending nodes (some found) done = .ok (case, out) ↔
      ∃ members, Node.memberValues limit nodes = .ok members ∧ ending = .closed ∧
        tags members = [] ∧ found = case ∧ done ++ untagged members = out := by
  induction nodes generalizing done with
  | nil =>
    simp [splitMembers, Node.memberValues, bind, Except.bind_eq_ok_iff, orFault_eq_ok, closed_of_check,
      pure, Except.pure, tags, untagged]
  | cons m nodes ih =>
    obtain ⟨q, n⟩ := m
    cases text : q.text with
    | error f => simp [splitMembers, Node.memberValues, text, orFault, bind, Except.bind]
    | ok name =>
      simp only [memberValues_cons_eq_ok text]
      by_cases tag : name = tagName
      · subst tag
        refine iff_of_false (splitMembers_tag_again text) ?_
        rintro ⟨_, ⟨j, rest, -, -, rfl⟩, -, none, -, -⟩
        simp at none
      · simp only [splitMembers_member text tag, ih]
        constructor
        · rintro ⟨j, value, rest, values, closed, none, same, rfl⟩
          exact ⟨_, ⟨j, rest, value, values, rfl⟩, closed, by simpa [tag], same, by simp [tag]⟩
        · rintro ⟨_, ⟨j, rest, value, values, rfl⟩, closed, none, same, rfl⟩
          exact ⟨j, value, rest, values, closed, by simpa [tag] using none, same, by simp [tag]⟩

/-- **The members of a tagged union all have values, and one of them is the tag.** It may
stand anywhere; the others keep their order. -/
theorem splitMembers_ok :
    splitMembers cases limit ending nodes none done = .ok (case, out) ↔
      ∃ members title, Node.memberValues limit nodes = .ok members ∧ ending = .closed ∧
        tags members = [(tagName, .string title)] ∧ constant cases Case.name title = .ok case ∧
        done ++ untagged members = out := by
  induction nodes generalizing done with
  | nil => simp [splitMembers, Node.memberValues, bind, Except.bind_eq_ok_iff, mismatch, tags]
  | cons m nodes ih =>
    obtain ⟨q, n⟩ := m
    cases text : q.text with
    | error f => simp [splitMembers, Node.memberValues, text, orFault, bind, Except.bind]
    | ok name =>
      simp only [memberValues_cons_eq_ok text]
      by_cases tag : name = tagName
      · subst tag
        simp only [splitMembers_tag text, splitMembers_tagged, tag_eq_ok limit]
        constructor
        · rintro ⟨_, ⟨title, value, named⟩, rest, values, closed, none, rfl, rfl⟩
          exact ⟨_, title, ⟨_, rest, value, values, rfl⟩, closed, by simpa, named, by simp⟩
        · rintro ⟨_, title, ⟨j, rest, value, values, rfl⟩, closed, one, named, rfl⟩
          obtain ⟨rfl, none⟩ : j = .string title ∧ tags rest = [] := by simpa using one
          exact ⟨case, ⟨title, value, named⟩, rest, values, closed, none, rfl, by simp⟩
      · simp only [splitMembers_member text tag, ih]
        constructor
        · rintro ⟨j, value, rest, title, values, closed, one, named, rfl⟩
          exact ⟨_, title, ⟨j, rest, value, values, rfl⟩, closed, by simpa [tag], named, by simp [tag]⟩
        · rintro ⟨_, title, ⟨j, rest, value, values, rfl⟩, closed, one, named, rfl⟩
          exact ⟨j, value, rest, title, values, closed, by simpa [tag] using one, named, by simp [tag]⟩

end Split

/-! ### Whole values -/

theorem enter_streamed {inside : Reading} :
    (Reading.streamed limit).enter = .ok inside ↔
      ∃ left, Json.enter limit = .ok left ∧ .streamed left = inside := by
  simp [Reading.enter, bind, Except.bind_eq_ok_iff, orFault_eq_ok, pure, Except.pure]

/-- Nothing but an array or an object says anything. -/
theorem Means.nested {n : Node} {j : Json} (h : Means cases a j) (value : n.value limit = .ok j) :
    (∃ items ending, n = .array items ending) ∨ ∃ members ending, n = .object members ending := by
  cases n with
  | array items ending => exact .inl ⟨items, ending, rfl⟩
  | object members ending => exact .inr ⟨members, ending, rfl⟩
  | number l => by_cases inRange : l.value?.isSome <;> cases h <;> simp [Node.value, inRange] at value
  | _ => cases h <;> simp [Node.value, Except.map_eq_ok_iff] at value

/-- **What a node says as a value of a tagged union is what its value says.** It has one,
if it says anything. -/
theorem decode_tagged_streamed {n : Node} :
    (tagged title cases).decode (.streamed limit) n = .ok a ↔
      ∃ j, n.value limit = .ok j ∧ Means cases a j := by
  cases n with
  | object nodes ending =>
    simp only [tagged, Node.value, bind, Except.bind_eq_ok_iff, enter_streamed, closed_of_check, pure,
      Except.pure, Except.ok.injEq, Prod.exists]
    constructor
    · rintro ⟨_, ⟨inside, entered, rfl⟩, case, _, split, content⟩
      obtain ⟨members, name, values, closed, tag, named, rfl⟩ := splitMembers_ok.1 split
      exact ⟨_, ⟨inside, entered, members, values, (), closed, rfl⟩, .object tag named content⟩
    · rintro ⟨_, ⟨inside, entered, members, values, _, closed, rfl⟩, meant⟩
      cases meant with
      | object tag named content =>
        exact ⟨_, ⟨inside, entered, rfl⟩, _, _,
          splitMembers_ok.2 ⟨members, _, values, closed, tag, named, rfl⟩, content⟩
  | array items ending =>
    cases items with
    | nil =>
      refine iff_of_false (by simp [tagged, mismatch, bind, Except.bind_eq_ok_iff]) ?_
      rintro ⟨_, value, meant⟩
      cases meant <;>
        simp [Node.value, Node.values, bind, Except.bind_eq_ok_iff, pure, Except.pure] at value
    | cons n items =>
      simp only [tagged, Node.value, Node.values, bind, Except.bind_eq_ok_iff, enter_streamed,
        orFault_eq_ok, closed_of_check, pure, Except.pure, Except.ok.injEq]
      constructor
      · rintro ⟨_, ⟨inside, entered, rfl⟩, case, tag, rest, values, _, closed, content⟩
        obtain ⟨name, value, named⟩ := (tag_eq_ok inside).1 tag
        exact ⟨_, ⟨inside, entered, _, ⟨_, value, rest, values, rfl⟩, (), closed, rfl⟩,
          .array named content⟩
      · rintro ⟨_, ⟨inside, entered, _, ⟨_, value, rest, values, rfl⟩, _, closed, rfl⟩, meant⟩
        cases meant with
        | array named content =>
          exact ⟨_, ⟨inside, entered, rfl⟩, _, (tag_eq_ok inside).2 ⟨_, value, named⟩, rest, values,
            (), closed, content⟩
  | unkeyed => exact iff_of_false (by simp [tagged, bind, Except.bind_eq_ok_iff]) (by simp [Node.value])
  | _ =>
    refine iff_of_false (wrongType_ne_ok _ _ _) ?_
    rintro ⟨j, value, meant⟩
    obtain ⟨_, _, same⟩ | ⟨_, _, same⟩ := meant.nested value <;> cases same

/-- **A text is a value of a tagged union if it holds a JSON value that says so.** -/
theorem decodeBytes_tagged {bs : Bytes} :
    (tagged title cases).decodeBytes bs = .ok a ↔ ∃ j, ofBytes bs = .ok j ∧ Means cases a j := by
  simp only [decodeBytes, ofBytes, Document.value, bind, Except.bind_eq_ok_iff, decode_tagged_streamed]
  cases (Document.read bs).trailing with
  | true => simp [throw, throwThe, MonadExceptOf.throw, Except.bind]
  | false => simp [pure, Except.pure]

end Codec

end DisplayComposer.Json
