import DisplayComposer.Proofs.Json.Members
import DisplayComposer.Proofs.Json.Record
import DisplayComposer.Proofs.Json.Tagged
import Mathlib.Data.List.Forall2
import Mathlib.Data.List.Nodup
import Mathlib.Logic.Relation
/-!
# DisplayComposer.Proofs.Json.Presentation

**How much of a JSON value is presentation.** The members of an object may stand in any
order, members that are no fields may stand among them, and a field whose absence stands
for some value may as well be written with that value. A `Shape` says where in a value
there are objects with fields, and two values are `Alike` if edits of this kind, at any
depth and in either direction, lead from one to the other.

A codec `Respects` a shape if it reads values that differ by an edit alike. A list does if
its items do. For a record three things are needed: each field respects its own shape, no
two fields share a name, and it does not matter which of two fields is set first.

* `Shape`, `Edit`, `Shape.Alike` — presentation;
* `Codec.Respects`, with `respects_list` and `respects_nullable` — one value;
* `Field.Respects`, with `respects_setting` — one field;
* `Record.Has`, `Codec.respects_record` — all fields of a record;
* `Codec.means_alike` — tagged unions.
-/

namespace DisplayComposer.Json

/-! ### Presentation -/

/-- A field of an object, without what its value stands for. -/
structure Slot (σ : Type) where
  name : String
  /-- The value that the absence of the field stands for, if it may be absent. -/
  absent : Option Json
  shape : σ

namespace Slot

variable {σ : Type}

def required (name : String) (shape : σ) : Slot σ := ⟨name, none, shape⟩

def optional (name : String) (shape : σ) : Slot σ := ⟨name, some .null, shape⟩

def defaulted (name : String) (absent : Json) (shape : σ) : Slot σ := ⟨name, some absent, shape⟩

end Slot

/-- Where in a value there are objects with fields. -/
inductive Shape where
  /-- A value without such objects. -/
  | leaf
  | list (item : Shape)
  | record (slots : List (Slot Shape))

/-- One edit of a value of some shape. Apart from the order of members, an edit puts
something in; backwards it takes something away. -/
inductive Edit : Shape → Json → Json → Prop where
  /-- The members of an object in another order. -/
  | permute {slots : List (Slot Shape)} {members members' : List (String × Json)}
      (perm : members.Perm members') : Edit (.record slots) (.object members) (.object members')
  /-- One more member, which is no field. -/
  | ignored {slots : List (Slot Shape)} (before after : List (String × Json)) {name : String}
      {j : Json} (unknown : name ∉ slots.map Slot.name) :
      Edit (.record slots) (.object (before ++ after)) (.object (before ++ (name, j) :: after))
  /-- A field that was absent, with the value that its absence stood for. -/
  | explicit {slots : List (Slot Shape)} (before after : List (String × Json)) {slot : Slot Shape}
      {j : Json} (known : slot ∈ slots) (default : slot.absent = some j)
      (absent : slot.name ∉ (before ++ after).map Prod.fst) :
      Edit (.record slots) (.object (before ++ after)) (.object (before ++ (slot.name, j) :: after))
  /-- An edit in the value of a field. -/
  | field {slots : List (Slot Shape)} (before after : List (String × Json)) {slot : Slot Shape}
      {j j' : Json} (known : slot ∈ slots) (edit : Edit slot.shape j j') :
      Edit (.record slots) (.object (before ++ (slot.name, j) :: after))
        (.object (before ++ (slot.name, j') :: after))
  /-- An edit in an item of a list. -/
  | item {shape : Shape} (before after : List Json) {j j' : Json} (edit : Edit shape j j') :
      Edit (.list shape) (.array (before ++ j :: after)) (.array (before ++ j' :: after))

/-- Values that edits, in any number and in either direction, turn into each other. -/
def Shape.Alike (shape : Shape) : Json → Json → Prop := Relation.EqvGen (Edit shape)

/-- What is edited is never absent, before or after. -/
theorem Edit.ne_null {shape : Shape} {j j' : Json} (h : Edit shape j j') :
    j ≠ .null ∧ j' ≠ .null := by
  cases h <;> exact ⟨nofun, nofun⟩

theorem Edit.exists_members {slots : List (Slot Shape)} {j j' : Json}
    (h : Edit (.record slots) j j') :
    ∃ members members', j = .object members ∧ j' = .object members' := by
  cases h <;> exact ⟨_, _, rfl, rfl⟩

/-! ### Codecs -/

variable {ρ α β : Type}

namespace Codec

variable {c : Codec α} {shape : Shape}

/-- A codec that reads a value and an edited one alike. -/
def Respects (c : Codec α) (shape : Shape) : Prop :=
  ∀ {j j' : Json}, Edit shape j j' → ∀ {a : α},
    c.decode .buffered (.ofValue j) = .ok a ↔ c.decode .buffered (.ofValue j') = .ok a

/-- There is nothing to edit in a leaf. -/
theorem respects_leaf : c.Respects .leaf := nofun

theorem ofItems_append (before after : List Json) :
    Node.ofItems (before ++ after) = Node.ofItems before ++ Node.ofItems after := by
  induction before with
  | nil => rfl
  | cons j before ih => rw [List.cons_append, Node.ofItems, Node.ofItems, ih, List.cons_append]

theorem respects_list (h : c.Respects shape) : c.list.Respects (.list shape) := by
  intro j j' edit as
  cases edit with
  | item _ _ edit =>
    simp only [list, Node.ofValue, ofItems_append, Node.ofItems, List.mapM_append, List.mapM_cons,
      Reading.enter_buffered, bind, Except.bind_eq_ok_iff, Except.ok.injEq, exists_eq_left', h edit]

/-- A value that can be edited is not an absent one. -/
theorem respects_nullable (h : c.Respects shape) : c.nullable.Respects shape := by
  intro j j' edit a
  rw [decode_nullable edit.ne_null.1, decode_nullable edit.ne_null.2]
  simp only [Except.map_eq_ok_iff, h edit]

end Codec

/-! ### Fields -/

namespace Field

variable {blank : ρ} {name : String} {c : Codec α} {shape : Shape}

/-- A field that fills a slot: it reads a value and an edited one alike, and what its
absence stands for is what it has in the blank record. -/
structure Respects (blank : ρ) (field : Field ρ) (slot : Slot Shape) : Prop where
  name : field.name = slot.name
  edits : ∀ {j j' : Json}, Edit slot.shape j j' → ∀ {r s : ρ},
    field.decode .buffered (.ofValue j) r = .ok s ↔ field.decode .buffered (.ofValue j') r = .ok s
  default : ∀ {j : Json}, slot.absent = some j →
    field.needed = false ∧ field.decode .buffered (.ofValue j) blank = .ok blank

/-- A field that is set to what it reads, if its codec respects the slot. -/
theorem respects_setting {set : α → ρ → ρ} {needed : Bool} {encode : ρ → Option Json}
    (slot : Slot Shape) (h : c.Respects slot.shape)
    (default : ∀ j, slot.absent = some j →
      needed = false ∧ ∃ a, c.decode .buffered (.ofValue j) = .ok a ∧ set a blank = blank) :
    (setting slot.name needed c set encode).Respects blank slot where
  name := rfl
  edits edit _ _ := by simp only [setting, bind, Except.bind_eq_ok_iff, h edit]
  default := by
    intro j stands
    obtain ⟨optional, a, reads, same⟩ := default j stands
    refine ⟨optional, ?_⟩
    simp only [setting, reads]
    exact congrArg Except.ok same

theorem respects_required {get : ρ → α} {set : α → ρ → ρ} (h : c.Respects shape) :
    (required name c get set).Respects blank (.required name shape) := by
  rw [required_eq_setting]
  exact respects_setting (.required name shape) h nofun

theorem respects_optional {get : ρ → Option α} {set : Option α → ρ → ρ} (h : c.Respects shape)
    (absent : set none blank = blank) :
    (optional name c get set).Respects blank (.optional name shape) := by
  rw [optional_eq_setting]
  refine respects_setting (.optional name shape) (Codec.respects_nullable h) fun j null => ?_
  obtain rfl := Option.some.inj null
  exact ⟨rfl, none, rfl, absent⟩

theorem respects_defaulted {get : ρ → α} {set : α → ρ → ρ} {j : Json} {a : α} (h : c.Respects shape)
    (reads : c.decode .buffered (.ofValue j) = .ok a) (absent : set a blank = blank) :
    (defaulted name c get set).Respects blank (.defaulted name j shape) := by
  rw [defaulted_eq_setting]
  refine respects_setting (.defaulted name j shape) h fun j' stands => ?_
  obtain rfl := Option.some.inj stands
  exact ⟨rfl, a, reads, absent⟩

end Field

/-! ### Records -/

namespace Record

/-- A record whose fields fill slots, have different names and commute. -/
structure Has (c : Record ρ) (slots : List (Slot Shape)) : Prop where
  names : (c.fields.map Field.name).Nodup
  commute : c.fields.Pairwise Field.Commutes
  fields : List.Forall₂ (Field.Respects c.blank) c.fields slots

variable {c : Record ρ} {slots : List (Slot Shape)} {slot : Slot Shape}

namespace Has

theorem names_eq (h : c.Has slots) : c.fields.map Field.name = slots.map Slot.name := by
  rw [← List.forall₂_eq_eq_eq, List.forall₂_map_left_iff, List.forall₂_map_right_iff]
  exact h.fields.imp fun _ _ respects => respects.name

theorem exists_field {fields : List (Field ρ)} {blank : ρ}
    (h : List.Forall₂ (Field.Respects blank) fields slots) (mem : slot ∈ slots) :
    ∃ field ∈ fields, Field.Respects blank field slot := by
  induction h with
  | nil => cases mem
  | @cons field _ fields _ first _ ih =>
    obtain rfl | mem := List.mem_cons.1 mem
    · exact ⟨field, List.mem_cons_self, first⟩
    · obtain ⟨other, mem, respects⟩ := ih mem
      exact ⟨other, List.mem_cons_of_mem _ mem, respects⟩

/-- A slot is filled by the field of its name. -/
theorem find?_slot (h : c.Has slots) (mem : slot ∈ slots) :
    ∃ field, c.fields.find? (·.name = slot.name) = some field ∧ Field.Respects c.blank field slot := by
  obtain ⟨field, mem, respects⟩ := exists_field h.fields mem
  exact ⟨field, respects.name ▸ find?_of_mem h.names mem, respects⟩

end Has

/-- A field that may be absent, and is, may as well have been read before. -/
theorem read_seen {fields : List (Field ρ)} {field : Field ρ} {members : List (String × Json)}
    (names : (fields.map Field.name).Nodup) (mem : field ∈ fields) (optional : field.needed = false)
    (absent : field.name ∉ members.map Prod.fst) :
    read fields members [field.name] = read fields members [] := by
  refine read_congr (fun m inside => iff_of_false ?_ List.not_mem_nil)
    fun other inside need => iff_of_false ?_ List.not_mem_nil
  · intro same
    rw [← List.mem_singleton.1 same] at absent
    exact absent (List.mem_map_of_mem inside)
  · intro same
    obtain rfl := List.inj_on_of_nodup_map names inside mem (List.mem_singleton.1 same)
    rw [optional] at need
    cases need

end Record

/-- **A record with slots respects them.** What is edited is brought to the front first. -/
theorem Codec.respects_record {c : Record ρ} {slots : List (Slot Shape)} (h : c.Has slots) :
    c.codec.Respects (.record slots) := by
  intro j j' edit r
  cases edit with
  | permute perm => rw [Record.decode_object, Record.decode_object, Record.read_perm h.commute perm]
  | ignored _ _ unknown =>
    rw [← h.names_eq] at unknown
    rw [Record.decode_object, Record.decode_object, Record.read_middle h.commute,
      Record.read_unknown (Record.find?_eq_none unknown)]
  | explicit _ _ known default absent =>
    obtain ⟨field, found, respects⟩ := h.find?_slot known
    obtain ⟨optional, blank⟩ := respects.default default
    rw [← respects.name] at found absent
    rw [Record.decode_object, Record.decode_object, ← respects.name, Record.read_middle h.commute,
      Record.read_known found List.not_mem_nil,
      Record.read_seen h.names (Record.name_of_find? found).1 optional absent]
    simp only [blank, Except.bind]
  | field _ _ known edit =>
    obtain ⟨field, found, respects⟩ := h.find?_slot known
    rw [Record.decode_object, Record.decode_object, Record.read_middle h.commute,
      Record.read_middle h.commute, Record.read_known found List.not_mem_nil,
      Record.read_known found List.not_mem_nil]
    simp only [Except.bind_eq_ok_iff, respects.edits edit]

/-! ### Tagged unions -/

/-- The member that names the case. -/
def Slot.tag : Slot Shape := .required tagName .leaf

theorem notMem_untagged {members : List (String × Json)} {name : String}
    (h : name ∉ members.map Prod.fst) : name ∉ (untagged members).map Prod.fst :=
  fun mem => h ((List.filter_sublist.map _).subset mem)

/-- An edit of a tagged object leaves the tag as it is, and is an edit of what else is there. -/
theorem Edit.untagged {slots : List (Slot Shape)} {members members' : List (String × Json)}
    (edit : Edit (.record (.tag :: slots)) (.object members) (.object members'))
    (names : tagName ∉ slots.map Slot.name) :
    (tags members).Perm (tags members') ∧
      Edit (.record slots) (.object (untagged members)) (.object (untagged members')) := by
  have other {slot : Slot Shape} (mem : slot ∈ slots) : slot.name ≠ tagName :=
    fun same => names (same ▸ List.mem_map_of_mem mem)
  cases edit with
  | permute perm => exact ⟨perm.filter _, .permute (perm.filter _)⟩
  | ignored _ _ unknown =>
    obtain ⟨untagged, unknown⟩ : _ ≠ tagName ∧ _ ∉ slots.map Slot.name :=
      not_or.1 (unknown ∘ List.mem_cons.2)
    simp only [tags_append, tags_cons, untagged_append, untagged_cons, if_neg untagged]
    exact ⟨.refl _, .ignored _ _ unknown⟩
  | explicit _ _ known default absent =>
    obtain rfl | known := List.mem_cons.1 known
    · cases default
    · simp only [tags_append, tags_cons, untagged_append, untagged_cons, if_neg (other known)]
      refine ⟨.refl _, .explicit _ _ known default ?_⟩
      rw [← untagged_append]
      exact notMem_untagged absent
  | field _ _ known edit =>
    obtain rfl | known := List.mem_cons.1 known
    · cases edit
    · simp only [tags_append, tags_cons, untagged_append, untagged_cons, if_neg (other known)]
      exact ⟨.refl _, .field _ _ known edit⟩

/-- A case whose content has slots, which depend on the value. -/
def Case.Respects (case : Case α) (slots : α → List (Slot Shape)) : Prop :=
  ∀ (a : α) (j j' : Json), Edit (.record (slots a)) j j' →
    (case.decode (.ofValue j) = .ok a ↔ case.decode (.ofValue j') = .ok a)

theorem Case.respects_record {name : String} {c : Record ρ} {inject : ρ → α}
    {project? : α → Option ρ} {slots : α → List (Slot Shape)} {own : List (Slot Shape)}
    (h : c.Has own) (same : ∀ r, slots (inject r) = own) :
    (Case.record name c inject project?).Respects slots := by
  intro a j j' edit
  simp only [Case.record, Except.map_eq_ok_iff]
  refine exists_congr fun r => and_congr_left fun whole => ?_
  subst whole
  rw [same] at edit
  exact Codec.respects_record h edit

namespace Codec

variable {cases : List (Case α)} {a : α} {slots : α → List (Slot Shape)} {j j' : Json}

theorem mem_of_constant {name : String} {case : Case α}
    (named : constant cases Case.name name = .ok case) : case ∈ cases := by
  simp only [constant] at named
  split at named
  · next found => exact Except.ok.inj named ▸ List.mem_of_find?_eq_some found
  · cases named

/-- What an object says lies in its tag and in what else is there. -/
theorem means_of_perm {members members' : List (String × Json)}
    (perm : (tags members).Perm (tags members'))
    (content : ∀ case ∈ cases, case.decode (.ofValue (.object (untagged members))) = .ok a →
      case.decode (.ofValue (.object (untagged members'))) = .ok a)
    (h : Means cases a (.object members)) : Means cases a (.object members') := by
  cases h with
  | object tag named reads =>
    rw [tag, List.singleton_perm] at perm
    exact .object perm.symm named (content _ (mem_of_constant named) reads)

/-- **An edited value says the same**, wherever the edit was. -/
theorem means_edit (respects : ∀ case ∈ cases, case.Respects slots)
    (names : tagName ∉ (slots a).map Slot.name) (edit : Edit (.record (.tag :: slots a)) j j') :
    Means cases a j ↔ Means cases a j' := by
  obtain ⟨members, members', rfl, rfl⟩ := edit.exists_members
  obtain ⟨perm, content⟩ := edit.untagged names
  exact ⟨means_of_perm perm fun case mem => (respects case mem _ _ _ content).1,
    means_of_perm perm.symm fun case mem => (respects case mem _ _ _ content).2⟩

/-- Values that are alike say the same. -/
theorem means_alike (respects : ∀ case ∈ cases, case.Respects slots)
    (names : tagName ∉ (slots a).map Slot.name)
    (alike : (Shape.record (.tag :: slots a)).Alike j j') : Means cases a j ↔ Means cases a j' := by
  induction alike with
  | rel j j' edit => exact means_edit respects names edit
  | refl j => rfl
  | symm j j' _ ih => exact ih.symm
  | trans j j' j'' _ _ ih ih' => exact ih.trans ih'

end Codec

end DisplayComposer.Json
