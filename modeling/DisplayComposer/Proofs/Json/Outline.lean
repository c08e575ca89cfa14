import DisplayComposer.Proofs.Json.Members
import DisplayComposer.Proofs.Json.Record
import DisplayComposer.Proofs.Json.Tagged
/-!
# DisplayComposer.Proofs.Json.Outline

**What is left of a value that may not read back.** Not every value that is written is read
back as it was: a float that is no number is written as an absent value, and whoever reads
it either refuses that or takes it for one. So not the value itself is followed through its
text but an outline of it, in which whatever may get lost is blanked out. A codec `Keeps` an
outline of a value if what it reads from the value's text, should it read anything, has that
outline.

* `Codec.Keeps`, with `keeps_float`, `keeps_list`, `keeps_nullable` — one value;
* `Field.Keeps`, with `keeps_setting` — one field;
* `Record.Outlines`, `Record.keeps` — all fields of a record;
* `Codec.outline_of_decodeBytes` — a tagged union.
-/

namespace DisplayComposer.Json

variable {ρ α β : Type}

/-! ### Values -/

namespace Codec

variable {c : Codec α} {outline : α → β} {a : α} {kept : β} {d : Nat}

/-- What is written for a value has a text, and whatever is read from that has this outline. -/
structure Keeps (c : Codec α) (outline : α → β) (a : α) (kept : β) : Prop where
  proper : (c.encode a).Proper
  reads : ∀ b, c.decode .buffered (.ofValue (c.encode a)) = .ok b → outline b = kept

/-- What is carried is kept as a whole. -/
theorem Carries.keeps (h : c.Carries d a) : c.Keeps id a a where
  proper := h.fits.proper
  reads b read := by
    have same : Except.ok b = Except.ok a := read.symm.trans (h.reads .buffered trivial)
    exact Except.ok.inj same

/-- Of a float nothing is kept. -/
theorem keeps_float {x : Single} : float.Keeps (fun _ => kept) x kept where
  proper := proper_float x
  reads _ _ := rfl

theorem map_outline_of_items {as bs : List α} {keep : α → β} (h : ∀ a ∈ as, c.Keeps outline a (keep a))
    (read : (Node.ofItems (as.map c.encode)).mapM (c.decode .buffered) = .ok bs) :
    bs.map outline = as.map keep := by
  induction as generalizing bs with
  | nil =>
    obtain rfl := Except.ok.inj read
    rfl
  | cons a as ih =>
    obtain ⟨first, others⟩ := List.forall_mem_cons.1 h
    rw [List.map_cons, Node.ofItems, List.mapM_cons] at read
    obtain ⟨b, item, read⟩ := Except.bind_eq_ok_iff.1 read
    obtain ⟨bs', items, read⟩ := Except.bind_eq_ok_iff.1 read
    obtain rfl := Except.ok.inj read
    rw [List.map_cons, List.map_cons, first.reads b item, ih others items]

theorem keeps_list {as : List α} {keep : α → β} (h : ∀ a ∈ as, c.Keeps outline a (keep a)) :
    c.list.Keeps (List.map outline) as (as.map keep) where
  proper := by
    refine .array fun j mem => ?_
    obtain ⟨a, ha, rfl⟩ := List.mem_map.1 mem
    exact (h a ha).proper
  reads bs read := by
    obtain ⟨bs', items, read⟩ := Except.bind_eq_ok_iff.1 read
    obtain rfl := Except.ok.inj read
    exact map_outline_of_items h items

/-- A value that is not written as an absent one is not taken for one. -/
theorem keeps_nullable {o : Option α} {keep : α → β}
    (h : ∀ a, o = some a → c.Keeps outline a (keep a) ∧ c.encode a ≠ .null) :
    c.nullable.Keeps (Option.map outline) o (o.map keep) := by
  cases o with
  | none =>
    refine ⟨.null, fun b read => ?_⟩
    rw [← Except.ok.inj read]
    rfl
  | some a =>
    obtain ⟨⟨proper, reads⟩, present⟩ := h a rfl
    refine ⟨proper, fun _ whole => ?_⟩
    obtain ⟨b, read, rfl⟩ := Except.map_eq_ok_iff.1 ((decode_nullable present).symm.trans whole)
    exact congrArg some (reads b read)

end Codec

/-! ### Fields -/

/-- What a field keeps of a record `r`: reading what was written for it takes a record with
the outline `before` to one with the outline `after`. -/
structure Field.Keeps (outline : ρ → ρ) (r : ρ) (field : Field ρ) (before after : ρ) : Prop where
  unwritten : field.encode r = none → after = before
  written : ∀ j, field.encode r = some j → j.Proper ∧ ∀ s t, outline s = before →
    field.decode .buffered (.ofValue j) s = .ok t → outline t = after

namespace Field

variable {outline : ρ → ρ} {r before : ρ} {name : String} {c : Codec α} {d : Nat}

/-- A field that is set to what it reads keeps what its codec keeps. -/
theorem keeps_setting {set : α → ρ → ρ} {needed : Bool} {encode : ρ → Option Json} {part : α → α}
    {kept : α} (unwritten : encode r = none → set kept before = before)
    (written : ∀ j, encode r = some j → j.Proper ∧
      ∀ v, c.decode .buffered (.ofValue j) = .ok v → part v = kept)
    (commutes : ∀ v s, outline (set v s) = set (part v) (outline s)) :
    (setting name needed c set encode).Keeps outline r before (set kept before) where
  unwritten := unwritten
  written := by
    intro j shown
    obtain ⟨proper, reads⟩ := written j shown
    refine ⟨proper, fun s t start read => ?_⟩
    obtain ⟨v, read, set⟩ := Except.bind_eq_ok_iff.1 read
    rw [← Except.ok.inj set, commutes, start, reads v read]

theorem keeps_required {get : ρ → α} {set : α → ρ → ρ} {part : α → α} {kept : α}
    (h : c.Keeps part (get r) kept) (commutes : ∀ v s, outline (set v s) = set (part v) (outline s)) :
    (required name c get set).Keeps outline r before (set kept before) := by
  rw [required_eq_setting]
  refine keeps_setting nofun (fun j shown => ?_) commutes
  obtain rfl := Option.some.inj shown
  exact ⟨h.proper, h.reads⟩

theorem keeps_defaulted {get : ρ → α} {set : α → ρ → ρ} {part : α → α} {kept : α}
    (h : c.Keeps part (get r) kept) (commutes : ∀ v s, outline (set v s) = set (part v) (outline s)) :
    (defaulted name c get set).Keeps outline r before (set kept before) := by
  rw [defaulted_eq_setting]
  refine keeps_setting nofun (fun j shown => ?_) commutes
  obtain rfl := Option.some.inj shown
  exact ⟨h.proper, h.reads⟩

theorem keeps_optional {get : ρ → Option α} {set : Option α → ρ → ρ} {part : Option α → Option α}
    {kept : Option α} (h : c.nullable.Keeps part (get r) kept)
    (commutes : ∀ v s, outline (set v s) = set (part v) (outline s))
    (absent : get r = none → kept = none) (blank : set none before = before) :
    (optional name c get set).Keeps outline r before (set kept before) := by
  rw [optional_eq_setting]
  refine keeps_setting (fun skipped => ?_) (fun j shown => ?_) commutes
  · rw [absent (Option.map_eq_none_iff.1 skipped), blank]
  · obtain ⟨a, value, rfl⟩ := Option.map_eq_some_iff.1 shown
    rw [value] at h
    exact ⟨h.proper, h.reads⟩

/-- An optional field whose value is carried. -/
theorem keeps_whole {get : ρ → Option α} {set : Option α → ρ → ρ}
    (h : ∀ a, get r = some a → c.Carries d a ∧ c.encode a ≠ .null)
    (commutes : ∀ v s, outline (set v s) = set v (outline s)) (blank : set none before = before) :
    (optional name c get set).Keeps outline r before (set (get r) before) :=
  keeps_optional (Codec.carries_nullable h).keeps commutes id blank

/-- An optional field of whose value a part is kept. -/
theorem keeps_part {get : ρ → Option α} {set : Option α → ρ → ρ} {part : α → α}
    (h : ∀ a, get r = some a → c.Keeps part a (part a) ∧ c.encode a ≠ .null)
    (commutes : ∀ v s, outline (set v s) = set (v.map part) (outline s))
    (blank : set none before = before) :
    (optional name c get set).Keeps outline r before (set ((get r).map part) before) :=
  keeps_optional (Codec.keeps_nullable h) commutes Option.map_eq_none_iff.2 blank

end Field

/-! ### Records -/

namespace Record

/-- Fields that, one after the other, keep what they wrote for the record `r`. -/
inductive Outlines (outline : ρ → ρ) (r : ρ) : List (Field ρ) → ρ → ρ → Prop where
  | nil {before : ρ} : Outlines outline r [] before before
  | cons {field : Field ρ} {fields : List (Field ρ)} {before between after : ρ}
      (first : field.Keeps outline r before between)
      (others : Outlines outline r fields between after) :
      Outlines outline r (field :: fields) before after

variable {outline : ρ → ρ} {r before after : ρ} {fields rest : List (Field ρ)}

theorem Outlines.proper (h : Outlines outline r fields before after) :
    ∀ m ∈ written fields r, m.2.Proper := by
  induction h with
  | nil => exact nofun
  | @cons field fields before between after first _ ih =>
    rw [written_cons]
    cases shown : field.encode r with
    | none => exact ih
    | some j => exact List.forall_mem_cons.2 ⟨(first.written j shown).1, ih⟩

/-- Reading what was written for the fields from some place on. -/
theorem Outlines.outline_of_read (h : Outlines outline r rest before after)
    (found : ∀ field ∈ rest, fields.find? (·.name = field.name) = some field) {seen : List String}
    {s t : ρ} (start : outline s = before) (read : Record.read fields (written rest r) seen s = .ok t) :
    outline t = after := by
  induction h generalizing seen s with
  | nil => rw [eq_of_read_nil read, start]
  | @cons field rest before between after first _ ih =>
    obtain ⟨here, found⟩ := List.forall_mem_cons.1 found
    rw [written_cons] at read
    cases shown : field.encode r with
    | none =>
      rw [shown] at read
      exact ih found (start.trans (first.unwritten shown).symm) read
    | some j =>
      rw [shown] at read
      have fresh : field.name ∉ seen := fun old => read_ne_ok here old List.mem_cons_self read
      rw [read_known here fresh] at read
      obtain ⟨s', set, read⟩ := Except.bind_eq_ok_iff.1 read
      exact ih found ((first.written j shown).2 s s' start set) read

/-- **A record keeps an outline** if its fields have different names and keep it together. -/
theorem keeps {c : Record ρ} (names : (c.fields.map Field.name).Nodup)
    (h : Outlines outline r c.fields (outline c.blank) after) : c.codec.Keeps outline r after where
  proper := .object h.proper
  reads t read := by
    exact h.outline_of_read (fun _ mem => find?_of_mem names mem) rfl
      ((decode_object c).symm.trans read)

end Record

/-! ### Tagged unions -/

/-- **What a tagged union keeps** is what the record of its case keeps. -/
theorem Codec.outline_of_decodeBytes {cases : List (Case α)} {title name : String} {a b : α}
    {c : Record ρ} {inject : ρ → α} {project? : α → Option ρ} {outline : ρ → ρ} {r after : ρ}
    (found : cases.find? (·.name = name) = some (.record name c inject project?))
    (written : taggedMembers? cases a = some ((tagName, .string name) :: c.members r))
    (names : (tagName :: c.fields.map Field.name).Nodup) (h : c.codec.Keeps outline r after)
    (read : (tagged title cases).decodeBytes ((tagged title cases).encodeBytes a) = .ok b) :
    ∃ t, inject t = b ∧ outline t = after := by
  have text : (tagged title cases).encode a = .object ((tagName, .string name) :: c.members r) :=
    congrArg (fun members : Option (List (String × Json)) => Json.object (members.getD [])) written
  have others : ∀ m ∈ c.members r, m.1 ≠ tagName := fun m mem same =>
    (List.nodup_cons.1 names).1 (same ▸ Record.mem_names_of_mem_written mem)
  have proper : Proper ((tagged title cases).encode a) := by
    cases h.proper with
    | object inside => exact text ▸ .object (List.forall_mem_cons.2 ⟨.string, inside⟩)
  obtain ⟨j, value, meant⟩ := decodeBytes_tagged.1 read
  rw [eq_of_ofBytes_print proper value, text] at meant
  cases meant with
  | object tag named content =>
    rw [tags_cons, if_pos rfl, tags_eq_nil others] at tag
    obtain rfl := Json.string.inj (Prod.mk.inj (List.cons.inj tag).1).2
    rw [untagged_cons, if_pos rfl, untagged_eq_self others] at content
    simp only [constant, found, Except.ok.injEq] at named
    subst named
    obtain ⟨t, read, whole⟩ := Except.map_eq_ok_iff.1 content
    exact ⟨t, whole, h.reads t read⟩

end DisplayComposer.Json
