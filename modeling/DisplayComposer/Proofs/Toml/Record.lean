import DisplayComposer.Proofs.Toml.Document
import DisplayComposer.Toml.Record
import Mathlib.Data.List.Nodup
/-!
# DisplayComposer.Proofs.Toml.Record

**Records in tables are carried.** A record is read by looking up one field after the other, so
the order of the entries of its table does not matter. What is written for a record sets each
field to the value it had, and a field that is not written has its blank value; so the record is
carried as soon as each of its fields is, and no two fields share a name.

* `Codec.Carries`, `Field.Sets`, `Record.Fills` — a value, one field, and all fields;
* `Record.decode_of_perm`, `Record.carries`, `Record.carries_list` — records and lists of them;
* `Record.Scalar`, `Record.Scalar.settings` — records that are tables of settings.
-/

namespace DisplayComposer.Toml

variable {ρ α : Type} {r before after : ρ}

/-! ### Values -/

/-- Whether reading what is written for a value gives that value. -/
def Codec.Carries (c : Codec α) (a : α) : Prop := c.decode (c.encode a) = some a

namespace Codec

theorem carries_string (s : String) : string.Carries s := rfl

theorem carries_boolean (b : Bool) : boolean.Carries b := rfl

theorem carries_integer {ofInt? : Int → Option α} {toInt : α → Int} {a : α}
    (h : ofInt? (toInt a) = some a) : (integer ofInt? toInt).Carries a := h

theorem carries_int64 (n : Int64) : int64.Carries n := carries_integer (int64Of?_toInt n)

theorem carries_uint32 (n : UInt32) : uint32.Carries n := carries_integer (uint32Of?_toNat n)

theorem carries_uint64 (n : UInt64) : uint64.Carries n := carries_integer (uint64Of?_toNat n)

end Codec

/-! ### Fields -/

/-- What a field does when it reads what it wrote for the record `r`: it takes the record
read before it to the one after it. -/
structure Field.Sets (r : ρ) (field : Field ρ) (before after : ρ) : Prop where
  unwritten : field.encode r = none → after = before
  written : ∀ v, field.encode r = some v → field.decode v before = some after

namespace Field

variable {name : String} {c : Codec α}

theorem sets_plain {get : ρ → α} {set : α → ρ → ρ} (h : c.Carries (get r)) :
    (plain name c get set).Sets r before (set (get r) before) where
  unwritten := nofun
  written := by
    rintro _ ⟨⟩
    show (c.decode (c.encode (get r))).map _ = _
    rw [h, Option.map_some]

theorem sets_optional {get : ρ → Option α} {set : Option α → ρ → ρ}
    (h : ∀ a, get r = some a → c.Carries a) (habsent : set none before = before) :
    (optional name c get set).Sets r before (set (get r) before) where
  unwritten := by
    intro hskipped
    rw [Option.map_eq_none_iff.1 hskipped, habsent]
  written := by
    intro v hshown
    obtain ⟨a, ha, rfl⟩ := Option.map_eq_some_iff.1 hshown
    show (c.decode (c.encode a)).map _ = _
    rw [h a ha, Option.map_some, ha]

/-- Whether a field is written on a line. -/
def Flat (field : Field ρ) : Prop :=
  ∀ r v, field.encode r = some v → Document.isSection v = false

theorem flat_plain {get : ρ → α} {set : α → ρ → ρ}
    (h : ∀ a, Document.isSection (c.encode a) = false) : (plain name c get set).Flat := by
  rintro r _ ⟨⟩
  exact h (get r)

theorem flat_optional {get : ρ → Option α} {set : Option α → ρ → ρ}
    (h : ∀ a, Document.isSection (c.encode a) = false) : (optional name c get set).Flat := by
  intro r v hencode
  obtain ⟨a, -, rfl⟩ := Option.map_eq_some_iff.1 hencode
  exact h a

end Field

/-! ### Tables -/

/-- Where no key occurs twice, looking one up finds its entry. -/
theorem lookup_eq_some_iff {es : Entries} (hkeys : (es.map Prod.fst).Nodup) {k : String}
    {v : Value} : es.lookup k = some v ↔ (k, v) ∈ es := by
  induction es with
  | nil => simp
  | cons e es ih =>
    obtain ⟨l, w⟩ := e
    obtain ⟨hnew, hkeys⟩ := List.nodup_cons.1 hkeys
    rw [List.lookup_cons, List.mem_cons]
    by_cases hk : k = l
    · subst hk
      have hrest : (k, v) ∉ es := fun hmem =>
        hnew (List.mem_map.2 ⟨(k, v), hmem, rfl⟩)
      rw [beq_self_eq_true, or_iff_left hrest, Option.some_inj, Prod.mk.injEq,
        and_iff_right rfl, eq_comm]
    · have hfirst : (k, v) ≠ (l, w) := fun heq => hk (congrArg Prod.fst heq)
      rw [beq_eq_false_iff_ne.2 hk, or_iff_right hfirst]
      exact ih hkeys

/-- The order of the entries does not matter. -/
theorem lookup_perm {es es' : Entries} (hperm : es.Perm es') (hkeys : (es'.map Prod.fst).Nodup)
    (k : String) : es.lookup k = es'.lookup k := by
  have hkeys' : (es.map Prod.fst).Nodup := ((hperm.map Prod.fst).nodup_iff).2 hkeys
  refine Option.ext fun v => ?_
  rw [lookup_eq_some_iff hkeys, lookup_eq_some_iff hkeys', hperm.mem_iff]

namespace Record

/-- Fields that, one after the other, set what they wrote for the record `r`. -/
inductive Fills (r : ρ) : List (Field ρ) → ρ → ρ → Prop where
  | nil {before : ρ} : Fills r [] before before
  | cons {field : Field ρ} {fields : List (Field ρ)} {before between after : ρ}
      (first : field.Sets r before between) (others : Fills r fields between after) :
      Fills r (field :: fields) before after

/-- Reading a table that has for each field what it wrote. -/
theorem Fills.decodeEntries {fields : List (Field ρ)} {es : Entries}
    (hfills : Fills r fields before after)
    (hlookup : ∀ field ∈ fields, es.lookup field.name = field.encode r) :
    decodeEntries es fields before = some after := by
  induction hfills with
  | nil => rfl
  | @cons field fields before between after first _ ih =>
    obtain ⟨hfirst, hlookup⟩ := List.forall_mem_cons.1 hlookup
    rw [Record.decodeEntries, hfirst]
    cases hencode : field.encode r with
    | none =>
      dsimp only
      rw [← first.unwritten hencode]
      exact ih hlookup
    | some v =>
      dsimp only
      rw [first.written v hencode, Option.bind_some]
      exact ih hlookup

/-- The entries that some fields write. -/
def written (fields : List (Field ρ)) (r : ρ) : Entries :=
  fields.filterMap fun field => (field.encode r).map fun v => (field.name, v)

theorem written_cons (field : Field ρ) (fields : List (Field ρ)) (r : ρ) :
    written (field :: fields) r = match field.encode r with
      | none => written fields r
      | some v => (field.name, v) :: written fields r := by
  cases hencode : field.encode r <;> simp [written, hencode]

/-- Entries are written under the names of the fields, in their order. -/
theorem keys_written (fields : List (Field ρ)) (r : ρ) :
    ((written fields r).map Prod.fst).Sublist (fields.map Field.name) := by
  induction fields with
  | nil => exact .slnil
  | cons field fields ih =>
    rw [written_cons, List.map_cons]
    cases field.encode r with
    | none => exact ih.cons _
    | some v => exact ih.cons_cons _

theorem keys_nodup {fields : List (Field ρ)} (hnames : (fields.map Field.name).Nodup) (r : ρ) :
    ((written fields r).map Prod.fst).Nodup := (keys_written fields r).nodup hnames

theorem mem_written {fields : List (Field ρ)} {e : String × Value} :
    e ∈ written fields r ↔ ∃ field ∈ fields, field.encode r = some e.2 ∧ field.name = e.1 := by
  constructor
  · intro he
    obtain ⟨field, hfield, hencode⟩ := List.mem_filterMap.1 he
    obtain ⟨v, hv, rfl⟩ := Option.map_eq_some_iff.1 hencode
    exact ⟨field, hfield, hv, rfl⟩
  · rintro ⟨field, hfield, hencode, hname⟩
    refine List.mem_filterMap.2 ⟨field, hfield, ?_⟩
    rw [hencode, Option.map_some, hname]

/-- Looking up the name of a field finds what the field wrote. -/
theorem lookup_written {fields : List (Field ρ)} (hnames : (fields.map Field.name).Nodup)
    {field : Field ρ} (hfield : field ∈ fields) :
    (written fields r).lookup field.name = field.encode r := by
  refine Option.ext fun v => ?_
  rw [lookup_eq_some_iff (keys_nodup hnames r), mem_written]
  constructor
  · rintro ⟨other, hother, hencode, hname⟩
    obtain rfl : other = field := List.inj_on_of_nodup_map hnames hother hfield hname
    exact hencode
  · exact fun hencode => ⟨field, hfield, hencode, rfl⟩

variable {c : Record ρ}

/-- **A record is read from its entries in any order.** -/
theorem decode_of_perm (hnames : (c.fields.map Field.name).Nodup)
    (hfills : Fills r c.fields c.blank r) {es : Entries} (hperm : es.Perm (c.entries r))
    (origin : Origin) : c.decode (.table origin es) = some r :=
  hfills.decodeEntries fun field hfield =>
    (lookup_perm hperm (keys_nodup hnames r) field.name).trans (lookup_written hnames hfield)

theorem carries (hnames : (c.fields.map Field.name).Nodup) (hfills : Fills r c.fields c.blank r) :
    c.codec.Carries r := decode_of_perm hnames hfills (.refl _) .headed

theorem carries_list (hnames : (c.fields.map Field.name).Nodup) {rs : List ρ}
    (hfills : ∀ r ∈ rs, Fills r c.fields c.blank r) : c.listCodec.Carries rs := by
  show ((Value.ofTables (rs.map c.entries)).items?).bind _ = _
  rw [Value.items?_ofTables, Option.bind_some, List.map_map]
  induction rs with
  | nil => rfl
  | cons r rs ih =>
    obtain ⟨hfirst, hfills⟩ := List.forall_mem_cons.1 hfills
    have hread : c.decode (.table .headed (c.entries r)) = some r := carries hnames hfirst
    rw [List.map_cons, List.mapM_cons, ih hfills]
    show (c.decode (.table .headed (c.entries r))).bind _ = _
    rw [hread]
    rfl

/-- Records that are tables of settings: their fields have different names that are bare words,
and are written on a line each. -/
structure Scalar (c : Record ρ) : Prop where
  names : (c.fields.map Field.name).Nodup
  bare : ∀ field ∈ c.fields, Bare field.name
  flat : ∀ field ∈ c.fields, field.Flat

theorem Scalar.settings (hc : Scalar c) (r : ρ) : Settings (c.entries r) where
  keys := keys_nodup hc.names r
  bare e he := by
    obtain ⟨field, hfield, -, hname⟩ := mem_written.1 he
    exact hname ▸ hc.bare field hfield
  flat e he := by
    obtain ⟨field, hfield, hencode, -⟩ := mem_written.1 he
    exact hc.flat field hfield r e.2 hencode

end Record

/-- Tables of settings can be written under the headers of an array. -/
theorem Writable.ofTables {all : List Entries} (h : ∀ es ∈ all, Settings es) :
    Writable (.ofTables all) := by
  cases all with
  | nil => exact .setting rfl
  | cons es rest =>
    refine .tables fun es' hes' => h es' ?_
    rwa [List.dropLast_concat_getLast] at hes'

end DisplayComposer.Toml
