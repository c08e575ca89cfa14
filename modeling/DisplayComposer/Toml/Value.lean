/-!
# DisplayComposer.Toml.Value

**Values and tables.** A table is a list of entries in the order in which they
were made, no key twice. Tables come about in four ways, and which one it was
decides what may still be added: every table is defined in one place only.

* `Value`, `Origin`, `Entries` — values;
* `within` — changing the table at the end of a path;
* `assign`, `openTable`, `openElement` — what a line of a document does.
-/

namespace DisplayComposer.Toml

/-- How a table came about. -/
inductive Origin where
  /-- By a header of its own. -/
  | headed
  /-- By the header of a table inside of it. A header may still follow. -/
  | implied
  /-- By a dotted key. Other dotted keys may add to it. -/
  | dotted
  /-- Between braces. It is complete. -/
  | braced
  deriving DecidableEq, Repr

/-- A value. Of floats and dates only the kind is kept. -/
inductive Value where
  | string (s : String)
  | integer (n : Int)
  | float
  | boolean (b : Bool)
  | date
  | array (items : List Value)
  | table (origin : Origin) (entries : List (String × Value))
  /-- An array of tables, made by headers. The last one is open. -/
  | tables (earlier : List (List (String × Value))) (last : List (String × Value))

/-- The content of a table. -/
abbrev Entries : Type := List (String × Value)

/-- A key, with the tables it goes through. -/
structure Key where
  path : List String
  name : String
  deriving DecidableEq, Repr

/-- Set an entry. -/
def put (k : String) (v : Value) : Entries → Entries
  | [] => [(k, v)]
  | (l, w) :: es => if l = k then (k, v) :: es else (l, w) :: put k v es

@[simp] theorem lookup_put_self (k : String) (v : Value) (es : Entries) :
    (put k v es).lookup k = some v := by
  induction es with
  | nil => simp [put]
  | cons e es ih =>
    obtain ⟨l, w⟩ := e
    by_cases h : l = k
    · simp [put, h]
    · have hk : (k == l) = false := by simpa using Ne.symm h
      simp [put, h, List.lookup_cons, hk, ih]

/-- A new key stands at the end. -/
theorem put_eq_append {k : String} (v : Value) {es : Entries} (h : es.lookup k = none) :
    put k v es = es ++ [(k, v)] := by
  induction es with
  | nil => rfl
  | cons e es ih =>
    obtain ⟨l, w⟩ := e
    rw [List.lookup_cons] at h
    split at h
    · cases h
    · rename_i hk
      have hl : l ≠ k := fun he => by simp [he] at hk
      rw [put, if_neg hl, ih h, List.cons_append]

/-- Change the table at the end of a path. Tables on the way that are not there
are made; of an array of tables, the last counts. Dotted keys do not go into
tables with a header, and nothing goes into tables between braces. -/
def within (made : Origin) (change : Origin → Entries → Option Entries) :
    Origin → List String → Entries → Option Entries
  | origin, [], es => change origin es
  | _, k :: path, es =>
    match es.lookup k with
    | none => do
      let inner ← within made change made path []
      pure (put k (.table made inner) es)
    | some (.table origin inner) => do
      if origin = .braced ∨ (made = .dotted ∧ origin = .headed) then none
      else
        let inner ← within made change origin path inner
        pure (put k (.table origin inner) es)
    | some (.tables earlier last) => do
      let last ← within made change .headed path last
      pure (put k (.tables earlier last) es)
    | some _ => none

/-- Add an entry to a table. A dotted key ends in a table made by dotted keys, and
any other key does not. -/
def assign (key : Key) (v : Value) (origin : Origin) (es : Entries) : Option Entries :=
  within .dotted (fun origin es =>
    if (origin = .dotted ↔ key.path = []) ∨ (es.lookup key.name).isSome then none
    else some (put key.name v es)) origin key.path es

/-- Make the table of a header. -/
def openTable (key : Key) (root : Entries) : Option Entries :=
  within .implied (fun _ es =>
    match es.lookup key.name with
    | none => some (put key.name (.table .headed []) es)
    | some (.table .implied inner) => some (put key.name (.table .headed inner) es)
    | some _ => none) .headed key.path root

/-- Add a table to an array of tables. -/
def openElement (key : Key) (root : Entries) : Option Entries :=
  within .implied (fun _ es =>
    match es.lookup key.name with
    | none => some (put key.name (.tables [] []) es)
    | some (.tables earlier last) => some (put key.name (.tables (earlier ++ [last]) []) es)
    | some _ => none) .headed key.path root

/-- The table with some entries between braces. -/
def braced? (entries : List (Key × Value)) : Option Value :=
  (entries.foldlM (fun es (key, v) => assign key v .braced es) []).map (.table .braced)

end DisplayComposer.Toml
