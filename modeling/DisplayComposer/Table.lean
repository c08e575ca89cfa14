/-!
# DisplayComposer.Table

**Finite tables sorted by key.** Displays, layers, cache slots and the results
of a batch are all looked up by a number, and several answers list them in
ascending order of that number. A `Table` is a list of entries in strictly
ascending key order, and the order is part of the type. So a table has one form
only: two tables with the same lookups are equal (`Table.ext_get?`).

* `get?`, `insert`, `erase`, `contains` — the map operations;
* `entries`, `keys`, `values` — the contents in ascending key order;
* `get?_insert`, `get?_erase` — one equation per operation, through `get?`.
-/

namespace DisplayComposer

/-- A strict order in which any two keys can be compared. -/
class LinearKeys (κ : Type) [LT κ] : Prop where
  irrefl : ∀ a : κ, ¬ a < a
  trans : ∀ a b c : κ, a < b → b < c → a < c
  connex : ∀ a b : κ, a < b ∨ a = b ∨ b < a

instance : LinearKeys Nat where
  irrefl := Nat.lt_irrefl
  trans _ _ _ := Nat.lt_trans
  connex := Nat.lt_trichotomy

instance : LinearKeys UInt32 where
  irrefl _ := by simp
  trans _ _ _ := by simp only [UInt32.lt_iff_toNat_lt]; omega
  connex a b := by
    simp only [UInt32.lt_iff_toNat_lt, ← UInt32.toNat_inj]
    omega

instance : LinearKeys Int64 where
  irrefl _ := by simp
  trans _ _ _ := by simp only [Int64.lt_iff_toInt_lt]; omega
  connex a b := by
    simp only [Int64.lt_iff_toInt_lt, ← Int64.toInt_inj]
    omega

instance : LinearKeys String where
  irrefl := String.lt_irrefl
  trans _ _ _ := String.lt_trans
  connex := Std.lt_trichotomy

variable {κ α β : Type}

/-- Entries in strictly ascending key order, so that no key occurs twice. -/
structure Table (κ α : Type) [LT κ] where
  entries : List (κ × α)
  sorted : entries.Pairwise (fun a b => a.1 < b.1)
  deriving DecidableEq

namespace Table

/-! ### Operations on entry lists -/

/-- The value stored under `k`. -/
def lookup [DecidableEq κ] (k : κ) : List (κ × α) → Option α
  | [] => none
  | (k', a) :: rest => if k' = k then some a else lookup k rest

/-- Put `a` under `k`, in place of what stood there. -/
def put [LT κ] [DecidableLT κ] [DecidableEq κ] (k : κ) (a : α) : List (κ × α) → List (κ × α)
  | [] => [(k, a)]
  | (k', a') :: rest =>
    if k < k' then (k, a) :: (k', a') :: rest
    else if k' = k then (k, a) :: rest
    else (k', a') :: put k a rest

/-- Drop what stands under `k`. -/
def drop [DecidableEq κ] (k : κ) : List (κ × α) → List (κ × α)
  | [] => []
  | (k', a) :: rest => if k' = k then rest else (k', a) :: drop k rest

theorem mem_put [LT κ] [DecidableLT κ] [DecidableEq κ] {k : κ} {a : α} {e : κ × α}
    {l : List (κ × α)} (h : e ∈ put k a l) : e = (k, a) ∨ e ∈ l := by
  induction l with
  | nil => simpa [put] using h
  | cons hd tl ih =>
    obtain ⟨k', a'⟩ := hd
    grind [put]

theorem mem_of_mem_drop [DecidableEq κ] {k : κ} {e : κ × α} {l : List (κ × α)}
    (h : e ∈ drop k l) : e ∈ l := by
  induction l with
  | nil => simp [drop] at h
  | cons hd tl ih =>
    obtain ⟨k', a'⟩ := hd
    grind [drop]

theorem put_sorted [LT κ] [DecidableLT κ] [DecidableEq κ] [LinearKeys κ] (k : κ) (a : α)
    {l : List (κ × α)} (h : l.Pairwise (fun x y => x.1 < y.1)) :
    (put k a l).Pairwise (fun x y => x.1 < y.1) := by
  induction l with
  | nil => simp [put]
  | cons hd tl ih =>
    obtain ⟨k', a'⟩ := hd
    rw [List.pairwise_cons] at h
    simp only [put]
    split
    · rename_i hlt
      refine List.pairwise_cons.2 ⟨fun e he => ?_, List.pairwise_cons.2 h⟩
      rcases List.mem_cons.1 he with rfl | he
      · exact hlt
      · exact LinearKeys.trans _ _ _ hlt (h.1 e he)
    · rename_i hnlt
      split
      · rename_i heq
        subst heq
        exact List.pairwise_cons.2 ⟨h.1, h.2⟩
      · rename_i hne
        refine List.pairwise_cons.2 ⟨fun e he => ?_, ih h.2⟩
        rcases mem_put he with rfl | he
        · rcases LinearKeys.connex k k' with hlt | heq | hlt
          · exact absurd hlt hnlt
          · exact absurd heq.symm hne
          · exact hlt
        · exact h.1 e he

theorem drop_sorted [LT κ] [DecidableEq κ] (k : κ) {l : List (κ × α)}
    (h : l.Pairwise (fun x y => x.1 < y.1)) : (drop k l).Pairwise (fun x y => x.1 < y.1) := by
  induction l with
  | nil => simp [drop]
  | cons hd tl ih =>
    obtain ⟨k', a'⟩ := hd
    rw [List.pairwise_cons] at h
    simp only [drop]
    split
    · exact h.2
    · exact List.pairwise_cons.2 ⟨fun e he => h.1 e (mem_of_mem_drop he), ih h.2⟩

/-! ### The map operations -/

variable [LT κ]

/-- The table without entries. -/
def empty : Table κ α := ⟨[], List.Pairwise.nil⟩

instance : Inhabited (Table κ α) := ⟨empty⟩

instance : EmptyCollection (Table κ α) := ⟨empty⟩

/-- The keys, ascending. -/
def keys (t : Table κ α) : List κ := t.entries.map Prod.fst

/-- The values, in ascending order of their keys. -/
def values (t : Table κ α) : List α := t.entries.map Prod.snd

variable [DecidableEq κ]

/-- The value stored under `k`. -/
def get? (t : Table κ α) (k : κ) : Option α := lookup k t.entries

/-- Whether a value is stored under `k`. -/
def contains (t : Table κ α) (k : κ) : Bool := (t.get? k).isSome

/-- Without the entry of `k`, if there was one. -/
def erase (t : Table κ α) (k : κ) : Table κ α := ⟨drop k t.entries, drop_sorted k t.sorted⟩

variable [DecidableLT κ] [LinearKeys κ]

/-- With `a` under `k`, in place of what stood there. -/
def insert (t : Table κ α) (k : κ) (a : α) : Table κ α := ⟨put k a t.entries, put_sorted k a t.sorted⟩

/-- All pairs of a list; of two with one key the later one stays. -/
def ofList (l : List (κ × α)) : Table κ α := l.foldl (fun t e => t.insert e.1 e.2) empty

/-! ### Lookups after each operation -/

omit [DecidableLT κ] [LinearKeys κ] in
@[simp] theorem get?_empty (k : κ) : (empty : Table κ α).get? k = none := rfl

omit [LT κ] [DecidableLT κ] [LinearKeys κ] in
theorem lookup_eq_none {k : κ} {l : List (κ × α)} (h : ∀ e ∈ l, e.1 ≠ k) : lookup k l = none := by
  induction l with
  | nil => rfl
  | cons hd tl ih =>
    obtain ⟨k', a'⟩ := hd
    have hne : k' ≠ k := h (k', a') (by simp)
    simp only [lookup, hne, if_false]
    exact ih fun e he => h e (by simp [he])

omit [LinearKeys κ] in
theorem lookup_put (k k' : κ) (a : α) (l : List (κ × α)) :
    lookup k' (put k a l) = if k = k' then some a else lookup k' l := by
  induction l with
  | nil => simp [put, lookup]
  | cons hd tl ih =>
    obtain ⟨k'', a''⟩ := hd
    grind [put, lookup]

omit [DecidableLT κ] in
theorem lookup_drop (k k' : κ) {l : List (κ × α)} (h : l.Pairwise (fun x y => x.1 < y.1)) :
    lookup k' (drop k l) = if k = k' then none else lookup k' l := by
  induction l with
  | nil => simp [drop, lookup]
  | cons hd tl ih =>
    obtain ⟨k'', a''⟩ := hd
    rw [List.pairwise_cons] at h
    by_cases hk : k'' = k
    · subst hk
      by_cases hk' : k'' = k'
      · subst hk'
        have : lookup k'' tl = none := lookup_eq_none fun e he heq =>
          LinearKeys.irrefl k'' (by simpa [heq] using h.1 e he)
        simp [drop, this]
      · simp [drop, lookup, hk']
    · have := ih h.2
      grind [drop, lookup]

theorem get?_insert (t : Table κ α) (k k' : κ) (a : α) :
    (t.insert k a).get? k' = if k = k' then some a else t.get? k' :=
  lookup_put k k' a t.entries

@[simp] theorem get?_insert_self (t : Table κ α) (k : κ) (a : α) :
    (t.insert k a).get? k = some a := by
  simp [get?_insert]

theorem get?_insert_of_ne (t : Table κ α) {k k' : κ} (a : α) (h : k ≠ k') :
    (t.insert k a).get? k' = t.get? k' := by
  simp [get?_insert, h]

omit [DecidableLT κ] in
theorem get?_erase (t : Table κ α) (k k' : κ) :
    (t.erase k).get? k' = if k = k' then none else t.get? k' :=
  lookup_drop k k' t.sorted

/-! ### Extensionality -/

omit [DecidableLT κ] in
private theorem entries_eq_of_lookup_eq {l m : List (κ × α)}
    (hl : l.Pairwise (fun x y => x.1 < y.1)) (hm : m.Pairwise (fun x y => x.1 < y.1))
    (h : ∀ k, lookup k l = lookup k m) : l = m := by
  have absent : ∀ {j : κ} {tl : List (κ × α)}, (∀ e ∈ tl, j < e.1) → lookup j tl = none :=
    fun hlt => lookup_eq_none fun e he heq => LinearKeys.irrefl e.1 (by
      have := hlt e he
      simpa [heq] using this)
  induction l generalizing m with
  | nil =>
    cases m with
    | nil => rfl
    | cons hd tl => simpa [lookup] using h hd.1
  | cons hd tl ih =>
    obtain ⟨k, a⟩ := hd
    cases m with
    | nil => simpa [lookup] using h k
    | cons hd' tl' =>
      obtain ⟨k', a'⟩ := hd'
      rw [List.pairwise_cons] at hl hm
      have key : k = k' := by
        rcases LinearKeys.connex k k' with hlt | heq | hlt
        · have hne : k' ≠ k := fun e => LinearKeys.irrefl k (by rw [e] at hlt; exact hlt)
          have hk := h k
          have : lookup k tl' = none :=
            absent fun e he => LinearKeys.trans _ _ _ hlt (hm.1 e he)
          simp [lookup, hne, this] at hk
        · exact heq
        · have hne : k ≠ k' := fun e => LinearKeys.irrefl k (by rw [← e] at hlt; exact hlt)
          have hk := h k'
          have : lookup k' tl = none :=
            absent fun e he => LinearKeys.trans _ _ _ hlt (hl.1 e he)
          simp [lookup, hne, this] at hk
      subst key
      have hval : a = a' := by simpa [lookup] using h k
      subst hval
      have htl : tl = tl' := ih hl.2 hm.2 fun j => by
        by_cases hj : k = j
        · subst hj
          rw [absent hl.1, absent hm.1]
        · simpa [lookup, hj] using h j
      rw [htl]

omit [DecidableLT κ] in
/-- A table is determined by its lookups. -/
theorem ext_get? {s t : Table κ α} (h : ∀ k, s.get? k = t.get? k) : s = t := by
  have := entries_eq_of_lookup_eq s.sorted t.sorted h
  cases s
  cases t
  simpa using this

end Table

end DisplayComposer
