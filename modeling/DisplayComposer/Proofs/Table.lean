import DisplayComposer.Table
/-!
# DisplayComposer.Proofs.Table

**Tables and their entries.** `get?` decides what a table is, and the list of its
entries is what answers are made of. These lemmas lead from one to the other:
writing what is there changes nothing, the last of two writes counts, and a key
greater than all others is written at the end.

* `insert_self`, `insert_insert` — writing twice;
* `mem_entries_iff`, `get?_of_mem_values` — entries through lookups;
* `entries_insert_of_forall_lt` — appending;
* `values_insert_perm`, `values_perm_erase` — no value is lost or doubled;
* `mapValues` — changing every value where it stands.
-/

namespace DisplayComposer

namespace Table

variable {κ α β : Type} [LT κ] [DecidableEq κ]

/-! ### Entries and lookups -/

omit [LT κ] in
theorem mem_of_lookup {k : κ} {a : α} {l : List (κ × α)} (h : lookup k l = some a) :
    (k, a) ∈ l := by
  induction l with
  | nil => simp [lookup] at h
  | cons hd tl ih =>
    obtain ⟨k', a'⟩ := hd
    rw [lookup] at h
    by_cases hk : k' = k
    · rw [if_pos hk] at h
      obtain rfl := Option.some.inj h
      exact hk ▸ List.mem_cons_self ..
    · rw [if_neg hk] at h
      exact List.mem_cons_of_mem _ (ih h)

theorem lookup_of_mem [LinearKeys κ] {k : κ} {a : α} {l : List (κ × α)}
    (hl : l.Pairwise (fun x y => x.1 < y.1)) (h : (k, a) ∈ l) : lookup k l = some a := by
  induction l with
  | nil => simp at h
  | cons hd tl ih =>
    obtain ⟨k', a'⟩ := hd
    rw [List.pairwise_cons] at hl
    rw [lookup]
    rcases List.mem_cons.1 h with heq | htl
    · obtain ⟨rfl, rfl⟩ := Prod.mk.inj heq
      rw [if_pos rfl]
    · have hlt : k' < k := hl.1 (k, a) htl
      have hne : k' ≠ k := fun e => LinearKeys.irrefl k (by rwa [e] at hlt)
      rw [if_neg hne]
      exact ih hl.2 htl

/-- The entries are the pairs that a lookup finds. -/
theorem mem_entries_iff [LinearKeys κ] {t : Table κ α} {k : κ} {a : α} :
    (k, a) ∈ t.entries ↔ t.get? k = some a :=
  ⟨lookup_of_mem t.sorted, mem_of_lookup⟩

theorem mem_values_iff [LinearKeys κ] {t : Table κ α} {a : α} :
    a ∈ t.values ↔ ∃ k, t.get? k = some a := by
  simp only [values, List.mem_map, Prod.exists, exists_eq_right, mem_entries_iff]

omit [DecidableEq κ] in
/-- No key occurs twice. -/
theorem keys_nodup [LinearKeys κ] (t : Table κ α) : t.keys.Nodup := by
  rw [keys, List.nodup_iff_pairwise_ne, List.pairwise_map]
  refine t.sorted.imp fun hlt heq => ?_
  rw [heq] at hlt
  exact LinearKeys.irrefl _ hlt

/-! ### Writing -/

section Insert

variable [DecidableLT κ] [LinearKeys κ]

/-- Writing what is there already changes nothing. -/
theorem insert_self {t : Table κ α} {k : κ} {a : α} (h : t.get? k = some a) :
    t.insert k a = t := by
  refine ext_get? fun k' => ?_
  rw [get?_insert]
  by_cases hk : k = k'
  · rw [if_pos hk, ← hk, h]
  · rw [if_neg hk]

/-- Of two writes under one key the last one counts. -/
@[simp] theorem insert_insert (t : Table κ α) (k : κ) (a b : α) :
    (t.insert k a).insert k b = t.insert k b := by
  refine ext_get? fun k' => ?_
  by_cases hk : k = k' <;> simp [get?_insert, hk]

omit [DecidableEq κ] [DecidableLT κ] in
private theorem not_lt_of_lt {a b : κ} (h : a < b) : ¬ b < a :=
  fun h' => LinearKeys.irrefl a (LinearKeys.trans _ _ _ h h')

/-- A key greater than all others is written at the end. -/
theorem entries_insert_of_forall_lt {t : Table κ α} {k : κ} (a : α)
    (h : ∀ e ∈ t.entries, e.1 < k) : (t.insert k a).entries = t.entries ++ [(k, a)] := by
  show put k a t.entries = _
  revert h
  generalize t.entries = l
  intro h
  induction l with
  | nil => rfl
  | cons hd tl ih =>
    obtain ⟨k', a'⟩ := hd
    have hlt : k' < k := h (k', a') (List.mem_cons_self ..)
    have hne : k' ≠ k := fun e => LinearKeys.irrefl k (by rwa [e] at hlt)
    rw [put, if_neg (not_lt_of_lt hlt), if_neg hne,
      ih fun e he => h e (List.mem_cons_of_mem _ he)]
    rfl

theorem mem_of_get?_foldl_insert {k : κ} {a : α} {l : List (κ × α)} {t : Table κ α}
    (h : (l.foldl (fun t e => t.insert e.1 e.2) t).get? k = some a) :
    (k, a) ∈ l ∨ t.get? k = some a := by
  induction l generalizing t with
  | nil => exact .inr h
  | cons e rest ih =>
    rcases ih h with hmem | hget
    · exact .inl (List.mem_cons_of_mem _ hmem)
    · rw [get?_insert] at hget
      by_cases hk : e.1 = k
      · rw [if_pos hk] at hget
        obtain rfl := Option.some.inj hget
        exact .inl (hk ▸ List.mem_cons_self ..)
      · rw [if_neg hk] at hget
        exact .inr hget

/-- What is found in a table made of a list is in the list. -/
theorem mem_of_get?_ofList {k : κ} {a : α} {l : List (κ × α)}
    (h : (ofList l).get? k = some a) : (k, a) ∈ l :=
  (mem_of_get?_foldl_insert h).resolve_right (by simp)

/-- What is written under a key stays, if it is not written under this key again. -/
theorem get?_foldl_insert_of_notMem {k : κ} {l : List (κ × α)} (hl : k ∉ l.map Prod.fst)
    (t : Table κ α) : (l.foldl (fun t e => t.insert e.1 e.2) t).get? k = t.get? k := by
  induction l generalizing t with
  | nil => rfl
  | cons e rest ih =>
    rw [List.map_cons, List.mem_cons, not_or] at hl
    rw [List.foldl_cons, ih hl.2, get?_insert_of_ne _ _ (Ne.symm hl.1)]

theorem get?_foldl_insert_of_mem {k : κ} {a : α} {l : List (κ × α)}
    (hnodup : (l.map Prod.fst).Nodup) (hmem : (k, a) ∈ l) (t : Table κ α) :
    (l.foldl (fun t e => t.insert e.1 e.2) t).get? k = some a := by
  induction l generalizing t with
  | nil => cases hmem
  | cons e rest ih =>
    rw [List.map_cons, List.nodup_cons] at hnodup
    rw [List.foldl_cons]
    rcases List.mem_cons.1 hmem with rfl | hrest
    · rw [get?_foldl_insert_of_notMem hnodup.1, get?_insert_self]
    · exact ih hnodup.2 hrest _

/-- A table made of a list without a key twice holds what is in the list. -/
theorem get?_ofList_iff {k : κ} {a : α} {l : List (κ × α)} (hnodup : (l.map Prod.fst).Nodup) :
    (ofList l).get? k = some a ↔ (k, a) ∈ l :=
  ⟨mem_of_get?_ofList, fun hmem => get?_foldl_insert_of_mem hnodup hmem _⟩

end Insert

/-! ### Values come and go one by one -/

omit [LT κ] in
private theorem map_snd_lookup_drop (k : κ) (l : List (κ × α)) :
    ((lookup k l).toList ++ (drop k l).map Prod.snd).Perm (l.map Prod.snd) := by
  induction l with
  | nil => exact .refl _
  | cons hd tl ih =>
    obtain ⟨k', a'⟩ := hd
    rw [drop, lookup]
    split
    · exact .refl _
    · exact List.perm_middle.trans (ih.cons a')

/-- Erasing a key takes out the value that stood under it, and no other. -/
theorem values_perm_erase [LinearKeys κ] (t : Table κ α) (k : κ) :
    t.values.Perm ((t.get? k).toList ++ (t.erase k).values) :=
  (map_snd_lookup_drop k t.entries).symm

@[simp] theorem erase_empty [LinearKeys κ] (k : κ) : (empty : Table κ α).erase k = empty := rfl

theorem erase_of_get? [LinearKeys κ] {t : Table κ α} {k : κ} (h : t.get? k = none) :
    t.erase k = t := by
  refine ext_get? fun k' => ?_
  rw [get?_erase]
  by_cases hk : k = k'
  · rw [if_pos hk, ← hk, h]
  · rw [if_neg hk]

section Insert

variable [DecidableLT κ] [LinearKeys κ]

@[simp] theorem erase_insert (t : Table κ α) (k : κ) (a : α) :
    (t.insert k a).erase k = t.erase k := by
  refine ext_get? fun k' => ?_
  by_cases hk : k = k' <;> simp [get?_erase, get?_insert, hk]

@[simp] theorem insert_erase (t : Table κ α) (k : κ) (a : α) :
    (t.erase k).insert k a = t.insert k a := by
  refine ext_get? fun k' => ?_
  by_cases hk : k = k' <;> simp [get?_erase, get?_insert, hk]

/-- Writing under a key puts the value in place of the one that stood there. -/
theorem values_insert_perm (t : Table κ α) (k : κ) (a : α) :
    (t.insert k a).values.Perm (a :: (t.erase k).values) := by
  have hperm := (t.insert k a).values_perm_erase k
  rwa [get?_insert_self, erase_insert] at hperm

end Insert

/-! ### Changing every value -/

/-- Every value changed, depending on its key. -/
def mapValues (f : κ → α → β) (t : Table κ α) : Table κ β where
  entries := t.entries.map fun e => (e.1, f e.1 e.2)
  sorted := by
    rw [List.pairwise_map]
    exact t.sorted

omit [LT κ] in
theorem lookup_map (f : κ → α → β) (k : κ) (l : List (κ × α)) :
    lookup k (l.map fun e => (e.1, f e.1 e.2)) = (lookup k l).map (f k) := by
  induction l with
  | nil => rfl
  | cons hd tl ih =>
    obtain ⟨k', a'⟩ := hd
    by_cases hk : k' = k
    · subst hk
      simp [lookup]
    · simp [lookup, hk, ih]

@[simp] theorem get?_mapValues (f : κ → α → β) (t : Table κ α) (k : κ) :
    (t.mapValues f).get? k = (t.get? k).map (f k) :=
  lookup_map f k t.entries

/-- Tables with values at the same keys have the same keys. -/
theorem keys_eq_of_isSome [LinearKeys κ] {s : Table κ α} {t : Table κ β}
    (h : ∀ k, (s.get? k).isSome = (t.get? k).isSome) : s.keys = t.keys := by
  have hmarks : s.mapValues (fun _ _ => ()) = t.mapValues fun _ _ => () := by
    refine ext_get? fun k => ?_
    rw [get?_mapValues, get?_mapValues]
    match s.get? k, t.get? k, h k with
    | none, none, _ => rfl
    | some _, some _, _ => rfl
  have hkeys := congrArg keys hmarks
  simpa [keys, mapValues, Function.comp_def] using hkeys

theorem mapValues_insert [DecidableLT κ] [LinearKeys κ] (f : κ → α → β) (t : Table κ α) (k : κ)
    (a : α) :
    (t.insert k a).mapValues f = (t.mapValues f).insert k (f k a) := by
  refine ext_get? fun other => ?_
  rw [get?_mapValues, get?_insert, get?_insert, get?_mapValues]
  split
  · rename_i heq
    rw [Option.map_some, heq]
  · rfl

theorem mapValues_erase [LinearKeys κ] (f : κ → α → β) (t : Table κ α) (k : κ) :
    (t.erase k).mapValues f = (t.mapValues f).erase k := by
  refine ext_get? fun other => ?_
  rw [get?_mapValues, get?_erase, get?_erase, get?_mapValues]
  split <;> rfl

end Table

end DisplayComposer
