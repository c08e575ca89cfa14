import DisplayComposer.Proofs.Toml.Reader
/-!
# DisplayComposer.Proofs.Toml.Document

**Documents read back.** A document whose tables hold settings only is written as lines that say
one statement after the other: the settings outside of tables, and every table under its header.
The statements build the document again, with the settings in front of the tables. So what is
read has the entries that were written, and every key its value.

* `Settings`, `Writable`, `Document.Plain` — the documents that a text holds as they are;
* `Blocks`, `says_text` — what the text of a document says;
* `Holds` — a table that settings are added to, somewhere in a document;
* `build?_statementsOf` — what the statements of a document build;
* `Document.read?_text` — the text of a document is read as its entries.
-/

namespace DisplayComposer.Toml

/-! ### What a text can hold -/

/-- A table of settings. -/
structure Settings (es : Entries) : Prop where
  keys : (es.map Prod.fst).Nodup
  bare : ∀ e ∈ es, Bare e.1
  flat : ∀ e ∈ es, Document.isSection e.2 = false

/-- A value of a document: one on a line of its own, or settings under headers. -/
inductive Writable : Value → Prop where
  | setting {v : Value} : Document.isSection v = false → Writable v
  | table {es : Entries} : Settings es → Writable (.table .headed es)
  | tables {earlier : List Entries} {last : Entries} :
      (∀ es ∈ earlier ++ [last], Settings es) → Writable (.tables earlier last)

/-- A document of settings and tables of settings. -/
structure Document.Plain (es : Entries) : Prop where
  keys : (es.map Prod.fst).Nodup
  bare : ∀ e ∈ es, Bare e.1
  writable : ∀ e ∈ es, Writable e.2

namespace Document

/-! ### What the text says -/

/-- The settings of a table, as statements. -/
def settingsOf (es : Entries) : List Statement :=
  (es.filter fun e => !isSection e.2).map fun e => .setting ⟨[], e.1⟩ e.2

/-- What is written under headers for an entry, as statements. -/
def sectionsOf (k : String) : Value → List Statement
  | .table _ es => .header ⟨[], k⟩ :: settingsOf es
  | .tables earlier last =>
    (earlier ++ [last]).flatMap fun es => .element ⟨[], k⟩ :: settingsOf es
  | _ => []

/-- A document, as statements. -/
def statementsOf (es : Entries) : List Statement :=
  settingsOf es ++ es.flatMap fun e => sectionsOf e.1 e.2

/-- Blocks of lines, and the statements that they say. -/
inductive Blocks : List (List Char) → List Statement → Prop where
  | nil : Blocks [] []
  | cons {block : List Char} {blocks : List (List Char)} {statements more : List Statement} :
      Says block statements → Blocks blocks more → Blocks (block :: blocks) (statements ++ more)

theorem Blocks.append {blocks blocks' : List (List Char)} {statements statements' : List Statement}
    (h : Blocks blocks statements) (h' : Blocks blocks' statements') :
    Blocks (blocks ++ blocks') (statements ++ statements') := by
  induction h with
  | nil => exact h'
  | cons hblock _ ih =>
    rw [List.append_assoc]
    exact .cons hblock ih

/-- Empty lines between blocks say nothing. -/
theorem Blocks.says_intercalate {blocks : List (List Char)} {statements : List Statement}
    (h : Blocks blocks statements) : Says (['\n'].intercalate blocks) statements := by
  induction h with
  | nil => exact says_nil
  | @cons block blocks statements more hblock hblocks ih =>
    cases hblocks with
    | nil =>
      rw [List.append_nil]
      simpa [List.intercalate] using hblock
    | cons hnext hrest =>
      have hline := hblock.append (says_empty.append ih)
      simpa [List.intercalate, List.intersperse] using hline

variable {es : Entries} {k : String} {v : Value} {text : List Char}

theorem says_lines (hbare : ∀ e ∈ es, Bare e.1) (h : linesText? es = some text) :
    Says text (settingsOf es) := by
  obtain ⟨lines, hlines, heq⟩ := Option.bind_eq_some_iff.1 h
  cases heq
  have hbare : ∀ e ∈ es.filter fun e => !isSection e.2, Bare e.1 := fun e he =>
    hbare e (List.mem_filter.1 he).1
  rw [settingsOf]
  generalize es.filter (fun e => !isSection e.2) = settings at hbare hlines
  clear h
  induction settings generalizing lines with
  | nil =>
    cases hlines
    exact says_nil
  | cons e settings ih =>
    obtain ⟨hfirst, hbare⟩ := List.forall_mem_cons.1 hbare
    rw [List.mapM_cons] at hlines
    obtain ⟨line, hline, hlines⟩ := Option.bind_eq_some_iff.1 hlines
    obtain ⟨more, hmore, heq⟩ := Option.bind_eq_some_iff.1 hlines
    obtain ⟨value, hvalue, hline⟩ := Option.bind_eq_some_iff.1 hline
    cases heq
    cases hline
    rw [List.flatten_cons, List.map_cons, ← List.singleton_append]
    exact (says_setting hfirst hvalue).append (ih more hbare hmore)

theorem blocks_of_blocks? (hk : Bare k) (hv : Writable v) {blocks : List (List Char)}
    (h : blocks? k v = some blocks) : Blocks blocks (sectionsOf k v) := by
  cases hv with
  | @setting v hflat =>
    cases v with
    | table | tables => cases hflat
    | _ =>
      cases h
      exact .nil
  | @table es hes =>
    obtain ⟨lines, hlines, heq⟩ := Option.bind_eq_some_iff.1 h
    cases heq
    have hblock := (says_header hk).append (says_lines hes.bare hlines)
    exact List.append_nil (sectionsOf k (.table .headed es)) ▸ .cons hblock .nil
  | @tables earlier last hall =>
    rw [sectionsOf]
    rw [blocks?] at h
    generalize earlier ++ [last] = all at hall h
    induction all generalizing blocks with
    | nil =>
      cases h
      exact .nil
    | cons es all ih =>
      obtain ⟨hes, hall⟩ := List.forall_mem_cons.1 hall
      rw [List.mapM_cons] at h
      obtain ⟨block, hblock, h⟩ := Option.bind_eq_some_iff.1 h
      obtain ⟨more, hmore, heq⟩ := Option.bind_eq_some_iff.1 h
      obtain ⟨lines, hlines, hblock⟩ := Option.bind_eq_some_iff.1 hblock
      cases heq
      cases hblock
      exact .cons ((says_element hk).append (says_lines hes.bare hlines)) (ih hall hmore)

theorem blocks_of_mapM (hbare : ∀ e ∈ es, Bare e.1) (hwritable : ∀ e ∈ es, Writable e.2)
    {blocks : List (List (List Char))}
    (h : (es.mapM fun (k, v) => blocks? k v) = some blocks) :
    Blocks blocks.flatten (es.flatMap fun e => sectionsOf e.1 e.2) := by
  induction es generalizing blocks with
  | nil =>
    cases h
    exact .nil
  | cons e es ih =>
    obtain ⟨hk, hbare⟩ := List.forall_mem_cons.1 hbare
    obtain ⟨hv, hwritable⟩ := List.forall_mem_cons.1 hwritable
    rw [List.mapM_cons] at h
    obtain ⟨first, hfirst, h⟩ := Option.bind_eq_some_iff.1 h
    obtain ⟨more, hmore, heq⟩ := Option.bind_eq_some_iff.1 h
    cases heq
    rw [List.flatten_cons, List.flatMap_cons]
    exact (blocks_of_blocks? hk hv hfirst).append (ih hbare hwritable hmore)

/-- What the text of a document says. -/
theorem says_text (hes : Plain es) (h : text? es = some text) : Says text (statementsOf es) := by
  obtain ⟨settings, hsettings, h⟩ := Option.bind_eq_some_iff.1 h
  obtain ⟨blocks, hblocks, heq⟩ := Option.bind_eq_some_iff.1 h
  cases heq
  have hlines := says_lines hes.bare hsettings
  have hsections := blocks_of_mapM hes.bare hes.writable hblocks
  cases settings with
  | nil =>
    -- there are no settings, and no block for them
    exact hlines.append hsections.says_intercalate
  | cons c cs => exact (Blocks.cons hlines hsections).says_intercalate

/-- A text whose lines say statements has no mark in front. -/
theorem skipMark_of_reads {statements : List Statement} (h : Reads text statements) :
    skipMark text = text := by
  unfold skipMark
  split
  · rename_i cs
    have hnone : readLine? ('\ufeff' :: cs) = none := rfl
    have hread := h (cs.length + 1) (Nat.le_refl _)
    rw [readLines?, hnone] at hread
    · cases hread
    · simp
  · rfl

/-! ### What the statements build -/

theorem lookup_eq_none {es : Entries} {k : String} (h : k ∉ es.map Prod.fst) :
    es.lookup k = none := by
  rw [List.lookup_eq_none_iff]
  intro e he
  rw [bne_iff_ne]
  rintro rfl
  exact h (List.mem_map_of_mem he)

/-- Where no key occurs twice, the key of an entry is not among those before it. -/
theorem lookup_eq_none_of_nodup {before after : Entries} {e : String × Value}
    (h : ((before ++ e :: after).map Prod.fst).Nodup) : before.lookup e.1 = none := by
  refine lookup_eq_none fun hmem => ?_
  rw [List.map_append, List.nodup_append] at h
  exact h.2.2 e.1 hmem e.1 (List.mem_cons_self ..) rfl

/-- The last entry is set anew. -/
theorem put_append_singleton {root : Entries} {k : String} (h : root.lookup k = none)
    (v w : Value) : put k w (root ++ [(k, v)]) = root ++ [(k, w)] := by
  induction root with
  | nil => exact if_pos rfl
  | cons e root ih =>
    obtain ⟨l, u⟩ := e
    rw [List.lookup_cons] at h
    split at h
    · cases h
    · rename_i hk
      have hl : l ≠ k := fun he => by simp [he] at hk
      rw [List.cons_append, put, if_neg hl, ih h, List.cons_append]

theorem lookup_append_singleton {root : Entries} {k : String} (h : root.lookup k = none)
    (v : Value) : (root ++ [(k, v)]).lookup k = some v := by
  rw [← put_eq_append v h, lookup_put_self]

/-- A document in which the settings of a table are added where it says. -/
def Holds (here : List String) (document : Entries → Entries) : Prop :=
  ∀ key v inner inner', assign key v .headed inner = some inner' →
    within .implied (assign key v) .headed here (document inner) = some (document inner')

theorem holds_root : Holds [] id := fun _ _ _ _ h => h

theorem holds_table {root : Entries} (h : root.lookup k = none) :
    Holds [k] fun inner => root ++ [(k, .table .headed inner)] := by
  intro key v inner inner' hassign
  rw [within, lookup_append_singleton h]
  dsimp only
  rw [if_neg (by simp), within, hassign]
  exact congrArg some (put_append_singleton h _ _)

theorem holds_tables {root : Entries} (h : root.lookup k = none) (earlier : List Entries) :
    Holds [k] fun inner => root ++ [(k, .tables earlier inner)] := by
  intro key v inner inner' hassign
  rw [within, lookup_append_singleton h]
  dsimp only
  rw [within, hassign]
  exact congrArg some (put_append_singleton h _ _)

/-- Settings are added in their order. -/
theorem foldlM_settingsOf {here : List String} {document : Entries → Entries}
    (hdocument : Holds here document) {done es : Entries}
    (hkeys : ((done ++ es.filter fun e => !isSection e.2).map Prod.fst).Nodup) :
    (settingsOf es).foldlM add ⟨document done, here⟩ =
      some ⟨document (done ++ es.filter fun e => !isSection e.2), here⟩ := by
  rw [settingsOf]
  generalize es.filter (fun e => !isSection e.2) = settings at hkeys ⊢
  induction settings generalizing done with
  | nil =>
    rw [List.append_nil]
    rfl
  | cons e settings ih =>
    obtain ⟨k, v⟩ := e
    have hnew : done.lookup k = none := lookup_eq_none_of_nodup hkeys
    have hassign : assign ⟨[], k⟩ v .headed done = some (done ++ [(k, v)]) := by
      rw [assign, within, hnew, ← put_eq_append v hnew]
      exact if_neg (by simp)
    have hadd : add ⟨document done, here⟩ (.setting ⟨[], k⟩ v) =
        some ⟨document (done ++ [(k, v)]), here⟩ := by
      rw [add, hdocument _ _ _ _ hassign]
      rfl
    rw [List.append_cons] at hkeys ⊢
    rw [List.map_cons, List.foldlM_cons, hadd]
    exact ih hkeys

/-- The settings of a table fill it. -/
theorem foldlM_settings {here : List String} {document : Entries → Entries}
    (hdocument : Holds here document) {es : Entries} (hes : Settings es) :
    (settingsOf es).foldlM add ⟨document [], here⟩ = some ⟨document es, here⟩ := by
  have hall : (es.filter fun e => !isSection e.2) = es :=
    List.filter_eq_self.2 fun e he => by rw [hes.flat e he]; rfl
  have hfilled := @foldlM_settingsOf here document hdocument [] es
  rw [hall, List.nil_append] at hfilled
  exact hfilled hes.keys

/-- A header and the settings below it make a table. -/
theorem foldlM_table {root : Entries} {k : String} (h : root.lookup k = none)
    (here : List String) {es : Entries} (hes : Settings es) :
    (sectionsOf k (.table .headed es)).foldlM add ⟨root, here⟩ =
      some ⟨root ++ [(k, .table .headed es)], [k]⟩ := by
  have hopen : add ⟨root, here⟩ (.header ⟨[], k⟩) =
      some ⟨root ++ [(k, .table .headed [])], [k]⟩ := by
    rw [add, openTable, within, h, ← put_eq_append _ h]
    rfl
  rw [sectionsOf, List.foldlM_cons, hopen]
  exact foldlM_settings (holds_table h) hes

/-- Every further element follows those that are there. -/
theorem foldlM_elements {root : Entries} {k : String} (h : root.lookup k = none)
    {earlier earlier' rest : List Entries} {last last' : Entries}
    (hrest : ∀ es ∈ rest, Settings es) (hsplit : earlier ++ last :: rest = earlier' ++ [last']) :
    (rest.flatMap fun es => .element ⟨[], k⟩ :: settingsOf es).foldlM add
        ⟨root ++ [(k, .tables earlier last)], [k]⟩ =
      some ⟨root ++ [(k, .tables earlier' last')], [k]⟩ := by
  induction rest generalizing earlier last with
  | nil =>
    obtain ⟨rfl, hlast⟩ := List.append_inj' hsplit rfl
    obtain rfl := List.singleton_inj.1 hlast
    rfl
  | cons es rest ih =>
    obtain ⟨hes, hrest⟩ := List.forall_mem_cons.1 hrest
    have hopen : add ⟨root ++ [(k, .tables earlier last)], [k]⟩ (.element ⟨[], k⟩) =
        some ⟨root ++ [(k, .tables (earlier ++ [last]) [])], [k]⟩ := by
      have hput := put_append_singleton h (.tables earlier last) (.tables (earlier ++ [last]) [])
      rw [add, openElement, within, lookup_append_singleton h]
      dsimp only
      rw [hput]
      rfl
    rw [List.append_cons] at hsplit
    rw [List.flatMap_cons, List.foldlM_append, List.foldlM_cons, hopen]
    have hfilled := foldlM_settings (holds_tables h (earlier ++ [last])) hes
    show (List.foldlM _ _ _ >>= _) = _
    rw [hfilled]
    exact ih hrest hsplit

/-- Headers of one array make its tables. -/
theorem foldlM_tables {root : Entries} {k : String} (h : root.lookup k = none)
    (here : List String) {earlier : List Entries} {last : Entries}
    (hall : ∀ es ∈ earlier ++ [last], Settings es) :
    (sectionsOf k (.tables earlier last)).foldlM add ⟨root, here⟩ =
      some ⟨root ++ [(k, .tables earlier last)], [k]⟩ := by
  have hopen : add ⟨root, here⟩ (.element ⟨[], k⟩) =
      some ⟨root ++ [(k, .tables [] [])], [k]⟩ := by
    rw [add, openElement, within, h, ← put_eq_append _ h]
    rfl
  rw [sectionsOf]
  cases hsplit : earlier ++ [last] with
  | nil => simp at hsplit
  | cons first rest =>
    rw [hsplit] at hall
    obtain ⟨hfirst, hrest⟩ := List.forall_mem_cons.1 hall
    rw [List.flatMap_cons, List.foldlM_append, List.foldlM_cons, hopen]
    have hfilled := foldlM_settings (holds_tables h []) hfirst
    show (List.foldlM _ _ _ >>= _) = _
    rw [hfilled]
    exact foldlM_elements h hrest hsplit.symm

/-- The tables of a document are made in their order. -/
theorem foldlM_sections {done es : Entries} (here : List String)
    (hkeys : ((done ++ es.filter fun e => isSection e.2).map Prod.fst).Nodup)
    (hwritable : ∀ e ∈ es, Writable e.2) :
    ∃ here', (es.flatMap fun e => sectionsOf e.1 e.2).foldlM add ⟨done, here⟩ =
      some ⟨done ++ es.filter fun e => isSection e.2, here'⟩ := by
  induction es generalizing done here with
  | nil => exact ⟨here, by rw [List.filter_nil, List.append_nil]; rfl⟩
  | cons e es ih =>
    obtain ⟨k, v⟩ := e
    obtain ⟨hv, hwritable⟩ := List.forall_mem_cons.1 hwritable
    rw [List.flatMap_cons, List.foldlM_append]
    by_cases hsection : isSection v = true
    · rw [List.filter_cons_of_pos (by exact hsection)] at hkeys ⊢
      have hnew : done.lookup k = none := lookup_eq_none_of_nodup hkeys
      rw [List.append_cons] at hkeys ⊢
      have hmade : (sectionsOf k v).foldlM add ⟨done, here⟩ = some ⟨done ++ [(k, v)], [k]⟩ := by
        cases hv with
        | setting hflat =>
          rw [hflat] at hsection
          cases hsection
        | table hes => exact foldlM_table hnew here hes
        | tables hall => exact foldlM_tables hnew here hall
      obtain ⟨here', hrest⟩ := ih [k] hkeys hwritable
      exact ⟨here', by rw [hmade]; exact hrest⟩
    · rw [List.filter_cons_of_neg (by exact hsection)] at hkeys ⊢
      have hnone : sectionsOf k v = [] := by
        cases v with
        | table | tables => exact absurd rfl hsection
        | _ => rfl
      obtain ⟨here', hrest⟩ := ih here hkeys hwritable
      exact ⟨here', by rw [hnone]; exact hrest⟩

/-- The entries of a document in the order in which they are written. -/
def arranged (es : Entries) : Entries :=
  (es.filter fun e => !isSection e.2) ++ es.filter fun e => isSection e.2

theorem arranged_perm (es : Entries) : (arranged es).Perm es := by
  have hsplit := List.filter_append_perm (fun e : String × Value => isSection e.2) es
  exact List.perm_append_comm.trans hsplit

/-- The statements of a document build it again, with the settings in front. -/
theorem build?_statementsOf (hes : Plain es) : build? (statementsOf es) = some (arranged es) := by
  have hkeys : ((arranged es).map Prod.fst).Nodup :=
    (((arranged_perm es).map Prod.fst).nodup_iff).2 hes.keys
  have hsettings : (settingsOf es).foldlM add empty =
      some ⟨es.filter fun e => !isSection e.2, []⟩ := by
    refine @foldlM_settingsOf [] id holds_root [] es ?_
    rw [arranged, List.map_append, List.nodup_append] at hkeys
    exact hkeys.1
  obtain ⟨here, hsections⟩ := foldlM_sections [] hkeys hes.writable
  have hall : (statementsOf es).foldlM add empty = some ⟨arranged es, here⟩ := by
    rw [statementsOf, List.foldlM_append, hsettings]
    exact hsections
  rw [build?, hall]
  rfl

/-- **A document reads back,** with the settings in front of the tables. -/
theorem read?_text (hes : Plain es) (h : text? es = some text) :
    read? (String.ofList text) = some (arranged es) := by
  have hreads := says_text hes h [] [] reads_nil
  rw [List.append_nil, List.append_nil] at hreads
  have hstatements : statements? text = some (statementsOf es) :=
    hreads text.length (Nat.le_refl _)
  rw [read?, String.toList_ofList, skipMark_of_reads hreads, hstatements]
  exact build?_statementsOf hes

end Document

end DisplayComposer.Toml
