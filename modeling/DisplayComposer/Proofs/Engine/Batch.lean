import DisplayComposer.Hardware.Scripted
import DisplayComposer.Proofs.Engine.Action
import DisplayComposer.Proofs.Engine.Results
/-!
# DisplayComposer.Proofs.Engine.Batch

**A batch is its commands, one after the other.** All the commands of a batch report
into one table. What each of them reports stays apart from the rest: the results of
a batch are those of its commands, in their order (`Engine.outcomes`), as far as
there are indices for them. So a batch can be cut in two at any place, and nothing
but the indices and the count of batches shows where it was cut.

* `Engine.outcomes` — the results of commands, without a table;
* `Engine.execute_eq` — a batch returns these;
* `Engine.outcomes_keeps`, `outcomes_logged` — several commands, as each of them;
* `Engine.outcomes_append`, `outcomes_shift` — cutting them in two, and moving them;
* `Engine.execute_composes` — what that says of a batch.
-/

namespace DisplayComposer

variable {σ ρ : Type}

namespace Engine

theorem counting_self (e : Engine σ ρ) : e.counting e.batches = e := rfl

variable [Hardware σ] [Resources ρ]

/-- What commands report, the first of them at place `n` of its batch. -/
def outcomes : Nat → List DisplayCommand → Engine σ ρ →
    Except Crash (List CommandResult × Engine σ ρ)
  | _, [], e => .ok ([], e)
  | n, c :: rest, e => (Action.command c e).bind fun ran =>
    (outcomes (n + 1) rest ran.engine).map fun later =>
      ((CommandResult.reported (.ofNat n) c.display ran.entries).toList ++ later.1, later.2)

variable {n : Nat} {commands : List DisplayCommand} {e e' : Engine σ ρ}
  {results : List CommandResult}

theorem outcomes_cons_ok {c : DisplayCommand} {rest : List DisplayCommand} :
    outcomes n (c :: rest) e = .ok (results, e') ↔
      ∃ ran later, Action.command c e = .ok ran ∧
        outcomes (n + 1) rest ran.engine = .ok (later, e') ∧
        results = (CommandResult.reported (.ofNat n) c.display ran.entries).toList ++ later := by
  rw [outcomes, Except.bind_eq_ok_iff]
  constructor
  · rintro ⟨ran, hran, hrest⟩
    obtain ⟨later, hlater, hresults⟩ := Except.map_eq_ok_iff.1 hrest
    obtain ⟨rfl, rfl⟩ := Prod.mk.inj hresults
    exact ⟨ran, later.1, hran, hlater, rfl⟩
  · rintro ⟨ran, later, hran, hlater, rfl⟩
    exact ⟨ran, hran, Except.map_eq_ok_iff.2 ⟨(later, e'), hlater, rfl⟩⟩

/-! ### Where results stand -/

theorem toNat_ofNat_of_add_le {n k : Nat} (h : n + (k + 1) ≤ UInt32.size) :
    (UInt32.ofNat n).toNat = n :=
  UInt32.toNat_ofNat_of_lt' (by omega)

theorem length_singleton_le (c : DisplayCommand) : [c].length ≤ UInt32.size := by
  rw [List.length_singleton]
  decide

/-- The commands that are carried out have indices, the first of them zero. -/
theorem zero_add_length_take_le (commands : List DisplayCommand) :
    0 + (commands.take UInt32.size).length ≤ UInt32.size := by
  rw [Nat.zero_add]
  exact List.length_take_le _ _

/-- Every result is about one of the commands. -/
theorem mem_outcomes (hrun : outcomes n commands e = .ok (results, e'))
    (hlen : n + commands.length ≤ UInt32.size) {r : CommandResult} (hr : r ∈ results) :
    ∃ i c, r.index.toNat = n + i ∧ commands[i]? = some c ∧ r.display = c.display := by
  induction commands generalizing n e results with
  | nil =>
    obtain ⟨rfl, rfl⟩ := Prod.mk.inj (Except.ok.inj hrun)
    cases hr
  | cons c rest ih =>
    rw [List.length_cons] at hlen
    obtain ⟨ran, later, -, hlater, rfl⟩ := outcomes_cons_ok.1 hrun
    rcases List.mem_append.1 hr with hr | hr
    · obtain ⟨hindex, hdisplay⟩ := CommandResult.mem_reported hr
      refine ⟨0, c, ?_, rfl, hdisplay⟩
      rw [hindex, toNat_ofNat_of_add_le hlen, Nat.add_zero]
    · obtain ⟨i, c', hindex, hc', hdisplay⟩ := ih hlater (by omega) hr
      exact ⟨i + 1, c', by omega, hc', hdisplay⟩

theorem bounds_of_mem_outcomes (hrun : outcomes n commands e = .ok (results, e'))
    (hlen : n + commands.length ≤ UInt32.size) {r : CommandResult} (hr : r ∈ results) :
    n ≤ r.index.toNat ∧ r.index.toNat < n + commands.length := by
  obtain ⟨i, c, hindex, hc, -⟩ := mem_outcomes hrun hlen hr
  have hi : i < commands.length := (List.getElem?_eq_some_iff.1 hc).1
  omega

/-- Results come in the order of their commands. -/
theorem outcomes_pairwise (hrun : outcomes n commands e = .ok (results, e'))
    (hlen : n + commands.length ≤ UInt32.size) :
    results.Pairwise fun a b => a.index < b.index := by
  induction commands generalizing n e results with
  | nil =>
    obtain ⟨rfl, rfl⟩ := Prod.mk.inj (Except.ok.inj hrun)
    exact .nil
  | cons c rest ih =>
    rw [List.length_cons] at hlen
    obtain ⟨ran, later, -, hlater, rfl⟩ := outcomes_cons_ok.1 hrun
    have hrest : n + 1 + rest.length ≤ UInt32.size := by omega
    refine List.pairwise_append.2 ⟨?_, ih hlater hrest, fun a ha b hb => ?_⟩
    · -- one command has one result at most
      cases CommandResult.reported (.ofNat n) c.display ran.entries with
      | none => exact .nil
      | some r => exact List.pairwise_singleton _ r
    · have hbound := (bounds_of_mem_outcomes hlater hrest hb).1
      rw [(CommandResult.mem_reported ha).1, UInt32.lt_iff_toNat_lt, toNat_ofNat_of_add_le hlen]
      omega

/-! ### A batch -/

/-- The results of later commands come behind those of earlier ones. -/
theorem executeFrom_eq (rs : Results) (e : Engine σ ρ)
    (hlen : n + commands.length ≤ UInt32.size)
    (hrs : ∀ entry ∈ rs.entries, entry.1.toNat < n) :
    (executeFrom n commands rs e).map (fun r => (r.1.entries, r.2)) =
      (outcomes n commands e).map fun r =>
        (rs.entries ++ r.1.map fun result => (result.index, result), r.2) := by
  induction commands generalizing n rs e with
  | nil => simp [executeFrom, outcomes, Except.map]
  | cons c rest ih =>
    rw [List.length_cons] at hlen
    have hindex := toNat_ofNat_of_add_le hlen
    rw [executeFrom, outcomes, if_pos (by omega : n < UInt32.size)]
    cases hran : Action.command c e with
    | error crash => rfl
    | ok ran =>
      -- all that was written before stands under smaller indices
      have hbehind : ∀ entry ∈ rs.entries, entry.1 < UInt32.ofNat n := by
        intro entry hentry
        rw [UInt32.lt_iff_toNat_lt, hindex]
        exact hrs entry hentry
      have hentries := Results.writeAll_entries c.display ran.entries hbehind
      -- and what it writes itself stands under `n`, as the later commands need it
      have hnext : ∀ entry ∈ (rs.writeAll (.ofNat n) c.display ran.entries).entries,
          entry.1.toNat < n + 1 := by
        intro entry hentry
        rw [hentries] at hentry
        rcases List.mem_append.1 hentry with hold | hnew
        · have := hrs entry hold
          omega
        · obtain ⟨r, hr, rfl⟩ := List.mem_map.1 hnew
          rw [(CommandResult.mem_reported hr).1, hindex]
          omega
      show (executeFrom (n + 1) rest _ ran.engine).map _ = ((outcomes (n + 1) rest _).map _).map _
      rw [ih _ ran.engine (by omega) hnext, hentries]
      cases outcomes (n + 1) rest ran.engine with
      | error crash => rfl
      | ok later => simp [Except.map]

/-- Commands have nothing to do with the count of batches. -/
theorem outcomes_counting (n k : Nat) (commands : List DisplayCommand) (e : Engine σ ρ) :
    outcomes n commands (e.counting k) =
      (outcomes n commands e).map fun r => (r.1, r.2.counting k) := by
  induction commands generalizing n e with
  | nil => rfl
  | cons c rest ih =>
    rw [outcomes, outcomes, (Action.composed_command (τ := σ) c).counting]
    cases Action.command c e with
    | error crash => rfl
    | ok ran =>
      show (outcomes (n + 1) rest (ran.engine.counting k)).map _ = ((outcomes _ _ _).map _).map _
      rw [ih]
      cases outcomes (n + 1) rest ran.engine <;> rfl

theorem batches_of_outcomes (hrun : outcomes n commands e = .ok (results, e')) :
    e'.batches = e.batches := by
  have hsame := outcomes_counting n e.batches commands e
  rw [counting_self, hrun] at hsame
  exact congrArg (fun r => r.2.batches) (Except.ok.inj hsame)

/-- **A batch returns what its commands report,** and counts itself. -/
theorem execute_eq (commands : List DisplayCommand) (e : Engine σ ρ)
    (hlen : commands.length ≤ UInt32.size) :
    e.execute commands =
      (outcomes 0 commands e).map fun r => (r.1, r.2.counting (e.batches + 1)) := by
  have hempty : ∀ entry ∈ (Table.empty : Results).entries, entry.1.toNat < 0 :=
    fun entry hentry => nomatch hentry
  have hexecute : e.execute commands =
      ((executeFrom 0 commands .empty e).map fun r => (r.1.entries, r.2)).map
        fun r => (r.1.map Prod.snd, r.2.counting (r.2.batches + 1)) := by
    show (executeFrom 0 commands .empty e).bind _ = _
    cases executeFrom 0 commands .empty e <;> rfl
  rw [hexecute, executeFrom_eq .empty e (by omega) hempty]
  cases hout : outcomes 0 commands e with
  | error crash => rfl
  | ok out => simp [Except.map, Table.empty, Function.comp_def, batches_of_outcomes hout]

theorem execute_ok (hlen : commands.length ≤ UInt32.size) :
    e.execute commands = .ok (results, e') ↔
      ∃ last, outcomes 0 commands e = .ok (results, last) ∧ e' = last.counting (e.batches + 1) := by
  rw [execute_eq commands e hlen, Except.map_eq_ok_iff]
  constructor
  · rintro ⟨r, hout, hresults⟩
    obtain ⟨rfl, rfl⟩ := Prod.mk.inj hresults
    exact ⟨r.2, hout, rfl⟩
  · rintro ⟨last, hout, rfl⟩
    exact ⟨(results, last), hout, rfl⟩

/-- A command as a batch of its own. -/
theorem execute_singleton_ok {c : DisplayCommand} :
    e.execute [c] = .ok (results, e') ↔
      ∃ ran, Action.command c e = .ok ran ∧
        results = (CommandResult.reported (.ofNat 0) c.display ran.entries).toList ∧
        e' = ran.engine.counting (e.batches + 1) := by
  rw [execute_ok (length_singleton_le c)]
  constructor
  · rintro ⟨last, hout, rfl⟩
    obtain ⟨ran, later, hran, hlater, rfl⟩ := outcomes_cons_ok.1 hout
    obtain ⟨rfl, rfl⟩ := Prod.mk.inj (Except.ok.inj hlater)
    exact ⟨ran, hran, List.append_nil _, rfl⟩
  · rintro ⟨ran, hran, rfl, rfl⟩
    exact ⟨ran.engine, outcomes_cons_ok.2 ⟨ran, [], hran, rfl, (List.append_nil _).symm⟩, rfl⟩

/-- It is the same one whatever number it has. -/
theorem execute_singleton_counting {c : DisplayCommand} {ran : Ran σ ρ Unit}
    (hrun : Action.command c e = .ok ran) (k : Nat) :
    (e.counting k).execute [c] =
      .ok ((CommandResult.reported (.ofNat 0) c.display ran.entries).toList,
        ran.engine.counting (k + 1)) := by
  have hcounting := (Action.composed_command (τ := σ) c).counting k e
  rw [hrun] at hcounting
  exact execute_singleton_ok.2 ⟨_, hcounting, rfl, rfl⟩

/-! ### Running commands on hardware -/

/-- Commands touch the hardware by calls only. -/
theorem outcomes_reaches (hrun : outcomes n commands e = .ok (results, e')) :
    Hardware.Reaches e.hardware e'.hardware := by
  induction commands generalizing n e results with
  | nil =>
    obtain ⟨rfl, rfl⟩ := Prod.mk.inj (Except.ok.inj hrun)
    exact .refl
  | cons c rest ih =>
    obtain ⟨ran, later, hran, hlater, rfl⟩ := outcomes_cons_ok.1 hrun
    exact ((Action.composed_command (τ := σ) c).reaches hran).trans (ih hlater)

/-- What every command keeps, several of them keep. -/
theorem outcomes_keeps {P : Engine σ ρ → Prop} (hP : ∀ c ∈ commands, (Action.command c).Keeps P)
    (h : P e) (hrun : outcomes n commands e = .ok (results, e')) : P e' := by
  induction commands generalizing n e results with
  | nil =>
    obtain ⟨rfl, rfl⟩ := Prod.mk.inj (Except.ok.inj hrun)
    exact h
  | cons c rest ih =>
    obtain ⟨ran, later, hran, hlater, rfl⟩ := outcomes_cons_ok.1 hrun
    exact ih (fun other hother => hP other (List.mem_cons_of_mem _ hother))
      (hP c (List.mem_cons_self ..) e ran h hran) hlater

/-- Commands return if the hardware does. -/
theorem outcomes_returns (hardware : ∀ (call : Call) (s : σ), ∃ r, Hardware.perform call s = .ok r)
    (n : Nat) (commands : List DisplayCommand) (e : Engine σ ρ) :
    ∃ results e', outcomes n commands e = .ok (results, e') := by
  induction commands generalizing n e with
  | nil => exact ⟨[], e, rfl⟩
  | cons c rest ih =>
    obtain ⟨ran, hran⟩ := (Action.composed_command (τ := σ) c).returns hardware e
    obtain ⟨later, e', hlater⟩ := ih (n + 1) ran.engine
    exact ⟨_, e', outcomes_cons_ok.2 ⟨ran, later, hran, hlater, rfl⟩⟩

/-- Commands do the same on hardware that keeps a log. -/
theorem outcomes_logged_eq (n : Nat) (commands : List DisplayCommand) (e : Engine σ ρ)
    (log : List Event) :
    ∃ more, outcomes n commands (e.logged log) =
      (outcomes n commands e).map fun r => (r.1, r.2.logged more) := by
  induction commands generalizing n e log with
  | nil => exact ⟨log, rfl⟩
  | cons c rest ih =>
    obtain ⟨between, hfirst⟩ := (Action.composed_command c).logged_eq e log
    rw [outcomes, outcomes, hfirst]
    cases Action.command c e with
    | error crash => exact ⟨log, rfl⟩
    | ok ran =>
      obtain ⟨more, hrest⟩ := ih (n + 1) ran.engine between
      refine ⟨more, ?_⟩
      show (outcomes (n + 1) rest (ran.engine.logged between)).map _ =
        ((outcomes _ _ _).map _).map _
      rw [hrest]
      cases outcomes (n + 1) rest ran.engine <;> rfl

theorem outcomes_logged (hrun : outcomes n commands e = .ok (results, e')) (log : List Event) :
    ∃ more, outcomes n commands (e.logged log) = .ok (results, e'.logged more) := by
  obtain ⟨more, hmore⟩ := outcomes_logged_eq n commands e log
  rw [hrun] at hmore
  exact ⟨more, hmore⟩

/-- Commands without an index are left out. -/
theorem executeFrom_take (n : Nat) (commands : List DisplayCommand) (rs : Results)
    (e : Engine σ ρ) :
    executeFrom n commands rs e = executeFrom n (commands.take (UInt32.size - n)) rs e := by
  induction commands generalizing n rs e with
  | nil => rw [List.take_nil]
  | cons c rest ih =>
    by_cases hn : n < UInt32.size
    · have hleft : UInt32.size - n = UInt32.size - (n + 1) + 1 := by omega
      rw [hleft, List.take_succ_cons, executeFrom, executeFrom, if_pos hn, if_pos hn]
      congr 1
      funext ran
      exact ih (n + 1) _ ran.engine
    · have hnone : UInt32.size - n = 0 := by omega
      rw [hnone, List.take_zero, executeFrom, executeFrom, if_neg hn]

theorem execute_take (commands : List DisplayCommand) (e : Engine σ ρ) :
    e.execute commands = e.execute (commands.take UInt32.size) := by
  rw [execute, execute, executeFrom_take 0 commands]
  rfl

/-- A batch returns if the hardware does. -/
theorem execute_returns (commands : List DisplayCommand) (e : Engine σ ρ)
    (hardware : ∀ (call : Call) (s : σ), ∃ r, Hardware.perform call s = .ok r) :
    ∃ results e', e.execute commands = .ok (results, e') := by
  obtain ⟨results, last, hout⟩ := outcomes_returns hardware 0 (commands.take UInt32.size) e
  rw [execute_take]
  exact ⟨results, _, (execute_ok (List.length_take_le _ _)).2 ⟨last, hout, rfl⟩⟩

/-- A batch that returns has carried out the commands that have an index. -/
theorem outcomes_of_execute (hrun : e.execute commands = .ok (results, e')) :
    ∃ last, outcomes 0 (commands.take UInt32.size) e = .ok (results, last) ∧
      e' = last.counting (e.batches + 1) := by
  rw [execute_take] at hrun
  exact (execute_ok (List.length_take_le _ _)).1 hrun

/-! ### Cutting a batch in two -/

theorem outcomes_append (n : Nat) (xs ys : List DisplayCommand) (e : Engine σ ρ) :
    outcomes n (xs ++ ys) e = (outcomes n xs e).bind fun first =>
      (outcomes (n + xs.length) ys first.2).map fun second =>
        (first.1 ++ second.1, second.2) := by
  induction xs generalizing n e with
  | nil =>
    show outcomes n ys e = (outcomes n ys e).map _
    cases outcomes n ys e <;> rfl
  | cons c rest ih =>
    rw [List.cons_append, outcomes, outcomes]
    cases Action.command c e with
    | error crash => rfl
    | ok ran =>
      show (outcomes (n + 1) (rest ++ ys) _).map _ = ((outcomes (n + 1) rest _).map _).bind _
      rw [ih, List.length_cons, Nat.add_right_comm, Nat.add_assoc n rest.length 1]
      cases outcomes (n + 1) rest ran.engine with
      | error crash => rfl
      | ok first =>
        show ((outcomes _ ys first.2).map _).map _ = (outcomes _ ys first.2).map _
        cases outcomes (n + (rest.length + 1)) ys first.2 with
        | error crash => rfl
        | ok second => simp [Except.map]

/-- Commands that stand `n` places further back report the same. -/
theorem outcomes_shift (m n : Nat) (commands : List DisplayCommand) (e : Engine σ ρ) :
    outcomes (m + n) commands e =
      (outcomes m commands e).map fun r => (r.1.map (·.shift n), r.2) := by
  induction commands generalizing m e with
  | nil => rfl
  | cons c rest ih =>
    rw [outcomes, outcomes]
    cases Action.command c e with
    | error crash => rfl
    | ok ran =>
      show (outcomes (m + n + 1) rest _).map _ = ((outcomes (m + 1) rest _).map _).map _
      rw [Nat.add_right_comm, ih, CommandResult.reported_add]
      cases outcomes (m + 1) rest ran.engine with
      | error crash => rfl
      | ok later =>
        cases CommandResult.reported (.ofNat m) c.display ran.entries <;> simp [Except.map]

/-- A batch in two parts, with the results of the second moved behind the first. -/
theorem execute_append (xs ys : List DisplayCommand) (e : Engine σ ρ)
    (hlen : (xs ++ ys).length ≤ UInt32.size) :
    e.execute (xs ++ ys) = do
      let (first, e₁) ← e.execute xs
      let (second, e₂) ← e₁.execute ys
      return (first ++ second.map (·.shift xs.length), e₂.counting e₁.batches) := by
  have hlens : xs.length + ys.length ≤ UInt32.size := List.length_append ▸ hlen
  rw [execute_eq _ e hlen, execute_eq xs e (by omega), outcomes_append]
  cases outcomes 0 xs e with
  | error crash => rfl
  | ok first =>
    show ((outcomes (0 + xs.length) ys first.2).map _).map _ =
      ((first.2.counting (e.batches + 1)).execute ys).bind _
    rw [execute_eq ys _ (by omega), outcomes_shift, outcomes_counting]
    cases outcomes 0 ys first.2 <;> rfl

/-! ### One command of a batch -/

theorem outcomes_append_ok {xs ys : List DisplayCommand}
    (hrun : outcomes n (xs ++ ys) e = .ok (results, e')) :
    ∃ first e₁ second, outcomes n xs e = .ok (first, e₁) ∧
      outcomes (n + xs.length) ys e₁ = .ok (second, e') ∧ results = first ++ second := by
  rw [outcomes_append, Except.bind_eq_ok_iff] at hrun
  obtain ⟨first, hfirst, hrest⟩ := hrun
  obtain ⟨second, hsecond, hresults⟩ := Except.map_eq_ok_iff.1 hrest
  obtain ⟨rfl, rfl⟩ := Prod.mk.inj hresults
  exact ⟨first.1, first.2, second.1, hfirst, hsecond, rfl⟩

/-- What a command reports stands between what the commands before it report and
what those behind it do. -/
theorem outcomes_at (hrun : outcomes 0 commands e = .ok (results, e')) {i : Nat}
    {c : DisplayCommand} (hc : commands[i]? = some c) :
    ∃ before alone later e₁ e₂, outcomes 0 (commands.take i) e = .ok (before, e₁) ∧
      outcomes 0 [c] e₁ = .ok (alone, e₂) ∧
      outcomes (i + 1) (commands.drop (i + 1)) e₂ = .ok (later, e') ∧
      results = before ++ (alone.map (·.shift i) ++ later) := by
  obtain ⟨hi, rfl⟩ := List.getElem?_eq_some_iff.1 hc
  have hcut : commands = commands.take i ++ ([commands[i]] ++ commands.drop (i + 1)) := by
    rw [List.singleton_append, List.getElem_cons_drop, List.take_append_drop]
  have hplace : (commands.take i).length = i := List.length_take_of_le (by omega)
  -- one cut in front of the command, and one behind it
  rw [hcut] at hrun
  obtain ⟨before, e₁, rest, hbefore, hrest, rfl⟩ := outcomes_append_ok hrun
  obtain ⟨moved, e₂, later, hmoved, hlater, rfl⟩ := outcomes_append_ok hrest
  rw [hplace] at hmoved hlater
  rw [outcomes_shift, Except.map_eq_ok_iff] at hmoved
  obtain ⟨alone, halone, hresults⟩ := hmoved
  obtain ⟨rfl, rfl⟩ := Prod.mk.inj hresults
  rw [Nat.zero_add] at hlater
  exact ⟨before, alone.1, later, e₁, alone.2, hbefore, halone, hlater, rfl⟩

/-- The result of a command is what it returns as a batch of its own, after the
commands before it. -/
theorem filter_index_execute (hlen : commands.length ≤ UInt32.size)
    (hrun : e.execute commands = .ok (results, e')) {i : Nat} {c : DisplayCommand}
    (hc : commands[i]? = some c) :
    ∃ before alone e₁ e₂, e.execute (commands.take i) = .ok (before, e₁) ∧
      e₁.execute [c] = .ok (alone, e₂) ∧
      results.filter (fun r => r.index.toNat = i) = alone.map (·.shift i) := by
  obtain ⟨last, hrun, -⟩ := (execute_ok hlen).1 hrun
  obtain ⟨before, alone, later, e₁, e₂, hbefore, halone, hlater, rfl⟩ := outcomes_at hrun hc
  have hi : i < commands.length := (List.getElem?_eq_some_iff.1 hc).1
  have hplace : (commands.take i).length = i := List.length_take_of_le (by omega)
  refine ⟨before, alone, e₁.counting (e.batches + 1), e₂.counting (e.batches + 1 + 1),
    (execute_ok (by omega)).2 ⟨e₁, hbefore, rfl⟩, ?_, ?_⟩
  · refine (execute_ok (length_singleton_le c)).2 ⟨e₂.counting (e.batches + 1), ?_, rfl⟩
    rw [outcomes_counting, halone]
    rfl
  · have hnobefore : before.filter (fun r => r.index.toNat = i) = [] := by
      refine List.filter_eq_nil_iff.2 fun r hr hindex => ?_
      have hbound := (bounds_of_mem_outcomes hbefore (by omega) hr).2
      rw [decide_eq_true_eq] at hindex
      omega
    have hnolater : later.filter (fun r => r.index.toNat = i) = [] := by
      refine List.filter_eq_nil_iff.2 fun r hr hindex => ?_
      have hbound := (bounds_of_mem_outcomes hlater (by rw [List.length_drop]; omega) hr).1
      rw [decide_eq_true_eq] at hindex
      omega
    have hall : (alone.map (·.shift i)).filter (fun r => r.index.toNat = i) =
        alone.map (·.shift i) := by
      refine List.filter_eq_self.2 fun r hr => ?_
      -- moved by `i`, the results are those of the command in its place
      have hmoved : outcomes (0 + i) [c] e₁ = .ok (alone.map (·.shift i), e₂) := by
        rw [outcomes_shift, halone]
        rfl
      have hbound := bounds_of_mem_outcomes hmoved (by rw [List.length_singleton]; omega) hr
      rw [List.length_singleton] at hbound
      rw [decide_eq_true_eq]
      omega
    rw [List.filter_append, List.filter_append, hnobefore, hnolater, hall, List.append_nil,
      List.nil_append]

/-- **Results belong to their commands, and batches can be cut in two.** Results come
in the order of their indices, each for the display of its command. What stands at an
index is what the command there returns as a batch of its own, after the commands
before it. Only the count of batches tells two batches from one. -/
theorem execute_composes (commands : List DisplayCommand) (e : Engine σ ρ)
    (hlen : commands.length ≤ UInt32.size) :
    (∀ results e', e.execute commands = .ok (results, e') →
      results.Pairwise (fun a b => a.index < b.index) ∧
      (∀ r ∈ results, ∃ c, commands[r.index.toNat]? = some c ∧ r.display = c.display) ∧
      ∀ i c, commands[i]? = some c → ∃ before alone e₁ e₂,
        e.execute (commands.take i) = .ok (before, e₁) ∧ e₁.execute [c] = .ok (alone, e₂) ∧
        results.filter (fun r => r.index.toNat = i) = alone.map (·.shift i)) ∧
    ∀ xs ys, commands = xs ++ ys →
      e.execute commands = do
        let (first, e₁) ← e.execute xs
        let (second, e₂) ← e₁.execute ys
        return (first ++ second.map (·.shift xs.length), { e₂ with batches := e₁.batches }) := by
  refine ⟨fun results e' hrun => ?_, ?_⟩
  · obtain ⟨last, hout, -⟩ := (execute_ok hlen).1 hrun
    refine ⟨outcomes_pairwise hout (by omega), fun r hr => ?_, fun i c hc => ?_⟩
    · obtain ⟨i, c, hindex, hc, hdisplay⟩ := mem_outcomes hout (by omega) hr
      rw [Nat.zero_add] at hindex
      exact ⟨c, hindex ▸ hc, hdisplay⟩
    · exact filter_index_execute hlen hrun hc
  · rintro xs ys rfl
    exact execute_append xs ys e hlen

/-- Hardware on which the first frame cannot be shown. -/
def stalled : Engine Scripted Cache :=
  .start ⟨1, [("present_display", { Response.plain with failure := some .noResources })]⟩ .empty

/-- Two frames for one display, and a command that has nothing to report. -/
def twoFrames : List DisplayCommand :=
  [{ DisplayCommand.idle 0 with present := true }, .idle 1,
    { DisplayCommand.idle 0 with present := true }]

theorem execute_composes_stalled : ∃ results e', stalled.execute twoFrames = .ok (results, e') ∧
    results.map (fun r => (r.index, r.errors.length)) = [(0, 1), (2, 0)] ∧
    results.Pairwise (fun a b => a.index < b.index) ∧
    stalled.execute twoFrames = do
      let (first, e₁) ← stalled.execute (twoFrames.take 2)
      let (second, e₂) ← e₁.execute (twoFrames.drop 2)
      return (first ++ second.map (·.shift 2), { e₂ with batches := e₁.batches }) := by
  have composes := execute_composes twoFrames stalled (by decide)
  exact ⟨_, _, rfl, by decide, (composes.1 _ _ rfl).1, composes.2 _ _ rfl⟩

end Engine

end DisplayComposer
