import DisplayComposer.Proofs.Engine.Operations
import DisplayComposer.Proofs.Engine.Results
/-!
# DisplayComposer.Proofs.Engine.Failures

**Failures are recorded completely and exactly.** Every operation of a command is reported
for the command alone (`Action.made_command`), so the errors of its result are the failures
of its operations, in the order in which they were done. A hint that the hardware ignores, a
question that it does not answer and an attempt of present-or-validate to present are no
failures of the command. A command has a result if it recorded an error, or if the hardware
answered an attempt to validate or to present. Which operations a command has made is told by
its calls, so for every command of a batch it is settled what its result has to say.

* `Event.Answered` — the answers that make a result;
* `Operation.Reported` — operations, and what stands in the results for them;
* `Engine.Made.reported` — for one command;
* `Engine.outcomes_operations` — what is done for some commands, one after the other;
* `Engine.execute_failures` — for all commands of a batch.
-/

namespace DisplayComposer

/-! ### The entries of operations -/

/-- A display was validated, or a frame shown. -/
def Event.Answered (event : Event) : Prop :=
  event.outcome.isOk = true ∧
    ∃ display, event.call = .validate display ∨ event.call = .present display

theorem Event.answer_ne_nil_iff {event : Event} : event.answer ≠ [] ↔ event.Answered := by
  obtain ⟨call, out⟩ := event
  cases call <;> cases out <;> simp [answer, Answered, Except.isOk, Except.toBool]

namespace CommandResult

theorem errors_of_mem_reported {index : UInt32} {display : DisplayId} {entries : List Entry}
    {r : CommandResult} (h : r ∈ (reported index display entries).toList) :
    r.errors = entries.filterMap Entry.code? := by
  obtain rfl := eq_of_mem_reported h
  rw [errors_foldl_add]
  rfl

theorem reported_eq_nil_iff {index : UInt32} {display : DisplayId} {entries : List Entry} :
    (reported index display entries).toList = [] ↔ entries = [] := by
  rw [reported]
  split
  · simp_all
  · simp_all

end CommandResult

namespace Operation

/-- No answer is an error. -/
theorem filterMap_code?_answer (event : Event) : event.answer.filterMap Entry.code? = [] := by
  unfold Event.answer
  split
  · rfl
  · split <;> rfl
  · rfl

theorem filterMap_code?_entries (op : Operation) :
    op.entries.filterMap Entry.code? = (op.recorded?.map HardwareError.code).toList := by
  cases op with
  | refused refusal => rfl
  | call short event =>
    rw [entries, List.filterMap_append, filterMap_code?_answer, List.nil_append]
    cases (call short event).recorded? <;> rfl

/-- Something is reported of an operation if it failed, or was answered. -/
theorem entries_ne_nil_iff {op : Operation} : op.entries ≠ [] ↔
    op.recorded?.isSome = true ∨ ∃ event, op.event? = some event ∧ event.Answered := by
  cases op with
  | refused refusal => simp [entries, recorded?]
  | call short event =>
    rw [entries, ne_eq, List.append_eq_nil_iff, Classical.not_and_iff_not_or_not, ← ne_eq,
      Event.answer_ne_nil_iff]
    cases (call short event).recorded? <;> simp [event?]

end Operation

namespace Engine

variable {σ α : Type} {e : Engine (Logged σ) Cache} {ops : List Operation}
  {ran : Ran (Logged σ) Cache α}

theorem Made.codes (h : e.Made ops ran) :
    ran.entries.filterMap Entry.code? =
      (ops.filterMap Operation.recorded?).map HardwareError.code := by
  rw [h.filterMap (fun _ => rfl) Operation.filterMap_code?_entries, List.map_filterMap]

/-- A command reports something if one of its operations failed or was answered. -/
theorem Made.entries_ne_nil_iff (h : e.Made ops ran) : ran.entries ≠ [] ↔
    ops.filterMap Operation.recorded? ≠ [] ∨
      ∃ event ∈ ops.filterMap Operation.event?, event.Answered := by
  have hops : (∃ op ∈ ops, op.entries ≠ []) ↔ ops.filterMap Operation.recorded? ≠ [] ∨
      ∃ event ∈ ops.filterMap Operation.event?, event.Answered := by
    simp only [Operation.entries_ne_nil_iff, ne_eq, List.filterMap_eq_nil_iff, List.mem_filterMap,
      Option.isSome_iff_ne_none]
    grind
  rw [← hops]
  constructor
  · intro hsome
    by_cases hany : ran.entries.any Entry.isOutcome = true
    · obtain ⟨op, hop, event, hevent, hanswer⟩ := h.outcome hany
      exact ⟨op, hop, Operation.entries_ne_nil_iff.2
        (.inr ⟨event, hevent, Event.answer_ne_nil_iff.1 hanswer⟩)⟩
    · -- there is no outcome among the entries, so they are those of the operations
      have hall : ran.entries.filter (!·.isOutcome) = ran.entries := by
        refine List.filter_eq_self.2 fun entry hentry => ?_
        rw [Bool.not_eq_true', Bool.eq_false_iff]
        exact fun hout => hany (List.any_eq_true.2 ⟨entry, hentry, hout⟩)
      rw [← hall, h.entries] at hsome
      obtain ⟨entry, hentry⟩ := List.exists_mem_of_ne_nil _ hsome
      obtain ⟨op, hop, hmem⟩ := List.mem_flatMap.1 hentry
      exact ⟨op, hop, List.ne_nil_of_mem hmem⟩
  · rintro ⟨op, hop, hsome⟩ hnone
    obtain ⟨entry, hentry⟩ := List.exists_mem_of_ne_nil _ hsome
    have hmem : entry ∈ ops.flatMap Operation.entries := List.mem_flatMap.2 ⟨op, hop, hentry⟩
    rw [← h.entries, hnone] at hmem
    cases hmem

end Engine

/-! ### Results -/

namespace Operation

/-- What stands in some results for the operations of the command at a place: the failures
among them, and nothing at all if there is none and nothing was answered. -/
structure Reported (results : List CommandResult) (place : Nat) (ops : List Operation) : Prop where
  errors : ∀ r ∈ results, r.index.toNat = place →
    r.errors = (ops.filterMap recorded?).map HardwareError.code
  listed : (∃ r ∈ results, r.index.toNat = place) ↔
    ops.filterMap recorded? ≠ [] ∨ ∃ event ∈ ops.filterMap event?, event.Answered

variable {results more : List CommandResult} {place : Nat} {ops : List Operation}

/-- Results for other commands have no say in it. -/
theorem Reported.append_left (h : Reported results place ops)
    (hmore : ∀ r ∈ more, r.index.toNat ≠ place) : Reported (more ++ results) place ops where
  errors r hr hplace := by
    rcases List.mem_append.1 hr with hr | hr
    · exact absurd hplace (hmore r hr)
    · exact h.errors r hr hplace
  listed := by
    rw [← h.listed]
    grind

theorem Reported.append_right (h : Reported results place ops)
    (hmore : ∀ r ∈ more, r.index.toNat ≠ place) : Reported (results ++ more) place ops where
  errors r hr hplace := by
    rcases List.mem_append.1 hr with hr | hr
    · exact h.errors r hr hplace
    · exact absurd hplace (hmore r hr)
  listed := by
    rw [← h.listed]
    grind

end Operation

namespace Engine

/-- The result of one command. -/
theorem Made.reported {σ α : Type} {e : Engine (Logged σ) Cache} {ops : List Operation}
    {ran : Ran (Logged σ) Cache α} (h : e.Made ops ran) (display : DisplayId) {n : Nat}
    (hn : n < UInt32.size) :
    Operation.Reported (CommandResult.reported (.ofNat n) display ran.entries).toList n ops where
  errors r hr _ := (CommandResult.errors_of_mem_reported hr).trans h.codes
  listed := by
    rw [← h.entries_ne_nil_iff, ne_eq, ← @CommandResult.reported_eq_nil_iff (.ofNat n) display]
    constructor
    · rintro ⟨r, hr, -⟩
      exact List.ne_nil_of_mem hr
    · intro hsome
      obtain ⟨r, hr⟩ := List.exists_mem_of_ne_nil _ hsome
      exact ⟨r, hr, by rw [(CommandResult.mem_reported hr).1, UInt32.toNat_ofNat_of_lt' hn]⟩

variable {σ : Type} [Hardware σ]

/-- The operations of some commands, the first of them at place `n`, on hardware that keeps
a log: those of each command are what it does after the commands before it. -/
theorem outcomes_operations {n : Nat} {commands : List DisplayCommand}
    {e e' : Engine (Logged σ) Cache} {results : List CommandResult}
    (hrun : outcomes n commands e = .ok (results, e'))
    (hlen : n + commands.length ≤ UInt32.size) :
    ∃ work : List (List Operation), work.length = commands.length ∧
      e'.hardware.log = e.hardware.log ++ work.flatten.filterMap Operation.event? ∧
      ∀ i c ops, commands[i]? = some c → work[i]? = some ops →
        (∃ before e₁ ran, outcomes n (commands.take i) e = .ok (before, e₁) ∧
          Action.command c e₁ = .ok ran ∧ c.Carries e₁.resources ops ∧ e₁.Made ops ran) ∧
        Operation.Reported results (n + i) ops := by
  induction commands generalizing n e results with
  | nil =>
    obtain ⟨rfl, rfl⟩ := Prod.mk.inj (Except.ok.inj hrun)
    exact ⟨[], rfl, (List.append_nil _).symm, fun i c ops hc => by simp at hc⟩
  | cons c rest ih =>
    rw [List.length_cons] at hlen
    obtain ⟨ran, later, hran, hlater, rfl⟩ := outcomes_cons_ok.1 hrun
    obtain ⟨ops, hcarries, hmade⟩ := Action.made_command hran
    obtain ⟨work, hlength, hlog, hrest⟩ := ih hlater (by omega)
    refine ⟨ops :: work, by rw [List.length_cons, List.length_cons, hlength], ?_, ?_⟩
    · rw [hlog, hmade.log, List.flatten_cons, List.filterMap_append, List.append_assoc]
    · intro i other others hother hothers
      cases i with
      | zero =>
        obtain rfl : c = other := by simpa using hother
        obtain rfl : ops = others := by simpa using hothers
        refine ⟨⟨[], e, ran, rfl, hran, hcarries, hmade⟩, ?_⟩
        refine (hmade.reported c.display (by omega)).append_right fun r hr hplace => ?_
        have hbound := (bounds_of_mem_outcomes hlater (by omega) hr).1
        omega
      | succ i =>
        rw [List.getElem?_cons_succ] at hother hothers
        obtain ⟨⟨before, e₁, ran', hbefore, hdone⟩, hreported⟩ :=
          hrest i other others hother hothers
        rw [Nat.add_right_comm, Nat.add_assoc] at hreported
        refine ⟨⟨_, e₁, ran', outcomes_cons_ok.2 ⟨ran, before, hran, hbefore, rfl⟩, hdone⟩, ?_⟩
        refine hreported.append_left fun r hr hplace => ?_
        rw [(CommandResult.mem_reported hr).1, toNat_ofNat_of_add_le hlen] at hplace
        omega

/-- **Failures are recorded completely and exactly.** Whatever the hardware does, and whatever
the cache holds: what is done for a batch is what is done for its commands, one after the
other. The operations of a command are those that it asks for, as the cache stands after the
commands before it, with the calls that it then makes if it is carried out by itself; no other
operations come to these calls. The errors of its result are the failures of its operations, in
their order, but for those of hints, of questions, and of attempts to present that
present-or-validate makes. There is a result for a command exactly if there is such a failure,
or if an attempt to validate or present was answered; and there are no other results. -/
theorem execute_failures (commands : List DisplayCommand) (e : Engine σ Cache) :
    ((∀ (call : Call) (s : σ), ∃ r, Hardware.perform call s = .ok r) →
      ∃ results e', e.execute commands = .ok (results, e')) ∧
    ∀ results e', e.execute commands = .ok (results, e') →
      ∃ (log : List Event) (work : List (List Operation)),
        (e.logged []).execute commands = .ok (results, e'.logged log) ∧
        log = work.flatten.filterMap Operation.event? ∧
        work.length = (commands.take UInt32.size).length ∧
        (∀ r ∈ results, r.index.toNat < work.length) ∧
        ∀ i c ops, commands[i]? = some c → work[i]? = some ops →
          (∃ before alone e₁ e₂, (e.logged []).execute (commands.take i) = .ok (before, e₁) ∧
            e₁.execute [c] = .ok (alone, e₂) ∧
            ∀ others, (c.Carries e₁.resources others ∧
              others.filterMap Operation.event? = e₁.calls e₂) ↔ others = ops) ∧
          Operation.Reported results i ops := by
  refine ⟨execute_returns commands e, fun results e' hrun => ?_⟩
  obtain ⟨last, hout, rfl⟩ := outcomes_of_execute hrun
  obtain ⟨log, hlogged⟩ := outcomes_logged hout []
  have hlen := zero_add_length_take_le commands
  obtain ⟨work, hlength, hlog, hops⟩ := outcomes_operations hlogged hlen
  have hrunLogged : (e.logged []).execute commands =
      .ok (results, (last.counting (e.batches + 1)).logged log) := by
    rw [execute_take]
    exact (execute_ok (List.length_take_le _ _)).2 ⟨_, hlogged, rfl⟩
  refine ⟨log, work, hrunLogged, hlog, hlength, fun r hr => ?_, fun i c ops hc hi => ?_⟩
  · rw [hlength]
    simpa using (bounds_of_mem_outcomes hout hlen hr).2
  · have hplace : i < (commands.take UInt32.size).length :=
      hlength ▸ (List.getElem?_eq_some_iff.1 hi).1
    have hsize : i < UInt32.size := Nat.lt_of_lt_of_le hplace (List.length_take_le _ _)
    have hc' : (commands.take UInt32.size)[i]? = some c := by
      rw [List.getElem?_take_of_lt hsize, hc]
    obtain ⟨⟨before, e₁, ran, hbefore, hran, hcarries, hmade⟩, hreported⟩ := hops i c ops hc' hi
    rw [List.take_take, Nat.min_eq_left (Nat.le_of_lt hsize)] at hbefore
    have hshort : (commands.take i).length ≤ UInt32.size :=
      Nat.le_trans (List.length_take_le _ _) (Nat.le_of_lt hsize)
    have hbatch : (e.logged []).execute (commands.take i) =
        .ok (before, e₁.counting (e.batches + 1)) := (execute_ok hshort).2 ⟨e₁, hbefore, rfl⟩
    rw [Nat.zero_add] at hreported
    refine ⟨⟨before, _, _, _, hbatch, execute_singleton_counting hran _, fun others => ?_⟩,
      hreported⟩
    -- the calls of a command do not depend on the count of batches
    show c.Carries e₁.resources others ∧ _ = e₁.calls ran.engine ↔ _
    rw [hmade.calls]
    constructor
    · rintro ⟨hothers, hcalls⟩
      exact hothers.unique hcarries hcalls
    · rintro rfl
      exact ⟨hcarries, rfl⟩

/-- A command for which everything goes wrong, and one that is to be presented or validated
after that. -/
def unlucky : List DisplayCommand :=
  misdirected ++ [{ DisplayCommand.idle 0 with presentOrValidate := true }]

/-- On hardware that fails at everything, the client target is found, and not taken; the cache
refuses the output buffer; the hint fails, which is not recorded, and then the attempt to
validate. The second command fails three times, and what is recorded of it is recorded under
its own index: the attempt to validate, but not the hint, nor the attempt to present. -/
theorem execute_failures_broken :
    ∃ results e', ∃ (log : List Event) (first second : List Operation),
      (start Broken.mk oneTarget).execute unlucky = .ok (results, e') ∧
        results.map (fun r => (r.index, r.errors)) = [(0, [6, 8, 6]), (1, [6])] ∧
        ((start Broken.mk oneTarget).logged []).execute unlucky = .ok (results, e'.logged log) ∧
        log = (first ++ second).filterMap Operation.event? ∧
        (second.filterMap Operation.event?).map (·.call) =
          [.set 0 (.property (.expectedPresentTime none)), .present 0, .validate 0] ∧
        Operation.Reported results 0 first ∧ Operation.Reported results 1 second := by
  let broken : Engine Broken Cache := .start .mk oneTarget
  obtain ⟨hreturns, hfailures⟩ := execute_failures unlucky broken
  obtain ⟨results, e', hrun⟩ := hreturns fun call s => ⟨_, rfl⟩
  obtain ⟨log, work, hlogged, hlog, hlength, -, hops⟩ := hfailures results e' hrun
  have herrors : (broken.execute unlucky).toOption.map
      (fun r => r.1.map fun r => (r.index, r.errors)) = some [(0, [6, 8, 6]), (1, [6])] := by
    decide +kernel
  rw [hrun] at herrors
  -- there are two commands, and so two lists of operations
  obtain ⟨first, rest, rfl⟩ := List.exists_cons_of_length_eq_add_one hlength
  obtain ⟨second, rfl⟩ := List.length_eq_one_iff.1 (Nat.succ.inj hlength)
  obtain ⟨-, hfirst⟩ := hops 0 _ first rfl rfl
  obtain ⟨⟨before, alone, e₁, e₂, hbefore, halone, honly⟩, hsecond⟩ := hops 1 _ second rfl rfl
  have hcalls : (((broken.logged []).execute (unlucky.take 1)).bind fun r =>
      (r.2.execute (unlucky.drop 1)).map fun s => (r.2.calls s.2).map (·.call)).toOption =
        some [.set 0 (.property (.expectedPresentTime none)), .present 0, .validate 0] := by
    decide +kernel
  rw [hbefore] at hcalls
  change ((e₁.execute [_]).map _).toOption = _ at hcalls
  rw [halone] at hcalls
  refine ⟨results, e', log, first, second, hrun, Option.some.inj herrors, hlogged, ?_, ?_, hfirst,
    hsecond⟩
  · rw [hlog, List.flatten_cons, List.flatten_singleton]
  · rw [((honly second).2 rfl).2]
    exact Option.some.inj hcalls

end Engine

end DisplayComposer
