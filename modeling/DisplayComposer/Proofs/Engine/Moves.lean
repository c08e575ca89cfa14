import DisplayComposer.Proofs.Engine.Lockstep
/-!
# DisplayComposer.Proofs.Engine.Moves

**Between two requests, and within one.** The engine carries out the commands of a batch
one after the other, and what it does for one of them depends on where the commands before
it have led. So a run has more points than those between its requests. A `Move` leads from
one point to the next: it is one command of a batch, or the end of a batch, or a request as
a whole. A request is the moves that it is made of (`handle_moves`), so every point that a
run of requests goes through is reached by moves.

* `Engine.Move`, `Engine.moveAll` — moves, and runs of them;
* `Engine.handle_moves` — a request as moves;
* `Engine.keeps_move`, `moveAll_keeps` — what moves keep.
-/

namespace DisplayComposer

/-- What leads from one point of a run to the next. -/
inductive Engine.Move where
  /-- One command of a batch. -/
  | command (c : DisplayCommand)
  /-- A batch is done, and counted. -/
  | finish
  | request (request : Request)

namespace Engine

/-- The commands that are carried out in a move. -/
def Move.commands : Move → List DisplayCommand
  | .command c => [c]
  | .request (.execute commands) => commands
  | _ => []

/-- The moves that a request is made of. -/
def requestMoves : Request → List Move
  | .execute commands => (commands.take UInt32.size).map .command ++ [.finish]
  | request => [.request request]

variable {σ ρ : Type} [Hardware σ] [Resources ρ]

def move : Move → Engine σ ρ → Except Crash (Engine σ ρ)
  | .command c, e => (Action.command c e).map (·.engine)
  | .finish, e => .ok (e.counting (e.batches + 1))
  | .request request, e => (e.handle request).map (·.2)

/-- The engine after some moves, if none of them stops the program. -/
def moveAll : List Move → Engine σ ρ → Except Crash (Engine σ ρ)
  | [], e => .ok e
  | m :: rest, e => (e.move m).bind (moveAll rest)

variable {e e' f g : Engine σ ρ} {m : Move} {moves : List Move}

theorem moveAll_cons_ok {rest : List Move} :
    e.moveAll (m :: rest) = .ok g ↔ ∃ f, e.move m = .ok f ∧ f.moveAll rest = .ok g := by
  rw [moveAll, Except.bind_eq_ok_iff]

theorem moveAll_append (xs ys : List Move) (e : Engine σ ρ) :
    e.moveAll (xs ++ ys) = (e.moveAll xs).bind (moveAll ys) := by
  induction xs generalizing e with
  | nil => rfl
  | cons m rest ih =>
    rw [List.cons_append, moveAll, moveAll]
    cases e.move m with
    | error crash => rfl
    | ok f => exact ih f

theorem moveAll_append_ok {xs ys : List Move} :
    e.moveAll (xs ++ ys) = .ok g ↔ ∃ f, e.moveAll xs = .ok f ∧ f.moveAll ys = .ok g := by
  rw [moveAll_append, Except.bind_eq_ok_iff]

/-- One more command at the end. -/
theorem moveAll_concat_command {c : DisplayCommand} {ran : Ran σ ρ Unit}
    (hmoves : e.moveAll moves = .ok f) (hrun : Action.command c f = .ok ran) :
    e.moveAll (moves ++ [.command c]) = .ok ran.engine := by
  have hmove : f.move (.command c) = .ok ran.engine := by
    rw [move, hrun]
    rfl
  exact moveAll_append_ok.2 ⟨f, hmoves, moveAll_cons_ok.2 ⟨ran.engine, hmove, rfl⟩⟩

/-! ### Requests as moves -/

theorem moveAll_commands (n : Nat) (commands : List DisplayCommand) (e : Engine σ ρ) :
    e.moveAll (commands.map .command) = (outcomes n commands e).map (·.2) := by
  induction commands generalizing n e with
  | nil => rfl
  | cons c rest ih =>
    rw [List.map_cons, moveAll, move, outcomes]
    cases Action.command c e with
    | error crash => rfl
    | ok ran =>
      show ran.engine.moveAll _ = ((outcomes (n + 1) rest ran.engine).map _).map _
      rw [ih (n + 1)]
      cases outcomes (n + 1) rest ran.engine <;> rfl

/-- **A request is made of its moves:** a batch is its commands, as far as there are indices
for them, and then it is counted. -/
theorem handle_moves (request : Request) (e : Engine σ ρ) :
    (e.handle request).map (·.2) = e.moveAll (requestMoves request) := by
  have hwhole : (e.handle request).map (·.2) = e.moveAll [.request request] := by
    rw [moveAll, move]
    cases e.handle request <;> rfl
  cases request with
  | execute commands =>
    rw [requestMoves, moveAll_append, moveAll_commands 0]
    have hhandle : (e.handle (.execute commands)).map (·.2) = (e.execute commands).map (·.2) := by
      show ((e.execute commands).bind _).map _ = _
      cases e.execute commands <;> rfl
    rw [hhandle, execute_take, execute_eq _ e (List.length_take_le _ _)]
    cases hout : outcomes 0 (commands.take UInt32.size) e with
    | error crash => rfl
    | ok out =>
      show Except.ok (out.2.counting (e.batches + 1)) =
        Except.ok (out.2.counting (out.2.batches + 1))
      rw [batches_of_outcomes hout]
  | _ => exact hwhole

/-! ### What moves keep -/

theorem moveAll_keeps {P : Engine σ ρ → Prop}
    (hP : ∀ m ∈ moves, ∀ e e' : Engine σ ρ, P e → e.move m = .ok e' → P e') (he : P e)
    (hrun : e.moveAll moves = .ok e') : P e' := by
  induction moves generalizing e with
  | nil =>
    obtain rfl := Except.ok.inj hrun
    exact he
  | cons m rest ih =>
    obtain ⟨f, hmove, hrest⟩ := moveAll_cons_ok.1 hrun
    have hf := hP m (List.mem_cons_self ..) e f he hmove
    exact ih (fun other hother => hP other (List.mem_cons_of_mem _ hother)) hf hrest

/-- What the commands of a move keep, and the end of a batch, and the request if it is no
batch. -/
theorem keeps_move {P : Engine σ ρ → Prop} (he : P e) (hrun : e.move m = .ok e')
    (hcommands : ∀ c ∈ m.commands, (Action.command c).Keeps P)
    (hcount : ∀ (e : Engine σ ρ) n, P e → P (e.counting n))
    (hrequest : ∀ request reply, m = .request request → (∀ cs, request ≠ .execute cs) →
      e.handle request = .ok (reply, e') → P e') : P e' := by
  cases m with
  | command c =>
    obtain ⟨ran, hran, rfl⟩ := Except.map_eq_ok_iff.1 hrun
    exact hcommands c (List.mem_singleton_self c) e ran he hran
  | finish =>
    obtain rfl := Except.ok.inj hrun
    exact hcount e _ he
  | request request =>
    obtain ⟨⟨reply, last⟩, hhandle, rfl⟩ := Except.map_eq_ok_iff.1 hrun
    cases request with
    | execute commands =>
      obtain ⟨⟨results, f⟩, hexecute, hlast⟩ := Except.bind_eq_ok_iff.1 hhandle
      cases hlast
      obtain ⟨f, hout, rfl⟩ := outcomes_of_execute hexecute
      exact hcount f _ (outcomes_keeps (fun c hc => hcommands c (List.mem_of_mem_take hc)) he hout)
    | _ => exact hrequest _ reply rfl (fun _ heq => nomatch heq) hhandle

/-- Moves touch the hardware by calls only. -/
theorem move_reaches (hrun : e.move m = .ok e') : Hardware.Reaches e.hardware e'.hardware := by
  cases m with
  | command c =>
    obtain ⟨ran, hran, rfl⟩ := Except.map_eq_ok_iff.1 hrun
    exact (Action.composed_command (τ := σ) c).reaches hran
  | finish =>
    obtain rfl := Except.ok.inj hrun
    exact .refl
  | request request =>
    obtain ⟨⟨reply, last⟩, hhandle, rfl⟩ := Except.map_eq_ok_iff.1 hrun
    exact handle_reaches hhandle

theorem moveAll_reaches (hrun : e.moveAll moves = .ok e') :
    Hardware.Reaches e.hardware e'.hardware :=
  moveAll_keeps (P := fun f => Hardware.Reaches e.hardware f.hardware)
    (fun _ _ _ _ hf hmove => hf.trans (move_reaches hmove)) .refl hrun

/-! ### From startup on -/

section Startup

variable {e e' : Engine (Logged Headless) Cache}

theorem lockstep_move (he : Lockstep e.hardware.hardware e.resources)
    (hrun : e.move m = .ok e') : Lockstep e'.hardware.hardware e'.resources :=
  keeps_move
    (P := fun e : Engine (Logged Headless) Cache => Lockstep e.hardware.hardware e.resources)
    he hrun (fun c _ => (lockstep_stable c.display).keeps_command) (fun _ _ he => he)
    fun _ _ _ _ hhandle => lockstep_handle he hhandle

/-- Cache and hardware stay in lockstep within requests too. -/
theorem lockstep_moveAll {configs : List DisplayConfig} {cache : Cache}
    (hcache : Cache.ofConfigs configs = .ok cache)
    (hrun : (start ⟨.ofConfigs configs, []⟩ cache).moveAll moves = .ok e') :
    Lockstep e'.hardware.hardware e'.resources :=
  moveAll_keeps
    (P := fun e : Engine (Logged Headless) Cache => Lockstep e.hardware.hardware e.resources)
    (fun _ _ _ _ he hmove => lockstep_move he hmove) (lockstep_ofConfigs hcache) hrun

end Startup

end Engine

end DisplayComposer
