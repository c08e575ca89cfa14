import DisplayComposer.Proofs.Engine.Batch
/-!
# DisplayComposer.Proofs.Engine.Run

**Runs of requests.** A state of the engine is reached from another if some sequence
of requests leads there, whatever they are answered. Whatever a request is, it touches
the hardware by calls only; so what every call keeps, a run of requests keeps.

* `Engine.Reaches`, `Engine.after` — runs of requests;
* `Engine.Reaches.hardware` — the run of calls below a run of requests;
* `Engine.after_logged` — the same run on hardware that keeps a log;
* `Engine.Handled`, `Engine.handle_cases` — all that one request can do.
-/

namespace DisplayComposer

/-- What requests make of an engine. -/
inductive Engine.Reaches {σ ρ : Type} [Hardware σ] [Resources ρ] (e : Engine σ ρ) :
    Engine σ ρ → Prop where
  | refl : Reaches e e
  /-- One more request at the end. -/
  | request {f g : Engine σ ρ} {request : Request} {reply : Reply} :
      Reaches e f → f.handle request = .ok (reply, g) → Reaches e g

namespace Engine

variable {σ ρ : Type} [Hardware σ] [Resources ρ]

/-- The engine after some requests, up to one that would stop the program. -/
def after : List Request → Engine σ ρ → Engine σ ρ
  | [], e => e
  | request :: rest, e =>
    match e.handle request with
    | .ok (_, f) => after rest f
    | .error _ => e

theorem Reaches.trans {e f g : Engine σ ρ} (hef : e.Reaches f) (hfg : f.Reaches g) :
    e.Reaches g := by
  induction hfg with
  | refl => exact hef
  | request _ hrun ih => exact .request ih hrun

theorem Reaches.after (requests : List Request) (e : Engine σ ρ) :
    e.Reaches (e.after requests) := by
  induction requests generalizing e with
  | nil => exact .refl
  | cons request rest ih =>
    rw [Engine.after]
    cases hrun : e.handle request with
    | error crash => exact .refl
    | ok r => exact (Reaches.request .refl hrun).trans (ih r.2)

/-! ### The calls below -/

theorem execute_reaches {commands : List DisplayCommand} {e e' : Engine σ ρ}
    {results : List CommandResult} (hrun : e.execute commands = .ok (results, e')) :
    Hardware.Reaches e.hardware e'.hardware := by
  obtain ⟨last, hout, rfl⟩ := outcomes_of_execute hrun
  have hreaches : Hardware.Reaches e.hardware last.hardware := outcomes_reaches hout
  exact hreaches

theorem createLayer_reaches {display : DisplayId} {slots : UInt32} {e e' : Engine σ ρ}
    {created : Except HardwareError LayerId}
    (hrun : e.createLayer display slots = .ok (created, e')) :
    Hardware.Reaches e.hardware e'.hardware := by
  obtain ⟨⟨outcome, hardware⟩, hcreate, hrest⟩ := Except.bind_eq_ok_iff.1 hrun
  have hone : Hardware.Reaches e.hardware hardware := .call .refl hcreate
  cases outcome with
  | error failure =>
    cases hrest
    exact hone
  | ok layer =>
    dsimp only at hrest
    split at hrest
    · cases hrest
      exact hone
    · -- the cache refused the layer, so it is destroyed again
      obtain ⟨⟨destroyed, hardware'⟩, hdestroy, hlast⟩ := Except.bind_eq_ok_iff.1 hrest
      cases hlast
      exact hone.call hdestroy

theorem destroyLayer_reaches {display : DisplayId} {layer : LayerId} {e e' : Engine σ ρ}
    {destroyed : Except HardwareError Unit}
    (hrun : e.destroyLayer display layer = .ok (destroyed, e')) :
    Hardware.Reaches e.hardware e'.hardware := by
  obtain ⟨⟨outcome, hardware⟩, hdestroy, hrest⟩ := Except.bind_eq_ok_iff.1 hrun
  have hone : Hardware.Reaches e.hardware hardware := .call .refl hdestroy
  cases outcome <;> cases hrest <;> exact hone

/-- A request touches the hardware by calls only. -/
theorem handle_reaches {request : Request} {reply : Reply} {e e' : Engine σ ρ}
    (hrun : e.handle request = .ok (reply, e')) : Hardware.Reaches e.hardware e'.hardware := by
  cases request with
  | execute commands =>
    obtain ⟨⟨results, e₁⟩, hexecute, hrest⟩ := Except.bind_eq_ok_iff.1 hrun
    cases hrest
    exact execute_reaches hexecute
  | createLayer display slots =>
    obtain ⟨⟨created, e₁⟩, hcreate, hrest⟩ := Except.bind_eq_ok_iff.1 hrun
    cases created <;> cases hrest <;> exact createLayer_reaches hcreate
  | destroyLayer display layer =>
    obtain ⟨⟨destroyed, e₁⟩, hdestroy, hrest⟩ := Except.bind_eq_ok_iff.1 hrun
    cases destroyed <;> cases hrest <;> exact destroyLayer_reaches hdestroy
  | refresh display =>
    cases hrun
    exact .refl

theorem Reaches.hardware {e f : Engine σ ρ} (reached : e.Reaches f) :
    Hardware.Reaches e.hardware f.hardware := by
  induction reached with
  | refl => exact .refl
  | request _ hrun ih => exact ih.trans (handle_reaches hrun)

/-! ### Runs on hardware that keeps a log -/

section Logged

variable (e : Engine σ ρ) (log : List Event)

theorem execute_logged (commands : List DisplayCommand) :
    ∃ more, (e.logged log).execute commands =
      (e.execute commands).map fun r => (r.1, r.2.logged more) := by
  obtain ⟨more, hmore⟩ := outcomes_logged_eq 0 (commands.take UInt32.size) e log
  refine ⟨more, ?_⟩
  rw [execute_take, execute_take commands e, execute_eq _ _ (List.length_take_le _ _),
    execute_eq _ _ (List.length_take_le _ _), hmore]
  cases outcomes 0 (commands.take UInt32.size) e <;> rfl

/-- The result of a command is that of the command alone, with all its calls in the log. -/
theorem filter_index_execute_logged {commands : List DisplayCommand} {results : List CommandResult}
    {e' : Engine σ ρ} (hrun : e.execute commands = .ok (results, e')) {i : Nat} {c : DisplayCommand}
    (hi : i < UInt32.size) (hc : commands[i]? = some c) :
    ∃ before e₁ ran, (e.logged log).execute (commands.take i) = .ok (before, e₁) ∧
      Action.command c e₁ = .ok ran ∧
      results.filter (fun r => r.index.toNat = i) =
        (CommandResult.reported (.ofNat 0) c.display ran.entries).toList.map (·.shift i) := by
  obtain ⟨more, hlogged⟩ := execute_logged e log commands
  rw [hrun, execute_take] at hlogged
  have hc' : (commands.take UInt32.size)[i]? = some c := by rw [List.getElem?_take_of_lt hi, hc]
  obtain ⟨before, alone, e₁, e₂, hbefore, halone, hfilter⟩ :=
    filter_index_execute (List.length_take_le _ _) hlogged hc'
  rw [List.take_take, Nat.min_eq_left (Nat.le_of_lt hi)] at hbefore
  obtain ⟨ran, hran, rfl, -⟩ := execute_singleton_ok.1 halone
  exact ⟨before, e₁, ran, hbefore, hran, hfilter⟩

theorem createLayer_logged (display : DisplayId) (slots : UInt32) :
    ∃ more, (e.logged log).createLayer display slots =
      (e.createLayer display slots).map fun r => (r.1, r.2.logged more) := by
  have hcreate := Logged.perform_eq (.createLayer display) e.hardware log
  unfold createLayer
  rw [show (e.logged log).hardware = ⟨e.hardware, log⟩ from rfl, hcreate]
  cases hrun : Hardware.perform (.createLayer display) e.hardware with
  | error crash => exact ⟨log, rfl⟩
  | ok r =>
    obtain ⟨created, hardware⟩ := r
    cases created with
    | error failure => exact ⟨_, rfl⟩
    | ok layer =>
      simp only [bind, Except.bind, Except.map, logged]
      obtain ⟨added, resources⟩ := Resources.addLayer display layer slots e.resources
      cases added with
      | ok added => exact ⟨_, rfl⟩
      | error refusal =>
        -- the cache refused the layer, so one more call is made
        simp only [Logged.perform_eq]
        cases Hardware.perform (.destroyLayer display layer) hardware with
        | error crash => exact ⟨log, rfl⟩
        | ok r => exact ⟨_, rfl⟩

theorem destroyLayer_logged (display : DisplayId) (layer : LayerId) :
    ∃ more, (e.logged log).destroyLayer display layer =
      (e.destroyLayer display layer).map fun r => (r.1, r.2.logged more) := by
  have hdestroy := Logged.perform_eq (.destroyLayer display layer) e.hardware log
  unfold destroyLayer
  rw [show (e.logged log).hardware = ⟨e.hardware, log⟩ from rfl, hdestroy]
  cases hrun : Hardware.perform (.destroyLayer display layer) e.hardware with
  | error crash => exact ⟨log, rfl⟩
  | ok r =>
    obtain ⟨destroyed, hardware⟩ := r
    cases destroyed <;> exact ⟨_, rfl⟩

/-- A request is answered the same by an engine whose hardware keeps a log. -/
theorem handle_logged (request : Request) :
    ∃ more, (e.logged log).handle request =
      (e.handle request).map fun r => (r.1, r.2.logged more) := by
  cases request with
  | execute commands =>
    obtain ⟨more, hmore⟩ := execute_logged e log commands
    refine ⟨more, ?_⟩
    simp only [handle, hmore]
    cases e.execute commands <;> rfl
  | createLayer display slots =>
    obtain ⟨more, hmore⟩ := createLayer_logged e log display slots
    refine ⟨more, ?_⟩
    simp only [handle, hmore]
    cases e.createLayer display slots with
    | error crash => rfl
    | ok r =>
      obtain ⟨created, e'⟩ := r
      cases created <;> rfl
  | destroyLayer display layer =>
    obtain ⟨more, hmore⟩ := destroyLayer_logged e log display layer
    refine ⟨more, ?_⟩
    simp only [handle, hmore]
    cases e.destroyLayer display layer with
    | error crash => rfl
    | ok r =>
      obtain ⟨destroyed, e'⟩ := r
      cases destroyed <;> rfl
  | refresh display => exact ⟨log, rfl⟩

/-- **A run is the same** on hardware that keeps a log. -/
theorem after_logged (requests : List Request) :
    ∃ more, (e.logged log).after requests = (e.after requests).logged more := by
  induction requests generalizing e log with
  | nil => exact ⟨log, rfl⟩
  | cons request rest ih =>
    obtain ⟨between, hfirst⟩ := handle_logged e log request
    rw [after, after, hfirst]
    cases e.handle request with
    | error crash => exact ⟨log, rfl⟩
    | ok r => exact ih r.2 between

end Logged

/-! ### One request -/

/-- What a request can do: how it is answered, and what it leaves. -/
inductive Handled {σ : Type} [Hardware σ] (e : Engine σ Cache) :
    Request → Reply → Engine σ Cache → Prop where
  | executed {commands : List DisplayCommand} {results : List CommandResult}
      {e' : Engine σ Cache} (hrun : e.execute commands = .ok (results, e')) :
      Handled e (.execute commands) (.commandResults results) e'
  | created {display : DisplayId} {slots : UInt32} {layer : LayerId} {hardware : σ}
      {resources : Cache}
      (hcreate : Hardware.perform (.createLayer display) e.hardware = .ok (.ok layer, hardware))
      (hadd : e.resources.addLayer display layer slots = .ok resources) :
      Handled e (.createLayer display slots) (.layerCreated layer) { e with hardware, resources }
  | notCreated {display : DisplayId} {slots : UInt32} {refusal : HardwareError} {hardware : σ}
      (hcreate :
        Hardware.perform (.createLayer display) e.hardware = .ok (.error refusal, hardware)) :
      Handled e (.createLayer display slots) (failure refusal) { e with hardware }
  /-- The cache refused the layer, so it was destroyed again. -/
  | withdrawn {display : DisplayId} {slots : UInt32} {layer : LayerId} {refusal : CacheError}
      {hardware hardware' : σ} {outcome : Except HardwareError Unit}
      (hcreate : Hardware.perform (.createLayer display) e.hardware = .ok (.ok layer, hardware))
      (hadd : e.resources.addLayer display layer slots = .error refusal)
      (hdestroy :
        Hardware.perform (.destroyLayer display layer) hardware = .ok (outcome, hardware')) :
      Handled e (.createLayer display slots) (failure refusal.toHardwareError)
        { e with hardware := hardware' }
  | destroyed {display : DisplayId} {layer : LayerId} {hardware : σ} {resources : Cache}
      (hdestroy :
        Hardware.perform (.destroyLayer display layer) e.hardware = .ok (.ok (), hardware))
      (hremove : e.resources.removeLayer display layer = .ok resources ∨
        resources = e.resources ∧ ∃ refusal,
          e.resources.removeLayer display layer = .error refusal) :
      Handled e (.destroyLayer display layer) .ok
        ({ e with hardware, resources }.setState display .unvalidated)
  | notDestroyed {display : DisplayId} {layer : LayerId} {refusal : HardwareError}
      {hardware : σ}
      (hdestroy :
        Hardware.perform (.destroyLayer display layer) e.hardware =
          .ok (.error refusal, hardware)) :
      Handled e (.destroyLayer display layer) (failure refusal) { e with hardware }
  | refreshed {display : DisplayId} : Handled e (.refresh display) .ok (e.refresh display)

/-- A request that is answered does one of these. -/
theorem handle_cases {request : Request} {reply : Reply} {e e' : Engine σ Cache}
    (hrun : e.handle request = .ok (reply, e')) : e.Handled request reply e' := by
  cases request with
  | execute commands =>
    obtain ⟨⟨results, e₁⟩, hexecute, hlast⟩ := Except.bind_eq_ok_iff.1 hrun
    cases hlast
    exact .executed hexecute
  | createLayer display slots =>
    obtain ⟨⟨created, e₁⟩, hrequest, hreply⟩ := Except.bind_eq_ok_iff.1 hrun
    obtain ⟨⟨outcome, hardware⟩, hcreate, hrest⟩ := Except.bind_eq_ok_iff.1 hrequest
    cases outcome with
    | error refusal =>
      cases hrest
      cases hreply
      exact .notCreated hcreate
    | ok layer =>
      dsimp only [Resources.addLayer] at hrest
      cases hadd : e.resources.addLayer display layer slots with
      | ok resources =>
        rw [hadd] at hrest
        cases hrest
        cases hreply
        exact .created hcreate hadd
      | error refusal =>
        rw [hadd] at hrest
        obtain ⟨⟨destroyed, hardware'⟩, hdestroy, hlast⟩ := Except.bind_eq_ok_iff.1 hrest
        cases hlast
        cases hreply
        exact .withdrawn hcreate hadd hdestroy
  | destroyLayer display layer =>
    obtain ⟨⟨destroyed, e₁⟩, hrequest, hreply⟩ := Except.bind_eq_ok_iff.1 hrun
    obtain ⟨⟨outcome, hardware⟩, hdestroy, hrest⟩ := Except.bind_eq_ok_iff.1 hrequest
    cases outcome with
    | error refusal =>
      cases hrest
      cases hreply
      exact .notDestroyed hdestroy
    | ok _ =>
      cases hrest
      cases hreply
      refine .destroyed hdestroy ?_
      cases hremove : e.resources.removeLayer display layer with
      | ok resources =>
        exact .inl rfl
      | error refusal =>
        exact .inr ⟨rfl, refusal, rfl⟩
  | refresh display =>
    cases hrun
    exact .refreshed

end Engine

end DisplayComposer
