import DisplayComposer.Proofs.Engine.Dialogue
import DisplayComposer.Proofs.Engine.Ledger
/-!
# DisplayComposer.Proofs.Engine.Operations

**What is done for a command, and what is reported of it.** A command is carried out by
operations: an image is refused by the cache, or a call of the hardware is made. Everything
that is reported of a command is reported of one of these, in the order in which they are
done; there is one table, `Operation.entries`, of what is reported of each. The outcome of
present-or-validate is the one exception. It is reported in addition, and never without an
answer of the hardware. Which operations there were can be told from the calls alone, if it is
known what is in the cache: what it refuses, it refuses whatever the hardware does.

* `Operation`, `Operation.entries` — the operations, and what is reported of each;
* `DisplayCommand.Carries`, `Carries.unique` — the operations that a command asks for, of which
  its calls leave one choice;
* `Engine.Made` — operations and what is reported of them, in a run;
* `Action.made_dialogue` — what present-or-validate makes is a dialogue;
* `Action.made_command` — a command makes the operations that it asks for.
-/

namespace DisplayComposer

/-! ### Operations -/

/-- Calls whose failure is not reported: hints and questions, and attempts to present that
present-or-validate makes. -/
def Call.silent (short : Bool) : Call → Bool
  | .set _ (.property (.expectedPresentTime _)) | .hasClientComposition _ => true
  | .present _ => short
  | _ => false

namespace Event

def failure? (event : Event) : Option HardwareError :=
  match event.outcome with
  | .ok _ => none
  | .error failure => some failure

/-- What is reported of an answer. -/
def answer : Event → List Entry
  | ⟨.validate _, .ok v⟩ => [.changes v.changes, .request v.request, .property v.target]
  | ⟨.present _, .ok p⟩ =>
    (if p.presentFence.isValid then [.presentFence p.presentFence] else []) ++
      [.releaseFences p.releaseFences]
  | _ => []

theorem answer_validate_ne_nil (display : DisplayId) (v : Validation) :
    answer ⟨.validate display, .ok v⟩ ≠ [] := by
  simp [answer]

theorem answer_present_ne_nil (display : DisplayId) (p : Presentation) :
    answer ⟨.present display, .ok p⟩ ≠ [] := by
  simp [answer]

end Event

/-- Something that is done for a command. -/
inductive Operation where
  /-- The cache refused an image, so no call was made. -/
  | refused (refusal : CacheError)
  /-- A call, and whether present-or-validate made it. -/
  | call (short : Bool) (event : Event)

namespace Operation

def event? : Operation → Option Event
  | .refused _ => none
  | .call _ event => some event

/-- The failure to report. -/
def recorded? : Operation → Option HardwareError
  | .refused refusal => some refusal.toHardwareError
  | .call short event => if event.call.silent short then none else event.failure?

/-- What is reported of an operation. -/
def entries : Operation → List Entry
  | .refused refusal => [.error refusal.toHardwareError]
  | .call short event => event.answer ++ ((call short event).recorded?.map .error).toList

end Operation

/-! ### What a command asks for -/

/-- What is done to set properties of a display, with what the cache finds. -/
inductive Cache.Settles (display : DisplayId) :
    Cache → List (Setting ImageRef) → List Operation → Prop where
  | nil (c : Cache) : Settles display c [] []
  | property {c : Cache} {p : Property} {rest : List (Setting ImageRef)} {ops : List Operation}
      (out : Except HardwareError Unit) :
      Settles display c rest ops → Settles display c (.property p :: rest)
        (.call false ⟨.set display (.property p), out⟩ :: ops)
  | refused {c : Cache} {use : ImageUse} {ref : ImageRef} {refusal : CacheError}
      {rest : List (Setting ImageRef)} {ops : List Operation} :
      c.resolve ref = .error refusal → Settles display c rest ops →
        Settles display c (.image use ref :: rest) (.refused refusal :: ops)
  | image {c c' : Cache} {use : ImageUse} {ref : ImageRef} {r : Resolution}
      {rest : List (Setting ImageRef)} {ops : List Operation} (out : Except HardwareError Unit) :
      c.resolve ref = .ok (r, c') → Settles display (c'.release r.parked) rest ops →
        Settles display c (.image use ref :: rest)
          (.call false ⟨.set display (.image use r.image), out⟩ :: ops)

namespace DisplayCommand

/-- The calls that a command asks for itself, once its properties are set. -/
def directCalls (c : DisplayCommand) : List Call :=
  (if c.validate then
    [.set c.display (.property (.expectedPresentTime c.expectedPresentTime)), .validate c.display]
  else []) ++ (if c.accept then [.accept c.display] else []) ++
    (if c.present then [.present c.display] else [])

/-- What is done for a command: its properties are set, the calls that it asks for are made,
and then those of present-or-validate, which are a dialogue. -/
def Carries (c : DisplayCommand) (cache : Cache) (ops : List Operation) : Prop :=
  ∃ (sets : List Operation) (direct short : List Event),
    ops = sets ++ (direct.map (.call false) ++ short.map (.call true)) ∧
      cache.Settles c.display c.settings sets ∧ direct.map Event.call = c.directCalls ∧
      (c.presentOrValidate = false → short = []) ∧
      (c.presentOrValidate = true → ∃ (must : Bool) (x : Dialogue must),
        short = x.events c.display c.expectedPresentTime)

/-- The expected time of a frame is not among the properties that a command sets. -/
theorem expectedPresentTime_not_mem_settings (c : DisplayCommand) (time : Option Timestamp) :
    .property (.expectedPresentTime time) ∉ c.settings := by
  rw [settings_eq, List.mem_append, List.mem_flatMap, List.mem_filterMap]
  rintro (⟨l, -, hl⟩ | ⟨field, -, hfield⟩)
  · obtain ⟨field, -, hfield⟩ := List.mem_filterMap.1 hl
    cases field <;> simp [LayerCommand.item?] at hfield
  · cases field <;> simp [item?] at hfield

end DisplayCommand

/-! ### Operations and calls -/

theorem Operation.filterMap_event?_call (short : Bool) (events : List Event) :
    (events.map (call short)).filterMap event? = events := by
  rw [List.filterMap_map]
  exact List.filterMap_some

/-- **The calls tell the operations.** What the cache refuses is in the cache, and all else is
a call; so there is one way only to read off some calls what was done to set properties. -/
theorem Cache.Settles.unique {display : DisplayId} {c : Cache}
    {settings : List (Setting ImageRef)} {ops ops' : List Operation} {rest rest' : List Event}
    (h : c.Settles display settings ops) (h' : c.Settles display settings ops')
    (hcalls : ops.filterMap Operation.event? ++ rest =
      ops'.filterMap Operation.event? ++ rest') : ops = ops' ∧ rest = rest' := by
  induction h generalizing ops' with
  | nil c =>
    cases h'
    exact ⟨rfl, hcalls⟩
  | property out hrest ih =>
    cases h' with
    | property out' hrest' =>
      obtain ⟨hevent, hcalls⟩ := List.cons.inj hcalls
      obtain ⟨rfl, rfl⟩ := ih hrest' hcalls
      exact ⟨by rw [hevent], rfl⟩
  | refused hrefused hrest ih =>
    cases h' with
    | refused hrefused' hrest' =>
      obtain rfl := Except.error.inj (hrefused.symm.trans hrefused')
      obtain ⟨rfl, rfl⟩ := ih hrest' hcalls
      exact ⟨rfl, rfl⟩
    | image out' hresolve' hrest' => exact nomatch hrefused.symm.trans hresolve'
  | image out hresolve hrest ih =>
    cases h' with
    | refused hrefused' hrest' => exact nomatch hresolve.symm.trans hrefused'
    | image out' hresolve' hrest' =>
      obtain ⟨rfl, rfl⟩ := Prod.mk.inj (Except.ok.inj (hresolve.symm.trans hresolve'))
      obtain ⟨hevent, hcalls⟩ := List.cons.inj hcalls
      obtain ⟨rfl, rfl⟩ := ih hrest' hcalls
      exact ⟨by rw [hevent], rfl⟩

/-- So do those of a command: it is known how many calls it asks for itself, and those behind
them are made by present-or-validate. -/
theorem DisplayCommand.Carries.unique {c : DisplayCommand} {cache : Cache}
    {ops ops' : List Operation} (h : c.Carries cache ops) (h' : c.Carries cache ops')
    (hcalls : ops.filterMap Operation.event? = ops'.filterMap Operation.event?) : ops = ops' := by
  obtain ⟨sets, direct, short, rfl, hsettles, hdirect, -⟩ := h
  obtain ⟨sets', direct', short', rfl, hsettles', hdirect', -⟩ := h'
  simp only [List.filterMap_append, Operation.filterMap_event?_call] at hcalls
  obtain ⟨rfl, hrest⟩ := hsettles.unique hsettles' hcalls
  have hlength : direct.length = direct'.length := by
    rw [← List.length_map Event.call, hdirect, ← hdirect', List.length_map]
  obtain ⟨rfl, rfl⟩ := List.append_inj hrest hlength
  rfl

/-! ### What is reported -/

/-- Whether an entry is the outcome of present-or-validate. -/
def Entry.isOutcome : Entry → Bool
  | .presentOrValidate _ => true
  | _ => false

theorem Event.isOutcome_of_mem_answer {event : Event} {entry : Entry} (h : entry ∈ event.answer) :
    entry.isOutcome = false := by
  unfold answer at h
  split at h
  · simp only [List.mem_cons, List.not_mem_nil, or_false] at h
    rcases h with rfl | rfl | rfl <;> rfl
  · rcases List.mem_append.1 h with h | h
    · split at h
      · obtain rfl := List.mem_singleton.1 h
        rfl
      · cases h
    · obtain rfl := List.mem_singleton.1 h
      rfl
  · cases h

theorem Operation.isOutcome_of_mem_entries {op : Operation} {entry : Entry}
    (h : entry ∈ op.entries) : entry.isOutcome = false := by
  cases op with
  | refused refusal =>
    obtain rfl := List.mem_singleton.1 h
    rfl
  | call short event =>
    rcases List.mem_append.1 h with h | h
    · exact event.isOutcome_of_mem_answer h
    · obtain ⟨failure, -, rfl⟩ := Option.map_eq_some_iff.1 (Option.mem_toList.1 h)
      rfl

namespace Engine

variable {σ α β : Type}

/-- The operations of a part of a command, with the calls in the log and the entries that it
reports. -/
structure Made (e : Engine (Logged σ) Cache) (ops : List Operation) (ran : Ran (Logged σ) Cache α) :
    Prop where
  log : ran.engine.hardware.log = e.hardware.log ++ ops.filterMap Operation.event?
  entries : ran.entries.filter (!·.isOutcome) = ops.flatMap Operation.entries
  /-- Present-or-validate has an outcome only if the hardware answered. -/
  outcome : ran.entries.any Entry.isOutcome = true →
    ∃ op ∈ ops, ∃ event, op.event? = some event ∧ event.answer ≠ []

variable {e : Engine (Logged σ) Cache} {ops ops' : List Operation}

theorem Made.calls {ran : Ran (Logged σ) Cache α} (h : e.Made ops ran) :
    e.calls ran.engine = ops.filterMap Operation.event? := calls_eq h.log

theorem Made.append {first : Ran (Logged σ) Cache α} {second : Ran (Logged σ) Cache β}
    (h : e.Made ops first) (h' : first.engine.Made ops' second) :
    e.Made (ops ++ ops') { second with entries := first.entries ++ second.entries } where
  log := by
    rw [h'.log, h.log, List.filterMap_append, List.append_assoc]
  entries := by
    rw [List.filter_append, h.entries, h'.entries, List.flatMap_append]
  outcome hany := by
    rw [List.any_append, Bool.or_eq_true] at hany
    rcases hany with hany | hany
    · obtain ⟨op, hop, hanswer⟩ := h.outcome hany
      exact ⟨op, List.mem_append_left _ hop, hanswer⟩
    · obtain ⟨op, hop, hanswer⟩ := h'.outcome hany
      exact ⟨op, List.mem_append_right _ hop, hanswer⟩

/-- Nothing was done, and nothing reported. -/
theorem Made.nil {ran : Ran (Logged σ) Cache α} (hengine : ran.engine.hardware = e.hardware)
    (hentries : ran.entries = []) : e.Made [] ran where
  log := by rw [hengine, List.filterMap_nil, List.append_nil]
  entries := by rw [hentries]; rfl
  outcome hany := by rw [hentries] at hany; cases hany

/-- One operation was done, and reported. -/
theorem Made.single {op : Operation} {ran : Ran (Logged σ) Cache α}
    (hlog : ran.engine.hardware.log = e.hardware.log ++ op.event?.toList)
    (hentries : ran.entries = op.entries) : e.Made [op] ran where
  log := by
    rw [hlog]
    cases hevent : op.event? <;> simp [hevent]
  entries := by
    rw [hentries, List.flatMap_singleton]
    exact List.filter_eq_self.2 fun entry hentry => by
      rw [Operation.isOutcome_of_mem_entries hentry]
      rfl
  outcome hany := by
    obtain ⟨entry, hentry, hout⟩ := List.any_eq_true.1 hany
    rw [hentries] at hentry
    rw [Operation.isOutcome_of_mem_entries hentry] at hout
    cases hout

/-- One call was made, and reported. -/
theorem Made.call [Hardware σ] {short : Bool} {call : Call}
    {out : Except HardwareError call.Answer} {hardware : Logged σ} {ran : Ran (Logged σ) Cache α}
    (hrun : Hardware.perform call e.hardware = .ok (out, hardware))
    (hhardware : ran.engine.hardware = hardware)
    (hentries : ran.entries = (Operation.call short ⟨call, out⟩).entries) :
    e.Made [.call short ⟨call, out⟩] ran :=
  .single (hhardware ▸ (Logged.perform_ok.1 hrun).2) hentries

/-- The outcome of present-or-validate is reported after an answer. -/
theorem Made.report {ran : Ran (Logged σ) Cache α} {ran' : Ran (Logged σ) Cache β}
    (h : e.Made ops ran) (last : FastPathOutcome)
    (hanswer : ∃ op ∈ ops, ∃ event, op.event? = some event ∧ event.answer ≠ [])
    (hengine : ran'.engine = ran.engine)
    (hentries : ran'.entries = ran.entries ++ [.presentOrValidate last]) : e.Made ops ran' where
  log := hengine ▸ h.log
  entries := by
    rw [hentries, List.filter_append, h.entries]
    exact List.append_nil _
  outcome _ := hanswer

/-- What is reported of every operation at most once, other than the outcome of
present-or-validate, is read off the operations. -/
theorem Made.filterMap {β : Type} {ran : Ran (Logged σ) Cache α} (h : e.Made ops ran)
    {pick? : Entry → Option β} {value? : Operation → Option β}
    (houtcome : ∀ outcome, pick? (.presentOrValidate outcome) = none)
    (hvalue : ∀ op, op.entries.filterMap pick? = (value? op).toList) :
    ran.entries.filterMap pick? = ops.filterMap value? := by
  have hall : (ran.entries.filter (!·.isOutcome)).filterMap pick? =
      ran.entries.filterMap pick? := by
    rw [List.filterMap_filter]
    congr 1
    funext entry
    cases entry with
    | presentOrValidate outcome => exact (houtcome outcome).symm
    | _ => rfl
  rw [← hall, h.entries]
  clear h
  induction ops with
  | nil => rfl
  | cons op rest ih =>
    rw [List.flatMap_cons, List.filterMap_append, ih, hvalue]
    cases hop : value? op <;> simp [hop]

end Engine

/-! ### The parts of a command -/

namespace Action

open Engine (Made)

variable {σ α β : Type} [Hardware σ]

/-- An action that makes some calls. -/
def Makes (calls : List Call) (x : Action (Logged σ) Cache α) : Prop :=
  ∀ e ran, x e = .ok ran → ∃ events : List Event,
    events.map (·.call) = calls ∧ e.Made (events.map (.call false)) ran

section Makes

variable {calls calls' : List Call} {display : DisplayId}

omit [Hardware σ] in
theorem Makes.bind {x : Action (Logged σ) Cache α} {f : α → Action (Logged σ) Cache β}
    (hx : x.Makes calls) (hf : ∀ a, (f a).Makes calls') : (x >>= f).Makes (calls ++ calls') := by
  intro e ran hrun
  obtain ⟨first, second, hfirst, hsecond, rfl⟩ := bind_ok.1 hrun
  obtain ⟨events, hcalls, hmade⟩ := hx e first hfirst
  obtain ⟨events', hcalls', hmade'⟩ := hf first.value first.engine second hsecond
  refine ⟨events ++ events', by rw [List.map_append, hcalls, hcalls'], ?_⟩
  rw [List.map_append]
  exact hmade.append hmade'

omit [Hardware σ] in
theorem makes_pure (a : α) : (pure a : Action (Logged σ) Cache α).Makes [] := by
  intro e ran hrun
  obtain rfl := Except.ok.inj hrun
  exact ⟨[], rfl, .nil rfl rfl⟩

omit [Hardware σ] in
theorem makes_onlyIf {b : Bool} {x : Action (Logged σ) Cache Unit} (hx : x.Makes calls) :
    (onlyIf b x).Makes (if b then calls else []) := by
  cases b with
  | true => exact hx
  | false => exact makes_pure ()

theorem made_expectPresent {time : Option Timestamp} {e : Engine (Logged σ) Cache}
    {ran : Ran (Logged σ) Cache Unit} (hrun : expectPresent display time e = .ok ran)
    (short : Bool) :
    ∃ out, e.Made
      [.call short ⟨.set display (.property (.expectedPresentTime time)), out⟩] ran := by
  rw [expectPresent_eq] at hrun
  obtain ⟨r, hcall, rfl⟩ := Except.map_eq_ok_iff.1 hrun
  exact ⟨r.1, .call hcall rfl rfl⟩

theorem made_validate {e : Engine (Logged σ) Cache}
    {ran : Ran (Logged σ) Cache (Except HardwareError Validation)}
    (hrun : validate display e = .ok ran) (short : Bool) :
    e.Made [.call short ⟨.validate display, ran.value⟩] ran := by
  rw [validate_eq] at hrun
  obtain ⟨r, hcall, rfl⟩ := Except.map_eq_ok_iff.1 hrun
  refine .call hcall rfl ?_
  obtain ⟨out, hardware⟩ := r
  cases out <;> rfl

theorem made_accept {e : Engine (Logged σ) Cache} {ran : Ran (Logged σ) Cache Unit}
    (hrun : accept display e = .ok ran) (short : Bool) :
    ∃ out, e.Made [.call short ⟨.accept display, out⟩] ran := by
  rw [accept_eq] at hrun
  obtain ⟨r, hcall, rfl⟩ := Except.map_eq_ok_iff.1 hrun
  refine ⟨r.1, .call hcall rfl ?_⟩
  obtain ⟨out, hardware⟩ := r
  cases out <;> rfl

/-- A frame that present-or-validate shows. -/
theorem made_present {e : Engine (Logged σ) Cache}
    {ran : Ran (Logged σ) Cache (Except HardwareError Presentation)}
    (hrun : present display e = .ok ran) :
    e.Made [.call true ⟨.present display, ran.value⟩] ran := by
  rw [present_eq] at hrun
  obtain ⟨r, hcall, rfl⟩ := Except.map_eq_ok_iff.1 hrun
  refine .call hcall rfl ?_
  obtain ⟨out, hardware⟩ := r
  cases out with
  | error failure => rfl
  | ok p => exact (List.append_nil _).symm

/-- A frame that is asked for by itself: the failure to show it is reported. -/
theorem makes_present :
    (do reportFailure (← present display) : Action (Logged σ) Cache Unit).Makes
      [.present display] := by
  intro e ran hrun
  obtain ⟨first, second, hfirst, hsecond, rfl⟩ := bind_ok.1 hrun
  rw [present_eq] at hfirst
  obtain ⟨r, hcall, rfl⟩ := Except.map_eq_ok_iff.1 hfirst
  rw [reportFailure_eq] at hsecond
  obtain rfl := Except.ok.inj hsecond
  refine ⟨[⟨.present display, r.1⟩], rfl, .call hcall rfl ?_⟩
  obtain ⟨out, hardware⟩ := r
  cases out <;> rfl

theorem makes_expectPresent (time : Option Timestamp) :
    (expectPresent display time : Action (Logged σ) Cache Unit).Makes
      [.set display (.property (.expectedPresentTime time))] := by
  intro e ran hrun
  obtain ⟨out, hmade⟩ := made_expectPresent hrun false
  exact ⟨[⟨_, out⟩], rfl, hmade⟩

theorem makes_validate :
    (validate display : Action (Logged σ) Cache _).Makes [.validate display] := by
  intro e ran hrun
  exact ⟨[⟨.validate display, ran.value⟩], rfl, made_validate hrun false⟩

theorem makes_accept :
    (accept display : Action (Logged σ) Cache Unit).Makes [.accept display] := by
  intro e ran hrun
  obtain ⟨out, hmade⟩ := made_accept hrun false
  exact ⟨[⟨_, out⟩], rfl, hmade⟩

/-- What a command does about validating and presenting, but for present-or-validate. -/
def directly (c : DisplayCommand) : Action (Logged σ) Cache Unit := do
  onlyIf c.validate do
    expectPresent c.display c.expectedPresentTime
    let _ ← validate c.display
  onlyIf c.accept (accept c.display)
  onlyIf c.present do reportFailure (← present c.display)

theorem protocol_eq_directly (c : DisplayCommand) :
    (protocol c : Action (Logged σ) Cache Unit) = (do
      directly c
      onlyIf c.presentOrValidate (presentOrValidate c.display c.expectedPresentTime)) := by
  simp only [protocol, directly, bind_assoc]

theorem makes_directly (c : DisplayCommand) :
    (directly c : Action (Logged σ) Cache Unit).Makes c.directCalls := by
  rw [DisplayCommand.directCalls, List.append_assoc]
  refine (makes_onlyIf ?_).bind fun _ => (makes_onlyIf makes_accept).bind fun _ =>
    makes_onlyIf makes_present
  exact (makes_expectPresent _).bind fun _ => makes_validate.bind fun _ => makes_pure ()

end Makes

/-! ### Present-or-validate -/

section Short

variable {display : DisplayId} {e : Engine (Logged σ) Cache}

/-- Presenting at once makes one call at most, and shows a frame if that succeeds. -/
theorem made_presentDirectly {ran : Ran (Logged σ) Cache Bool}
    (hrun : presentDirectly display e = .ok ran) :
    ∃ events : List Event, e.Made (events.map (.call true)) ran ∧
      (ran.value = true → ∃ event ∈ events, event.answer ≠ []) := by
  rw [presentDirectly_eq] at hrun
  split at hrun
  · obtain rfl := Except.ok.inj hrun
    exact ⟨[], .nil rfl rfl, fun h => by cases h⟩
  · obtain ⟨shown, hshown, rfl⟩ := Except.map_eq_ok_iff.1 hrun
    obtain ⟨hlog, hentries, houtcome⟩ := made_present hshown
    refine ⟨[⟨.present display, shown.value⟩], ⟨hlog, hentries, houtcome⟩, fun h => ?_⟩
    obtain ⟨p, hp⟩ : ∃ p, shown.value = .ok p := by
      cases hvalue : shown.value with
      | ok p => exact ⟨p, rfl⟩
      | error failure => rw [hvalue] at h; cases h
    exact ⟨_, List.mem_singleton_self _, hp ▸ Event.answer_present_ne_nil display p⟩

/-- The last attempt to present, with its outcome. -/
theorem made_presentLast {ran : Ran (Logged σ) Cache Unit}
    (hrun : (do if succeeded (← present display) then report (.presentOrValidate .presented) :
      Action (Logged σ) Cache Unit) e = .ok ran) :
    ∃ frame : Event, e.Made [.call true frame] ran := by
  obtain ⟨shown, reported, hshown, hreported, rfl⟩ := bind_ok.1 hrun
  have hframe := made_present hshown
  refine ⟨⟨.present display, shown.value⟩, ?_⟩
  cases hvalue : shown.value with
  | error failure =>
    rw [hvalue] at hframe hreported
    obtain rfl := Except.ok.inj hreported
    exact hframe.append (.nil rfl rfl)
  | ok p =>
    rw [hvalue] at hframe hreported
    obtain rfl := Except.ok.inj hreported
    refine hframe.report .presented ?_ rfl rfl
    exact ⟨_, List.mem_singleton_self _, _, rfl, Event.answer_present_ne_nil display p⟩

theorem made_clientMustAct {v : Validation} {ran : Ran (Logged σ) Cache Bool}
    (hrun : clientMustAct display v e = .ok ran) :
    ∃ events : List Event, e.Made (events.map (.call true)) ran := by
  unfold clientMustAct at hrun
  split at hrun
  · obtain rfl := Except.ok.inj hrun
    exact ⟨[], .nil rfl rfl⟩
  · obtain ⟨asked, last, hasked, hlast, rfl⟩ := bind_ok.1 hrun
    obtain ⟨hardware, hcall, hentries, hengine⟩ := perform_ok.1 hasked
    have hnothing : last.engine = asked.engine ∧ last.entries = [] := by
      cases hvalue : asked.value <;> rw [hvalue] at hlast <;> obtain rfl := Except.ok.inj hlast <;>
        exact ⟨rfl, rfl⟩
    refine ⟨[⟨_, asked.value⟩], .call hcall ?_ ?_⟩
    · rw [hnothing.1, hengine]
    · rw [hnothing.2, hentries]
      cases asked.value <;> rfl

/-- The long way that present-or-validate takes if it cannot present at once. -/
theorem made_fallback {ran : Ran (Logged σ) Cache Unit} (hrun : fallback display e = .ok ran) :
    ∃ events : List Event, e.Made (events.map (.call true)) ran := by
  obtain ⟨validated, rest, hvalidated, hrest, rfl⟩ := bind_ok.1 hrun
  have hvalidation := made_validate hvalidated true
  cases hvalue : validated.value with
  | error failure =>
    rw [hvalue] at hrest
    obtain rfl := Except.ok.inj hrest
    exact ⟨[⟨.validate display, validated.value⟩], hvalidation.append (.nil rfl rfl)⟩
  | ok v =>
    rw [hvalue] at hrest hvalidation
    obtain ⟨asked, last, hasked, hlast, rfl⟩ := bind_ok.1 hrest
    obtain ⟨questions, hquestions⟩ := made_clientMustAct hasked
    have hbefore := hvalidation.append hquestions
    cases hacts : asked.value with
    | true =>
      rw [hacts] at hlast
      obtain rfl := Except.ok.inj hlast
      refine ⟨⟨.validate display, .ok v⟩ :: questions, hbefore.report .validated ?_ rfl ?_⟩
      · exact ⟨_, List.mem_cons_self .., _, rfl, Event.answer_validate_ne_nil display v⟩
      · exact (List.append_assoc ..).symm
    | false =>
      rw [hacts] at hlast
      obtain ⟨accepted, presented, haccepted, hpresented, rfl⟩ := bind_ok.1 hlast
      obtain ⟨out, hacceptance⟩ := made_accept haccepted true
      obtain ⟨frame, hframe⟩ := made_presentLast hpresented
      have hall := hvalidation.append (hquestions.append (hacceptance.append hframe))
      refine ⟨⟨.validate display, .ok v⟩ :: (questions ++ ⟨.accept display, out⟩ :: [frame]), ?_⟩
      rw [List.map_cons, List.map_append]
      exact hall

/-- **Present-or-validate** makes calls, and reports their answers and its outcome. -/
theorem made_presentOrValidate {time : Option Timestamp} {ran : Ran (Logged σ) Cache Unit}
    (hrun : presentOrValidate display time e = .ok ran) :
    ∃ events : List Event, e.Made (events.map (.call true)) ran := by
  rw [presentOrValidate_eq] at hrun
  obtain ⟨expected, rest, hexpected, hrest, rfl⟩ := bind_ok.1 hrun
  obtain ⟨out, hhint⟩ := made_expectPresent hexpected true
  obtain ⟨direct, last, hdirect, hlast, rfl⟩ := bind_ok.1 hrest
  obtain ⟨events, hmade, hshown⟩ := made_presentDirectly hdirect
  cases hvalue : direct.value with
  | true =>
    rw [hvalue] at hlast
    obtain rfl := Except.ok.inj hlast
    obtain ⟨event, hevent, hanswer⟩ := hshown hvalue
    refine ⟨⟨_, out⟩ :: events, hhint.append (hmade.report .presented ?_ rfl rfl)⟩
    exact ⟨.call true event, List.mem_map_of_mem hevent, event, rfl, hanswer⟩
  | false =>
    rw [hvalue] at hlast
    obtain ⟨later, hlater⟩ := made_fallback hlast
    refine ⟨⟨_, out⟩ :: (events ++ later), ?_⟩
    rw [List.map_cons, List.map_append]
    exact hhint.append (hmade.append hlater)

/-- **The calls that present-or-validate makes are a dialogue,** and what it reports is
reported of them. -/
theorem made_dialogue {time : Option Timestamp} {ran : Ran (Logged σ) Cache Unit}
    (hrun : presentOrValidate display time e = .ok ran) :
    ∃ x : Dialogue (e.resources.mustValidate display),
      e.Made ((x.events display time).map (.call true)) ran ∧
      ran.entries.filterMap Entry.outcome? = x.outcome.toList ∧
      ran.engine.presentState display = .ofOutcome x.outcome := by
  obtain ⟨events, hmade⟩ := made_presentOrValidate hrun
  obtain ⟨x, hlog, hends⟩ := dialogue_of_presentOrValidate hrun
  have hevents : events = x.events display time := by
    rw [← Operation.filterMap_event?_call true events, ← hmade.calls]
    exact Engine.calls_eq hlog
  exact ⟨x, hevents ▸ hmade, hends⟩

end Short

/-! ### A command -/

section Command

variable {display : DisplayId} {e : Engine (Logged σ) Cache}

theorem made_property {p : Property} (hp : ∀ time, p ≠ .expectedPresentTime time)
    {ran : Ran (Logged σ) Cache Unit}
    (hrun : applySetting display (.property p) e = .ok ran) :
    ran.engine.resources = e.resources ∧
      ∃ out, e.Made [.call false ⟨.set display (.property p), out⟩] ran := by
  obtain ⟨called, reported, hcalled, hreported, rfl⟩ := bind_ok.1 hrun
  obtain ⟨hardware, hcall, hentries, hengine⟩ := perform_ok.1 hcalled
  rw [reportFailure_eq] at hreported
  obtain rfl := Except.ok.inj hreported
  refine ⟨by rw [hengine], called.value, .call hcall (by rw [hengine]) ?_⟩
  dsimp only
  rw [hentries, List.nil_append]
  have hreported : (Call.set display (.property p)).silent false = false := by
    cases p with
    | expectedPresentTime time => exact absurd rfl (hp time)
    | _ => rfl
  cases called.value <;> simp [failures, Operation.entries, Operation.recorded?, hreported,
    Event.failure?, Event.answer]

theorem made_image {use : ImageUse} {ref : ImageRef} {ran : Ran (Logged σ) Cache Unit}
    (hrun : applySetting display (.image use ref) e = .ok ran) :
    (∃ refusal, e.resources.resolve ref = .error refusal ∧ ran.engine.resources = e.resources ∧
      e.Made [.refused refusal] ran) ∨
    ∃ r c' out, e.resources.resolve ref = .ok (r, c') ∧
      ran.engine.resources = c'.release r.parked ∧
      e.Made [.call false ⟨.set display (.image use r.image), out⟩] ran := by
  obtain ⟨found, rest, hfound, hrest, rfl⟩ := bind_ok.1 hrun
  rw [resolve_eq] at hfound
  obtain rfl := Except.ok.inj hfound
  cases hresolve : e.resources.resolve ref with
  | error refusal =>
    rw [hresolve] at hrest
    obtain rfl := Except.ok.inj hrest
    exact .inl ⟨refusal, rfl, rfl, .single (List.append_nil _).symm rfl⟩
  | ok r =>
    obtain ⟨r, c'⟩ := r
    rw [hresolve] at hrest
    obtain ⟨called, last, hcalled, hlast, rfl⟩ := bind_ok.1 hrest
    obtain ⟨hardware, hcall, hentries, hengine⟩ := perform_ok.1 hcalled
    obtain ⟨released, reported, hreleased, hreported, rfl⟩ := bind_ok.1 hlast
    obtain rfl := Except.ok.inj hreleased
    rw [reportFailure_eq] at hreported
    obtain rfl := Except.ok.inj hreported
    refine .inr ⟨r, c', called.value, rfl, ?_, .call hcall ?_ ?_⟩
    · rw [hengine]
      rfl
    · rw [hengine]
    · dsimp only
      rw [hentries]
      cases called.value <;> rfl

theorem made_each {settings : List (Setting ImageRef)}
    (hsettings : ∀ time, .property (.expectedPresentTime time) ∉ settings)
    {ran : Ran (Logged σ) Cache Unit}
    (hrun : each (applySetting display) settings e = .ok ran) :
    ∃ ops, e.resources.Settles display settings ops ∧ e.Made ops ran := by
  induction settings generalizing e ran with
  | nil =>
    obtain rfl := Except.ok.inj hrun
    exact ⟨[], .nil _, .nil rfl rfl⟩
  | cons setting rest ih =>
    obtain ⟨first, second, hfirst, hsecond, rfl⟩ := bind_ok.1 hrun
    obtain ⟨ops, hsettles, hmade⟩ := ih
      (fun time hmem => hsettings time (List.mem_cons_of_mem _ hmem)) hsecond
    cases setting with
    | property p =>
      have hp : ∀ time, p ≠ .expectedPresentTime time := by
        rintro time rfl
        exact hsettings time (List.mem_cons_self ..)
      obtain ⟨hcache, out, hcalled⟩ := made_property hp hfirst
      rw [hcache] at hsettles
      exact ⟨_, .property out hsettles, hcalled.append hmade⟩
    | image use ref =>
      rcases made_image hfirst with ⟨refusal, hresolve, hcache, hrefused⟩ |
        ⟨r, c', out, hresolve, hcache, hcalled⟩
      · rw [hcache] at hsettles
        exact ⟨_, .refused hresolve hsettles, hrefused.append hmade⟩
      · rw [hcache] at hsettles
        exact ⟨_, .image out hresolve hsettles, hcalled.append hmade⟩

/-- **A command makes the operations that it asks for,** and reports what is reported of
them. -/
theorem made_command {c : DisplayCommand} {ran : Ran (Logged σ) Cache Unit}
    (hrun : command c e = .ok ran) : ∃ ops, c.Carries e.resources ops ∧ e.Made ops ran := by
  rw [command_eq] at hrun
  obtain ⟨settled, rest, hsettled, hrest, rfl⟩ := bind_ok.1 hrun
  obtain ⟨set, noted, hset, hnoted, rfl⟩ := bind_ok.1 hsettled
  obtain ⟨sets, hsettles, hsets⟩ := made_each c.expectedPresentTime_not_mem_settings hset
  have hnote : set.engine.Made [] noted := by
    cases hempty : !c.settings.isEmpty <;> rw [hempty] at hnoted <;>
      obtain rfl := Except.ok.inj hnoted <;> exact .nil rfl rfl
  rw [protocol_eq_directly] at hrest
  obtain ⟨asked, last, hasked, hlast, rfl⟩ := bind_ok.1 hrest
  obtain ⟨direct, hcalls, hdirect⟩ := makes_directly c noted.engine asked hasked
  obtain ⟨short, hshort, hnone, hdialogue⟩ : ∃ short : List Event,
      asked.engine.Made (short.map (.call true)) last ∧
        (c.presentOrValidate = false → short = []) ∧
        (c.presentOrValidate = true → ∃ (must : Bool) (x : Dialogue must),
          short = x.events c.display c.expectedPresentTime) := by
    cases hflag : c.presentOrValidate with
    | false =>
      rw [hflag] at hlast
      obtain rfl := Except.ok.inj hlast
      exact ⟨[], .nil rfl rfl, by simp, by simp⟩
    | true =>
      rw [hflag] at hlast
      obtain ⟨x, hmade, -⟩ := made_dialogue hlast
      exact ⟨_, hmade, by simp, fun _ => ⟨_, x, rfl⟩⟩
  refine ⟨_, ⟨sets, direct, short, rfl, hsettles, hcalls, hnone, hdialogue⟩, ?_⟩
  have hmade := (hsets.append hnote).append (hdirect.append hshort)
  rw [List.append_nil] at hmade
  exact hmade

end Command

end Action

end DisplayComposer
