import DisplayComposer.Proofs.Engine.Confined
import DisplayComposer.Proofs.Engine.Overflow
/-!
# DisplayComposer.Proofs.Engine.Isolation

**Displays do not interfere.** What is shared between displays are the numbers of imports and
of fences, and nothing depends on these but that there are some. So two engines that hold the
same for a display (`Engine.AlikeAt`) may hold what they like for others: a command for the
display does the same in both, and a command for another display leaves what they hold for this
one alone. From this it follows that a batch does for each display what the commands for that
display do as a batch of their own, whatever stands between them.

* `Engine.AlikeAt`, `Parallel` — engines that hold the same for a display;
* `Action.Confined.mirrors` — the same steps in such engines;
* `Action.parallel_stable` — the steps for another display;
* `Engine.outcomes_isolated` — a batch, and its commands for one display;
* `Engine.execute_isolated` — what that says of batches.
-/

namespace DisplayComposer

/-! ### Engines that hold the same for a display -/

namespace Engine

/-- Engines that hold the same for a display, but for the numbers that are handed out for all
displays together. -/
structure AlikeAt (display : DisplayId) (e f : Engine Headless Cache) : Prop where
  hardware : e.hardware.bare? display = f.hardware.bare? display
  resources : e.resources.bare? display = f.resources.bare? display
  state : e.presentState display = f.presentState display

/-- Such engines, as long as they have fences to hand out. -/
structure Parallel (display : DisplayId) (e f : Engine Headless Cache) : Prop
    extends AlikeAt display e f where
  fenced : e.hardware.Fenced
  fenced' : f.hardware.Fenced

variable {display : DisplayId} {e f g : Engine Headless Cache}

theorem AlikeAt.refl (display : DisplayId) (e : Engine Headless Cache) : AlikeAt display e e :=
  ⟨rfl, rfl, rfl⟩

theorem AlikeAt.symm (h : AlikeAt display e f) : AlikeAt display f e :=
  ⟨h.hardware.symm, h.resources.symm, h.state.symm⟩

theorem AlikeAt.trans (hef : AlikeAt display e f) (hfg : AlikeAt display f g) :
    AlikeAt display e g :=
  ⟨hef.hardware.trans hfg.hardware, hef.resources.trans hfg.resources, hef.state.trans hfg.state⟩

namespace Parallel

/-- Caches on both sides that hold the same for the display. -/
theorem cached (h : Parallel display e f) {c c' : Cache}
    (hsame : c.bare? display = c'.bare? display) :
    Parallel display { e with resources := c } { f with resources := c' } where
  hardware := h.hardware
  resources := hsame
  state := h.state
  fenced := h.fenced
  fenced' := h.fenced'

theorem setState (h : Parallel display e f) (s : PresentState) :
    Parallel display (e.setState display s) (f.setState display s) where
  hardware := h.hardware
  resources := h.resources
  state := by
    rw [presentState_setState, presentState_setState, if_pos rfl, if_pos rfl]
  fenced := h.fenced
  fenced' := h.fenced'

end Parallel

end Engine

/-! ### Commands -/

namespace Action

open Engine (Parallel)

variable {α β γ δ : Type} {display : DisplayId} {e f : Engine Headless Cache}

/-- What two actions leave that took the same steps for a display. -/
structure Mirrors (display : DisplayId) (R : α → β → Prop) (ran : Ran Headless Cache α)
    (ran' : Ran Headless Cache β) : Prop where
  value : R ran.value ran'.value
  entries : ran.entries.map Entry.bare = ran'.entries.map Entry.bare
  engines : Parallel display ran.engine ran'.engine

theorem Mirrors.append {Q : α → β → Prop} {R : γ → δ → Prop} {first : Ran Headless Cache α}
    {first' : Ran Headless Cache β} {second : Ran Headless Cache γ}
    {second' : Ran Headless Cache δ} (hfirst : Mirrors display Q first first')
    (hsecond : Mirrors display R second second') :
    Mirrors display R { second with entries := first.entries ++ second.entries }
      { second' with entries := first'.entries ++ second'.entries } where
  value := hsecond.value
  entries := by rw [List.map_append, List.map_append, hfirst.entries, hsecond.entries]
  engines := hsecond.engines

/-- Calls that come to the same for a display. -/
theorem mirrors_perform {c : Call} (c' : Call)
    {ran : Ran Headless Cache (Except HardwareError c.Answer)}
    {R : Except HardwareError c.Answer → Except HardwareError c'.Answer → Prop}
    (hef : Parallel display e f) (hrun : perform c e = .ok ran)
    (hsame : ∀ {out s}, Hardware.perform c e.hardware = .ok (out, s) →
      ∃ out' t, Hardware.perform c' f.hardware = .ok (out', t) ∧ R out out' ∧
        s.bare? display = t.bare? display) :
    ∃ ran', perform c' f = .ok ran' ∧ Mirrors display R ran ran' := by
  obtain ⟨s, hcall, hentries, hengine⟩ := perform_ok.1 hrun
  obtain ⟨out', t, hcall', hout, hafter⟩ := hsame hcall
  refine ⟨⟨out', [], { f with hardware := t }⟩, perform_ok.2 ⟨t, hcall', rfl, rfl⟩, hout,
    by rw [hentries], ?_⟩
  rw [hengine]
  exact ⟨⟨hafter, hef.resources, hef.state⟩, hef.fenced.perform hcall, hef.fenced'.perform hcall'⟩

theorem mirrors_resolve {ref : ImageRef} {ran : Ran Headless Cache (Except CacheError Resolution)}
    (hef : Parallel ref.scope.display e f) (hrun : resolve ref e = .ok ran) :
    ∃ ran', resolve ref f = .ok ran' ∧ Mirrors ref.scope.display SameFound ran ran' := by
  rw [resolve_eq] at hrun ⊢
  obtain rfl := Except.ok.inj hrun
  refine ⟨_, rfl, ?_⟩
  rcases Except.map_eq_map_cases (Cache.resolve_bare hef.resources) with
    ⟨refusal, hr, hr'⟩ | ⟨r, r', hr, hr', hsame⟩
  · rw [hr, hr']
    exact ⟨rfl, rfl, hef⟩
  · obtain ⟨himage, hafter⟩ := Prod.mk.inj hsame
    rw [hr, hr']
    exact ⟨congrArg Except.ok himage, rfl, hef.cached hafter⟩

/-- **The same steps for a display** are the same in engines that hold the same for it. -/
theorem Confined.mirrors {R : α → β → Prop} {x : Action Headless Cache α}
    {y : Action Headless Cache β} (h : Confined display R x y) (hef : Parallel display e f)
    {ran : Ran Headless Cache α} (hrun : x e = .ok ran) :
    ∃ ran', y f = .ok ran' ∧ Mirrors display R ran ran' := by
  induction h generalizing e f with
  | pure hab =>
    obtain rfl := Except.ok.inj hrun
    exact ⟨_, rfl, hab, rfl, hef⟩
  | bind _ _ ihx ihf =>
    obtain ⟨first, second, hfirst, hsecond, rfl⟩ := bind_ok.1 hrun
    obtain ⟨first', hfirst', hbetween⟩ := ihx hef hfirst
    obtain ⟨second', hsecond', hlast⟩ := ihf _ _ hbetween.value hbetween.engines hsecond
    exact ⟨_, bind_ok.2 ⟨first', second', hfirst', hsecond', rfl⟩, hbetween.append hlast⟩
  | perform call hdisplay hsteady =>
    subst hdisplay
    have hcreates : ∀ display, call ≠ .createLayer display := by
      rintro display rfl
      cases hsteady
    exact mirrors_perform call hef hrun fun hcall =>
      Headless.perform_bare hcreates hef.fenced hef.fenced' hef.hardware hcall
  | @setImage use image image' himage =>
    refine mirrors_perform (.set display (.image use image')) hef hrun fun hcall => ?_
    obtain ⟨hardware', hcall', hafter⟩ := Headless.setImage_bare himage hef.hardware hcall
    exact ⟨_, hardware', hcall', rfl, hafter⟩
  | resolve ref hdisplay =>
    subst hdisplay
    exact mirrors_resolve hef hrun
  | release images =>
    obtain rfl := Except.ok.inj hrun
    exact ⟨_, rfl, trivial, rfl, hef.cached hef.resources⟩
  | mustValidate =>
    obtain rfl := Except.ok.inj hrun
    exact ⟨_, rfl, Cache.mustValidate_bare hef.resources, rfl, hef⟩
  | clearMustValidate =>
    obtain rfl := Except.ok.inj hrun
    exact ⟨_, rfl, trivial, rfl, hef.cached (Cache.setMustValidate_bare false hef.resources)⟩
  | setState state =>
    obtain rfl := Except.ok.inj hrun
    exact ⟨_, rfl, trivial, rfl, hef.setState state⟩
  | report hentry =>
    obtain rfl := Except.ok.inj hrun
    exact ⟨_, rfl, trivial, congrArg (fun entry => [entry]) hentry, hef⟩

/-- **What is done for another display** goes by unnoticed. -/
theorem parallel_stable {other : DisplayId} (hother : other ≠ display) :
    Stable other fun e => Parallel display e f where
  perform call hdisplay _ e ran he hrun := by
    obtain ⟨hardware, hcall, -, hengine⟩ := perform_ok.1 hrun
    have hget := Headless.get?_displays_of_perform hcall (hdisplay ▸ hother)
    rw [hengine]
    refine ⟨⟨?_, he.resources, he.state⟩, he.fenced.perform hcall, he.fenced'⟩
    exact (congrArg (Option.map _) hget).trans he.hardware
  resolve ref hdisplay e ran he hrun := by
    rw [resolve_eq] at hrun
    obtain rfl := Except.ok.inj hrun
    cases hr : e.resources.resolve ref with
    | error refusal => exact he
    | ok r =>
      have hget := Cache.get?_resolve hr (hdisplay ▸ hother.symm)
      exact he.cached ((congrArg (Option.map _) hget).trans he.resources)
  release images e ran he hrun := by
    obtain rfl := Except.ok.inj hrun
    exact he.cached he.resources
  clearMustValidate e ran he hrun := by
    obtain rfl := Except.ok.inj hrun
    have hget := Cache.get?_setMustValidate e.resources false hother.symm
    exact he.cached ((congrArg (Option.map _) hget).trans he.resources)
  setState state e ran he hrun := by
    obtain rfl := Except.ok.inj hrun
    refine ⟨⟨he.hardware, he.resources, ?_⟩, he.fenced, he.fenced'⟩
    rw [Engine.presentState_setState, if_neg hother]
    exact he.state

end Action

/-! ### Results -/

namespace CommandResult

/-- A result without the numbers of fences. -/
def bare (r : CommandResult) : CommandResult :=
  { r with
    presentFence := r.presentFence.map (·.bare)
    releaseFences := r.releaseFences.map fun fences => fences.map (·.bare) }

/-- A result at the place that its command has in a longer batch. -/
def moved (places : List Nat) (r : CommandResult) : CommandResult :=
  r.atIndex (.ofNat (places.getD r.index.toNat 0))

theorem bare_add (r : CommandResult) (entry : Entry) :
    (r.add entry).bare = r.bare.add entry.bare := by
  cases entry <;> rfl

theorem bare_foldl_add (entries : List Entry) (r : CommandResult) :
    (entries.foldl add r).bare = (entries.map Entry.bare).foldl add r.bare := by
  induction entries generalizing r with
  | nil => rfl
  | cons entry rest ih => rw [List.foldl_cons, ih, bare_add, List.map_cons, List.foldl_cons]

/-- Entries that differ in the numbers of fences at most make results that do, wherever their
commands stand. -/
theorem reported_bare {entries entries' : List Entry}
    (h : entries.map Entry.bare = entries'.map Entry.bare) (index index' : UInt32)
    (display : DisplayId) :
    (reported index display entries).map bare =
      (reported index' display entries').map fun r => (r.atIndex index).bare := by
  rw [reported, reported]
  cases entries with
  | nil =>
    obtain rfl : entries' = [] := List.map_eq_nil_iff.1 h.symm
    rfl
  | cons entry rest =>
    cases entries' with
    | nil => cases h
    | cons entry' rest' =>
      refine congrArg some ?_
      show _ = (((entry' :: rest').foldl add (blank index' display)).atIndex index).bare
      rw [← foldl_add_atIndex, bare_foldl_add, bare_foldl_add, h]
      rfl

/-- The first result goes to the first place. -/
theorem moved_cons_first (place : Nat) (places : List Nat) {r : CommandResult}
    (hr : r.index = .ofNat 0) : r.moved (place :: places) = r.atIndex (.ofNat place) := by
  rw [moved, hr]
  rfl

/-- The others go where they go without the first place. -/
theorem moved_cons_shift (place : Nat) (places : List Nat) {r : CommandResult}
    (hr : r.index.toNat + 1 < UInt32.size) :
    (r.shift 1).moved (place :: places) = r.moved places := by
  have hindex : (r.shift 1).index.toNat = r.index.toNat + 1 := by
    show (r.index + 1).toNat = _
    rw [UInt32.toNat_add]
    exact Nat.mod_eq_of_lt hr
  rw [moved, hindex]
  rfl

end CommandResult

/-! ### Batches -/

namespace Engine

open CommandResult (reported mem_reported reported_bare moved_cons_first moved_cons_shift)

/-- The places of the commands for a display, the first command being at place `n`. -/
def placesFrom (n : Nat) (display : DisplayId) (commands : List DisplayCommand) : List Nat :=
  ((commands.zipIdx n).filter fun c => c.1.display = display).map Prod.snd

/-- The results for a display are some others, moved to the places given for them, but for the
numbers of fences. -/
def Scattered (display : DisplayId) (places : List Nat) (own results : List CommandResult) :
    Prop :=
  (results.filter (·.display = display)).map (·.bare) = own.map fun r => (r.moved places).bare

variable {n : Nat} {display : DisplayId} {commands : List DisplayCommand}
  {e e' f : Engine Headless Cache} {results own later : List CommandResult}

theorem placesFrom_cons (n : Nat) (display : DisplayId) (c : DisplayCommand)
    (rest : List DisplayCommand) :
    placesFrom n display (c :: rest) =
      if c.display = display then n :: placesFrom (n + 1) display rest
      else placesFrom (n + 1) display rest := by
  rw [placesFrom, List.zipIdx_cons, List.filter_cons]
  by_cases hdisplay : c.display = display
  · rw [if_pos (decide_eq_true hdisplay), if_pos hdisplay]
    rfl
  · rw [if_neg (by simpa using hdisplay), if_neg hdisplay]
    rfl

/-- A command for another display in front. -/
theorem Scattered.cons_of_ne {c : DisplayCommand}
    (h : Scattered display (placesFrom (n + 1) display commands) own later)
    (hdisplay : c.display ≠ display) (index : UInt32) (entries : List Entry) :
    Scattered display (placesFrom n display (c :: commands)) own
      ((reported index c.display entries).toList ++ later) := by
  have hnone : (reported index c.display entries).toList.filter (·.display = display) = [] := by
    refine List.filter_eq_nil_iff.2 fun r hr => ?_
    rw [(mem_reported hr).2]
    simpa using hdisplay
  rw [Scattered, List.filter_append, hnone, List.nil_append, placesFrom_cons, if_neg hdisplay]
  exact h

/-- A command for the display in front. -/
theorem Scattered.cons_of_eq {c : DisplayCommand}
    (h : Scattered display (placesFrom (n + 1) display commands) own later)
    (hdisplay : c.display = display) (hown : ∀ r ∈ own, r.index.toNat + 1 < UInt32.size)
    {entries entries' : List Entry} (hentries : entries.map Entry.bare = entries'.map Entry.bare) :
    Scattered display (placesFrom n display (c :: commands))
      ((reported (.ofNat 0) c.display entries').toList ++ own.map (·.shift 1))
      ((reported (.ofNat n) c.display entries).toList ++ later) := by
  have hall : (reported (.ofNat n) c.display entries).toList.filter (·.display = display) =
      (reported (.ofNat n) c.display entries).toList := by
    refine List.filter_eq_self.2 fun r hr => ?_
    rw [(mem_reported hr).2]
    exact decide_eq_true hdisplay
  rw [Scattered, List.filter_append, hall, List.map_append, h, placesFrom_cons, if_pos hdisplay,
    List.map_append, List.map_map]
  congr 1
  · rw [← Option.toList_map, reported_bare hentries _ (.ofNat 0), Option.toList_map]
    refine List.map_congr_left fun r hr => ?_
    exact congrArg (·.bare) (moved_cons_first n _ (mem_reported hr).1).symm
  · refine List.map_congr_left fun r hr => ?_
    exact congrArg (·.bare) (moved_cons_shift n _ (hown r hr)).symm

/-- Commands do for a display what those of them do that are for it. -/
theorem outcomes_isolated (hef : Parallel display e f) (hlen : n + commands.length ≤ UInt32.size)
    (hrun : outcomes n commands e = .ok (results, e')) :
    ∃ own f', outcomes 0 (commands.filter (·.display = display)) f = .ok (own, f') ∧
      Parallel display e' f' ∧ Scattered display (placesFrom n display commands) own results := by
  -- the engines go apart at the first command for another display, so both are general
  induction commands generalizing n e f results with
  | nil =>
    obtain ⟨rfl, rfl⟩ := Prod.mk.inj (Except.ok.inj hrun)
    exact ⟨[], f, rfl, hef, rfl⟩
  | cons c rest ih =>
    rw [List.length_cons] at hlen
    obtain ⟨ran, later, hran, hlater, rfl⟩ := outcomes_cons_ok.1 hrun
    by_cases hdisplay : c.display = display
    · -- both engines carry it out
      obtain ⟨ran', hran', hmirrors⟩ := (hdisplay ▸ Action.confined_command c).mirrors hef hran
      obtain ⟨own, f', hown, hlast, hscattered⟩ := ih hmirrors.engines (by omega) hlater
      have hcount := List.length_filter_le (fun c : DisplayCommand => c.display = display) rest
      rw [List.filter_cons_of_pos (by simpa using hdisplay)]
      refine ⟨_, f', outcomes_cons_ok.2 ⟨ran', own.map (·.shift 1), hran', ?_, rfl⟩, hlast, ?_⟩
      · rw [outcomes_shift, hown]
        rfl
      · refine hscattered.cons_of_eq hdisplay (fun r hr => ?_) hmirrors.entries
        have hbound := (bounds_of_mem_outcomes hown (by omega) hr).2
        omega
    · -- only the first one does
      have hbetween := (Action.parallel_stable hdisplay).keeps_command e ran hef hran
      obtain ⟨own, f', hown, hlast, hscattered⟩ := ih hbetween (by omega) hlater
      rw [List.filter_cons_of_neg (by simpa using hdisplay)]
      exact ⟨own, f', hown, hlast, hscattered.cons_of_ne hdisplay _ _⟩

/-- The commands of a batch for a display, as far as they have an index. -/
def commandsFor (display : DisplayId) (commands : List DisplayCommand) : List DisplayCommand :=
  (commands.take UInt32.size).filter (·.display = display)

/-- The places of these commands in the batch. -/
def placesFor (display : DisplayId) (commands : List DisplayCommand) : List Nat :=
  placesFrom 0 display (commands.take UInt32.size)

/-- A batch does for a display what its commands for the display do. -/
theorem execute_commandsFor (hfences : e.hardware.Fenced)
    (hrun : e.execute commands = .ok (results, e')) (display : DisplayId) :
    ∃ own f, e.execute (commandsFor display commands) = .ok (own, f) ∧
      AlikeAt display e' f ∧ Scattered display (placesFor display commands) own results := by
  obtain ⟨last, hout, rfl⟩ := outcomes_of_execute hrun
  have hlen : (commands.take UInt32.size).length ≤ UInt32.size := List.length_take_le _ _
  have hshort : (commandsFor display commands).length ≤ UInt32.size :=
    Nat.le_trans (List.length_filter_le _ _) hlen
  have hself : Parallel display e e := ⟨.refl display e, hfences, hfences⟩
  obtain ⟨own, f, hown, hlast, hscattered⟩ := outcomes_isolated hself (by omega) hout
  refine ⟨own, f.counting (e.batches + 1), (execute_ok hshort).2 ⟨f, hown, rfl⟩, ?_, hscattered⟩
  exact ⟨hlast.hardware, hlast.resources, hlast.state⟩

/-- Interleaved otherwise, the same commands do not stop the program either. -/
theorem execute_interleaved {others : List DisplayCommand}
    (hsame : ∀ display, commandsFor display others = commandsFor display commands)
    (hrun : e.execute commands = .ok (results, e')) : ∃ r, e.execute others = .ok r := by
  obtain ⟨last, hout, -⟩ := outcomes_of_execute hrun
  -- they measure the same frames, and nothing else can stop the program
  have hsound : ∀ frame ∈ (others.take UInt32.size).flatMap (·.frames), ¬ frame.Overflows := by
    intro frame hframe hover
    obtain ⟨c, hc, hmem⟩ := List.mem_flatMap.1 hframe
    have hown : c ∈ commandsFor c.display others := List.mem_filter.2 ⟨hc, decide_eq_true rfl⟩
    rw [hsame] at hown
    have hstops := (outcomes_of_frames 0 (commands.take UInt32.size) e).2
      ⟨frame, List.mem_flatMap.2 ⟨c, (List.mem_filter.1 hown).1, hmem⟩, hover⟩
    rw [hout] at hstops
    cases hstops
  obtain ⟨r, hr⟩ := (outcomes_of_frames 0 (others.take UInt32.size) e).1 hsound
  rw [execute_take]
  exact ⟨_, (execute_ok (List.length_take_le _ _)).2 ⟨r.2, hr, rfl⟩⟩

/-- **Displays do not interfere.** Take any batch that does not stop the program, in any state
that is reached by requests. For each display the commands for it do as a batch of their own
what they do between the others: they leave the same for the display in the hardware, in the
cache and in the note where it stands, and have the same results but for their places and the
numbers of fences. So commands for different displays can be interleaved in any way. Commands
that have no index are not carried out, so they are none of the commands for a display. -/
theorem execute_isolated {configs : List DisplayConfig} {cache : Cache}
    (reached : (start (Headless.ofConfigs configs) cache).Reaches e)
    (hrun : e.execute commands = .ok (results, e')) :
    (∀ display, ∃ own f, e.execute (commandsFor display commands) = .ok (own, f) ∧
      AlikeAt display e' f ∧ Scattered display (placesFor display commands) own results) ∧
    ∀ others, (∀ display, commandsFor display others = commandsFor display commands) →
      ∃ results' e'', e.execute others = .ok (results', e'') ∧
        ∀ display, AlikeAt display e' e'' ∧
          ∀ own f, e.execute (commandsFor display commands) = .ok (own, f) →
            Scattered display (placesFor display others) own results' := by
  have hfences : e.hardware.Fenced := Headless.fenced_of_reaches reached.hardware
  refine ⟨execute_commandsFor hfences hrun, fun others hsame => ?_⟩
  obtain ⟨⟨results', e''⟩, hothers⟩ := execute_interleaved hsame hrun
  refine ⟨results', e'', hothers, fun display => ?_⟩
  obtain ⟨own, f, hown, hlast, -⟩ := execute_commandsFor hfences hrun display
  obtain ⟨own', f', hown', hlast', hscattered'⟩ := execute_commandsFor hfences hothers display
  -- both are compared to one batch, that of the display alone
  rw [hsame, hown] at hown'
  obtain ⟨rfl, rfl⟩ := Prod.mk.inj (Except.ok.inj hown')
  refine ⟨hlast.trans hlast'.symm, fun own₁ f₁ hown₁ => ?_⟩
  rw [hown] at hown₁
  obtain ⟨rfl, rfl⟩ := Prod.mk.inj (Except.ok.inj hown₁)
  exact hscattered'

/-- Two displays. -/
def pair : List DisplayConfig := [.standard, { DisplayConfig.standard with id := 1 }]

/-- A cache for them. -/
def pairCache : Cache :=
  ⟨.ofList [(0, ⟨true, .vacant 3, none, .empty⟩), (1, ⟨true, .vacant 3, none, .empty⟩)], 0, 0⟩

/-- An engine for them, with a layer on each. -/
def paired : Engine Headless Cache :=
  (start (.ofConfigs pair) pairCache).after [.createLayer 0 1, .createLayer 1 1]

/-- A frame with a new image in a layer, presented the short way. -/
def frameWith (display : DisplayId) (layer : LayerId) (word : Int32) : DisplayCommand :=
  { DisplayCommand.idle display with
    layers := [{ LayerCommand.idle layer with buffer := some ⟨0, some ⟨[], [word]⟩, .absent⟩ }]
    presentOrValidate := true }

/-- Two frames for the one display, and one for the other in between. -/
def alternating : List DisplayCommand := [frameWith 0 1 7, frameWith 1 2 8, frameWith 0 1 9]

/-- The same frames, the one in between first. -/
def reordered : List DisplayCommand := [frameWith 1 2 8, frameWith 0 1 7, frameWith 0 1 9]

/-- Two fences go to the other display in between. Apart from that, the one display does not
notice it, and the other can as well go first. -/
theorem execute_isolated_alternating : ∃ results e' own f results' e'',
    paired.execute alternating = .ok (results, e') ∧
      results.map (fun r => (r.index, r.presentFence)) =
        [(0, some ⟨3⟩), (1, some ⟨5⟩), (2, some ⟨7⟩)] ∧
      paired.execute [frameWith 0 1 7, frameWith 0 1 9] = .ok (own, f) ∧
      own.map (fun r => (r.index, r.presentFence)) = [(0, some ⟨3⟩), (1, some ⟨5⟩)] ∧
      AlikeAt 0 e' f ∧ Scattered 0 [0, 2] own results ∧
      paired.execute reordered = .ok (results', e'') ∧
      AlikeAt 0 e' e'' ∧ Scattered 0 [1, 2] own results' := by
  have hfences : (paired.execute alternating).toOption.map
      (fun r => r.1.map fun r => (r.index, r.presentFence)) =
        some [(0, some ⟨3⟩), (1, some ⟨5⟩), (2, some ⟨7⟩)] := by decide +kernel
  have hown : (paired.execute [frameWith 0 1 7, frameWith 0 1 9]).toOption.map
      (fun r => r.1.map fun r => (r.index, r.presentFence)) =
        some [(0, some ⟨3⟩), (1, some ⟨5⟩)] := by decide +kernel
  have hkept : ∀ display, commandsFor display reordered = commandsFor display alternating := by
    intro display
    by_cases hzero : 0 = display
    · subst hzero
      rfl
    · have hother : ∀ word, ¬ (frameWith 0 1 word).display = display := fun _ => hzero
      show [frameWith 1 2 8, frameWith 0 1 7, frameWith 0 1 9].filter (·.display = display) =
        [frameWith 0 1 7, frameWith 1 2 8, frameWith 0 1 9].filter (·.display = display)
      simp only [List.filter_cons, hother, decide_false, Bool.false_eq_true, if_false]
  cases hrun : paired.execute alternating with
  | error crash =>
    rw [hrun] at hfences
    cases hfences
  | ok r =>
    obtain ⟨results, e'⟩ := r
    have reached : (start (.ofConfigs pair) pairCache).Reaches paired := .after _ _
    obtain ⟨halone, hothers⟩ := execute_isolated reached hrun
    obtain ⟨own, f, hzero, hlast, hscattered⟩ := halone 0
    obtain ⟨results', e'', hreordered, hsame⟩ := hothers reordered hkept
    rw [hrun] at hfences
    rw [show commandsFor 0 alternating = [frameWith 0 1 7, frameWith 0 1 9] from rfl] at hzero
    rw [hzero] at hown
    exact ⟨results, e', own, f, results', e'', rfl, Option.some.inj hfences, hzero,
      Option.some.inj hown, hlast, hscattered, hreordered, (hsame 0).1, (hsame 0).2 own f hzero⟩

end Engine

end DisplayComposer
