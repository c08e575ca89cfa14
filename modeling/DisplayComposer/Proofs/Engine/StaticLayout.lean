import DisplayComposer.Proofs.Engine.Ledger
import DisplayComposer.Proofs.Engine.Note
import DisplayComposer.Proofs.Engine.Reporting
import DisplayComposer.Proofs.Engine.Standing
import DisplayComposer.Proofs.Hardware.Readiness
/-!
# DisplayComposer.Proofs.Engine.StaticLayout

**A layout that does not change is shown at once.** Most frames change what layers show, not
how they are laid out: a new buffer, another cursor position, another client target. On the
headless backend nothing of this makes another validation necessary. So once a frame of a
display was shown, each further one is shown at once, by a single call to present, until a
layer comes or goes, some other property is set, or the display is refreshed. This holds
whatever else the commands ask for, whether or not what they set is refused, and whatever
happens to other displays.

* `DisplayCommand.Static`, `Engine.Move.Static` — what leaves the layout of a display alone;
* `Engine.Primed` — the next frame of a display will be shown at once;
* `Action.keeps_primed_command`, `Engine.primed_moveAll` — what keeps it so;
* `Engine.primed_of_presented` — it is so after a frame that was shown;
* `Engine.static_presents` — what that says of a run.
-/

namespace DisplayComposer

/-! ### What leaves the layout alone -/

/-- Fields of a layer command that say what the layer shows. -/
def LayerField.content : LayerField → Bool
  | .cursorPosition | .buffer | .damage => true
  | _ => false

/-- Fields of a command that do not say how the display shows its layers. -/
def DisplayField.content : DisplayField → Bool
  | .clientTarget | .outputBuffer | .brightness => true
  | .colorTransform => false

/-- A command that populates such fields only, with whatever arguments and flags. -/
structure DisplayCommand.Static (c : DisplayCommand) : Prop where
  layers : ∀ l ∈ c.layers, ∀ field, (l.item? c.display field).isSome = true → field.content = true
  display : ∀ field, (c.item? field).isSome = true → field.content = true

/-- Nothing that such a command sets makes another validation necessary. -/
theorem DisplayCommand.Static.quiet {c : DisplayCommand} (h : c.Static) {s : Setting ImageRef}
    (hs : s ∈ c.settings) (f : ImageRef → Image) :
    (Call.set c.display (s.map f)).unsettles = false := by
  rw [settings_eq] at hs
  rcases List.mem_append.1 hs with hs | hs
  · obtain ⟨l, hl, hs⟩ := List.mem_flatMap.1 hs
    obtain ⟨field, -, hitem⟩ := List.mem_filterMap.1 hs
    have hcontent := h.layers l hl field (by rw [hitem]; rfl)
    cases field with
    | cursorPosition | buffer | damage =>
      obtain ⟨v, -, rfl⟩ := Option.map_eq_some_iff.1 hitem
      rfl
    | _ => cases hcontent
  · obtain ⟨field, -, hitem⟩ := List.mem_filterMap.1 hs
    have hcontent := h.display field (by rw [hitem]; rfl)
    cases field with
    | clientTarget | outputBuffer | brightness =>
      obtain ⟨v, -, rfl⟩ := Option.map_eq_some_iff.1 hitem
      rfl
    | colorTransform => cases hcontent

/-- A move that leaves the layout of a display alone. Other displays do not matter. -/
structure Engine.Move.Static (display : DisplayId) (m : Engine.Move) : Prop where
  commands : ∀ c ∈ m.commands, c.display = display → c.Static
  request : ∀ request, m = .request request → request.unsettled? ≠ some display

/-! ### What keeps the next frame ready -/

namespace Engine

variable {display : DisplayId} {e e' : Engine (Logged Headless) Cache}

/-- The next frame of the display will be shown at once. -/
structure Primed (display : DisplayId) (e : Engine (Logged Headless) Cache) : Prop where
  note : e.resources.mustValidate display = false
  hardware : ∃ d, e.hardware.hardware.Primed display d

theorem primed_ofNote : OfNote display (Primed display) := by
  intro e e' he hhardware hnote
  exact ⟨hnote.trans he.note, by rw [hhardware]; exact he.hardware⟩

end Engine

namespace Action

open Engine (Primed)

variable {display : DisplayId}

theorem keeps_primed_perform {call : Call}
    (hquiet : call.display = display → call.unsettles = false) :
    (perform call : Action (Logged Headless) Cache _).Keeps (Primed display) := by
  intro e ran he hrun
  obtain ⟨hardware, hcall, -, hengine⟩ := perform_ok.1 hrun
  obtain ⟨d, hd⟩ := he.hardware
  rw [hengine]
  exact ⟨he.note, hd.perform hquiet (Logged.perform_ok.1 hcall).1⟩

/-- A note that is not there cannot be taken away. -/
theorem keeps_primed_validate (other : DisplayId) :
    (validate other : Action (Logged Headless) Cache _).Keeps (Primed display) := by
  intro e ran he hrun
  rw [validate_eq] at hrun
  obtain ⟨⟨out, hardware⟩, hcall, rfl⟩ := Except.map_eq_ok_iff.1 hrun
  obtain ⟨d, hd⟩ := he.hardware
  refine ⟨?_, hd.perform (fun _ => rfl) (Logged.perform_ok.1 hcall).1⟩
  show (e.resources.setMustValidate other false).mustValidate display = false
  by_cases hother : other = display
  · subst hother
    rw [Cache.setMustValidate_of_mustValidate he.note]
    exact he.note
  · rw [Cache.mustValidate_setMustValidate, if_neg hother]
    exact he.note

/-- **A command keeps the next frame ready** if it is about another display, or leaves the
layout alone. -/
theorem keeps_primed_command {c : DisplayCommand} (hstatic : c.display = display → c.Static) :
    (command c : Action (Logged Headless) Cache Unit).Keeps (Primed display) :=
  Engine.primed_ofNote.keeps_command
    (fun _ hs f => keeps_primed_perform fun hdisplay => (hstatic hdisplay).quiet hs f)
    (fun _ hquiet => keeps_primed_perform fun _ => hquiet) (keeps_primed_validate c.display)

end Action

namespace Engine

variable {display : DisplayId} {e e' : Engine (Logged Headless) Cache} {m : Move}
  {moves : List Move}

theorem Primed.move (he : e.Primed display) (hstatic : m.Static display)
    (hrun : e.move m = .ok e') : e'.Primed display := by
  refine keeps_move he hrun (fun c hc => Action.keeps_primed_command (hstatic.commands c hc))
    (fun e n he => primed_ofNote e _ he rfl rfl) fun request reply hm hno hhandle => ?_
  have hother := hstatic.request request hm
  refine primed_ofNote.keeps_request he hno (fun call hcall => ?_) (fun other hrequest => ?_)
    hhandle
  · refine Action.keeps_primed_perform fun hdisplay => absurd ?_ hother
    rw [hcall, hdisplay]
  · subst hrequest
    have hother : other ≠ display := fun heq => hother (congrArg some heq)
    refine ⟨?_, he.hardware⟩
    show (e.resources.setMustValidate other true).mustValidate display = false
    rw [Cache.mustValidate_setMustValidate, if_neg hother]
    exact he.note

/-- **A run keeps the next frame ready** for as long as it leaves the layout alone. -/
theorem primed_moveAll (he : e.Primed display) (hstatic : ∀ m ∈ moves, m.Static display)
    (hrun : e.moveAll moves = .ok e') : e'.Primed display :=
  moveAll_keeps (P := Primed display) (fun m hm _ _ hf hmove => hf.move (hstatic m hm) hmove)
    he hrun

/-- **After a frame that present-or-validate has shown** the next one is ready. -/
theorem primed_of_presented {configs : List DisplayConfig} {cache : Cache}
    (hcache : Cache.ofConfigs configs = .ok cache)
    (hmoves : (start ⟨.ofConfigs configs, []⟩ cache).moveAll moves = .ok e) {c : DisplayCommand}
    {ran : Ran (Logged Headless) Cache Unit} (hrun : Action.command c e = .ok ran)
    (hpresented : .presentOrValidate .presented ∈ ran.entries) :
    ran.engine.Primed c.display := by
  have hlast := moveAll_concat_command hmoves hrun
  have hcurrent : ∀ d, ran.engine.hardware.hardware.displays.get? c.display = some d → d.Current :=
    fun d known => Headless.current_of_reaches (moveAll_reaches hlast).unlogged known
  have hlockstep := lockstep_moveAll hcache hlast
  obtain ⟨lead, short, -, hshort, hengine, houtcome⟩ :=
    Action.outcome_cases hrun (List.mem_filterMap.2 ⟨_, hpresented, rfl⟩)
  rw [← hengine] at hcurrent hlockstep ⊢
  obtain ⟨before, shown, p, hshown, hp, hsame⟩ := Action.justShown_of_presented hshort houtcome
  rw [Action.present_eq] at hshown
  obtain ⟨⟨out, hardware⟩, hcall, rfl⟩ := Except.map_eq_ok_iff.1 hshown
  obtain rfl : out = .ok p := hp
  rw [← hsame] at hcurrent
  obtain ⟨d, hd⟩ := Headless.primed_of_present hcurrent (Logged.perform_ok.1 hcall).1
  have hd : short.engine.hardware.hardware.Primed c.display d := by
    rw [← hsame]
    exact hd
  -- the hardware knows the display, so the cache does
  obtain ⟨entry, hentry⟩ := hlockstep.registered hd.known
  rw [Action.resources_presentOrValidate hshort] at hentry
  refine ⟨?_, d, hd⟩
  rw [Action.resources_presentOrValidate hshort]
  exact Cache.mustValidate_of_registered hentry

end Engine

/-! ### The next frame -/

namespace Action

open Engine (Primed)

/-- **A frame that is ready is shown at once.** Present-or-validate tells the hardware the time,
and calls it to present. It makes no other call. -/
theorem presentOrValidate_of_primed {display : DisplayId} {e : Engine (Logged Headless) Cache}
    (he : e.Primed display) (time : Option Timestamp) :
    ∃ out p last, presentOrValidate display time e =
        .ok ⟨(), presentationEntries (.ok p) ++ [.presentOrValidate .presented], last⟩ ∧
      e.calls last = [⟨.set display (.property (.expectedPresentTime time)), out⟩,
        ⟨.present display, .ok p⟩] := by
  obtain ⟨d, hd⟩ := he.hardware
  -- what comes of telling the time does not matter
  obtain ⟨⟨out, told⟩, htold⟩ : ∃ r, Hardware.perform
      (.set display (.property (.expectedPresentTime time))) e.hardware.hardware = .ok r :=
    ⟨_, rfl⟩
  obtain ⟨d', hd'⟩ := hd.perform (fun _ => rfl) htold
  obtain ⟨p, hp, -⟩ := Headless.shows_of_ready hd'.known hd'.ready
  have hshown : Hardware.perform (.present display) told =
      .ok (.ok p, (told.present display).2) := by
    rw [Headless.perform_present, ← hp]
  have htell := expectPresent_of_ok (Logged.perform_of_ok (s := e.hardware) htold)
  have hpresent := present_of_ok (e := { e with hardware := ⟨told, e.hardware.log ++ [⟨_, out⟩]⟩ })
    (Logged.perform_of_ok hshown)
  rw [presentOrValidate_of_not_mustValidate he.note]
  refine ⟨out, p, _, bind_ok.2 ⟨_, _, htell, bind_ok.2 ⟨_, _, hpresent, rfl, rfl⟩, rfl⟩, ?_⟩
  exact Engine.calls_eq (List.append_assoc e.hardware.log [⟨_, out⟩] [⟨.present display, .ok p⟩])

end Action

namespace Engine

/-- **A layout that does not change is shown at once.** Take any run from startup on, up to a
command whose present-or-validate has shown a frame, and any commands and requests after that
which leave the layout of its display alone. Then a command of this kind that asks for
present-or-validate gets its frame by a single call to present: it tells the hardware the time,
calls it to present, and reports that it presented. -/
theorem static_presents {configs : List DisplayConfig} {e₀ : Engine Headless Cache}
    (hstart : Engine.ofConfigs configs = .ok e₀) {before more : List Move}
    {e g : Engine (Logged Headless) Cache} (hbefore : (e₀.logged []).moveAll before = .ok e)
    {c : DisplayCommand} {ran : Ran (Logged Headless) Cache Unit}
    (hrun : Action.command c e = .ok ran) (hpresented : .presentOrValidate .presented ∈ ran.entries)
    (hmore : ran.engine.moveAll more = .ok g) (hstatic : ∀ m ∈ more, m.Static c.display)
    {next : DisplayCommand} (hdisplay : next.display = c.display) (hnext : next.Static)
    (hasked : next.presentOrValidate = true) {last : Ran (Logged Headless) Cache Unit}
    (hlast : Action.command next g = .ok last) :
    ∃ lead short out p, Action.command next.lead g = .ok lead ∧
      Action.presentOrValidate next.display next.expectedPresentTime lead.engine = .ok short ∧
      last = ⟨(), lead.entries ++ short.entries, short.engine⟩ ∧
      lead.engine.calls short.engine =
        [⟨.set next.display (.property (.expectedPresentTime next.expectedPresentTime)), out⟩,
          ⟨.present next.display, .ok p⟩] ∧
      short.entries.filterMap Entry.outcome? = [.presented] ∧
      ∀ index, (CommandResult.reported index next.display last.entries).bind
        (·.presentOrValidate) = some .presented := by
  obtain ⟨cache, hcache, rfl⟩ := Except.map_eq_ok_iff.1 hstart
  have hfirst := primed_of_presented hcache hbefore hrun hpresented
  have hready := primed_moveAll hfirst hstatic hmore
  rw [← hdisplay] at hready
  rw [Action.command_eq_lead, hasked] at hlast
  obtain ⟨lead, short, hlead, hshort, rfl⟩ := Action.bind_ok.1 hlast
  have hlead' : lead.engine.Primed next.display :=
    Action.keeps_primed_command (c := next.lead) (fun _ => ⟨hnext.layers, hnext.display⟩) g lead
      hready hlead
  obtain ⟨out, p, f, hshown, hcalls⟩ :=
    Action.presentOrValidate_of_primed hlead' next.expectedPresentTime
  obtain rfl := Except.ok.inj (hshown.symm.trans hshort)
  have houtcome : (Action.presentationEntries (.ok p) ++
      [Entry.presentOrValidate .presented]).filterMap Entry.outcome? = [.presented] := by
    rw [List.filterMap_append, Action.outcomes_presentationEntries]
    rfl
  refine ⟨lead, _, out, p, hlead, hshown, rfl, hcalls, houtcome, fun index => ?_⟩
  rw [CommandResult.presentOrValidate_reported, List.filterMap_append, houtcome,
    List.getLast?_concat]

/-- A layer is to be moved as if it were a cursor, and the display to be validated. -/
def panned : DisplayCommand :=
  { DisplayCommand.idle 0 with
    layers := [{ LayerCommand.idle 1 with cursorPosition := some ⟨1, 1⟩ }]
    validate := true }

theorem static_panned : panned.Static where
  layers l hl field h := by
    obtain rfl := List.mem_singleton.1 hl
    cases field with
    | cursorPosition | buffer | damage => rfl
    | _ => cases h
  display field h := by
    cases field with
    | colorTransform => cases h
    | _ => rfl

/-- A batch about the display, and a refresh of another one. -/
def panning : List Move := [.request (.execute [panned]), .request (.refresh 1)]

/-- After a first frame the layer is no cursor, so that moving it fails; and the display is
validated once more. The next frame is shown at once all the same. -/
theorem static_presents_panned : ∃ e ran g last lead short out p,
    (single.logged []).moveAll [.request (.createLayer 0 1)] = .ok e ∧
      Action.command frame e = .ok ran ∧ ran.engine.moveAll panning = .ok g ∧
      Action.command { panned with presentOrValidate := true } g = .ok last ∧
      last.engine = short.engine ∧
      (lead : Ran (Logged Headless) Cache Unit).engine.calls
          (short : Ran (Logged Headless) Cache Unit).engine =
        [⟨.set 0 (.property (.expectedPresentTime none)), out⟩, ⟨.present 0, .ok p⟩] ∧
      short.entries.filterMap Entry.outcome? = [.presented] := by
  have hruns : (((single.logged []).moveAll [.request (.createLayer 0 1)]).bind fun e =>
      (Action.command frame e).bind fun ran => (ran.engine.moveAll panning).bind fun g =>
        (Action.command { panned with presentOrValidate := true } g).map fun _ =>
          decide (.presentOrValidate .presented ∈ ran.entries)).toOption = some true := by
    decide +kernel
  obtain ⟨e, he, hrest⟩ := Except.bind_eq_ok_iff.1 (Except.toOption_eq_some_iff.1 hruns)
  obtain ⟨ran, hran, hrest⟩ := Except.bind_eq_ok_iff.1 hrest
  obtain ⟨g, hg, hrest⟩ := Except.bind_eq_ok_iff.1 hrest
  obtain ⟨last, hlast, hpresented⟩ := Except.map_eq_ok_iff.1 hrest
  have hstatic : ∀ m ∈ panning, m.Static 0 := by
    intro m hm
    rcases List.mem_cons.1 hm with rfl | hm
    · refine ⟨fun c hc _ => ?_, fun request hrequest => ?_⟩
      · rw [List.mem_singleton.1 hc]
        exact static_panned
      · cases hrequest
        decide
    · obtain rfl := List.mem_singleton.1 hm
      refine ⟨fun c hc => (nomatch hc), fun request hrequest => ?_⟩
      cases hrequest
      decide
  have hstart : Engine.ofConfigs [.standard] = .ok single := rfl
  have hnext : DisplayCommand.Static { panned with presentOrValidate := true } :=
    ⟨static_panned.layers, static_panned.display⟩
  obtain ⟨lead, short, out, p, -, -, hengine, hcalls, houtcome, -⟩ :=
    static_presents hstart he hran (of_decide_eq_true hpresented) hg hstatic (by rfl) hnext rfl hlast
  exact ⟨e, ran, g, last, lead, short, out, p, he, hran, hg, hlast, by rw [hengine], hcalls,
    houtcome⟩

end Engine

end DisplayComposer
