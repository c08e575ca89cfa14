import DisplayComposer.Proofs.Hardware.Decision
import DisplayComposer.Proofs.Hardware.Lineage
import DisplayComposer.Proofs.Hardware.Presenting
/-!
# DisplayComposer.Proofs.Hardware.Recorded

**The backend records what it accepted.** All that the backend keeps for a layer can be told from
the calls that succeeded: a field is what it was set to last since the layer was created, and
only its composition has a second source, the changes that the client accepts. Those come from
a list that an earlier validation made, and the log tells which: accepting takes up what the
last validation asked for, unless that was taken up already.

* `HeadlessLayer.Field` — a field of a layer that nothing changes but setting it;
* `Event.told?`, `Event.Composed` — what a log says of a field, and of the composition;
* `HeadlessLayer.Recorded`, `HeadlessDisplay.Recorded` — a layer and a display that are what the
  log says;
* `Headless.recorded_of_reaches` — during a run they all are.
-/

namespace DisplayComposer

/-! ### Fields of a layer -/

/-- A field of a layer that nothing changes but setting it. -/
structure HeadlessLayer.Field (α : Type) where
  of : HeadlessLayer → α
  /-- What a property makes of the field, if it is the one that is kept there. -/
  property? : LayerProperty → Option α
  /-- What an image makes of the field, if it is kept there when it is used so. -/
  image? : ImageUse → Option α
  of_property : ∀ l p, of (p.applyTo l) = (property? p).getD (of l)
  of_image : ∀ l use used, of (Setting.applyTo l (.image use used)) = (image? use).getD (of l)
  of_composition : ∀ l c, of { l with composition := c } = of l

namespace HeadlessLayer.Field

def z : Field UInt32 where
  of l := l.z
  property?
    | .zOrder z => some z
    | _ => none
  image? _ := none
  of_property _ p := by cases p <;> rfl
  of_image _ use _ := by cases use <;> rfl
  of_composition _ _ := rfl

def planeAlpha : Field Single where
  of l := l.planeAlpha
  property?
    | .planeAlpha alpha => some alpha
    | _ => none
  image? _ := none
  of_property _ p := by cases p <;> rfl
  of_image _ use _ := by cases use <;> rfl
  of_composition _ _ := rfl

def displayFrame : Field Rect where
  of l := l.displayFrame
  property?
    | .displayFrame frame => some frame
    | _ => none
  image? _ := none
  of_property _ p := by cases p <;> rfl
  of_image _ use _ := by cases use <;> rfl
  of_composition _ _ := rfl

def cursor : Field Point where
  of l := l.cursor
  property?
    | .cursorPosition p => some p
    | _ => none
  image? _ := none
  of_property _ p := by cases p <;> rfl
  of_image _ use _ := by cases use <;> rfl
  of_composition _ _ := rfl

def hasBuffer : Field Bool where
  of l := l.buffer.isSome
  property? _ := none
  image?
    | .layerBuffer _ _ => some true
    | _ => none
  of_property _ p := by cases p <;> rfl
  of_image _ use _ := by cases use <;> rfl
  of_composition _ _ := rfl

def hasSideband : Field Bool where
  of l := l.sideband.isSome
  property? _ := none
  image?
    | .sideband _ => some true
    | _ => none
  of_property _ p := by cases p <;> rfl
  of_image _ use _ := by cases use <;> rfl
  of_composition _ _ := rfl

variable {α : Type} (f : Field α)

/-- What setting something makes of the field, if it is this field that is set. -/
def set? : Setting Image → Option α
  | .property (.layer _ p) => f.property? p
  | .image use _ => f.image? use
  | _ => none

theorem of_applyTo (l : HeadlessLayer) (setting : Setting Image) :
    f.of (setting.applyTo l) = (f.set? setting).getD (f.of l) := by
  cases setting with
  | image use used => exact f.of_image l use used
  | property p =>
    cases p with
    | layer _ p => exact f.of_property l p
    | _ => rfl

end HeadlessLayer.Field

/-! ### What a log says -/

namespace Event

/-- What the last event tells that tells anything. -/
def latest? {α : Type} (tells : Event → Option α) (log : List Event) : Option α :=
  log.reverse.findSome? tells

/-- What an event tells of a field of a layer: a layer that is created is a new one, and a call
that sets the field gives it its argument. -/
def told? {α : Type} (f : HeadlessLayer.Field α) (display : DisplayId) (layer : LayerId) :
    Event → Option α
  | ⟨.createLayer d, .ok l⟩ => if d = display ∧ l = layer then some (f.of .fresh) else none
  | ⟨.set d setting, .ok _⟩ =>
    if d = display ∧ setting.layer? = some layer then f.set? setting else none
  | _ => none

/-- What an event tells of the brightness of a display. -/
def level? (display : DisplayId) : Event → Option Single
  | ⟨.set d (.property (.brightness level)), .ok _⟩ => if d = display then some level else none
  | _ => none

/-- Whether an event is a frame of a display. -/
def isFrame (display : DisplayId) : Event → Bool
  | ⟨.present d, .ok _⟩ => d = display
  | _ => false

/-- The last validation of a display asked for a change of the layer, and the client has not
accepted it since. -/
def Asked (display : DisplayId) (layer : LayerId) (log : List Event) : Prop :=
  ∃ before v since, log = before ++ ⟨.validate display, .ok v⟩ :: since ∧
    (∀ later ∈ since, later.call ≠ .validate display ∧ later ≠ ⟨.accept display, .ok ()⟩) ∧
    ∃ change ∈ v.changes, change.layer = layer

/-- The composition that an event gives a layer, behind those of a log. -/
inductive Composes (display : DisplayId) (layer : LayerId) (log : List Event) :
    Event → Composition → Prop where
  | created : Composes display layer log ⟨.createLayer display, .ok layer⟩ .device
  | set (c : Composition) : Composes display layer log
      ⟨.set display (.property (.layer layer (.composition c))), .ok ()⟩ c
  | accepted : Asked display layer log →
      Composes display layer log ⟨.accept display, .ok ()⟩ .client

/-- The composition that a layer was given last. -/
def Composed (display : DisplayId) (layer : LayerId) (log : List Event) (c : Composition) : Prop :=
  ∃ before event after, log = before ++ event :: after ∧ Composes display layer before event c ∧
    ∀ between later rest, after = between ++ later :: rest →
      ∀ c', ¬ Composes display layer (before ++ event :: between) later c'

/-- An event that tells nothing of what is recorded of a display. -/
structure Silent (display : DisplayId) (event : Event) : Prop where
  level : event.level? display = none
  frame : event.isFrame display = false
  validate : event.call ≠ .validate display
  accept : event ≠ ⟨.accept display, .ok ()⟩

variable {α : Type} {display : DisplayId} {layer : LayerId} {log : List Event} {event : Event}

theorem latest?_concat (tells : Event → Option α) :
    latest? tells (log ++ [event]) = (tells event).or (latest? tells log) := by
  rw [latest?, List.reverse_append, List.reverse_singleton, List.singleton_append,
    List.findSome?_cons]
  cases tells event <;> rfl

theorem told?_of_not_touches (f : HeadlessLayer.Field α) (hevent : ¬ event.Touches display layer) :
    told? f display layer event = none := by
  unfold told?
  split
  · exact if_neg hevent
  · exact if_neg hevent
  · rfl

theorem Composes.touches {c : Composition} (h : Composes display layer log event c) :
    event.Touches display layer := by
  cases h with
  | created => exact ⟨rfl, rfl⟩
  | set c => exact ⟨rfl, rfl⟩
  | accepted => exact rfl

theorem asked_concat : Asked display layer (log ++ [event]) ↔
    (∃ v, event = ⟨.validate display, .ok v⟩ ∧ ∃ change ∈ v.changes, change.layer = layer) ∨
      (event.call ≠ .validate display ∧ event ≠ ⟨.accept display, .ok ()⟩) ∧
        Asked display layer log := by
  constructor
  · rintro ⟨before, v, since, hlog, hsince, hlisted⟩
    rcases concat_eq_append_cons.1 hlog with ⟨-, -, heq⟩ | ⟨init, rfl, hsplit⟩
    · exact .inl ⟨v, heq.symm, hlisted⟩
    · have hinit := fun later hlater => hsince later (List.mem_append_left _ hlater)
      exact .inr ⟨hsince event (by simp), before, v, init, hsplit, hinit, hlisted⟩
  · rintro (⟨v, rfl, hlisted⟩ | ⟨hevent, before, v, since, hlog, hsince, hlisted⟩)
    · exact ⟨log, v, [], rfl, fun _ h => (nomatch h), hlisted⟩
    · refine ⟨before, v, since ++ [event],
        concat_eq_append_cons.2 (.inr ⟨since, rfl, hlog⟩), fun later hlater => ?_, hlisted⟩
      rcases List.mem_append.1 hlater with hlater | hlater
      · exact hsince later hlater
      · exact List.mem_singleton.1 hlater ▸ hevent

theorem silent_of_error {call : Call} {failure : HardwareError}
    (hcall : call ≠ .validate display) : Silent display ⟨call, .error failure⟩ where
  level := by
    unfold level?
    split
    · rename_i heq
      cases heq
    · rfl
  frame := by
    unfold isFrame
    split
    · rename_i heq
      cases heq
    · rfl
  validate := hcall
  accept := by
    rintro ⟨⟩

theorem silent_of_other (hevent : event.call.display ≠ display) : Silent display event where
  level := by
    unfold level?
    split
    · exact if_neg hevent
    · rfl
  frame := by
    unfold isFrame
    split
    · exact decide_eq_false hevent
    · rfl
  validate := by
    rintro h
    exact hevent (h ▸ rfl)
  accept := by
    rintro rfl
    exact hevent rfl

theorem Composes.composed {c : Composition} (h : Composes display layer log event c) :
    Composed display layer (log ++ [event]) c := by
  refine ⟨log, event, [], rfl, h, fun between later rest hnil => ?_⟩
  simp at hnil

theorem Composed.concat {c : Composition} (h : Composed display layer log c)
    (hevent : ∀ c', ¬ Composes display layer log event c') :
    Composed display layer (log ++ [event]) c := by
  obtain ⟨before, first, after, rfl, hfirst, hafter⟩ := h
  refine ⟨before, first, after ++ [event], by simp, hfirst, fun between later rest hsplit => ?_⟩
  rcases concat_eq_append_cons.1 hsplit with ⟨-, rfl, rfl⟩ | ⟨init, -, hinit⟩
  · exact hevent
  · exact hafter between later init hinit

end Event

/-! ### What is kept, and what the log says -/

/-- A layer that is what the log says. -/
structure HeadlessLayer.Recorded (log : List Event) (display : DisplayId) (layer : LayerId)
    (l : HeadlessLayer) : Prop where
  z : Event.latest? (Event.told? .z display layer) log = some l.z
  planeAlpha : Event.latest? (Event.told? .planeAlpha display layer) log = some l.planeAlpha
  displayFrame : Event.latest? (Event.told? .displayFrame display layer) log = some l.displayFrame
  cursor : Event.latest? (Event.told? .cursor display layer) log = some l.cursor
  buffer : Event.latest? (Event.told? .hasBuffer display layer) log = some l.buffer.isSome
  sideband : Event.latest? (Event.told? .hasSideband display layer) log = some l.sideband.isSome
  composition : Event.Composed display layer log l.composition

/-- A display that is what the log says. -/
structure HeadlessDisplay.Recorded (log : List Event) (display : DisplayId)
    (d : HeadlessDisplay) : Prop where
  brightness : d.brightness = (Event.latest? (Event.level? display) log).getD .one
  framesPresented : d.framesPresented = log.countP (Event.isFrame display)
  /-- What waits to be accepted is what was asked for. -/
  pending : ∀ layer,
    (∃ change ∈ d.pending, change.layer = layer) ↔ Event.Asked display layer log
  client : ∀ change ∈ d.pending, change.composition = .client
  isVirtual : d.config.isVirtual = true → d.brightness = .one

/-- All changes of a plan are to the client. -/
theorem HeadlessDisplay.client_of_mem_changes {d : HeadlessDisplay} {change : CompositionChange}
    (h : change ∈ d.plan.changes) : change.composition = .client := by
  rw [changes_plan] at h
  obtain ⟨l, -, rfl⟩ := List.mem_map.1 h
  rfl

namespace Headless

variable {h t : Headless} {log : List Event} {display : DisplayId} {layer : LayerId}
  {event : Event} {l' : HeadlessLayer}

/-- What an event tells of a field is what the field is then, and what no event touches stays. -/
theorem Descends.told? {α : Type} (f : HeadlessLayer.Field α)
    (hfrom : h.Descends display layer event l') :
    Event.told? f display layer event = some (f.of l') ∨
      Event.told? f display layer event = none ∧
        ∃ l, h.layer? display layer = some l ∧ f.of l' = f.of l := by
  cases hfrom with
  | created => exact .inl (if_pos ⟨rfl, rfl⟩)
  | @set setting l hlayer hl =>
    have htold : Event.told? f display layer ⟨.set display setting, .ok ()⟩ = f.set? setting :=
      if_pos ⟨rfl, hlayer⟩
    rw [htold, f.of_applyTo]
    cases f.set? setting with
    | some a => exact .inl rfl
    | none => exact .inr ⟨rfl, l, hl, rfl⟩
  | accepted hd hl => exact .inr ⟨rfl, _, hl, f.of_composition _ _⟩
  | untouched hevent hl => exact .inr ⟨Event.told?_of_not_touches f hevent, _, hl, rfl⟩

/-- A field goes on to be what the log says. -/
theorem Descends.latest? {α : Type} {f : HeadlessLayer.Field α}
    (hfrom : h.Descends display layer event l')
    (hbefore : ∀ l, h.layer? display layer = some l →
      Event.latest? (Event.told? f display layer) log = some (f.of l)) :
    Event.latest? (Event.told? f display layer) (log ++ [event]) = some (f.of l') := by
  rw [Event.latest?_concat]
  rcases hfrom.told? f with htold | ⟨htold, l, hl, hsame⟩
  · rw [htold, Option.some_or]
  · rw [htold, Option.none_or, hbefore l hl, hsame]

/-- A composition is what an event gives, or no event gives any and it stays. -/
theorem Descends.composes (hfrom : h.Descends display layer event l')
    (hdisplay : ∀ d, h.displays.get? display = some d → d.Recorded log display) :
    Event.Composes display layer log event l'.composition ∨
      (∀ c, ¬ Event.Composes display layer log event c) ∧
        ∃ l, h.layer? display layer = some l ∧ l'.composition = l.composition := by
  cases hfrom with
  | created => exact .inl .created
  | @set setting l hlayer hl =>
    by_cases hc : ∃ c, setting = .property (.layer layer (.composition c))
    · obtain ⟨c, rfl⟩ := hc
      exact .inl (.set c)
    · refine .inr ⟨fun c hcomposes => ?_, l, hl, ?_⟩
      · cases hcomposes with
        | set c => exact hc ⟨c, rfl⟩
      · cases setting with
        | image use used => cases use <;> rfl
        | property p =>
          cases p with
          | layer other p =>
            obtain rfl := Option.some.inj hlayer
            cases p with
            | composition c => exact absurd ⟨c, rfl⟩ hc
            | _ => rfl
          | _ => cases hlayer
  | @accepted d l hd hl =>
    obtain hd := hdisplay d hd
    by_cases hasked : ∃ change ∈ d.pending, change.layer = layer
    · have hclient := Composition.after_of_client hd.client hasked l.composition
      exact .inl (hclient ▸ .accepted ((hd.pending layer).1 hasked))
    · have hother : ∀ change ∈ d.pending, change.layer ≠ layer := fun change hchange heq =>
        hasked ⟨change, hchange, heq⟩
      refine .inr ⟨fun c hcomposes => ?_, l, hl, Composition.after_of_forall_ne hother _⟩
      cases hcomposes with
      | accepted h => exact hasked ((hd.pending layer).2 h)
  | untouched hevent hl => exact .inr ⟨fun c hcomposes => hevent hcomposes.touches, _, hl, rfl⟩

/-- A layer goes on to be what the log says. -/
theorem Descends.recorded (hfrom : h.Descends display layer event l')
    (hdisplay : ∀ d, h.displays.get? display = some d → d.Recorded log display)
    (hbefore : ∀ l, h.layer? display layer = some l → l.Recorded log display layer) :
    l'.Recorded (log ++ [event]) display layer where
  z := hfrom.latest? (f := .z) fun l hl => (hbefore l hl).z
  planeAlpha := hfrom.latest? (f := .planeAlpha) fun l hl => (hbefore l hl).planeAlpha
  displayFrame := hfrom.latest? (f := .displayFrame) fun l hl => (hbefore l hl).displayFrame
  cursor := hfrom.latest? (f := .cursor) fun l hl => (hbefore l hl).cursor
  buffer := hfrom.latest? (f := .hasBuffer) fun l hl => (hbefore l hl).buffer
  sideband := hfrom.latest? (f := .hasSideband) fun l hl => (hbefore l hl).sideband
  composition := by
    rcases hfrom.composes hdisplay with hcomposes | ⟨hnone, l, hl, hsame⟩
    · exact hcomposes.composed
    · exact hsame ▸ (hbefore l hl).composition.concat hnone

/-! ### Displays -/

variable {d d' : HeadlessDisplay}

/-- What an event tells of a display has to be what happened to it. -/
theorem recorded_concat (hd : d.Recorded log display)
    (hbrightness : d'.brightness = (event.level? display).getD d.brightness)
    (hframes : d'.framesPresented = d.framesPresented + (event.isFrame display).toNat)
    (hpending : ∀ layer, (∃ change ∈ d'.pending, change.layer = layer) ↔
      Event.Asked display layer (log ++ [event]))
    (hclient : ∀ change ∈ d'.pending, change.composition = .client)
    (hvirtual : d'.config.isVirtual = true → d'.brightness = .one) :
    d'.Recorded (log ++ [event]) display where
  brightness := by
    rw [hbrightness, hd.brightness, Event.latest?_concat]
    cases event.level? display <;> rfl
  framesPresented := by
    rw [hframes, hd.framesPresented, List.countP_append, List.countP_singleton]
    cases event.isFrame display <;> rfl
  pending := hpending
  client := hclient
  isVirtual := hvirtual

/-- What waits to be accepted stays as it is until the next validation, or until it is
accepted. -/
theorem recorded_of_waiting (hd : d.Recorded log display)
    (hvalidate : event.call ≠ .validate display) (haccept : event ≠ ⟨.accept display, .ok ()⟩)
    (hbrightness : d'.brightness = (event.level? display).getD d.brightness)
    (hframes : d'.framesPresented = d.framesPresented + (event.isFrame display).toNat)
    (hpending : d'.pending = d.pending)
    (hvirtual : d'.config.isVirtual = true → d'.brightness = .one) :
    d'.Recorded (log ++ [event]) display := by
  refine recorded_concat hd hbrightness hframes (fun layer => ?_) (hpending ▸ hd.client) hvirtual
  have hnone : ¬ ∃ v, event = ⟨.validate display, .ok v⟩ ∧
      ∃ change ∈ v.changes, change.layer = layer := by
    rintro ⟨v, rfl, -⟩
    exact hvalidate rfl
  rw [hpending, hd.pending, Event.asked_concat, or_iff_right hnone,
    and_iff_right ⟨hvalidate, haccept⟩]

/-- An event that tells nothing of a display, which stays as it is. -/
theorem recorded_of_silent (hd : d.Recorded log display) (hevent : event.Silent display) :
    d.Recorded (log ++ [event]) display :=
  recorded_of_waiting hd hevent.validate hevent.accept (by rw [hevent.level]; rfl)
    (by rw [hevent.frame]; rfl) rfl hd.isVirtual

/-- A display after a step. -/
theorem recorded_of_step {call : Call} {a : call.Answer}
    (hd : d.Recorded log call.display) (known : h.displays.get? call.display = some d)
    (hrun : Hardware.perform call h = .ok (.ok a, t)) (hstep : d.Step call d') :
    d'.Recorded (log ++ [⟨call, .ok a⟩]) call.display := by
  cases hstep with
  | @validate display =>
    have hvalidated := (validate_of_known known).symm.trans (Except.ok.inj hrun)
    obtain rfl : d.validation = a := Except.ok.inj (congrArg Prod.fst hvalidated)
    refine recorded_concat hd rfl rfl (fun layer => ?_)
      (fun _ => HeadlessDisplay.client_of_mem_changes) hd.isVirtual
    rw [Event.asked_concat]
    constructor
    · exact fun hlisted => .inl ⟨d.validation, rfl, hlisted⟩
    · rintro (⟨v, heq, hlisted⟩ | ⟨⟨hvalidate, -⟩, -⟩)
      · cases heq
        exact hlisted
      · exact absurd rfl hvalidate
  | accept =>
    refine recorded_concat hd rfl rfl (fun layer => ?_) (fun _ h => nomatch h) hd.isVirtual
    rw [Event.asked_concat]
    constructor
    · rintro ⟨change, hnone, -⟩
      cases hnone
    · rintro (⟨v, heq, -⟩ | ⟨⟨-, haccept⟩, -⟩)
      · cases congrArg Event.call heq
      · exact absurd rfl haccept
  | @brightness display level =>
    -- only a physical display takes a level
    obtain ⟨d₀, hd₀, hphysical⟩ := brightness_ok hrun
    obtain rfl := Option.some.inj (hd₀.symm.trans known)
    refine recorded_of_waiting hd (by simp) (by simp) ?_ rfl rfl fun hvirtual => ?_
    · show level = (if display = display then some level else none).getD d₀.brightness
      rw [if_pos rfl, Option.getD_some]
    · rw [hphysical] at hvirtual
      cases hvirtual
  | present =>
    refine recorded_of_waiting hd (by simp) (by simp) rfl ?_ rfl hd.isVirtual
    exact congrArg (d.framesPresented + ·) (congrArg Bool.toNat (decide_eq_true rfl)).symm
  | _ => exact recorded_of_waiting hd (by simp) (by simp) rfl rfl rfl hd.isVirtual

/-- A display after a call, whatever it is about and whatever comes of it. -/
theorem recorded_of_perform {call : Call} {out : Except HardwareError call.Answer}
    (hdisplays : ∀ d, h.displays.get? display = some d → d.Recorded log display)
    (hrun : Hardware.perform call h = .ok (out, t)) (known : t.displays.get? display = some d') :
    d'.Recorded (log ++ [⟨call, out⟩]) display := by
  rcases perform_cases hrun with ⟨failure, hr⟩ | ⟨a, d, d₁, ha, hd, hstep, hinsert⟩
  · obtain ⟨rfl, rfl⟩ : out = .error failure ∧ t = h := Prod.mk.inj hr
    refine recorded_of_silent (hdisplays d' known) (Event.silent_of_error ?_)
    -- a known display can be validated
    rintro rfl
    have hvalidated := (validate_of_known known).symm.trans (Except.ok.inj hrun)
    cases congrArg Prod.fst hvalidated
  · obtain rfl : out = .ok a := ha
    rw [show t.displays = _ from hinsert, Table.get?_insert] at known
    by_cases hdisplay : call.display = display
    · subst hdisplay
      rw [if_pos rfl] at known
      obtain rfl := Option.some.inj known
      exact recorded_of_step (hdisplays d hd) hd hrun hstep
    · rw [if_neg hdisplay] at known
      exact recorded_of_silent (hdisplays d' known) (Event.silent_of_other hdisplay)

/-! ### Runs -/

/-- No event gives a layer a composition that is none. -/
theorem ne_invalid_of_composes {call : Call} {out : Except HardwareError call.Answer}
    {c : Composition} (hcomposes : Event.Composes display layer log ⟨call, out⟩ c)
    (hrun : Hardware.perform call h = .ok (out, t)) : c ≠ .invalid := by
  cases hcomposes with
  | created => decide
  | set c => exact composition_ok hrun
  | accepted => decide

/-- No event gives a layer an inverted frame. -/
theorem upright_of_told {call : Call} {out : Except HardwareError call.Answer} {frame : Rect}
    (htold : Event.told? .displayFrame display layer ⟨call, out⟩ = some frame)
    (hrun : Hardware.perform call h = .ok (out, t)) : frame.Upright := by
  unfold Event.told? at htold
  split at htold
  · obtain ⟨-, hfresh⟩ := Option.ite_none_right_eq_some.1 htold
    obtain rfl := Option.some.inj hfresh
    decide
  · rename_i d setting answer heq
    cases heq
    obtain ⟨⟨rfl, hlayer⟩, hset⟩ := Option.ite_none_right_eq_some.1 htold
    cases setting with
    | image use used => cases hset
    | property p =>
      cases p with
      | layer other p =>
        cases p with
        | displayFrame frame' =>
          obtain rfl := Option.some.inj hset
          exact displayFrame_ok hrun
        | _ => cases hset
      | _ => cases hset
  · cases htold

/-- A backend whose layers and displays are what its log says. -/
structure Faithful (s : Logged Headless) : Prop where
  displays : ∀ display d, s.hardware.displays.get? display = some d → d.Recorded s.log display
  layers : ∀ display layer l, s.hardware.layer? display layer = some l →
    l.Recorded s.log display layer
  composition : ∀ display layer l, s.hardware.layer? display layer = some l →
    l.composition ≠ .invalid
  displayFrame : ∀ display layer l, s.hardware.layer? display layer = some l →
    l.displayFrame.Upright
  /-- A cursor was one when it was given a position. -/
  cursor : ∀ display layer p before after,
    s.log = before ++
        ⟨.set display (.property (.layer layer (.cursorPosition p))), .ok ()⟩ :: after →
      Event.Composed display layer before .cursor

/-- Before the first call there is nothing to tell. -/
theorem recorded_ofConfig (display : DisplayId) (config : DisplayConfig) :
    (HeadlessDisplay.ofConfig config).Recorded [] display where
  brightness := rfl
  framesPresented := rfl
  pending layer := by
    constructor
    · rintro ⟨change, hchange, -⟩
      cases hchange
    · rintro ⟨before, v, since, hlog, -⟩
      simp at hlog
  client _ h := nomatch h
  isVirtual _ := rfl

theorem faithful_ofConfigs (configs : List DisplayConfig) : Faithful ⟨.ofConfigs configs, []⟩ := by
  have hdisplay : ∀ display d, (ofConfigs configs).displays.get? display = some d →
      ∃ config, d = .ofConfig config := fun display d hd => by
    obtain ⟨config, -, heq⟩ := List.mem_map.1 (Table.mem_of_get?_ofList hd)
    exact ⟨config, (Prod.mk.inj heq).2.symm⟩
  have hlayer : ∀ display layer l, (ofConfigs configs).layer? display layer ≠ some l := by
    intro display layer l hl
    obtain ⟨d, hd, hl⟩ := Option.bind_eq_some_iff.1 hl
    obtain ⟨config, rfl⟩ := hdisplay display d hd
    cases hl
  constructor
  · intro display d hd
    obtain ⟨config, rfl⟩ := hdisplay display d hd
    exact recorded_ofConfig display config
  · exact fun display layer l hl => absurd hl (hlayer display layer l)
  · exact fun display layer l hl => absurd hl (hlayer display layer l)
  · exact fun display layer l hl => absurd hl (hlayer display layer l)
  · exact fun display layer p before after hlog => absurd hlog (by simp)

/-- Every call is recorded. -/
theorem Faithful.perform {s t : Logged Headless} {call : Call}
    {out : Except HardwareError call.Answer} (hs : Faithful s)
    (hrun : Hardware.perform call s = .ok (out, t)) : Faithful t := by
  obtain ⟨hcall, hlog⟩ := Logged.perform_ok.1 hrun
  constructor
  · exact fun display d hd => hlog ▸ recorded_of_perform (hs.displays display) hcall hd
  · intro display layer l hl
    exact hlog ▸ (descends_of_perform hcall hl).recorded (hs.displays display)
      (hs.layers display layer)
  · intro display layer l hl
    rcases (descends_of_perform hcall hl).composes (hs.displays display) with
      hcomposes | ⟨-, l₀, hl₀, hsame⟩
    · exact ne_invalid_of_composes hcomposes hcall
    · exact hsame ▸ hs.composition display layer l₀ hl₀
  · intro display layer l hl
    rcases (descends_of_perform hcall hl).told? .displayFrame with htold | ⟨-, l₀, hl₀, hsame⟩
    · exact upright_of_told htold hcall
    · exact (show l.displayFrame = l₀.displayFrame from hsame) ▸
        hs.displayFrame display layer l₀ hl₀
  · intro display layer p before after hsplit
    rcases Event.concat_eq_append_cons.1 (hlog ▸ hsplit) with ⟨-, rfl, heq⟩ | ⟨init, -, hinit⟩
    · cases heq
      obtain ⟨l, hl, hcursor⟩ := cursorPosition_ok hcall
      exact hcursor ▸ (hs.layers display layer l hl).composition
    · exact hs.cursor display layer p before init hinit

theorem faithful_of_reaches {configs : List DisplayConfig} {s : Logged Headless}
    (reached : Hardware.Reaches ⟨.ofConfigs configs, []⟩ s) : Faithful s :=
  reached.invariant (P := Faithful) Faithful.perform (faithful_ofConfigs configs)

/-- No call configures a display anew. -/
theorem config_of_reaches (reached : Hardware.Reaches h t) (display : DisplayId) :
    (t.displays.get? display).map (·.config) = (h.displays.get? display).map (·.config) := by
  refine reached.invariant (P := fun t => (t.displays.get? display).map (·.config) =
    (h.displays.get? display).map (·.config)) (fun {call s t out} hs hrun => ?_) rfl
  rw [← hs]
  rcases perform_cases hrun with ⟨failure, hr⟩ | ⟨a, d, d', -, hd, hstep, hdisplays⟩
  · rw [show t = s from congrArg Prod.snd hr]
  · rw [show t.displays = _ from hdisplays, Table.get?_insert]
    split
    · rename_i hdisplay
      rw [← hdisplay, hd, Option.map_some, Option.map_some, hstep.config_eq]
    · rfl

/-- **The backend records exactly what was accepted.** After any calls that return, every layer
is what the last successful calls made of it, and every display has the brightness that was
accepted last and has counted its frames. So no layer has a composition that is none or an
inverted frame, nothing but a cursor was ever given the position of one, and a virtual display
is as bright as it was at first. -/
theorem recorded_of_reaches {configs : List DisplayConfig} {s : Logged Headless}
    (reached : Hardware.Reaches ⟨.ofConfigs configs, []⟩ s) :
    (∀ display layer l, s.hardware.layer? display layer = some l →
      l.Recorded s.log display layer ∧ l.composition ≠ .invalid ∧ l.displayFrame.Upright) ∧
    (∀ display level, s.hardware.brightness? display = some level →
      level = (Event.latest? (Event.level? display) s.log).getD .one) ∧
    (∀ display n, s.hardware.framesPresented? display = some n →
      n = s.log.countP (Event.isFrame display)) ∧
    (∀ display layer p before after,
      s.log = before ++
        ⟨.set display (.property (.layer layer (.cursorPosition p))), .ok ()⟩ :: after →
      Event.Composed display layer before .cursor) ∧
    ∀ display d, (Headless.ofConfigs configs).displays.get? display = some d →
      d.config.isVirtual = true → s.hardware.brightness? display = some .one := by
  have hs := faithful_of_reaches reached
  refine ⟨fun display layer l hl => ⟨hs.layers display layer l hl,
    hs.composition display layer l hl, hs.displayFrame display layer l hl⟩,
    fun display level hlevel => ?_, fun display n hn => ?_, hs.cursor,
    fun display d hd hvirtual => ?_⟩
  · obtain ⟨d, hd, rfl⟩ := Option.map_eq_some_iff.1 hlevel
    exact (hs.displays display d hd).brightness
  · obtain ⟨d, hd, rfl⟩ := Option.map_eq_some_iff.1 hn
    exact (hs.displays display d hd).framesPresented
  · have hconfig := config_of_reaches reached.unlogged display
    rw [show (Logged.mk (ofConfigs configs) []).hardware.displays.get? display = some d from hd,
      Option.map_some] at hconfig
    obtain ⟨d', hd', heq⟩ := Option.map_eq_some_iff.1 hconfig
    rw [brightness?, hd', Option.map_some, (hs.displays display d' hd').isVirtual (heq ▸ hvirtual)]

/-- The upper layer is asked for other things after the display was validated, so the display
does not accept what was planned for it. -/
def changedCalls : List Call := crowdedCalls ++
  [.set 0 (.property (.layer 2 (.composition .cursor))),
    .set 0 (.property (.layer 2 (.cursorPosition ⟨3, 4⟩))), .accept 0]

/-- What waited to be accepted is gone, and the layer has what it was given last. Accepted in
time it leaves the layer to the client. -/
theorem recorded_of_reaches_crowded :
    (∃ l, (crowded changedCalls).hardware.layer? 0 2 = some l ∧ l.composition = .cursor ∧
      l.cursor = ⟨3, 4⟩ ∧ l.Recorded (crowded changedCalls).log 0 2) ∧
    ∃ l, (crowded settledCalls).hardware.layer? 0 2 = some l ∧ l.composition = .client ∧
      l.Recorded (crowded settledCalls).log 0 2 := by
  have hchanged : (crowded changedCalls).hardware.layer? 0 2 = some _ := rfl
  have hsettled : (crowded settledCalls).hardware.layer? 0 2 = some _ := rfl
  exact ⟨⟨_, hchanged, rfl, rfl, ((recorded_of_reaches (.after _ _)).1 0 2 _ hchanged).1⟩,
    _, hsettled, rfl, ((recorded_of_reaches (.after _ _)).1 0 2 _ hsettled).1⟩

end Headless

end DisplayComposer
