import DisplayComposer.Proofs.Json.Outline
import DisplayComposer.Proofs.Wire.Request
/-!
# DisplayComposer.Proofs.Wire.Outline

**What a request keeps on the wire, whatever its floats are.** JSON has no infinities and no
NaN, so these are written as `null`. Where a number must stand that is refused, but an opacity
that is `null` is taken for one that is absent. So a message is either refused or read as the
request that was sent up to the values of its floats, except that an opacity that is no
number is gone.

* `Request.outline` — a request without the values of its floats;
* `Request.sent` — a request without the opacities that are no numbers;
* `Request.outline_of_decode_encode` — what is read back;
* `Request.populated_of_decode_encode` — which optional fields are populated.
-/

namespace DisplayComposer

open Json Json.Record Json.Field Json.Codec

/-! ### Floats -/

/-- Of a float only that there is one. -/
def Single.outline (_ : Single) : Single := .zero

theorem keeps_single {x : Single} : Codec.float.Keeps Single.outline x x.outline := keeps_float

theorem keeps_singles {xs : List Single} :
    Codec.float.list.Keeps (List.map Single.outline) xs (xs.map Single.outline) :=
  keeps_list fun _ _ => keeps_single

theorem float_ne_null {x : Single} (finite : x.isFinite = true) : Codec.float.encode x ≠ .null := by
  simp [Codec.float, Json.ofBinary, finite]

theorem float_eq_null {x : Single} (other : ¬x.isFinite = true) : Codec.float.encode x = .null :=
  if_neg other

/-- An opacity that is no number is written as an absent one. -/
theorem keeps_opacity {o : Option Single} :
    Codec.float.nullable.Keeps (Option.map Single.outline) o
      ((o.filter (·.isFinite)).map Single.outline) := by
  cases o with
  | none => exact keeps_nullable nofun
  | some x =>
    by_cases finite : x.isFinite
    · rw [Option.filter_some, if_pos finite]
      exact keeps_nullable fun a value => Option.some.inj value ▸ ⟨keeps_single, float_ne_null finite⟩
    · have null : Codec.float.nullable.encode (some x) = .null := float_eq_null finite
      rw [Option.filter_some, if_neg finite]
      refine ⟨null ▸ .null, fun b read => ?_⟩
      rw [null] at read
      rw [← Except.ok.inj read]

/-! ### Records of floats -/

def Crop.outline (_ : Crop) : Crop := record.blank

theorem Crop.keeps {r : Crop} : Crop.codec.Keeps outline r r.outline :=
  Record.keeps (by decide) <|
    .cons (keeps_required keeps_single fun _ _ => rfl) <|
    .cons (keeps_required keeps_single fun _ _ => rfl) <|
    .cons (keeps_required keeps_single fun _ _ => rfl) <|
    .cons (keeps_required keeps_single fun _ _ => rfl) .nil

def Color.outline (_ : Color) : Color := record.blank

theorem Color.keeps {c : Color} : Color.codec.Keeps outline c c.outline :=
  Record.keeps (by decide) <|
    .cons (keeps_required keeps_single fun _ _ => rfl) <|
    .cons (keeps_required keeps_single fun _ _ => rfl) <|
    .cons (keeps_required keeps_single fun _ _ => rfl) <|
    .cons (keeps_required keeps_single fun _ _ => rfl) .nil

def Brightness.outline (_ : Brightness) : Brightness := record.blank

theorem Brightness.keeps {b : Brightness} : Brightness.codec.Keeps outline b b.outline :=
  Record.keeps (by decide) <| .cons (keeps_required keeps_single fun _ _ => rfl) .nil

def Metadata.outline (m : Metadata) : Metadata := { m with value := m.value.outline }

theorem Metadata.keeps {m : Metadata} : Metadata.codec.Keeps outline m m.outline :=
  Record.keeps (by decide) <|
    .cons (keeps_required (m.key.carries (d := 0)).keeps fun _ _ => rfl) <|
    .cons (keeps_required keeps_single fun _ _ => rfl) .nil

/-! ### Commands -/

namespace LayerCommand

/-- A layer command without the values of its floats. -/
def outline (c : LayerCommand) : LayerCommand :=
  { c with
    color := c.color.map Color.outline
    planeAlpha := c.planeAlpha.map Single.outline
    sourceCrop := c.sourceCrop.map Crop.outline
    colorTransform := c.colorTransform.map (List.map Single.outline)
    metadata := c.metadata.map (List.map (Option.map Metadata.outline)) }

/-- A layer command without an opacity that is no number. -/
def sent (c : LayerCommand) : LayerCommand :=
  { c with planeAlpha := c.planeAlpha.filter (·.isFinite) }

theorem sent_eq_self {c : LayerCommand} (h : ∀ x, c.planeAlpha = some x → x.isFinite = true) :
    c.sent = c := by
  have kept : c.planeAlpha.filter (·.isFinite) = c.planeAlpha := by
    cases value : c.planeAlpha with
    | none => rfl
    | some x => rw [Option.filter_some, if_pos (h x value)]
  rw [sent, kept]

theorem keeps {c : LayerCommand} : codec.Keeps outline c c.sent.outline :=
  Record.keeps (by decide) <|
    .cons (keeps_defaulted (carries_int64 (d := 0) c.layer).keeps fun _ _ => rfl) <|
    .cons (keeps_whole (d := 4) (fun p _ => ⟨p.carries, nofun⟩) (fun _ _ => rfl) rfl) <|
    .cons (keeps_whole (d := 4) (fun b _ => ⟨b.carries, nofun⟩) (fun _ _ => rfl) rfl) <|
    .cons (keeps_whole (d := 4) (fun r _ => ⟨Region.carries r, nofun⟩) (fun _ _ => rfl) rfl) <|
    .cons (keeps_whole (d := 4) (fun m _ => ⟨m.carries, nofun⟩) (fun _ _ => rfl) rfl) <|
    .cons (keeps_part (fun _ _ => ⟨Color.keeps, nofun⟩) (fun _ _ => rfl) rfl) <|
    .cons (keeps_whole (d := 4) (fun k _ => ⟨k.carries, nofun⟩) (fun _ _ => rfl) rfl) <|
    .cons (keeps_whole (d := 4) (fun s _ => ⟨s.carries, nofun⟩) (fun _ _ => rfl) rfl) <|
    .cons (keeps_whole (d := 4) (fun r _ => ⟨r.carries, nofun⟩) (fun _ _ => rfl) rfl) <|
    .cons (keeps_optional keeps_opacity (fun _ _ => rfl) (fun absent => by rw [absent]; rfl) rfl) <|
    .cons (keeps_whole (d := 4) (fun h _ => ⟨h.carries, nofun⟩) (fun _ _ => rfl) rfl) <|
    .cons (keeps_part (fun _ _ => ⟨Crop.keeps, nofun⟩) (fun _ _ => rfl) rfl) <|
    .cons (keeps_whole (d := 4) (fun t _ => ⟨t.carries, nofun⟩) (fun _ _ => rfl) rfl) <|
    .cons (keeps_whole (d := 4) (fun r _ => ⟨Region.carries r, nofun⟩) (fun _ _ => rfl) rfl) <|
    .cons (keeps_whole (d := 4) (fun n _ => ⟨carries_uint32 n, nofun⟩) (fun _ _ => rfl) rfl) <|
    .cons (keeps_part (fun _ _ => ⟨keeps_singles, nofun⟩) (fun _ _ => rfl) rfl) <|
    .cons (keeps_part (fun _ _ => ⟨keeps_list fun _ _ => keeps_nullable fun _ _ =>
      ⟨Metadata.keeps, nofun⟩, nofun⟩) (fun _ _ => rfl) rfl) <|
    .cons (keeps_whole (d := 4) (fun blobs _ => ⟨carries_list fun _ _ => carries_nullable fun b _ =>
      ⟨b.carries, nofun⟩, nofun⟩) (fun _ _ => rfl) rfl) .nil

end LayerCommand

namespace DisplayCommand

/-- A display command without the values of its floats. -/
def outline (c : DisplayCommand) : DisplayCommand :=
  { c with
    layers := c.layers.map LayerCommand.outline
    colorTransform := c.colorTransform.map (List.map Single.outline)
    brightness := c.brightness.map Brightness.outline }

/-- A display command without opacities that are no numbers. -/
def sent (c : DisplayCommand) : DisplayCommand := { c with layers := c.layers.map LayerCommand.sent }

theorem keeps {c : DisplayCommand} : codec.Keeps outline c c.sent.outline := by
  have layers : LayerCommand.codec.list.Keeps (List.map LayerCommand.outline) c.layers
      ((c.layers.map LayerCommand.sent).map LayerCommand.outline) := by
    rw [List.map_map]
    exact keeps_list fun _ _ => LayerCommand.keeps
  exact Record.keeps (by decide) <|
    .cons (keeps_defaulted (carries_int64 (d := 0) c.display).keeps fun _ _ => rfl) <|
    .cons (keeps_defaulted layers fun _ _ => rfl) <|
    .cons (keeps_part (fun _ _ => ⟨keeps_singles, nofun⟩) (fun _ _ => rfl) rfl) <|
    .cons (keeps_whole (d := 4) (fun t _ => ⟨t.carries, nofun⟩) (fun _ _ => rfl) rfl) <|
    .cons (keeps_whole (d := 4) (fun b _ => ⟨b.carries, nofun⟩) (fun _ _ => rfl) rfl) <|
    .cons (keeps_part (fun _ _ => ⟨Brightness.keeps, nofun⟩) (fun _ _ => rfl) rfl) <|
    .cons (keeps_whole (d := 4) (fun t _ => ⟨t.carries, nofun⟩) (fun _ _ => rfl) rfl) <|
    .cons (keeps_defaulted (carries_bool (d := 0) c.validate).keeps fun _ _ => rfl) <|
    .cons (keeps_defaulted (carries_bool (d := 0) c.accept).keeps fun _ _ => rfl) <|
    .cons (keeps_defaulted (carries_bool (d := 0) c.present).keeps fun _ _ => rfl) <|
    .cons (keeps_defaulted (carries_bool (d := 0) c.presentOrValidate).keeps fun _ _ => rfl) .nil

end DisplayCommand

/-! ### Populated fields -/

/-- The names of fields that are there. -/
def named (fields : List (String × Bool)) : List String := (fields.filter (·.2)).map (·.1)

/-- The optional fields that are populated in a layer command. -/
def LayerCommand.populated (c : LayerCommand) : List String := named [
  ("cursor_position", c.cursorPosition.isSome),
  ("buffer", c.buffer.isSome),
  ("damage", c.damage.isSome),
  ("blend_mode", c.blendMode.isSome),
  ("color", c.color.isSome),
  ("composition", c.composition.isSome),
  ("dataspace", c.dataspace.isSome),
  ("display_frame", c.displayFrame.isSome),
  ("plane_alpha", c.planeAlpha.isSome),
  ("sideband_stream", c.sidebandStream.isSome),
  ("source_crop", c.sourceCrop.isSome),
  ("transform", c.transform.isSome),
  ("visible_region", c.visibleRegion.isSome),
  ("z", c.z.isSome),
  ("color_transform", c.colorTransform.isSome),
  ("per_frame_metadata", c.metadata.isSome),
  ("per_frame_metadata_blob", c.metadataBlobs.isSome)]

/-- The optional fields that are populated in a display command. -/
def DisplayCommand.populated (c : DisplayCommand) : List String := named [
  ("color_transform_matrix", c.colorTransform.isSome),
  ("client_target", c.clientTarget.isSome),
  ("virtual_display_output_buffer", c.outputBuffer.isSome),
  ("brightness", c.brightness.isSome),
  ("expected_present_time", c.expectedPresentTime.isSome)]

@[simp] theorem LayerCommand.populated_outline (c : LayerCommand) :
    c.outline.populated = c.populated := by
  simp only [populated, outline, Option.isSome_map]

@[simp] theorem DisplayCommand.populated_outline (c : DisplayCommand) :
    c.outline.populated = c.populated := by
  simp only [populated, outline, Option.isSome_map]

/-! ### Requests -/

namespace Request

/-- A request without the values of its floats. -/
def outline : Request → Request
  | .execute commands => .execute (commands.map DisplayCommand.outline)
  | r => r

/-- A request without opacities that are no numbers. -/
def sent : Request → Request
  | .execute commands => .execute (commands.map DisplayCommand.sent)
  | r => r

/-- **What is read from the message of a request** is the request that was sent, but for the
values of floats. -/
theorem outline_of_decode_encode {r r' : Request} (h : Request.decode r.encode = .ok r') :
    r'.outline = r.sent.outline := by
  have whole (none : r.singles = []) : r' = r :=
    Except.ok.inj (h.symm.trans (decode_encode r (by rw [none]; exact nofun)))
  cases r with
  | execute commands =>
    have kept : DisplayCommand.codec.list.Keeps (List.map DisplayCommand.outline) commands
        ((commands.map DisplayCommand.sent).map DisplayCommand.outline) := by
      rw [List.map_map]
      exact keeps_list fun _ _ => DisplayCommand.keeps
    have record : executeRecord.codec.Keeps (List.map DisplayCommand.outline) commands
        ((commands.map DisplayCommand.sent).map DisplayCommand.outline) :=
      Record.keeps (by decide) (.cons (keeps_required kept fun _ _ => rfl) .nil)
    obtain ⟨commands', rfl, same⟩ := outline_of_decodeBytes rfl rfl (by decide) record h
    exact congrArg execute same
  | createLayer display slots => exact congrArg outline (whole rfl)
  | destroyLayer display layer => exact congrArg outline (whole rfl)
  | refresh display => exact congrArg outline (whole rfl)

/-- The optional fields that are populated in each display command of a request, and in each
of its layer commands. -/
def populated : Request → List (List String × List (List String))
  | .execute commands => commands.map fun c => (c.populated, c.layers.map LayerCommand.populated)
  | .createLayer _ _ | .destroyLayer _ _ | .refresh _ => []

/-- The opacities in a request. -/
def opacities : Request → List Single
  | .execute commands => commands.flatMap fun c => c.layers.filterMap LayerCommand.planeAlpha
  | .createLayer _ _ | .destroyLayer _ _ | .refresh _ => []

theorem populated_outline (r : Request) : r.outline.populated = r.populated := by
  cases r with
  | execute commands =>
    simp only [outline, populated, List.map_map]
    refine List.map_congr_left fun c _ => ?_
    have layers : (c.layers.map LayerCommand.outline).map LayerCommand.populated =
        c.layers.map LayerCommand.populated := by
      rw [List.map_map]
      exact List.map_congr_left fun l _ => l.populated_outline
    exact Prod.ext c.populated_outline layers
  | _ => rfl

/-- Nothing is lost if all opacities are numbers. -/
theorem sent_eq_self {r : Request} (h : ∀ x ∈ r.opacities, x.isFinite = true) : r.sent = r := by
  cases r with
  | execute commands =>
    refine congrArg execute ((List.map_congr_left fun c mem => ?_).trans (List.map_id _))
    have layers : c.layers.map LayerCommand.sent = c.layers :=
      (List.map_congr_left fun l inside => LayerCommand.sent_eq_self fun x value =>
        h x (List.mem_flatMap.2 ⟨c, mem, List.mem_filterMap.2 ⟨l, inside, value⟩⟩)).trans (List.map_id _)
    rw [DisplayCommand.sent, layers, id]
  | _ => rfl

/-- **Nothing is lost on the wire but an opacity that is no number.** Everything besides the
values of floats is read as it was, optional parts and entries of lists at any depth included;
so are, in particular, the fields that are populated. -/
theorem populated_of_decode_encode {r r' : Request} (h : Request.decode r.encode = .ok r') :
    r'.outline = r.sent.outline ∧ r'.populated = r.sent.populated ∧
      ((∀ x ∈ r.opacities, x.isFinite = true) → r'.populated = r.populated) := by
  have same : r'.outline = r.sent.outline := outline_of_decode_encode h
  have kept : r'.populated = r.sent.populated := by
    rw [← r'.populated_outline, same, populated_outline]
  exact ⟨same, kept, fun finite => by rw [kept, sent_eq_self finite]⟩

/-- A frame with an opacity that is NaN and a depth: only the depth arrives. -/
theorem populated_of_decode_encode_nan :
    let frame (alpha : Option Single) : Request := .execute [
      { DisplayCommand.idle 1 with
        layers := [{ LayerCommand.idle 7 with planeAlpha := alpha, z := some 3 }]
        brightness := some ⟨.ofWord 0x3F000000⟩ }]
    let nan : Single := .ofWord 0x7FC00000
    Request.decode (frame (some nan)).encode = .ok (frame none) ∧
      (frame none).outline = (frame (some nan)).sent.outline ∧
      (frame none).populated = (frame (some nan)).sent.populated := by
  intro frame nan
  have read : Request.decode (frame (some nan)).encode = .ok (frame none) :=
    Except.toOption_eq_some_iff.1 (by decide +kernel)
  obtain ⟨same, kept, -⟩ := populated_of_decode_encode read
  exact ⟨read, same, kept⟩

/-- The message of a request with an infinite opacity is accepted, and the opacity is gone. -/
theorem opacity_lost :
    let r : Request := .execute [
      { DisplayCommand.idle 0 with
        layers := [{ LayerCommand.idle 1 with planeAlpha := some (.ofWord 0x7F800000) }] }]
    r.populated = [([], [["plane_alpha"]])] ∧
      ∃ r', Request.decode r.encode = .ok r' ∧ r'.populated = [([], [[]])] := by
  intro r
  have read : Request.decode r.encode = .ok (.execute [
      { DisplayCommand.idle 0 with layers := [LayerCommand.idle 1] }]) :=
    Except.toOption_eq_some_iff.1 (by decide +kernel)
  exact ⟨by decide, _, read, by decide⟩

end Request

end DisplayComposer
