import DisplayComposer.Proofs.Json.Presentation
import DisplayComposer.Wire.Message
/-!
# DisplayComposer.Proofs.Wire.Presentation

**A request does not depend on its presentation.** The slots of a record on the wire are its
fields with the values that their absence stands for: nothing for an optional one, an
absent fence, an unknown colour space, no damage, no layers, a display or layer 0, a flag
that is not set. A message that presents the same value differently is the same request.

* `Request.shape`, made from `LayerCommand.slots`, `DisplayCommand.slots` and their fellows;
* `Request.decode_alike` — messages that are alike.
-/

namespace DisplayComposer

open Json Json.Record Json.Field Json.Codec

-- That the fields of a record commute then comes down to its setters.
attribute [local simp] required_eq_setting defaulted_eq_setting optional_eq_setting commutes_setting

/-! ### Geometry -/

def Point.slots : List (Slot Shape) := [.required "x" .leaf, .required "y" .leaf]

theorem Point.has_slots : record.Has slots where
  names := by decide
  commute := by simp [record]
  fields := .cons (respects_required respects_leaf) <| .cons (respects_required respects_leaf) .nil

def Rect.slots : List (Slot Shape) :=
  [.required "left" .leaf, .required "top" .leaf, .required "right" .leaf, .required "bottom" .leaf]

theorem Rect.has_slots : record.Has slots where
  names := by decide
  commute := by simp [record]
  fields :=
    .cons (respects_required respects_leaf) <|
    .cons (respects_required respects_leaf) <|
    .cons (respects_required respects_leaf) <|
    .cons (respects_required respects_leaf) .nil

def Region.shape : Shape := .list (.record Rect.slots)

theorem Region.respects : Region.codec.Respects shape :=
  respects_list (respects_nullable (respects_record Rect.has_slots))

def Crop.slots : List (Slot Shape) :=
  [.required "left" .leaf, .required "top" .leaf, .required "right" .leaf, .required "bottom" .leaf]

theorem Crop.has_slots : record.Has slots where
  names := by decide
  commute := by simp [record]
  fields :=
    .cons (respects_required respects_leaf) <|
    .cons (respects_required respects_leaf) <|
    .cons (respects_required respects_leaf) <|
    .cons (respects_required respects_leaf) .nil

def Color.slots : List (Slot Shape) :=
  [.required "r" .leaf, .required "g" .leaf, .required "b" .leaf, .required "a" .leaf]

theorem Color.has_slots : record.Has slots where
  names := by decide
  commute := by simp [record]
  fields :=
    .cons (respects_required respects_leaf) <|
    .cons (respects_required respects_leaf) <|
    .cons (respects_required respects_leaf) <|
    .cons (respects_required respects_leaf) .nil

/-! ### Properties -/

def Brightness.slots : List (Slot Shape) := [.required "brightness" .leaf]

theorem Brightness.has_slots : record.Has slots where
  names := by decide
  commute := by simp [record]
  fields := .cons (respects_required respects_leaf) .nil

def Timestamp.slots : List (Slot Shape) := [.required "timestamp_nanos" .leaf]

theorem Timestamp.has_slots : record.Has slots where
  names := by decide
  commute := by simp [record]
  fields := .cons (respects_required respects_leaf) .nil

def Metadata.slots : List (Slot Shape) := [.required "key" .leaf, .required "value" .leaf]

theorem Metadata.has_slots : record.Has slots where
  names := by decide
  commute := by simp [record]
  fields := .cons (respects_required respects_leaf) <| .cons (respects_required respects_leaf) .nil

def MetadataBlob.slots : List (Slot Shape) := [.required "key" .leaf, .required "blob" .leaf]

theorem MetadataBlob.has_slots : record.Has slots where
  names := by decide
  commute := by simp [record]
  fields := .cons (respects_required respects_leaf) <| .cons (respects_required respects_leaf) .nil

/-! ### Buffers -/

def NativeHandle.slots : List (Slot Shape) := [.required "fds" .leaf, .required "ints" .leaf]

theorem NativeHandle.has_slots : record.Has slots where
  names := by decide
  commute := by simp [record]
  fields := .cons (respects_required respects_leaf) <| .cons (respects_required respects_leaf) .nil

/-- Without a handle the cached buffer is meant, and without a fence there is nothing to
wait for. -/
def Buffer.slots : List (Slot Shape) :=
  [.required "slot" .leaf, .optional "handle" (.record NativeHandle.slots),
    .defaulted "fence" (.ofInt (-1)) .leaf]

theorem Buffer.has_slots : record.Has slots where
  names := by decide
  commute := by simp [record]
  fields :=
    .cons (respects_required respects_leaf) <|
    .cons (respects_optional (respects_record NativeHandle.has_slots) rfl) <|
    .cons (respects_defaulted respects_leaf rfl rfl) .nil

def ClientTarget.slots : List (Slot Shape) :=
  [.required "buffer" (.record Buffer.slots), .defaulted "dataspace" (.ofInt 0) .leaf,
    .defaulted "damage" (.array []) Region.shape]

theorem ClientTarget.has_slots : record.Has slots where
  names := by decide
  commute := by simp [record]
  fields :=
    .cons (respects_required (respects_record Buffer.has_slots)) <|
    .cons (respects_defaulted respects_leaf rfl rfl) <|
    .cons (respects_defaulted Region.respects rfl rfl) .nil

/-! ### Commands -/

def LayerCommand.slots : List (Slot Shape) := [
  .defaulted "layer" (.ofInt 0) .leaf,
  .optional "cursor_position" (.record Point.slots),
  .optional "buffer" (.record Buffer.slots),
  .optional "damage" Region.shape,
  .optional "blend_mode" .leaf,
  .optional "color" (.record Color.slots),
  .optional "composition" .leaf,
  .optional "dataspace" .leaf,
  .optional "display_frame" (.record Rect.slots),
  .optional "plane_alpha" .leaf,
  .optional "sideband_stream" (.record NativeHandle.slots),
  .optional "source_crop" (.record Crop.slots),
  .optional "transform" .leaf,
  .optional "visible_region" Region.shape,
  .optional "z" .leaf,
  .optional "color_transform" .leaf,
  .optional "per_frame_metadata" (.list (.record Metadata.slots)),
  .optional "per_frame_metadata_blob" (.list (.record MetadataBlob.slots))]

theorem LayerCommand.has_slots : record.Has slots where
  names := by decide
  commute := by simp [record]
  fields :=
    .cons (respects_defaulted respects_leaf rfl rfl) <|
    .cons (respects_optional (respects_record Point.has_slots) rfl) <|
    .cons (respects_optional (respects_record Buffer.has_slots) rfl) <|
    .cons (respects_optional Region.respects rfl) <|
    .cons (respects_optional respects_leaf rfl) <|
    .cons (respects_optional (respects_record Color.has_slots) rfl) <|
    .cons (respects_optional respects_leaf rfl) <|
    .cons (respects_optional respects_leaf rfl) <|
    .cons (respects_optional (respects_record Rect.has_slots) rfl) <|
    .cons (respects_optional respects_leaf rfl) <|
    .cons (respects_optional (respects_record NativeHandle.has_slots) rfl) <|
    .cons (respects_optional (respects_record Crop.has_slots) rfl) <|
    .cons (respects_optional respects_leaf rfl) <|
    .cons (respects_optional Region.respects rfl) <|
    .cons (respects_optional respects_leaf rfl) <|
    .cons (respects_optional respects_leaf rfl) <|
    .cons (respects_optional (respects_list (respects_nullable (respects_record Metadata.has_slots))) rfl) <|
    .cons (respects_optional (respects_list (respects_nullable (respects_record MetadataBlob.has_slots))) rfl)
      .nil

def DisplayCommand.slots : List (Slot Shape) := [
  .defaulted "display" (.ofInt 0) .leaf,
  .defaulted "layers" (.array []) (.list (.record LayerCommand.slots)),
  .optional "color_transform_matrix" .leaf,
  .optional "client_target" (.record ClientTarget.slots),
  .optional "virtual_display_output_buffer" (.record Buffer.slots),
  .optional "brightness" (.record Brightness.slots),
  .optional "expected_present_time" (.record Timestamp.slots),
  .defaulted "validate_display" (.bool false) .leaf,
  .defaulted "accept_display_changes" (.bool false) .leaf,
  .defaulted "present_display" (.bool false) .leaf,
  .defaulted "present_or_validate_display" (.bool false) .leaf]

theorem DisplayCommand.has_slots : record.Has slots where
  names := by decide
  commute := by simp [record]
  fields :=
    .cons (respects_defaulted respects_leaf rfl rfl) <|
    .cons (respects_defaulted (respects_list (respects_record LayerCommand.has_slots)) rfl rfl) <|
    .cons (respects_optional respects_leaf rfl) <|
    .cons (respects_optional (respects_record ClientTarget.has_slots) rfl) <|
    .cons (respects_optional (respects_record Buffer.has_slots) rfl) <|
    .cons (respects_optional (respects_record Brightness.has_slots) rfl) <|
    .cons (respects_optional (respects_record Timestamp.has_slots) rfl) <|
    .cons (respects_defaulted respects_leaf rfl rfl) <|
    .cons (respects_defaulted respects_leaf rfl rfl) <|
    .cons (respects_defaulted respects_leaf rfl rfl) <|
    .cons (respects_defaulted respects_leaf rfl rfl) .nil

/-! ### Requests -/

namespace Request

def executeSlots : List (Slot Shape) := [.required "commands" (.list (.record DisplayCommand.slots))]

def createLayerSlots : List (Slot Shape) :=
  [.required "display" .leaf, .required "buffer_slot_count" .leaf]

def destroyLayerSlots : List (Slot Shape) := [.required "display" .leaf, .required "layer" .leaf]

def refreshSlots : List (Slot Shape) := [.required "display" .leaf]

theorem executeRecord_has_slots : executeRecord.Has executeSlots where
  names := by decide
  commute := by simp [executeRecord]
  fields := .cons (respects_required (respects_list (respects_record DisplayCommand.has_slots))) .nil

theorem createLayerRecord_has_slots : createLayerRecord.Has createLayerSlots where
  names := by decide
  commute := by simp [createLayerRecord]
  fields := .cons (respects_required respects_leaf) <| .cons (respects_required respects_leaf) .nil

theorem destroyLayerRecord_has_slots : destroyLayerRecord.Has destroyLayerSlots where
  names := by decide
  commute := by simp [destroyLayerRecord]
  fields := .cons (respects_required respects_leaf) <| .cons (respects_required respects_leaf) .nil

theorem refreshRecord_has_slots : refreshRecord.Has refreshSlots where
  names := by decide
  commute := by simp [refreshRecord]
  fields := .cons (respects_required respects_leaf) .nil

/-- The slots of a request besides its tag. -/
def slots : Request → List (Slot Shape)
  | .execute _ => executeSlots
  | .createLayer _ _ => createLayerSlots
  | .destroyLayer _ _ => destroyLayerSlots
  | .refresh _ => refreshSlots

/-- Where in a message there are objects with fields. -/
def shape (r : Request) : Shape := .record (.tag :: r.slots)

theorem respects_cases : ∀ case ∈ cases, case.Respects slots := by
  simp only [cases, List.forall_mem_cons]
  exact ⟨Case.respects_record executeRecord_has_slots fun _ => rfl,
    Case.respects_record createLayerRecord_has_slots fun _ => rfl,
    Case.respects_record destroyLayerRecord_has_slots fun _ => rfl,
    Case.respects_record refreshRecord_has_slots fun _ => rfl, List.forall_mem_nil _⟩

/-- No field is taken for the tag. -/
theorem tagName_notMem_slots (r : Request) : tagName ∉ r.slots.map Slot.name := by
  cases r with
  | execute => exact (by decide : tagName ∉ executeSlots.map Slot.name)
  | createLayer => exact (by decide : tagName ∉ createLayerSlots.map Slot.name)
  | destroyLayer => exact (by decide : tagName ∉ destroyLayerSlots.map Slot.name)
  | refresh => exact (by decide : tagName ∉ refreshSlots.map Slot.name)

/-- **A message in another presentation is the same request.** -/
theorem decode_alike {text : Bytes} {r : Request} (h : Request.decode text = .ok r) :
    ∃ j, Json.ofBytes text = .ok j ∧ ∀ text' j', Json.ofBytes text' = .ok j' → r.shape.Alike j j' →
      Request.decode text' = .ok r := by
  obtain ⟨j, value, meant⟩ := decodeBytes_tagged.1 h
  exact ⟨j, value, fun text' j' value' alike =>
    decodeBytes_tagged.2 ⟨j', value', (means_alike respects_cases r.tagName_notMem_slots alike).1 meant⟩⟩

/-- The tag put last, the fence of a buffer left out, a note added to the buffer, and a depth
that is not there said to be `null`. -/
theorem decode_alike_sparse :
    let command (layer : Json) : String × Json :=
      ("commands", .array [.object [("display", .ofInt 1), ("layers", .array [layer])]])
    let tag : String × Json := ("type", .string "ExecuteCommands")
    let full : Json := .object [tag, command (.object [("layer", .ofInt 7),
      ("buffer", .object [("slot", .ofInt 0), ("fence", .ofInt (-1))])])]
    let sparse : Json := .object [command (.object [("layer", .ofInt 7),
      ("buffer", .object [("slot", .ofInt 0), ("note", .array [.null])]), ("z", .null)]), tag]
    let r : Request := .execute [
      { DisplayCommand.idle 1 with
        layers := [{ LayerCommand.idle 7 with buffer := some ⟨0, none, .absent⟩ }] }]
    Request.decode full.print = .ok r ∧ r.shape.Alike full sparse ∧
      Request.decode sparse.print = .ok r := by
  intro command tag full sparse r
  have accepted : Request.decode full.print = .ok r := Except.toOption_eq_some_iff.1 (by decide +kernel)
  have inLayer {j j' : Json} (edit : Edit (.record LayerCommand.slots) j j') :
      Edit r.shape (.object [command j, tag]) (.object [command j', tag]) :=
    .field [] [tag] (show Slot.required "commands" _ ∈ _ from .tail _ (.head _)) <| .item [] [] <|
    .field [("display", .ofInt 1)] [] (show Slot.defaulted "layers" _ _ ∈ _ from .tail _ (.head _)) <|
    .item [] [] edit
  have inBuffer {j j' : Json} (edit : Edit (.record Buffer.slots) j j') :
      Edit (.record LayerCommand.slots) (.object [("layer", .ofInt 7), ("buffer", j)])
        (.object [("layer", .ofInt 7), ("buffer", j')]) :=
    .field [("layer", .ofInt 7)] []
      (show Slot.optional "buffer" _ ∈ _ from .tail _ (.tail _ (.head _))) edit
  have fence : Edit (.record Buffer.slots) (.object [("slot", .ofInt 0)])
      (.object [("slot", .ofInt 0), ("fence", .ofInt (-1))]) :=
    .explicit [_] [] (show Slot.defaulted "fence" _ _ ∈ _ from .tail _ (.tail _ (.head _))) rfl
      (by decide)
  have note : Edit (.record Buffer.slots) (.object [("slot", .ofInt 0)])
      (.object [("slot", .ofInt 0), ("note", .array [.null])]) := .ignored [_] [] (by decide)
  have depth (buffer : Json) : Edit (.record LayerCommand.slots)
      (.object [("layer", .ofInt 7), ("buffer", buffer)])
      (.object [("layer", .ofInt 7), ("buffer", buffer), ("z", .null)]) :=
    .explicit [_, _] [] (show Slot.optional "z" .leaf ∈ _ by simp [LayerCommand.slots]) rfl
      (by simp [Slot.optional])
  have alike : r.shape.Alike full sparse :=
    .trans _ _ _ (.rel _ _ (.permute (.swap _ _ _))) <|
    .trans _ _ _ (.symm _ _ (.rel _ _ (inLayer (inBuffer fence)))) <|
    .trans _ _ _ (.rel _ _ (inLayer (inBuffer note))) (.rel _ _ (inLayer (depth _)))
  obtain ⟨j, value, same⟩ := decode_alike accepted
  obtain rfl : j = full := Except.ok.inj (value.symm.trans rfl)
  exact ⟨accepted, alike, same _ _ rfl alike⟩

end Request

end DisplayComposer
