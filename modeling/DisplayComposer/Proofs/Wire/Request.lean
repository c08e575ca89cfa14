import DisplayComposer.Proofs.Wire.Property
import DisplayComposer.Wire.Message
/-!
# DisplayComposer.Proofs.Wire.Request

**Requests survive the wire.** A request is read back from its message as it was, whatever
its commands are: with any fields present, any entries of a list left out, and lists that
are empty, which are not the same as lists that are absent. Only floats can get lost, and
only those that would get lost on their own.

* `Request.singles` — the floats of a request;
* `LayerCommand.carries`, `DisplayCommand.carries` — commands;
* `Request.decode_encode` — requests.
-/

namespace DisplayComposer

open Json Json.Record Json.Field Json.Codec

variable {d : Nat}

/-! ### Buffers -/

theorem NativeHandle.carries (h : NativeHandle) : NativeHandle.codec.Carries (d + 2) h :=
  Record.carries (by decide) <|
    .cons (sets_required (carries_list fun n _ => carries_int32 n)) <|
    .cons (sets_required (carries_list fun n _ => carries_int32 n)) .nil

theorem Buffer.carries (b : Buffer) : Buffer.codec.Carries (d + 3) b :=
  Record.carries (by decide) <|
    .cons (sets_required (carries_int32 b.slot)) <|
    .cons (sets_optional (fun h _ => ⟨h.carries, nofun⟩) rfl) <|
    .cons (sets_defaulted b.fence.carries) .nil

theorem ClientTarget.carries (t : ClientTarget) : ClientTarget.codec.Carries (d + 4) t :=
  Record.carries (by decide) <|
    .cons (sets_required t.buffer.carries) <|
    .cons (sets_defaulted t.dataspace.carries) <|
    .cons (sets_defaulted (Region.carries t.damage)) .nil

/-! ### Commands -/

theorem carries_floats {xs : List Single} (h : ∀ x ∈ xs, x.Survives) :
    Codec.float.list.Carries (d + 1) xs :=
  carries_list fun x mem => (carries_float (h x mem)).1

/-- The floats of a layer command. -/
def LayerCommand.singles (c : LayerCommand) : List Single :=
  c.color.toList.flatMap Color.singles ++ c.planeAlpha.toList ++
    c.sourceCrop.toList.flatMap Crop.singles ++ c.colorTransform.getD [] ++
    (c.metadata.getD []).filterMap (·.map Metadata.value)

theorem LayerCommand.carries {c : LayerCommand} (h : ∀ x ∈ c.singles, x.Survives) :
    LayerCommand.codec.Carries (d + 4) c := by
  simp only [singles, List.forall_mem_append] at h
  obtain ⟨⟨⟨⟨color, alpha⟩, crop⟩, transform⟩, metadata⟩ := h
  have color (a : Color) (value : c.color = some a) : Color.codec.Carries (d + 3) a :=
    Color.carries fun x mem => color x (List.mem_flatMap.2 ⟨a, by simp [value], mem⟩)
  have alpha (x : Single) (value : c.planeAlpha = some x) : x.Survives := alpha x (by simp [value])
  have crop (r : Crop) (value : c.sourceCrop = some r) : Crop.codec.Carries (d + 3) r :=
    Crop.carries fun x mem => crop x (List.mem_flatMap.2 ⟨r, by simp [value], mem⟩)
  have transform (xs : List Single) (value : c.colorTransform = some xs) :
      Codec.float.list.Carries (d + 3) xs :=
    carries_floats fun x mem => transform x (by simpa [value] using mem)
  have metadata (entries : List (Option Metadata)) (value : c.metadata = some entries) :
      Metadata.codec.nullable.list.Carries (d + 3) entries := by
    refine carries_list fun entry mem => carries_nullable fun m present => ⟨?_, nofun⟩
    subst present
    refine Metadata.carries (metadata m.value (List.mem_filterMap.2 ⟨some m, ?_, rfl⟩))
    rwa [value]
  exact Record.carries (by decide) <|
    .cons (sets_defaulted (carries_int64 c.layer)) <|
    .cons (sets_optional (fun p _ => ⟨p.carries, nofun⟩) rfl) <|
    .cons (sets_optional (fun b _ => ⟨b.carries, nofun⟩) rfl) <|
    .cons (sets_optional (fun r _ => ⟨Region.carries r, nofun⟩) rfl) <|
    .cons (sets_optional (fun m _ => ⟨m.carries, nofun⟩) rfl) <|
    .cons (sets_optional (fun a value => ⟨color a value, nofun⟩) rfl) <|
    .cons (sets_optional (fun m _ => ⟨m.carries, nofun⟩) rfl) <|
    .cons (sets_optional (fun s _ => ⟨s.carries, nofun⟩) rfl) <|
    .cons (sets_optional (fun r _ => ⟨r.carries, nofun⟩) rfl) <|
    .cons (sets_optional (fun a value => carries_float (alpha a value)) rfl) <|
    .cons (sets_optional (fun s _ => ⟨s.carries, nofun⟩) rfl) <|
    .cons (sets_optional (fun a value => ⟨crop a value, nofun⟩) rfl) <|
    .cons (sets_optional (fun t _ => ⟨t.carries, nofun⟩) rfl) <|
    .cons (sets_optional (fun r _ => ⟨Region.carries r, nofun⟩) rfl) <|
    .cons (sets_optional (fun n _ => ⟨carries_uint32 n, nofun⟩) rfl) <|
    .cons (sets_optional (fun a value => ⟨transform a value, nofun⟩) rfl) <|
    .cons (sets_optional (fun a value => ⟨metadata a value, nofun⟩) rfl) <|
    .cons (sets_optional (fun blobs _ => ⟨carries_list fun _ _ => carries_nullable fun b _ =>
      ⟨b.carries, nofun⟩, nofun⟩) rfl) .nil

/-- The floats of a display command. -/
def DisplayCommand.singles (c : DisplayCommand) : List Single :=
  c.layers.flatMap LayerCommand.singles ++ c.colorTransform.getD [] ++
    c.brightness.toList.map Brightness.level

theorem DisplayCommand.carries {c : DisplayCommand} (h : ∀ x ∈ c.singles, x.Survives) :
    DisplayCommand.codec.Carries (d + 6) c := by
  simp only [singles, List.forall_mem_append] at h
  obtain ⟨⟨layers, transform⟩, brightness⟩ := h
  have layers : LayerCommand.codec.list.Carries (d + 5) c.layers :=
    carries_list fun l inside => LayerCommand.carries fun x mem =>
      layers x (List.mem_flatMap.2 ⟨l, inside, mem⟩)
  have transform (xs : List Single) (value : c.colorTransform = some xs) :
      Codec.float.list.Carries (d + 5) xs :=
    carries_floats fun x mem => transform x (by simpa [value] using mem)
  have brightness (b : Brightness) (value : c.brightness = some b) :
      Brightness.codec.Carries (d + 5) b :=
    Brightness.carries (brightness b.level (List.mem_map.2 ⟨b, by simp [value], rfl⟩))
  exact Record.carries (by decide) <|
    .cons (sets_defaulted (carries_int64 c.display)) <|
    .cons (sets_defaulted layers) <|
    .cons (sets_optional (fun xs value => ⟨transform xs value, nofun⟩) rfl) <|
    .cons (sets_optional (fun t _ => ⟨t.carries, nofun⟩) rfl) <|
    .cons (sets_optional (fun b _ => ⟨b.carries, nofun⟩) rfl) <|
    .cons (sets_optional (fun b value => ⟨brightness b value, nofun⟩) rfl) <|
    .cons (sets_optional (fun t _ => ⟨t.carries, nofun⟩) rfl) <|
    .cons (sets_defaulted (carries_bool c.validate)) <|
    .cons (sets_defaulted (carries_bool c.accept)) <|
    .cons (sets_defaulted (carries_bool c.present)) <|
    .cons (sets_defaulted (carries_bool c.presentOrValidate)) .nil

/-! ### Requests -/

namespace Request

/-- The floats of a request. -/
def singles : Request → List Single
  | .execute commands => commands.flatMap DisplayCommand.singles
  | .createLayer _ _ | .destroyLayer _ _ | .refresh _ => []

/-- A request is carried if its floats survive. No request nests deeper than eight. -/
theorem carries {r : Request} (h : ∀ x ∈ r.singles, x.Survives) : codec.Carries 8 r := by
  cases r with
  | execute commands =>
    have carried : DisplayCommand.codec.list.Carries 7 commands :=
      carries_list fun c inside => DisplayCommand.carries (d := 0) fun x mem =>
        h x (List.mem_flatMap.2 ⟨c, inside, mem⟩)
    exact carries_record (c := executeRecord) rfl rfl rfl (by decide)
      (.cons (sets_required carried) .nil) (by decide)
  | createLayer display slots =>
    exact carries_record (c := createLayerRecord) (r := (display, slots)) rfl rfl rfl (by decide)
      (.cons (sets_required (carries_int64 display)) <|
       .cons (sets_required (carries_uint32 slots)) .nil) (by decide)
  | destroyLayer display layer =>
    exact carries_record (c := destroyLayerRecord) (r := (display, layer)) rfl rfl rfl (by decide)
      (.cons (sets_required (carries_int64 display)) <|
       .cons (sets_required (carries_int64 layer)) .nil) (by decide)
  | refresh display =>
    exact carries_record (c := refreshRecord) rfl rfl rfl (by decide)
      (.cons (sets_required (carries_int64 display)) .nil) (by decide)

/-- **A request is read back from its message**, floats bit for bit, as long as each of its
floats is read back from its own text. -/
theorem decode_encode (r : Request) (h : ∀ x ∈ r.singles, x.Survives) :
    Request.decode r.encode = .ok r :=
  (carries h).decodeBytes (by decide)

/-- A frame for two displays, with floats that are hard to print, entries left out, lists
that are empty and lists that are absent, is read back. -/
theorem decode_encode_frame :
    let frame : Request := .execute [
      { DisplayCommand.idle 1 with
        layers := [
          { LayerCommand.idle 7 with
            buffer := some ⟨-1, some ⟨[3, -4], []⟩, ⟨9⟩⟩
            damage := some [none, some ⟨-2147483648, 0, 2147483647, 5⟩]
            color := some ⟨.ofWord 0x3DCCCCCD, .ofWord 0x80000000, .ofWord 0x7F7FFFFF, .ofWord 1⟩
            visibleRegion := some []
            z := some 4294967295
            metadata := some [none, some ⟨.maxLuminance, .ofWord 0x43FA0000⟩]
            metadataBlobs := some [some ⟨.hdr10PlusSei, [0, 255]⟩, none] },
          { LayerCommand.idle (-9223372036854775808) with colorTransform := some [] }]
        brightness := some ⟨.ofWord 0x3F000000⟩
        presentOrValidate := true },
      { DisplayCommand.idle 2 with
        clientTarget := some ⟨⟨0, none, .absent⟩, .srgb, [none]⟩
        expectedPresentTime := some ⟨9223372036854775807⟩ }]
    (∀ x ∈ frame.singles, x.Survives) ∧ Request.decode frame.encode = .ok frame := by
  intro frame
  have survive : ∀ x ∈ frame.singles, x.Survives := by decide +kernel
  exact ⟨survive, decode_encode frame survive⟩

end Request

end DisplayComposer
