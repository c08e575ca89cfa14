import DisplayComposer.Proofs.Json.Record
import DisplayComposer.Wire.Property
/-!
# DisplayComposer.Proofs.Wire.Property

**Properties are carried by the wire.** Choices and integers of every kind are carried
without condition; what holds floats is carried if these survive.

* `Single.Survives` — a float whose own text reads back;
* `Composition.carries`, `Fence.carries` and their fellows — choices and numbers;
* `Rect.carries`, `Color.carries`, `Metadata.carries` and their fellows — records.
-/

namespace DisplayComposer

open Json Json.Record Json.Field Json.Codec

variable {d : Nat}

/-- A float that is read back, bit for bit, from the text it is written as on its own. -/
def Single.Survives (x : Single) : Prop := Codec.float.decodeBytes (Codec.float.encodeBytes x) = .ok x

instance : DecidablePred Single.Survives := fun _ =>
  decidable_of_iff _ Except.toOption_eq_some_iff

/-- No infinity and no NaN survives. -/
theorem Single.Survives.isFinite {x : Single} (h : x.Survives) : x.isFinite = true := by
  by_cases finite : x.isFinite
  · exact finite
  · exact absurd (if_neg finite) (carries_float (d := 0) h).2

/-! ### Choices -/

theorem BlendMode.carries (m : BlendMode) : BlendMode.codec.Carries d m :=
  carries_choice (by cases m <;> rfl)

theorem Composition.carries (c : Composition) : Composition.codec.Carries d c :=
  carries_choice (by cases c <;> rfl)

theorem Transform.carries (t : Transform) : Transform.codec.Carries d t :=
  carries_choice (by cases t <;> rfl)

theorem MetadataKey.carries (k : MetadataKey) : MetadataKey.codec.Carries d k :=
  carries_choice (by cases k <;> rfl)

/-! ### Numbers -/

theorem Dataspace.carries (s : Dataspace) : Dataspace.codec.Carries d s :=
  carries_imap (carries_int32 s.code) rfl

theorem PixelFormat.carries (f : PixelFormat) : PixelFormat.codec.Carries d f :=
  carries_imap (carries_int32 f.code) rfl

theorem Fence.carries (f : Fence) : Fence.codec.Carries d f :=
  carries_imap (carries_int32 f.code) rfl

/-! ### Geometry -/

theorem Point.carries (p : Point) : Point.codec.Carries (d + 1) p :=
  Record.carries (by decide) <|
    .cons (sets_required (carries_int32 p.x)) <|
    .cons (sets_required (carries_int32 p.y)) .nil

theorem Rect.carries (r : Rect) : Rect.codec.Carries (d + 1) r :=
  Record.carries (by decide) <|
    .cons (sets_required (carries_int32 r.left)) <|
    .cons (sets_required (carries_int32 r.top)) <|
    .cons (sets_required (carries_int32 r.right)) <|
    .cons (sets_required (carries_int32 r.bottom)) .nil

theorem Region.carries (r : Region) : Region.codec.Carries (d + 2) r :=
  carries_list fun _ _ => carries_nullable fun rect _ => ⟨rect.carries, nofun⟩

/-- The numbers of a rectangle of a buffer. -/
def Crop.singles (r : Crop) : List Single := [r.left, r.top, r.right, r.bottom]

theorem Crop.carries {r : Crop} (h : ∀ x ∈ r.singles, x.Survives) : Crop.codec.Carries (d + 1) r := by
  simp only [Crop.singles, List.forall_mem_cons] at h
  obtain ⟨left, top, right, bottom, -⟩ := h
  exact Record.carries (by decide) <|
    .cons (sets_required (carries_float left).1) <|
    .cons (sets_required (carries_float top).1) <|
    .cons (sets_required (carries_float right).1) <|
    .cons (sets_required (carries_float bottom).1) .nil

/-- The components of a colour. -/
def Color.singles (c : Color) : List Single := [c.red, c.green, c.blue, c.alpha]

theorem Color.carries {c : Color} (h : ∀ x ∈ c.singles, x.Survives) : Color.codec.Carries (d + 1) c := by
  simp only [Color.singles, List.forall_mem_cons] at h
  obtain ⟨red, green, blue, alpha, -⟩ := h
  exact Record.carries (by decide) <|
    .cons (sets_required (carries_float red).1) <|
    .cons (sets_required (carries_float green).1) <|
    .cons (sets_required (carries_float blue).1) <|
    .cons (sets_required (carries_float alpha).1) .nil

/-! ### Records -/

theorem Brightness.carries {b : Brightness} (h : b.level.Survives) :
    Brightness.codec.Carries (d + 1) b :=
  Record.carries (by decide) <|
    .cons (sets_required (carries_float h).1) .nil

theorem Timestamp.carries (t : Timestamp) : Timestamp.codec.Carries (d + 1) t :=
  Record.carries (by decide) <|
    .cons (sets_required (carries_int64 t.nanoseconds)) .nil

theorem Metadata.carries {m : Metadata} (h : m.value.Survives) : Metadata.codec.Carries (d + 1) m :=
  Record.carries (by decide) <|
    .cons (sets_required m.key.carries) <|
    .cons (sets_required (carries_float h).1) .nil

theorem MetadataBlob.carries (m : MetadataBlob) : MetadataBlob.codec.Carries (d + 2) m :=
  Record.carries (by decide) <|
    .cons (sets_required m.key.carries) <|
    .cons (sets_required (carries_list fun n _ => carries_uint8 n)) .nil

end DisplayComposer
