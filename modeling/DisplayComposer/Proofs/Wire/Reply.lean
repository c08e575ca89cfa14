import DisplayComposer.Proofs.Wire.Property
import DisplayComposer.Wire.Message
/-!
# DisplayComposer.Proofs.Wire.Reply

**Replies survive the wire.** A reply holds no floats, so every reply is read back from its
message: whatever was recorded for the commands of a batch, and whatever text an error has.
So a client knows from the message which reply it was sent.

* `CommandResult.carries` — what was recorded for one command;
* `Reply.reads_back` — replies;
* `Reply.encode_faithful` — no two of them have one message.
-/

namespace DisplayComposer

open Json Json.Record Json.Field Json.Codec

variable {d : Nat}

/-! ### Results -/

theorem CompositionChange.carries (c : CompositionChange) :
    CompositionChange.codec.Carries (d + 1) c :=
  Record.carries (by decide) <|
    .cons (sets_required (carries_int64 c.layer)) <|
    .cons (sets_required c.composition.carries) .nil

theorem LayerRequest.carries (r : LayerRequest) : LayerRequest.codec.Carries (d + 1) r :=
  Record.carries (by decide) <|
    .cons (sets_required (carries_int64 r.layer)) <|
    .cons (sets_required (carries_uint32 r.mask)) .nil

theorem DisplayRequest.carries (r : DisplayRequest) : DisplayRequest.codec.Carries (d + 3) r :=
  Record.carries (by decide) <|
    .cons (sets_required (carries_uint32 r.mask)) <|
    .cons (sets_required (carries_list fun l _ => l.carries)) .nil

theorem TargetProperty.carries (p : TargetProperty) : TargetProperty.codec.Carries (d + 1) p :=
  Record.carries (by decide) <|
    .cons (sets_required p.pixelFormat.carries) <|
    .cons (sets_required p.dataspace.carries) .nil

theorem ReleaseFence.carries (f : ReleaseFence) : ReleaseFence.codec.Carries (d + 1) f :=
  Record.carries (by decide) <|
    .cons (sets_required (carries_int64 f.layer)) <|
    .cons (sets_required f.fence.carries) .nil

theorem FastPathOutcome.carries (o : FastPathOutcome) : FastPathOutcome.codec.Carries d o :=
  carries_choice (by cases o <;> rfl)

theorem CommandResult.carries (r : CommandResult) : CommandResult.codec.Carries (d + 4) r :=
  Record.carries (by decide) <|
    .cons (sets_required (carries_uint32 r.index)) <|
    .cons (sets_required (carries_int64 r.display)) <|
    .cons (sets_sparse (fun n _ => carries_int32 n) rfl) <|
    .cons (sets_optional (fun cs _ => ⟨carries_list fun c _ => c.carries, nofun⟩) rfl) <|
    .cons (sets_optional (fun q _ => ⟨q.carries, nofun⟩) rfl) <|
    .cons (sets_optional (fun p _ => ⟨p.carries, nofun⟩) rfl) <|
    .cons (sets_optional (fun f _ => ⟨f.carries, nofun⟩) rfl) <|
    .cons (sets_optional (fun fs _ => ⟨carries_list fun f _ => f.carries, nofun⟩) rfl) <|
    .cons (sets_optional (fun o _ => ⟨o.carries, nofun⟩) rfl) .nil

/-! ### Replies -/

namespace Reply

/-- Every reply is carried. No reply nests deeper than six. -/
theorem carries (r : Reply) : codec.Carries 6 r := by
  cases r with
  | commandResults results =>
    have carried : CommandResult.codec.list.Carries 5 results :=
      carries_list fun r _ => CommandResult.carries (d := 0) r
    exact carries_record (c := resultsRecord) rfl rfl rfl (by decide)
      (.cons (sets_required carried) .nil) (by decide)
  | layerCreated layer =>
    exact carries_record (c := layerCreatedRecord) rfl rfl rfl (by decide)
      (.cons (sets_required (carries_int64 layer)) .nil) (by decide)
  | ok => exact carries_tagged (d := 5) rfl rfl nofun nofun (by decide) rfl
  | error code message =>
    exact carries_record (c := errorRecord) (r := (code, message)) rfl rfl rfl (by decide)
      (.cons (sets_required (carries_int32 code)) <|
       .cons (sets_required (carries_string message)) .nil) (by decide)

/-- **A reply is read back from its message.** -/
theorem reads_back (r : Reply) : Reply.decode r.encode = .ok r := r.carries.decodeBytes (by decide)

/-- **Messages stand for replies.** A client reads the reply that was sent from its message, and
the message of any other reply is different. -/
theorem encode_faithful (r : Reply) :
    Reply.decode r.encode = .ok r ∧ ∀ other : Reply, other.encode = r.encode → other = r := by
  refine ⟨reads_back r, fun other hsame => ?_⟩
  have hread : Reply.decode r.encode = .ok other := hsame ▸ reads_back other
  exact Except.ok.inj (hread.symm.trans (reads_back r))

end Reply

end DisplayComposer
