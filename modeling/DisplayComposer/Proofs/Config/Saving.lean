import DisplayComposer.Proofs.Config.Acceptance
import DisplayComposer.Proofs.Toml.Record
/-!
# DisplayComposer.Proofs.Config.Saving

**A saved configuration reads back.** Whatever its texts and numbers are, a configuration that
was saved is read from the file as it was, and then the service insists on what it always does.
A file that the program wrote is never malformed.

* `ServerConfig.fills`, `LoggingConfig.fills`, `DisplayConfig.fills` — the parts;
* `ComposerConfig.ofText?_text` — the text of a configuration;
* `ComposerConfig.load_saved` — a file that was saved.
-/

namespace DisplayComposer

open Toml

/-! ### The parts of a configuration -/

theorem ServerConfig.fills (c : ServerConfig) : Record.Fills c settings.fields settings.blank c :=
  .cons (Field.sets_optional (fun path _ => Codec.carries_string path) rfl) <|
  .cons (Field.sets_plain (Codec.carries_uint64 _)) <|
  .cons (Field.sets_plain (Codec.carries_uint64 _)) .nil

theorem LoggingConfig.fills (c : LoggingConfig) :
    Record.Fills c settings.fields settings.blank c :=
  .cons (Field.sets_plain (Codec.carries_string _)) .nil

theorem DisplayConfig.fills (c : DisplayConfig) :
    Record.Fills c settings.fields settings.blank c :=
  .cons (Field.sets_plain (Codec.carries_int64 _)) <|
  .cons (Field.sets_plain (Codec.carries_uint32 _)) <|
  .cons (Field.sets_plain (Codec.carries_uint32 _)) <|
  .cons (Field.sets_plain (Codec.carries_boolean _)) <|
  .cons (Field.sets_plain (Codec.carries_uint32 _)) <|
  .cons (Field.sets_plain (Codec.carries_uint64 _)) .nil

theorem ServerConfig.scalar : Record.Scalar settings where
  names := by decide
  bare := by decide
  flat := by
    simp only [settings, List.forall_mem_cons]
    exact ⟨Field.flat_optional fun _ => rfl, Field.flat_plain fun _ => rfl,
      Field.flat_plain fun _ => rfl, nofun⟩

theorem LoggingConfig.scalar : Record.Scalar settings where
  names := by decide
  bare := by decide
  flat := by
    simp only [settings, List.forall_mem_cons]
    exact ⟨Field.flat_plain fun _ => rfl, nofun⟩

theorem DisplayConfig.scalar : Record.Scalar settings where
  names := by decide
  bare := by decide
  flat := by
    simp only [settings, List.forall_mem_cons]
    exact ⟨Field.flat_plain fun _ => rfl, Field.flat_plain fun _ => rfl,
      Field.flat_plain fun _ => rfl, Field.flat_plain fun _ => rfl,
      Field.flat_plain fun _ => rfl, Field.flat_plain fun _ => rfl, nofun⟩

namespace ComposerConfig

/-! ### The text of a configuration -/

theorem names_nodup : (settings.fields.map Field.name).Nodup := by decide

theorem names_bare : ∀ field ∈ settings.fields, Bare field.name := by decide

theorem fills (c : ComposerConfig) : Record.Fills c settings.fields settings.blank c :=
  .cons (Field.sets_plain (Record.carries ServerConfig.scalar.names c.server.fills)) <|
  .cons (Field.sets_plain (Record.carries LoggingConfig.scalar.names c.logging.fills)) <|
  .cons (Field.sets_plain
    (Record.carries_list DisplayConfig.scalar.names fun d _ => d.fills)) .nil

/-- A configuration is a document of settings. -/
theorem plain_entries (c : ComposerConfig) : Document.Plain (settings.entries c) where
  keys := Record.keys_nodup names_nodup c
  bare e he := by
    obtain ⟨field, hfield, -, hname⟩ := Record.mem_written.1 he
    exact hname ▸ names_bare field hfield
  writable := by
    have hdisplays : ∀ es ∈ c.displays.map DisplayConfig.settings.entries, Settings es := by
      intro es hes
      obtain ⟨d, -, rfl⟩ := List.mem_map.1 hes
      exact DisplayConfig.scalar.settings d
    show ∀ e ∈ [("server", Value.table .headed (ServerConfig.settings.entries c.server)),
      ("logging", .table .headed (LoggingConfig.settings.entries c.logging)),
      ("displays", .ofTables (c.displays.map DisplayConfig.settings.entries))], Writable e.2
    simp only [List.forall_mem_cons]
    exact ⟨.table (ServerConfig.scalar.settings _), .table (LoggingConfig.scalar.settings _),
      .ofTables hdisplays, nofun⟩

/-- **The text of a configuration reads back.** -/
theorem ofText?_text {c : ComposerConfig} {text : String} (h : c.text? = some text) :
    ofText? text = some c := by
  obtain ⟨chars, hchars, rfl⟩ := Option.map_eq_some_iff.1 h
  have hread := Document.read?_text c.plain_entries hchars
  have hdecode := Record.decode_of_perm names_nodup c.fills
    (Document.arranged_perm (settings.entries c)) .headed
  rw [ofText?, hread]
  exact hdecode

/-- Saving leaves a file with the text of the configuration. -/
theorem save_ok {c : ComposerConfig} {place place' : Place} (h : c.save place = .ok place') :
    ∃ text, c.text? = some text ∧ place' = .file (utf8 text) := by
  unfold save at h
  split at h
  · cases h
  · cases h
  · cases h
  · cases h
  all_goals
    rename_i text htext
    cases h
    exact ⟨text, htext, rfl⟩

/-- **A saved configuration reads back.** Whatever its texts, its numbers and its displays are,
loading a file that it was saved to gives the configuration again, if its displays are different
and its queue has room, and otherwise objects to just that. -/
theorem load_saved {c : ComposerConfig} {place place' : Place} (hsave : c.save place = .ok place') :
    ((c.displays.map (·.id)).Nodup ∧ 1 ≤ c.server.queueDepth → load place' = (.ok c, place')) ∧
    (¬ ((c.displays.map (·.id)).Nodup ∧ 1 ≤ c.server.queueDepth) →
      ∃ objection, c.check = some objection ∧
        load place' = (.error (.refused objection), place')) := by
  obtain ⟨text, htext, rfl⟩ := save_ok hsave
  have hload : load (.file (utf8 text)) =
      (c.check.elim (.ok c) fun objection => .error (.refused objection), .file (utf8 text)) :=
    congrArg (·, Place.file (utf8 text)) (ofFile_of_text (ofUtf8?_utf8 text) (ofText?_text htext))
  have hqueue : 1 ≤ c.server.queueDepth ↔ c.server.queueDepth ≠ 0 := by
    rw [UInt64.le_iff_toNat_le, ne_eq, ← UInt64.toNat_inj]
    exact Nat.one_le_iff_ne_zero
  rw [hqueue, ← check_eq_none_iff, hload]
  cases hcheck : c.check with
  | none => exact ⟨fun _ => rfl, fun hno => absurd rfl hno⟩
  | some objection => exact ⟨fun hno => (nomatch hno), fun _ => ⟨objection, rfl, rfl⟩⟩

/-- A configuration with a path that no style holds without escapes, the greatest number that a
file can hold, and the least. -/
def unusual : ComposerConfig where
  server := { ServerConfig.standard with
    socketPath := some "a'\"\"\"\"b\\\n\r\t\x00\x7f"
    queueDepth := 9223372036854775807 }
  logging := ⟨""⟩
  displays := [.standard,
    { DisplayConfig.standard with id := Int64.minValue, isVirtual := true }]

theorem load_saved_unusual :
    (∃ place, unusual.save .absent = .ok place ∧ load place = (.ok unusual, place)) ∧
    ∃ place, { unusual with displays := [.standard, .standard] : ComposerConfig }.save .absent =
      .ok place ∧ load place = (.error (.refused (.repeatedDisplay 0)), place) := by
  have hsaved : ∃ place, unusual.save .absent = .ok place := ⟨_, rfl⟩
  have hrepeated : ∃ place, { unusual with
      displays := [.standard, .standard] : ComposerConfig }.save .absent = .ok place := ⟨_, rfl⟩
  obtain ⟨place, hsave⟩ := hsaved
  obtain ⟨place', hsave'⟩ := hrepeated
  refine ⟨⟨place, hsave, (load_saved hsave).1 (by decide)⟩, place', hsave', ?_⟩
  obtain ⟨objection, hcheck, hload⟩ := (load_saved hsave').2 (by decide)
  cases hcheck
  exact hload

end ComposerConfig

end DisplayComposer
