import DisplayComposer.Bytes
import DisplayComposer.Config.Basic
/-!
# DisplayComposer.Config.File

**Configuration files.** Loading and saving depend on what stands at the path of
the file (`Place`). A file that is not there is made at the first run; if that
fails, the service runs all the same.

* `Place`;
* `ComposerConfig.load`, `ComposerConfig.save` — each also says what stands at
  the path afterwards.
-/

namespace DisplayComposer

/-- What stands at a path. -/
inductive Place where
  /-- Nothing, but a file can be made. -/
  | absent
  /-- Nothing, and no folder can be made for a file. -/
  | blocked
  /-- Nothing, and no file can be made though a folder for it can, as where the path
  is one of a folder. -/
  | unusable
  /-- Nothing until folders on the way are made; then there is a file. -/
  | hidden
  | folder
  | file (content : Bytes)
  deriving DecidableEq, Repr

/-- Whether something stands there. -/
def Place.isThere : Place → Bool
  | .absent | .blocked | .unusable | .hidden => false
  | .folder | .file _ => true

namespace ComposerConfig

/-! ## Saving -/

/-- Why a configuration was not saved. -/
inductive SaveError where
  /-- There is no folder for the file. -/
  | folder
  /-- A number that no file can hold. -/
  | content
  /-- The file cannot be written. -/
  | file
  deriving DecidableEq, Repr

def SaveError.message : SaveError → String
  | .folder => "Failed to create config directory"
  | .content => "Failed to serialize config"
  | .file => "Failed to write config file"

/-- Save a configuration. -/
def save (c : ComposerConfig) (place : Place) : Except SaveError Place :=
  match place, c.text? with
  | .blocked, _ => .error .folder
  | _, none => .error .content
  | .folder, some _ | .unusable, some _ => .error .file
  | .absent, some text | .hidden, some text | .file _, some text => .ok (.file (utf8 text))

/-! ## Loading -/

/-- Why there is no configuration. -/
inductive LoadError where
  /-- There is no text to be read. -/
  | unreadable
  /-- The text is no configuration. -/
  | malformed
  | refused (objection : Objection)
  deriving DecidableEq, Repr

/-- The configuration of a file. -/
def ofFile (content : Bytes) : Except LoadError ComposerConfig :=
  match ofUtf8? content with
  | none => .error .unreadable
  | some text =>
    match ofText? text with
    | none => .error .malformed
    | some c =>
      match c.check with
      | some objection => .error (.refused objection)
      | none => .ok c

/-- Load a configuration. -/
def load (place : Place) : Except LoadError ComposerConfig × Place :=
  match place with
  | .file content => (ofFile content, place)
  | .folder => (.error .unreadable, place)
  | .absent | .blocked | .unusable | .hidden =>
    match firstRun.save place with
    | .ok written => (.ok firstRun, written)
    | .error _ => (.ok firstRun, place)

end ComposerConfig

end DisplayComposer
