import DisplayComposer.Config.Display
import DisplayComposer.Config.Service
import DisplayComposer.Toml.Document
/-!
# DisplayComposer.Config.Basic

**The configuration.** It names the displays and says how the service runs. Every
part may be left out of a configuration file. The service starts only if no
display is configured twice and some request can wait for the engine.

* `ComposerConfig` — with `standard` and `firstRun`;
* `ComposerConfig.ofText?`, `ComposerConfig.text?` — reading and writing a file;
* `ComposerConfig.check` — what the service insists on.
-/

namespace DisplayComposer

structure ComposerConfig where
  server : ServerConfig
  logging : LoggingConfig
  displays : List DisplayConfig
  deriving DecidableEq

namespace ComposerConfig

/-- The configuration of an empty file: no displays. -/
def standard : ComposerConfig := ⟨.standard, .standard, []⟩

/-- The configuration where there is no file yet: one display. -/
def firstRun : ComposerConfig := { standard with displays := [.standard] }

/-- The configuration in JSON. -/
def record : Json.Record ComposerConfig where
  title := "struct ComposerConfig"
  blank := standard
  fields := [
    .defaulted "server" ServerConfig.record.codec (·.server) (fun v c => { c with server := v }),
    .defaulted "logging" LoggingConfig.record.codec (·.logging) (fun v c => { c with logging := v }),
    .defaulted "displays" DisplayConfig.codec.list (·.displays)
      (fun v c => { c with displays := v })]

def codec : Json.Codec ComposerConfig := record.codec

/-- The configuration in a file. -/
def settings : Toml.Record ComposerConfig where
  blank := standard
  fields := [
    .plain "server" ServerConfig.settings.codec (·.server) (fun v c => { c with server := v }),
    .plain "logging" LoggingConfig.settings.codec (·.logging) (fun v c => { c with logging := v }),
    .plain "displays" DisplayConfig.settings.listCodec (·.displays)
      (fun v c => { c with displays := v })]

/-- The configuration that a text holds. -/
def ofText? (s : String) : Option ComposerConfig := do
  let entries ← Toml.Document.read? s
  settings.decode (.table .headed entries)

/-- The text of a configuration. A number that no file can hold makes it fail. -/
def text? (c : ComposerConfig) : Option String :=
  (Toml.Document.text? (settings.entries c)).map String.ofList

/-! ## Checking -/

/-- Why the service does not run with a configuration. -/
inductive Objection where
  | repeatedDisplay (id : DisplayId)
  | noQueue
  deriving DecidableEq, Repr

def Objection.message : Objection → String
  | .repeatedDisplay id => "Display " ++ signedText id.toInt ++ " is configured more than once"
  | .noQueue => "server.queue_depth must be at least 1"

/-- The first of some displays that is one of those seen before it. -/
def repeated? (seen : List DisplayId) : List DisplayId → Option DisplayId
  | [] => none
  | d :: ds => if d ∈ seen then some d else repeated? (d :: seen) ds

/-- Why the service does not run, if it does not. Displays are looked at first. -/
def check (c : ComposerConfig) : Option Objection :=
  match repeated? [] (c.displays.map (·.id)) with
  | some id => some (.repeatedDisplay id)
  | none => if c.server.queueDepth = 0 then some .noQueue else none

end ComposerConfig

end DisplayComposer
