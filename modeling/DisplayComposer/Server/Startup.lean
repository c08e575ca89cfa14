import DisplayComposer.Config.File
import DisplayComposer.Server.Basic
import DisplayComposer.Server.Socket
/-!
# DisplayComposer.Server.Startup

**Starting the service.** It loads its configuration, makes the displays known,
makes its socket, and makes the queue to the engine; whichever of these fails
first is why it does not start.
-/

namespace DisplayComposer

/-- Why the service does not start. -/
inductive StartError where
  | config (cause : ComposerConfig.LoadError)
  | display (cause : CacheError)
  | socket (cause : ListenError)
  /-- No queue can be as long as the configuration asks for. -/
  | queue
  deriving DecidableEq

namespace StartError

def message : StartError → String
  | .config .unreadable => "Failed to read config file"
  | .config .malformed => "Failed to parse config file"
  | .config (.refused objection) => objection.message
  | .display cause => cause.message
  | .socket cause => cause.message
  | .queue => "The queue is too long"

/-- What the program exits with. An impossible queue is a crash. -/
def status : StartError → Nat
  | .queue => 101
  | _ => 1

end StartError

/-- Start the service with a configuration, at a socket and what stands there. -/
def ComposerConfig.start (c : ComposerConfig) (socket : String) (place : Place) :
    Except StartError (Server Headless Cache) :=
  match Engine.ofConfigs c.displays, listen socket place with
  | .error e, _ => .error (.display e)
  | .ok _, .error e => .error (.socket e)
  | .ok engine, .ok () =>
    if greatestQueue < c.server.queueDepth.toNat then .error .queue
    else .ok (.start c.server.messageLimit.toNat engine)

end DisplayComposer
