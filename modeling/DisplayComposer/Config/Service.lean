import DisplayComposer.Json.Record
import DisplayComposer.Toml.Record
/-!
# DisplayComposer.Config.Service

**The configuration of the service itself**, apart from the displays: how clients
reach it, and what it logs.
-/

namespace DisplayComposer

/-- How clients reach the service. -/
structure ServerConfig where
  /-- The socket to listen on, if it is not the usual one. -/
  socketPath : Option String
  /-- The length of the longest request that is read. -/
  messageLimit : UInt64
  /-- The number of requests that can wait for the engine. -/
  queueDepth : UInt64
  deriving DecidableEq

namespace ServerConfig

/-- Requests of up to four mebibytes, of which 64 can wait. -/
def standard : ServerConfig where
  socketPath := none
  messageLimit := 4 * 1024 * 1024
  queueDepth := 64

/-- The configuration in JSON. -/
def record : Json.Record ServerConfig where
  title := "struct ServerConfig"
  blank := standard
  fields := [
    .defaulted "socket_path" Json.Codec.string.nullable (·.socketPath)
      (fun v c => { c with socketPath := v }),
    .defaulted "max_message_bytes" .size (·.messageLimit) (fun v c => { c with messageLimit := v }),
    .defaulted "queue_depth" .size (·.queueDepth) (fun v c => { c with queueDepth := v })]

/-- The configuration in a file. -/
def settings : Toml.Record ServerConfig where
  blank := standard
  fields := [
    .optional "socket_path" .string (·.socketPath) (fun v c => { c with socketPath := v }),
    .plain "max_message_bytes" .uint64 (·.messageLimit) (fun v c => { c with messageLimit := v }),
    .plain "queue_depth" .uint64 (·.queueDepth) (fun v c => { c with queueDepth := v })]

end ServerConfig

/-- What is logged. -/
structure LoggingConfig where
  /-- Levels, by part of the service. -/
  filter : String
  deriving DecidableEq

namespace LoggingConfig

def standard : LoggingConfig where
  filter := "area_composer=debug,info"

/-- The configuration in JSON. -/
def record : Json.Record LoggingConfig where
  title := "struct LoggingConfig"
  blank := standard
  fields := [.defaulted "filter" .string (·.filter) (fun v _ => ⟨v⟩)]

/-- The configuration in a file. -/
def settings : Toml.Record LoggingConfig where
  blank := standard
  fields := [.plain "filter" .string (·.filter) (fun v _ => ⟨v⟩)]

end LoggingConfig

end DisplayComposer
