import DisplayComposer.Wire.Command
import DisplayComposer.Wire.Result
/-!
# DisplayComposer.Wire.Message

**Requests and replies.** Each message is a JSON object whose member `type`
names what it is.

* `Request`, `Request.codec` — what a client asks for;
* `Reply`, `Reply.codec` — what it is answered.
-/

namespace DisplayComposer

open Json

/-- What a client asks for. -/
inductive Request where
  /-- Carry out one frame's commands. -/
  | execute (commands : List DisplayCommand)
  /-- Create a layer with a number of cache slots for its buffers. -/
  | createLayer (display : DisplayId) (slots : UInt32)
  /-- Destroy a layer and release its buffers. -/
  | destroyLayer (display : DisplayId) (layer : LayerId)
  /-- Have the next present-or-validate of a display validate. -/
  | refresh (display : DisplayId)
  deriving DecidableEq

namespace Request

def executeRecord : Record (List DisplayCommand) where
  title := "struct variant ComposerRequest::ExecuteCommands"
  blank := []
  fields := [.required "commands" DisplayCommand.codec.list id (fun v _ => v)]

def createLayerRecord : Record (DisplayId × UInt32) where
  title := "struct variant ComposerRequest::CreateLayer"
  blank := (0, 0)
  fields := [
    .required "display" .int64 (·.1) (fun v r => (v, r.2)),
    .required "buffer_slot_count" .uint32 (·.2) (fun v r => (r.1, v))]

def destroyLayerRecord : Record (DisplayId × LayerId) where
  title := "struct variant ComposerRequest::DestroyLayer"
  blank := (0, 0)
  fields := [
    .required "display" .int64 (·.1) (fun v r => (v, r.2)),
    .required "layer" .int64 (·.2) (fun v r => (r.1, v))]

def refreshRecord : Record DisplayId where
  title := "struct variant ComposerRequest::Refresh"
  blank := 0
  fields := [.required "display" .int64 id (fun v _ => v)]

def cases : List (Case Request) := [
  .record "ExecuteCommands" executeRecord .execute fun
    | .execute commands => some commands
    | _ => none,
  .record "CreateLayer" createLayerRecord (fun r => .createLayer r.1 r.2) fun
    | .createLayer display slots => some (display, slots)
    | _ => none,
  .record "DestroyLayer" destroyLayerRecord (fun r => .destroyLayer r.1 r.2) fun
    | .destroyLayer display layer => some (display, layer)
    | _ => none,
  .record "Refresh" refreshRecord .refresh fun
    | .refresh display => some display
    | _ => none]

def codec : Codec Request := .tagged "internally tagged enum ComposerRequest" cases

/-- The request that a message holds. -/
def decode (body : Bytes) : Except DecodeError Request := codec.decodeBytes body

/-- The message of a request. -/
def encode (r : Request) : Bytes := codec.encodeBytes r

end Request

/-- What a client is answered. -/
inductive Reply where
  | commandResults (results : List CommandResult)
  | layerCreated (layer : LayerId)
  | ok
  | error (code : Int32) (message : String)
  deriving DecidableEq

namespace Reply

def resultsRecord : Record (List CommandResult) where
  title := "struct variant ComposerReply::CommandResults"
  blank := []
  fields := [.required "results" CommandResult.codec.list id (fun v _ => v)]

def layerCreatedRecord : Record LayerId where
  title := "struct variant ComposerReply::LayerCreated"
  blank := 0
  fields := [.required "layer" .int64 id (fun v _ => v)]

def errorRecord : Record (Int32 × String) where
  title := "struct variant ComposerReply::Error"
  blank := (0, "")
  fields := [
    .required "code" .int32 (·.1) (fun v r => (v, r.2)),
    .required "message" .string (·.2) (fun v r => (r.1, v))]

def cases : List (Case Reply) := [
  .record "CommandResults" resultsRecord .commandResults fun
    | .commandResults results => some results
    | _ => none,
  .record "LayerCreated" layerCreatedRecord .layerCreated fun
    | .layerCreated layer => some layer
    | _ => none,
  .constant "Ok" .ok (· matches .ok),
  .record "Error" errorRecord (fun r => .error r.1 r.2) fun
    | .error code message => some (code, message)
    | _ => none]

def codec : Codec Reply := .tagged "internally tagged enum ComposerReply" cases

/-- The reply that a message holds. -/
def decode (body : Bytes) : Except DecodeError Reply := codec.decodeBytes body

/-- The message of a reply. -/
def encode (r : Reply) : Bytes := codec.encodeBytes r

end Reply

end DisplayComposer
