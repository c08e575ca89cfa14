import DisplayComposer.Engine.Basic
import DisplayComposer.Wire.Frame
/-!
# DisplayComposer.Server.Connection

**A client's connection.** A client sends frames and gets one reply for each, in
order. All connections share one worker, which runs the engine; a request that
crashes the engine stops the worker for good, and from then on a request closes
the connection that it came on.

* `Worker`, `Worker.receive` — the reply to a message;
* `Connection`, with `send`, `finish` and `fetch` — what a client can do;
* `Connection.serve` — answering whatever has arrived;
* `Connection.serveTurn`, `Connection.serveDeparted` — answering in turns with
  others, and after the client went away.
-/

namespace DisplayComposer

variable {σ ρ : Type} [Hardware σ] [Resources ρ]

/-! ## The worker -/

/-- What runs the engine. -/
inductive Worker (σ ρ : Type) where
  | running (engine : Engine σ ρ)
  /-- The engine crashed. -/
  | stopped

namespace Worker

/-- Have a request handled. A stopped worker replies to none. -/
def handle (request : Request) : Worker σ ρ → Option Reply × Worker σ ρ
  | .stopped => (none, .stopped)
  | .running engine =>
    match engine.handle request with
    | .ok (reply, engine) => (some reply, .running engine)
    | .error _ => (none, .stopped)

/-- The reply to a message that is no request. -/
def refusal (e : Json.DecodeError) : Reply := .error HardwareError.badParameter.code e.message

/-- The reply to a message. One that is no request does not reach the engine. -/
def receive (body : Bytes) (w : Worker σ ρ) : Option Reply × Worker σ ρ :=
  match Request.decode body with
  | .error e => (some (refusal e), w)
  | .ok request => w.handle request

end Worker

/-! ## The connection -/

/-- A connection. -/
structure Connection where
  /-- What has arrived and was not read yet. -/
  unread : Bytes
  /-- Whether the client has ended its side. -/
  ended : Bool
  /-- Whether the service has closed its side. -/
  closed : Bool
  /-- The replies that the client has not fetched yet. -/
  replies : List Reply

namespace Connection

def fresh : Connection := ⟨[], false, false, []⟩

/-- What a client has that cannot connect. -/
def refused : Connection := { fresh with closed := true }

/-- Bytes from the client. A closed connection takes none. -/
def send (bytes : Bytes) (c : Connection) : Connection :=
  if c.closed then c else { c with unread := c.unread ++ bytes }

/-- The client sends no more. -/
def finish (c : Connection) : Connection := { c with ended := true }

/-- The next reply for the client, if there is one. -/
def fetch (c : Connection) : Option Reply × Connection :=
  match c.replies with
  | [] => (none, c)
  | reply :: replies => (some reply, { c with replies })

/-- What the service finds on a connection. -/
inductive Arrival where
  | message (body rest : Bytes)
  /-- Something that ends the connection. -/
  | breakOff

/-- What is there to be read, if enough has arrived. A message that is too long
ends the connection, and one that is cut short does when the client has ended its
side. -/
def arrival? (limit : Nat) (c : Connection) : Option Arrival :=
  if c.closed then none
  else
    match Frame.read limit [c.unread] with
    | .ok (some (body, rest)) => some (.message body rest.flatten)
    | .error (.tooLong _ _) => some .breakOff
    | .ok none | .error (.header _) | .error .body => if c.ended then some .breakOff else none

/-- Whether a request is there to be read. -/
def hasRequest (limit : Nat) (c : Connection) : Bool :=
  match c.arrival? limit with
  | some (.message body _) => (Request.decode body).isOk
  | _ => false

/-- Read and answer one message, or close the connection, if enough has arrived. -/
def serveOne? (limit : Nat) (c : Connection) (w : Worker σ ρ) : Option (Connection × Worker σ ρ) :=
  match c.arrival? limit with
  | none => none
  | some .breakOff => some ({ c with closed := true }, w)
  | some (.message body rest) =>
    match w.receive body with
    | (some reply, w) => some ({ c with unread := rest, replies := c.replies ++ [reply] }, w)
    | (none, w) => some ({ c with unread := rest, closed := true }, w)

/-- Answer up to `fuel` messages. -/
def serveUpTo (limit : Nat) :
    (fuel : Nat) → Connection → Worker σ ρ → Connection × Worker σ ρ
  | 0, c, w => (c, w)
  | fuel + 1, c, w =>
    match serveOne? limit c w with
    | none => (c, w)
    | some (c, w) => serveUpTo limit fuel c w

/-- Answer whatever has arrived. Every message takes a byte at least. -/
def serve (limit : Nat) (c : Connection) (w : Worker σ ρ) : Connection × Worker σ ρ :=
  serveUpTo limit (c.unread.length + 1) c w

/-- Answer up to `fuel` messages, but none behind a request. -/
def serveTurnUpTo (limit : Nat) :
    (fuel : Nat) → Connection → Worker σ ρ → Connection × Worker σ ρ
  | 0, c, w => (c, w)
  | fuel + 1, c, w =>
    match serveOne? limit c w with
    | none => (c, w)
    | some (next, w) =>
      if c.hasRequest limit then (next, w) else serveTurnUpTo limit fuel next w

/-- A turn of a connection among others: with its first request it gives way to
them. Messages that are no requests do not reach the engine and take no turns. -/
def serveTurn (limit : Nat) (c : Connection) (w : Worker σ ρ) : Connection × Worker σ ρ :=
  serveTurnUpTo limit (c.unread.length + 1) c w

/-- The turn of a connection whose client went away. The reply to the first message
does not reach anybody, which ends the connection. -/
def serveDeparted (limit : Nat) (c : Connection) (w : Worker σ ρ) : Worker σ ρ :=
  match serveOne? limit c w with
  | none => w
  | some (_, w) => w

end Connection

end DisplayComposer
