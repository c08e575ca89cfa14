import DisplayComposer.Config.Basic
import DisplayComposer.Hardware.Headless
import DisplayComposer.Server.Connection
/-!
# DisplayComposer.Server.Basic

**The service.** It serves any number of clients, whose requests never interleave.
Clients from whom something has arrived stand in line; the one in front is served
up to its first request, and joins the line again if there is more to be read. What
clients send lies unread until one of them waits for a reply. So of what a client
sends just before it goes away, one message is answered in vain and the rest is lost.

* `Engine.ofConfigs` — the engine for some displays;
* `Server`, with `send`, `finish`, `fetch`, `disconnect`, `unlink` and `close`.
-/

namespace DisplayComposer

/-! ## Starting -/

/-- A cache that knows some displays, in their order. -/
def Cache.ofConfigs (displays : List DisplayConfig) : Except CacheError Cache :=
  displays.foldlM (fun c d => Cache.addDisplay d.id d.targetSlots d.isVirtual c) .empty

/-- The engine for some displays. -/
def Engine.ofConfigs (displays : List DisplayConfig) :
    Except CacheError (Engine Headless Cache) :=
  (Cache.ofConfigs displays).map (Engine.start (.ofConfigs displays))

/-- The greatest number of requests that the queue to the engine can be made for. -/
def greatestQueue : Nat := (1 <<< 61) - 1

/-! ## Serving -/

/-- Whose turn it is to be served. -/
inductive Turn where
  | client (client : Nat)
  /-- The connection of a client that went away. -/
  | departed (connection : Connection)

/-- Whether it is the turn of this client. -/
def Turn.isOf (client : Nat) : Turn → Bool
  | .client other => other = client
  | .departed _ => false

/-- The service. -/
structure Server (σ ρ : Type) where
  /-- The length of the longest message that is read. -/
  limit : Nat
  worker : Worker σ ρ
  connections : Table Nat Connection
  /-- The connections on which something has arrived, the one to be served next in
  front. -/
  line : List Turn
  /-- Whether its socket is still at its path. -/
  linked : Bool

namespace Server

variable {σ ρ : Type}

/-- A service without clients. -/
def start (limit : Nat) (engine : Engine σ ρ) : Server σ ρ :=
  ⟨limit, .running engine, .empty, [], true⟩

/-- The connection of a client. A client without one connects, if it finds the
socket. -/
def connection (client : Nat) (s : Server σ ρ) : Connection :=
  (s.connections.get? client).getD (if s.linked then .fresh else .refused)

/-- Put a connection in place. -/
def put (client : Nat) (c : Connection) (s : Server σ ρ) : Server σ ρ :=
  { s with connections := s.connections.insert client c }

/-! ### Clients -/

/-- Something has arrived on the connection of a client, which joins the line. -/
def arrive (client : Nat) (c : Connection) (s : Server σ ρ) : Server σ ρ :=
  let line := if s.line.any (·.isOf client) then s.line else s.line ++ [.client client]
  { s with line }.put client c

/-- A client sends bytes. -/
def send (client : Nat) (bytes : Bytes) (s : Server σ ρ) : Server σ ρ :=
  s.arrive client ((s.connection client).send bytes)

/-- A client ends its side. -/
def finish (client : Nat) (s : Server σ ρ) : Server σ ρ :=
  s.arrive client (s.connection client).finish

/-- A client goes away. Its connection keeps its place in the line. -/
def disconnect (client : Nat) (s : Server σ ρ) : Server σ ρ :=
  let depart (t : Turn) : Turn := if t.isOf client then .departed (s.connection client) else t
  { s with connections := s.connections.erase client, line := s.line.map depart }

/-- The socket is taken away. Whoever is connected stays so. -/
def unlink (s : Server σ ρ) : Server σ ρ := { s with linked := false }

/-! ### Turns -/

/-- The one in front of the line is served. -/
def step [Hardware σ] [Resources ρ] (s : Server σ ρ) : Server σ ρ :=
  match s.line with
  | [] => s
  | .departed c :: line => { s with worker := c.serveDeparted s.limit s.worker, line }
  | .client client :: line =>
    let (c, worker) := (s.connection client).serveTurn s.limit s.worker
    let line := if (c.arrival? s.limit).isSome then line ++ [.client client] else line
    { s with worker, line }.put client c

/-- A bound on the turns that can be taken: each takes somebody out of the line for
good or at least a byte from what is unread. -/
def turns (s : Server σ ρ) : Nat :=
  s.line.length + s.connections.values.foldr (fun c n => c.unread.length + n) 0

/-- Serve until there is a reply for a client or its connection has ended, in up to
`fuel` turns. -/
def serveFor [Hardware σ] [Resources ρ] (client : Nat) : (fuel : Nat) → Server σ ρ → Server σ ρ
  | 0, s => s
  | fuel + 1, s =>
    let c := s.connection client
    if c.closed || !c.replies.isEmpty || s.line.isEmpty then s else serveFor client fuel s.step

/-- A client waits for a reply and takes it, if there is to be one. -/
def fetch [Hardware σ] [Resources ρ] (client : Nat) (s : Server σ ρ) :
    Option Reply × Server σ ρ :=
  let s := s.serveFor client s.turns
  let (reply, c) := (s.connection client).fetch
  (reply, s.put client c)

/-- Serve whoever stands in line, in up to `fuel` turns. -/
def serveLine [Hardware σ] [Resources ρ] : (fuel : Nat) → Server σ ρ → Server σ ρ
  | 0, s => s
  | fuel + 1, s => if s.line.isEmpty then s else serveLine fuel s.step

/-- The service ends when all clients have gone and everybody in line had a turn. -/
def close [Hardware σ] [Resources ρ] (s : Server σ ρ) : Server σ ρ :=
  let s := s.connections.keys.foldl (fun s client => s.disconnect client) s
  s.serveLine s.turns

end Server

end DisplayComposer
