import DisplayComposer.Server.Connection
/-!
# DisplayComposer.Server.Traffic

**Clients side by side.** The connections of different clients and the worker run
independently. What they share is a queue of bounded length. A connection reads a
message, puts it into the queue as soon as there is room if it is a request, waits
for the reply on a channel of its own, writes it, and only then goes on to the
next message; the worker takes requests from the front of the queue. A client may
go away at any time, and a connection may end at any time. Its request, if there
is one in the queue, is handled all the same, and the reply is lost.

`Traffic.Step` says what can happen next. Nothing says which of several possible
steps is taken, so what holds of all reachable states holds of all orders in which
clients may be served.

* `Client`, `Job`, `Traffic` — the state;
* `Traffic.Step`, `Traffic.Reachable` — its steps.
-/

namespace DisplayComposer

/-- Where a connection is. -/
inductive Phase where
  /-- It is about to read a message. -/
  | reading
  /-- It has a request for the queue. -/
  | offering (request : Request)
  /-- It waits for the reply on this channel. -/
  | waiting (channel : Nat)
  /-- It has a reply for its client. -/
  | replying (reply : Reply)
  | closed

/-- Where a connection is once it has read a message. -/
def Phase.behind (body : Bytes) : Phase :=
  match Request.decode body with
  | .error e => .replying (Worker.refusal e)
  | .ok request => .offering request

/-- A client and its connection. -/
structure Client where
  /-- The messages that its connection has still to read. -/
  unread : List Bytes
  phase : Phase
  /-- The replies that it has received, the first one first. -/
  replies : List Reply
  /-- Whether it went away. -/
  gone : Bool

/-- A client with some messages that has not been served yet. -/
def Client.fresh (messages : List Bytes) : Client := ⟨messages, .reading, [], false⟩

/-- A request on its way to the engine. -/
structure Job where
  /-- Whose request it is. The worker does not look at this. -/
  client : Nat
  request : Request
  /-- Where the reply goes. -/
  channel : Nat

/-- The service under the requests of its clients. -/
structure Traffic (σ ρ : Type) where
  engine : Engine σ ρ
  /-- The jobs that wait for the worker, the next one first. -/
  queue : List Job
  /-- The job that the worker has taken. -/
  running : Option Job
  client : Nat → Client
  /-- The replies that have been sent and not been taken yet. -/
  channel : Nat → Option Reply
  /-- The channel for the next job. -/
  nextChannel : Nat
  /-- The jobs that have been handled and what they were answered, the first one first. -/
  handled : List (Job × Reply)

namespace Traffic

variable {σ ρ : Type} [Hardware σ] [Resources ρ]

/-- Before any message is read. -/
def start (engine : Engine σ ρ) (messages : Nat → List Bytes) : Traffic σ ρ where
  engine
  queue := []
  running := none
  client i := .fresh (messages i)
  channel _ := none
  nextChannel := 0
  handled := []

/-- With another state of one client. -/
def setClient (i : Nat) (c : Client) (t : Traffic σ ρ) : Traffic σ ρ :=
  { t with client := fun j => if j = i then c else t.client j }

/-- With something else in one channel. -/
def setChannel (n : Nat) (reply : Option Reply) (t : Traffic σ ρ) : Traffic σ ρ :=
  { t with channel := fun m => if m = n then reply else t.channel m }

/-- The number of jobs that can wait. There is always room for one. -/
def capacity (queueDepth : Nat) : Nat := max queueDepth 1

/-- A client's request goes to the end of the queue, and its connection waits for the
reply on a new channel. -/
def enqueue (i : Nat) (request : Request) (t : Traffic σ ρ) : Traffic σ ρ :=
  setClient i { t.client i with phase := .waiting t.nextChannel }
    { t with
      queue := t.queue ++ [⟨i, request, t.nextChannel⟩]
      nextChannel := t.nextChannel + 1 }

/-- The worker is done with its job, which leaves `engine` behind, and sends the reply. -/
def dispatch (job : Job) (reply : Reply) (engine : Engine σ ρ) (t : Traffic σ ρ) : Traffic σ ρ :=
  setChannel job.channel (some reply)
    { t with engine, running := none, handled := t.handled ++ [(job, reply)] }

/-- What can happen next. -/
inductive Step (depth : Nat) : Traffic σ ρ → Traffic σ ρ → Prop where
  /-- A connection reads the next message of its client. -/
  | read (i : Nat) (body : Bytes) (rest : List Bytes) {t : Traffic σ ρ}
      (idle : (t.client i).phase = .reading) (next : (t.client i).unread = body :: rest) :
      Step depth t (t.setClient i { t.client i with unread := rest, phase := .behind body })
  /-- A connection puts a request into the queue. -/
  | put (i : Nat) (request : Request) {t : Traffic σ ρ}
      (offers : (t.client i).phase = .offering request) (room : t.queue.length < capacity depth) :
      Step depth t (t.enqueue i request)
  /-- The worker takes a job. -/
  | take (job : Job) (rest : List Job) {t : Traffic σ ρ}
      (free : t.running = none) (first : t.queue = job :: rest) :
      Step depth t { t with queue := rest, running := some job }
  /-- The worker has handled its job and sends the reply. -/
  | work (job : Job) (reply : Reply) (engine : Engine σ ρ) {t : Traffic σ ρ}
      (busy : t.running = some job)
      (answered : t.engine.handle job.request = .ok (reply, engine)) :
      Step depth t (t.dispatch job reply engine)
  /-- A connection takes the reply that it waits for. -/
  | receive (i n : Nat) (reply : Reply) {t : Traffic σ ρ}
      (waits : (t.client i).phase = .waiting n) (sent : t.channel n = some reply) :
      Step depth t (setChannel n none
        (t.setClient i { t.client i with phase := .replying reply }))
  /-- A connection writes a reply, and its client receives it. -/
  | write (i : Nat) (reply : Reply) {t : Traffic σ ρ}
      (holds : (t.client i).phase = .replying reply) (there : (t.client i).gone = false) :
      Step depth t (t.setClient i
        { t.client i with phase := .reading, replies := (t.client i).replies ++ [reply] })
  /-- A connection ends: there is nothing left to be read, a message cannot be read or a
  reply not be written, or the service lets go of it. -/
  | close (i : Nat) {t : Traffic σ ρ} :
      Step depth t (t.setClient i { t.client i with phase := .closed })
  /-- A client goes away. -/
  | leave (i : Nat) {t : Traffic σ ρ} :
      Step depth t (t.setClient i { t.client i with gone := true })

/-- The states that can come about. -/
inductive Reachable (depth : Nat) (engine : Engine σ ρ) (messages : Nat → List Bytes) :
    Traffic σ ρ → Prop where
  | start : Reachable depth engine messages (Traffic.start engine messages)
  | step {s t : Traffic σ ρ} :
      Reachable depth engine messages s → Step depth s t → Reachable depth engine messages t

end Traffic

end DisplayComposer
