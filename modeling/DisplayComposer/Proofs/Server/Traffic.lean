import DisplayComposer.Proofs.Server.Answers
import DisplayComposer.Server.Basic
import DisplayComposer.Server.Traffic
/-!
# DisplayComposer.Proofs.Server.Traffic

**No request is lost, handled twice or answered to somebody else**, in whatever order the
connections and the worker take their steps. The engine is where the jobs handled so far
have left it. What concerns one client is little: the jobs of it that were handled or are
still on their way, and what lies in the channel it waits on. A step changes this for one
client at most, and for that client it is as far as its messages have been read.

* `Traffic.View`, `Traffic.view` — what concerns one client;
* `View.Follows` — how far a client has got, by where its connection is;
* `Traffic.Sound`, `sound_step` — the invariant and that all steps keep it;
* `Traffic.serialised` — what holds in every reachable state.
-/

namespace DisplayComposer

variable {σ ρ : Type}

namespace Traffic

/-- The requests of some jobs that were handled. -/
def asked (handled : List (Job × Reply)) : List Request := handled.map fun h => h.1.request

/-- The replies to them. -/
def given (handled : List (Job × Reply)) : List Reply := handled.map Prod.snd

@[simp] theorem asked_concat (handled : List (Job × Reply)) (job : Job) (reply : Reply) :
    asked (handled ++ [(job, reply)]) = asked handled ++ [job.request] := List.map_append

@[simp] theorem given_concat (handled : List (Job × Reply)) (job : Job) (reply : Reply) :
    given (handled ++ [(job, reply)]) = given handled ++ [reply] := List.map_append

/-- All jobs that have not been handled yet. -/
def jobs (t : Traffic σ ρ) : List Job := t.running.toList ++ t.queue

/-- The jobs of one client that have been handled, with the replies. -/
def handledFor (i : Nat) (t : Traffic σ ρ) : List (Job × Reply) :=
  t.handled.filter fun h => h.1.client = i

/-- The jobs of one client that are queued or running. -/
def jobsOf (i : Nat) (t : Traffic σ ρ) : List Job := t.jobs.filter (·.client = i)

/-! ### What concerns one client -/

/-- A client, its connection and its jobs. -/
structure View where
  unread : List Bytes
  phase : Phase
  replies : List Reply
  handled : List (Job × Reply)
  outstanding : List Job
  /-- What lies in the channel that the connection waits on. -/
  inbox : Option Reply

/-- What lies in the channel that a connection waits on. -/
def inbox (t : Traffic σ ρ) : Phase → Option Reply
  | .waiting n => t.channel n
  | .reading | .offering _ | .replying _ | .closed => none

def view (i : Nat) (t : Traffic σ ρ) : View where
  unread := (t.client i).unread
  phase := (t.client i).phase
  replies := (t.client i).replies
  handled := t.handledFor i
  outstanding := t.jobsOf i
  inbox := t.inbox (t.client i).phase

/-- How far a client with some messages has got. The messages that have been read, `read`,
are answered but for the last one, where its answer is still on its way. -/
inductive View.Follows (messages : List Bytes) : View → Prop where
  /-- All messages that were read have been answered. -/
  | reading {read unread replies handled} (split : messages = read ++ unread)
      (done : asked handled = requests read) (told : answers read (given handled) = replies) :
      Follows messages ⟨unread, .reading, replies, handled, [], none⟩
  /-- The message behind them is a request, which is not in the queue yet. -/
  | offering {read body request unread replies handled} (split : messages = read ++ body :: unread)
      (asks : Request.decode body = .ok request)
      (done : asked handled = requests read) (told : answers read (given handled) = replies) :
      Follows messages ⟨unread, .offering request, replies, handled, [], none⟩
  /-- Its job is queued or running. -/
  | queued {read body job unread replies handled} (split : messages = read ++ body :: unread)
      (asks : Request.decode body = .ok job.request)
      (done : asked handled = requests read) (told : answers read (given handled) = replies) :
      Follows messages ⟨unread, .waiting job.channel, replies, handled, [job], none⟩
  /-- Its job was handled, and the reply has been sent. -/
  | sent {read unread n reply replies handled} (split : messages = read ++ unread)
      (done : asked handled = requests read)
      (told : answers read (given handled) = replies ++ [reply]) :
      Follows messages ⟨unread, .waiting n, replies, handled, [], some reply⟩
  /-- The reply is about to be written. -/
  | replying {read unread reply replies handled} (split : messages = read ++ unread)
      (done : asked handled = requests read)
      (told : answers read (given handled) = replies ++ [reply]) :
      Follows messages ⟨unread, .replying reply, replies, handled, [], none⟩
  /-- Nothing more is read or answered. A job may still be on its way. -/
  | closed {unread replies handled outstanding}
      (done : asked handled ++ outstanding.map Job.request <+: requests messages)
      (told : replies <+: answers messages (given handled)) (one : outstanding.length ≤ 1) :
      Follows messages ⟨unread, .closed, replies, handled, outstanding, none⟩

namespace View.Follows

variable {messages unread : List Bytes} {phase : Phase} {replies : List Reply} {reply : Reply}
  {handled : List (Job × Reply)} {outstanding : List Job} {filled : Option Reply}

theorem length_given (handled : List (Job × Reply)) :
    (given handled).length = (asked handled).length := by
  rw [given, asked, List.length_map, List.length_map]

/-- All replies are there for the messages that have been read. -/
theorem enough {read : List Bytes} (done : asked handled = requests read) :
    (given handled).length = (requests read).length := by rw [length_given, done]

/-- Jobs are first requests, and replies are first answers, if they are so for the messages
that have been read. -/
theorem initial_of_read {read rest : List Bytes} (split : messages = read ++ rest)
    (done : asked handled = requests read) (told : replies <+: answers read (given handled))
    (next : outstanding.map Job.request <+: requests rest) :
    asked handled ++ outstanding.map Job.request <+: requests messages ∧
      replies <+: answers messages (given handled) := by
  have whole : answers (read ++ rest) (given handled ++ []) =
      answers read (given handled) ++ answers rest [] := answers_append (enough done)
  rw [List.append_nil] at whole
  rw [split, requests_append, done, whole]
  exact ⟨(List.prefix_append_right_inj _).2 next, told.trans (List.prefix_append _ _)⟩

/-- Wherever a client is, the jobs of it are its first requests, and its replies are the
first answers to its messages. -/
theorem initial {v : View} (h : Follows messages v) :
    asked v.handled ++ v.outstanding.map Job.request <+: requests messages ∧
      v.replies <+: answers messages (given v.handled) := by
  cases h with
  | reading split done told =>
    exact initial_of_read split done (told ▸ List.prefix_rfl) List.nil_prefix
  | offering split asks done told =>
    exact initial_of_read split done (told ▸ List.prefix_rfl) List.nil_prefix
  | queued split asks done told =>
    refine initial_of_read split done (told ▸ List.prefix_rfl) ?_
    rw [requests_cons_of_ok asks]
    exact List.prefix_append [_] _
  | sent split done told =>
    exact initial_of_read split done (told ▸ List.prefix_append _ _) List.nil_prefix
  | replying split done told =>
    exact initial_of_read split done (told ▸ List.prefix_append _ _) List.nil_prefix
  | closed done told _ => exact ⟨done, told⟩

/-- There is one job on its way at most. -/
theorem length_outstanding {v : View} (h : Follows messages v) : v.outstanding.length ≤ 1 := by
  cases h with
  | closed _ _ one => exact one
  | _ => simp

/-- The next message is read. -/
theorem read {body : Bytes}
    (h : Follows messages ⟨body :: unread, .reading, replies, handled, outstanding, filled⟩) :
    Follows messages ⟨unread, .behind body, replies, handled, outstanding, filled⟩ := by
  cases h with
  | @reading read _ _ _ split done told =>
    rw [Phase.behind]
    cases asks : Request.decode body with
    | error e =>
      have further : messages = (read ++ [body]) ++ unread := by rw [split, List.append_cons]
      refine .replying further ?_ ?_
      · rw [requests_append, requests_cons_of_error asks, done]
        exact (List.append_nil _).symm
      · rw [← List.append_nil (given handled), answers_append (enough done),
          answers_cons_of_error asks, told, answers]
    | ok request => exact .offering split asks done told

/-- The request behind it is put into the queue. -/
theorem put {request : Request} (i n : Nat)
    (h : Follows messages ⟨unread, .offering request, replies, handled, outstanding, filled⟩) :
    Follows messages
      ⟨unread, .waiting n, replies, handled, outstanding ++ [⟨i, request, n⟩], none⟩ := by
  cases h with
  | @offering read body _ _ _ _ split asks done told =>
    let job : Job := ⟨i, request, n⟩
    have asks : Request.decode body = .ok job.request := asks
    exact .queued split asks done told

/-- The job is handled. The reply is in the channel that the connection waits on. -/
theorem work {job : Job} {filled' : Option Reply}
    (h : Follows messages ⟨unread, phase, replies, handled, job :: outstanding, filled⟩)
    (waits : phase = .waiting job.channel → filled' = some reply)
    (ended : phase = .closed → filled' = none) :
    Follows messages ⟨unread, phase, replies, handled ++ [(job, reply)], outstanding, filled'⟩ := by
  cases h with
  | @queued read body job unread replies handled split asks done told =>
    rw [waits rfl]
    have further : messages = (read ++ [body]) ++ unread := by rw [split, List.append_cons]
    refine .sent further ?_ ?_
    · rw [asked_concat, requests_append, requests_cons_of_ok asks, done]
      rfl
    · rw [given_concat, answers_append (enough done), answers_cons_of_ok asks, told, answers]
  | closed done told one =>
    rw [ended rfl]
    refine .closed ?_ ?_ (Nat.le_of_succ_le one)
    · rwa [asked_concat, List.append_assoc]
    · rw [given_concat]
      exact told.trans (answers_grow _ _ _)

theorem receive {n : Nat}
    (h : Follows messages ⟨unread, .waiting n, replies, handled, outstanding, some reply⟩) :
    Follows messages ⟨unread, .replying reply, replies, handled, outstanding, none⟩ := by
  cases h with
  | sent split done told => exact .replying split done told

theorem write
    (h : Follows messages ⟨unread, .replying reply, replies, handled, outstanding, filled⟩) :
    Follows messages ⟨unread, .reading, replies ++ [reply], handled, outstanding, filled⟩ := by
  cases h with
  | replying split done told => exact .reading split done told

theorem close (h : Follows messages ⟨unread, phase, replies, handled, outstanding, filled⟩) :
    Follows messages ⟨unread, .closed, replies, handled, outstanding, none⟩ :=
  .closed h.initial.1 h.initial.2 h.length_outstanding

end View.Follows

/-! ### What one step changes -/

section Views

variable {t : Traffic σ ρ} {i j n : Nat} {c : Client} {reply : Option Reply}

@[simp] theorem client_setClient_self : (t.setClient i c).client i = c := if_pos rfl

theorem client_setClient_of_ne (other : j ≠ i) : (t.setClient i c).client j = t.client j := if_neg other

theorem view_setClient_of_ne (other : j ≠ i) : (t.setClient i c).view j = t.view j := by
  rw [view, view, client_setClient_of_ne other]
  rfl

theorem view_setClient_self :
    (t.setClient i c).view i =
      ⟨c.unread, c.phase, c.replies, t.handledFor i, t.jobsOf i, t.inbox c.phase⟩ := by
  rw [view, client_setClient_self]
  rfl

theorem inbox_behind (body : Bytes) : t.inbox (.behind body) = none := by
  rw [Phase.behind]
  split <;> rfl

theorem inbox_setChannel {phase : Phase} (other : phase ≠ .waiting n) :
    (t.setChannel n reply).inbox phase = t.inbox phase := by
  cases phase with
  | waiting m => exact if_neg fun same => other (congrArg Phase.waiting same)
  | _ => rfl

/-- Who does not wait on a channel does not notice what lies in it. -/
theorem view_setChannel (other : (t.client i).phase ≠ .waiting n) :
    (t.setChannel n reply).view i = t.view i := by
  rw [view, view]
  exact congrArg _ (inbox_setChannel other)

variable {request : Request}

theorem jobs_enqueue : (t.enqueue i request).jobs = t.jobs ++ [⟨i, request, t.nextChannel⟩] :=
  (List.append_assoc _ _ _).symm

theorem client_enqueue_self :
    (t.enqueue i request).client i = { t.client i with phase := .waiting t.nextChannel } := if_pos rfl

theorem client_enqueue_of_ne (other : j ≠ i) : (t.enqueue i request).client j = t.client j :=
  if_neg other

theorem view_enqueue_self :
    (t.enqueue i request).view i = ⟨(t.client i).unread, .waiting t.nextChannel,
      (t.client i).replies, t.handledFor i, t.jobsOf i ++ [⟨i, request, t.nextChannel⟩],
      t.channel t.nextChannel⟩ := by
  have mine : (t.enqueue i request).jobsOf i = t.jobsOf i ++ [⟨i, request, t.nextChannel⟩] := by
    simp [jobsOf, jobs_enqueue, List.filter_append]
  rw [view, client_enqueue_self, mine]
  rfl

theorem view_enqueue_of_ne (other : j ≠ i) : (t.enqueue i request).view j = t.view j := by
  have theirs : (t.enqueue i request).jobsOf j = t.jobsOf j := by
    simp [jobsOf, jobs_enqueue, List.filter_append, other.symm]
  rw [view, client_enqueue_of_ne other, theirs]
  rfl

/-- Who waits on a channel behind a request that was put into the queue. -/
theorem waiting_enqueue (h : ((t.enqueue i request).client j).phase = .waiting n) :
    j = i ∧ n = t.nextChannel ∨ (t.client j).phase = .waiting n := by
  by_cases same : j = i
  · subst same
    rw [client_enqueue_self] at h
    exact .inl ⟨rfl, (Phase.waiting.inj h).symm⟩
  · rw [client_enqueue_of_ne same] at h
    exact .inr h

variable {job : Job} {answer : Reply} {engine : Engine σ ρ}

theorem jobs_dispatch (busy : t.running = some job) :
    t.jobs = job :: (t.dispatch job answer engine).jobs := by
  rw [jobs, busy]
  rfl

theorem view_dispatch_self (answer : Reply) (engine : Engine σ ρ) (busy : t.running = some job) :
    ∃ outstanding, t.jobsOf job.client = job :: outstanding ∧
      (t.dispatch job answer engine).view job.client = ⟨(t.client job.client).unread,
        (t.client job.client).phase, (t.client job.client).replies,
        t.handledFor job.client ++ [(job, answer)], outstanding,
        (t.dispatch job answer engine).inbox (t.client job.client).phase⟩ := by
  refine ⟨(t.dispatch job answer engine).jobsOf job.client, ?_, ?_⟩
  · rw [jobsOf, jobs_dispatch busy]
    exact List.filter_cons_of_pos (decide_eq_true rfl)
  · have mine : (t.dispatch job answer engine).handledFor job.client =
        t.handledFor job.client ++ [(job, answer)] := by
      simp [handledFor, dispatch, setChannel, List.filter_append]
    rw [view, mine]
    rfl

theorem view_dispatch_of_ne (busy : t.running = some job) (other : i ≠ job.client)
    (elsewhere : (t.client i).phase ≠ .waiting job.channel) :
    (t.dispatch job answer engine).view i = t.view i := by
  have handled : (t.dispatch job answer engine).handledFor i = t.handledFor i := by
    simp [handledFor, dispatch, setChannel, List.filter_append, other.symm]
  have theirs : t.jobsOf i = (t.dispatch job answer engine).jobsOf i := by
    rw [jobsOf, jobs_dispatch busy]
    exact List.filter_cons_of_neg fun same => other (of_decide_eq_true same).symm
  have unheard : (t.dispatch job answer engine).inbox (t.client i).phase = t.inbox (t.client i).phase :=
    inbox_setChannel elsewhere
  rw [view, view, handled, theirs, ← unheard]
  rfl

end Views

/-! ### The invariant -/

variable [Hardware σ] [Resources ρ] {depth : Nat} {e : Engine σ ρ} {messages : Nat → List Bytes}
  {s t : Traffic σ ρ}

/-- What holds of the service at any time, if its engine was `e` at first. -/
structure Sound (depth : Nat) (e : Engine σ ρ) (messages : Nat → List Bytes) (t : Traffic σ ρ) :
    Prop where
  engine : e.handleAll (asked t.handled) = .ok (given t.handled, t.engine)
  room : t.queue.length ≤ capacity depth
  follows : ∀ i, (t.view i).Follows (messages i)
  /-- Nobody waits on the channel of another client's job. -/
  owned : ∀ job ∈ t.jobs, ∀ i, (t.client i).phase = .waiting job.channel → i = job.client
  /-- No two connections wait on one channel. -/
  apart : ∀ i j n, (t.client i).phase = .waiting n → (t.client j).phase = .waiting n → i = j
  /-- Channels are made in their order. -/
  made : (∀ job ∈ t.jobs, job.channel < t.nextChannel) ∧
    ∀ i n, (t.client i).phase = .waiting n → n < t.nextChannel
  unused : ∀ n, t.nextChannel ≤ n → t.channel n = none

theorem sound_start : Sound depth e messages (Traffic.start e messages) where
  engine := rfl
  room := Nat.zero_le _
  follows _ := .reading (List.nil_append (messages _)).symm rfl rfl
  owned := nofun
  apart := nofun
  made := ⟨nofun, nofun⟩
  unused _ _ := rfl

namespace Sound

/-- A step of one connection that does not make it wait. -/
theorem setClient {i : Nat} {c : Client} (h : Sound depth e messages t)
    (quiet : ∀ n, c.phase = .waiting n → (t.client i).phase = .waiting n)
    (follows : ((t.setClient i c).view i).Follows (messages i)) :
    Sound depth e messages (t.setClient i c) := by
  have still : ∀ j n, ((t.setClient i c).client j).phase = .waiting n →
      (t.client j).phase = .waiting n := by
    intro j n waits
    by_cases same : j = i
    · subst same
      rw [client_setClient_self] at waits
      exact quiet n waits
    · rwa [client_setClient_of_ne same] at waits
  refine ⟨h.engine, h.room, fun j => ?_, ?_, ?_, ⟨h.made.1, ?_⟩, h.unused⟩
  · by_cases same : j = i
    · exact same ▸ follows
    · rw [view_setClient_of_ne same]
      exact h.follows j
  · exact fun job mem j waits => h.owned job mem j (still j _ waits)
  · exact fun j k n waits waits' => h.apart j k n (still j n waits) (still k n waits')
  · exact fun j n waits => h.made.2 j n (still j n waits)

/-- A channel that nobody waits on is emptied. -/
theorem clear {n : Nat} (h : Sound depth e messages t) (alone : ∀ i, (t.client i).phase ≠ .waiting n) :
    Sound depth e messages (t.setChannel n none) where
  engine := h.engine
  room := h.room
  follows i := view_setChannel (alone i) ▸ h.follows i
  owned := h.owned
  apart := h.apart
  made := h.made
  unused m new := by
    by_cases same : m = n
    · exact if_pos same
    · exact (if_neg same).trans (h.unused m new)

/-- A job that is put into the queue has a channel that nobody has used. -/
theorem enqueue {i : Nat} {request : Request} (h : Sound depth e messages t)
    (offers : (t.client i).phase = .offering request) (room : t.queue.length < capacity depth) :
    Sound depth e messages (t.enqueue i request) where
  engine := h.engine
  room := by
    have more : (t.enqueue i request).queue.length = t.queue.length + 1 := List.length_append
    rw [more]
    exact room
  follows j := by
    by_cases same : j = i
    · subst same
      have follows := h.follows j
      rw [view, offers] at follows
      rw [view_enqueue_self, h.unused t.nextChannel (Nat.le_refl _)]
      exact follows.put j t.nextChannel
    · rw [view_enqueue_of_ne same]
      exact h.follows j
  owned job mem j waits := by
    rw [jobs_enqueue, List.mem_append, List.mem_singleton] at mem
    obtain ⟨rfl, used⟩ | waits := waiting_enqueue waits
    · obtain old | rfl := mem
      · exact absurd (h.made.1 job old) (used ▸ Nat.lt_irrefl _)
      · rfl
    · obtain old | rfl := mem
      · exact h.owned job old j waits
      · exact absurd (h.made.2 j _ waits) (Nat.lt_irrefl _)
  apart j k n first second := by
    obtain ⟨rfl, rfl⟩ | first := waiting_enqueue first
    · obtain ⟨rfl, -⟩ | second := waiting_enqueue second
      · rfl
      · exact absurd (h.made.2 k _ second) (Nat.lt_irrefl _)
    · obtain ⟨-, rfl⟩ | second := waiting_enqueue second
      · exact absurd (h.made.2 j _ first) (Nat.lt_irrefl _)
      · exact h.apart j k n first second
  made := by
    refine ⟨fun job mem => ?_, fun j n waits => ?_⟩
    · rw [jobs_enqueue, List.mem_append, List.mem_singleton] at mem
      obtain old | rfl := mem
      · exact Nat.lt_succ_of_lt (h.made.1 job old)
      · exact Nat.lt_succ_self _
    · obtain ⟨-, rfl⟩ | waits := waiting_enqueue waits
      · exact Nat.lt_succ_self _
      · exact Nat.lt_succ_of_lt (h.made.2 j n waits)
  unused n new := h.unused n (Nat.le_of_succ_le new)

/-- A job is handled for its client and for nobody else. -/
theorem dispatch {job : Job} {reply : Reply} {engine : Engine σ ρ} (h : Sound depth e messages t)
    (busy : t.running = some job) (answered : t.engine.handle job.request = .ok (reply, engine)) :
    Sound depth e messages (t.dispatch job reply engine) := by
  have jobs : t.jobs = job :: (t.dispatch job reply engine).jobs := jobs_dispatch busy
  have mem : job ∈ t.jobs := jobs ▸ List.mem_cons_self
  have fewer : ∀ other ∈ (t.dispatch job reply engine).jobs, other ∈ t.jobs := fun other mem =>
    jobs ▸ List.mem_cons_of_mem job mem
  refine ⟨?_, h.room, fun i => ?_, fun other mem => h.owned other (fewer other mem), h.apart,
    ⟨fun other mem => h.made.1 other (fewer other mem), h.made.2⟩, fun n new => ?_⟩
  · have one : t.engine.handleAll [job.request] = .ok ([reply], engine) :=
      Engine.handleAll_cons_ok.2 ⟨reply, engine, [], answered, rfl, rfl⟩
    have all : e.handleAll (asked t.handled ++ [job.request]) = .ok (given t.handled ++ [reply], engine) :=
      Engine.handleAll_append_ok.2 ⟨_, _, _, h.engine, one, rfl⟩
    rw [← asked_concat t.handled job reply, ← given_concat t.handled job reply] at all
    exact all
  · by_cases same : i = job.client
    · subst same
      have follows := h.follows job.client
      obtain ⟨outstanding, mine, after⟩ := view_dispatch_self reply engine busy
      rw [view, mine] at follows
      rw [after]
      exact follows.work (fun waits => waits ▸ if_pos rfl) fun ended => ended ▸ rfl
    · rw [view_dispatch_of_ne busy same fun waits => same (h.owned job mem i waits)]
      exact h.follows i
  · have other : n ≠ job.channel := Nat.ne_of_gt (Nat.lt_of_lt_of_le (h.made.1 job mem) new)
    exact (if_neg other).trans (h.unused n new)

theorem take {job : Job} {rest : List Job} (h : Sound depth e messages t) (free : t.running = none)
    (first : t.queue = job :: rest) :
    Sound depth e messages { t with queue := rest, running := some job } := by
  have jobs : ({ t with queue := rest, running := some job } : Traffic σ ρ).jobs = t.jobs := by
    rw [Traffic.jobs, Traffic.jobs, free, first]
    rfl
  have same (i : Nat) :
      ({ t with queue := rest, running := some job } : Traffic σ ρ).view i = t.view i := by
    rw [view, view, jobsOf, jobsOf, jobs]
    rfl
  refine ⟨h.engine, ?_, fun i => same i ▸ h.follows i, jobs ▸ h.owned, h.apart, jobs ▸ h.made, h.unused⟩
  have room := h.room
  rw [first, List.length_cons] at room
  exact Nat.le_of_succ_le room

/-- **Every step keeps the invariant.** -/
theorem step (h : Sound depth e messages s) (next : Step depth s t) : Sound depth e messages t := by
  cases next with
  | read i body rest idle unread =>
    have follows := h.follows i
    rw [view, idle, unread] at follows
    refine h.setClient ?_ ?_
    · intro n waits
      dsimp only at waits
      rw [Phase.behind] at waits
      split at waits <;> cases waits
    · rw [view_setClient_self, inbox_behind]
      exact follows.read
  | put i request offers room => exact h.enqueue offers room
  | take job rest free first => exact h.take free first
  | work job reply engine busy answered => exact h.dispatch busy answered
  | receive i n reply waits sent =>
    have follows := h.follows i
    rw [view, waits] at follows
    have filled : s.inbox (.waiting n) = some reply := sent
    rw [filled] at follows
    have taken : Sound depth e messages (s.setClient i { s.client i with phase := .replying reply }) := by
      refine h.setClient nofun ?_
      rw [view_setClient_self]
      exact follows.receive
    refine taken.clear fun j waits' => ?_
    by_cases same : j = i
    · rw [same, client_setClient_self] at waits'
      cases waits'
    · rw [client_setClient_of_ne same] at waits'
      exact same (h.apart j i n waits' waits)
  | write i reply holds there =>
    have follows := h.follows i
    rw [view, holds] at follows
    refine h.setClient nofun ?_
    rw [view_setClient_self]
    exact follows.write
  | close i =>
    refine h.setClient nofun ?_
    rw [view_setClient_self]
    exact (h.follows i).close
  | leave i =>
    refine h.setClient (fun n waits => waits) ?_
    rw [view_setClient_self]
    exact h.follows i

end Sound

theorem sound_of_reachable (h : Reachable depth e messages t) : Sound depth e messages t := by
  induction h with
  | start => exact sound_start
  | step _ next ih => exact ih.step next

/-- **Clients are served as if one after the other.** In every state that can come about,
the engine is where the jobs handled so far have left it, one by one. Those of one client
are its first requests, and so they are together with the job of it that is on its way, of
which there is one at most. What the client has received are the first answers to its own
messages. -/
theorem serialised (h : Reachable depth e messages t) :
    e.handleAll (asked t.handled) = .ok (given t.handled, t.engine) ∧
    t.queue.length ≤ capacity depth ∧
    ∀ i, asked (t.handledFor i) <+: requests (messages i) ∧
      asked (t.handledFor i) ++ (t.jobsOf i).map Job.request <+: requests (messages i) ∧
      (t.jobsOf i).length ≤ 1 ∧
      (t.client i).replies <+: answers (messages i) (given (t.handledFor i)) := by
  have sound := sound_of_reachable h
  refine ⟨sound.engine, sound.room, fun i => ?_⟩
  obtain ⟨jobs, replies⟩ := (sound.follows i).initial
  exact ⟨(List.prefix_append _ _).trans jobs, jobs, (sound.follows i).length_outstanding, replies⟩

/-- Two clients with a request and a message that is none. The second one is first in the
queue and goes away; the first one gets both its answers. -/
theorem serialised_interleaved :
    let engine : Engine Headless Cache := .start (.ofConfigs []) .empty
    let messages (i : Nat) : List Bytes := [Request.encode (.refresh (.ofNat i)), [123, 125]]
    ∃ t, Reachable 1 engine messages t ∧
      t.handled.map (fun h => h.1.client) = [1, 0] ∧ (t.client 1).replies = [] ∧
      (t.client 0).replies = [.ok, .error 4 "missing field `type`"] ∧
      engine.handleAll [.refresh 1, .refresh 0] = .ok ([.ok, .ok], t.engine) ∧
      (t.client 0).replies <+: answers (messages 0) [.ok] := by
  intro engine messages
  have reads (i : Nat) (small : i < 2) : Phase.behind (Request.encode (.refresh (.ofNat i))) =
      .offering (.refresh (.ofNat i)) := by
    obtain rfl | rfl : i = 0 ∨ i = 1 := by omega
    · rfl
    · rfl
  have run : Reachable 1 engine messages _ := .start
  have run := run.step (.read 1 _ _ rfl rfl)
  have run := run.step (.put 1 (.refresh 1) (reads 1 (by decide)) (by decide))
  have run := run.step (.take _ [] rfl rfl)
  have run := run.step (.read 0 _ _ rfl rfl)
  have run := run.step (.put 0 (.refresh 0) (reads 0 (by decide)) (by decide))
  have run := run.step (.leave 1)
  have run := run.step (.work _ .ok _ rfl rfl)
  have run := run.step (.take _ [] rfl rfl)
  have run := run.step (.work _ .ok _ rfl rfl)
  have run := run.step (.receive 0 1 .ok rfl rfl)
  have run := run.step (.write 0 .ok rfl rfl)
  have run := run.step (.read 0 _ _ rfl rfl)
  have run := run.step (.write 0 (.error 4 "missing field `type`") rfl rfl)
  have run := run.step (.close 1)
  obtain ⟨handled, -, clients⟩ := serialised run
  exact ⟨_, run, rfl, rfl, rfl, handled, (clients 0).2.2.2⟩

end Traffic

end DisplayComposer
