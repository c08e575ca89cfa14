import DisplayComposer.Proofs.Server.Answers
import DisplayComposer.Proofs.Wire.Frame
import DisplayComposer.Proofs.Wire.Reply
import DisplayComposer.Server.Basic
/-!
# DisplayComposer.Proofs.Server.Session

**A client's session.** Whatever bytes a client sends, and however they arrive, they are
split into whole frames and a tail. Each frame is answered once, in order, and the tail
ends the connection: with the stream, or before it if the tail announces a message that
is too long. What the client is sent is the frames of the answers, and it can be read.

* `Connection.session` — a connection from the first byte to the end;
* `Connection.serve_split` — what is there is served;
* `Connection.session_answered` — the whole session.
-/

namespace DisplayComposer

variable {σ ρ : Type} [Hardware σ] [Resources ρ]

namespace Connection

/-- What a client has been sent and not fetched yet: a frame for each reply. -/
def written (c : Connection) : Bytes := Frame.encodeAll (c.replies.map Reply.encode)

/-- A connection whose client sends some pieces and no more. Whatever has arrived is served
before more of it does. -/
def session (limit : Nat) : Stream → Connection → Worker σ ρ → Connection × Worker σ ρ
  | [], c, w => c.finish.serve limit w
  | piece :: rest, c, w =>
    let (c, w) := (c.send piece).serve limit w
    session limit rest c w

/-- A connection on which some messages have been answered, and a tail is left. -/
def answered (tail : Bytes) (replies : List Reply) (c : Connection) : Connection :=
  { c with unread := tail, replies := c.replies ++ replies }

/-- A connection without a whole message: it waits for more, or it is closed. -/
def settled (limit : Nat) (c : Connection) : Connection :=
  if (c.arrival? limit).isSome then { c with closed := true } else c

variable {limit : Nat} {c : Connection} {w : Worker σ ρ}

/-! ### One message -/

theorem arrival?_encode {body rest : Bytes} (isOpen : c.closed = false)
    (unread : c.unread = Frame.encode body ++ rest) (fits : Frame.Fits limit body) :
    c.arrival? limit = some (.message body rest) := by
  obtain ⟨left, read, behind⟩ := Frame.read_encode fits (List.flatten_singleton.trans unread)
  rw [arrival?, isOpen, if_neg Bool.false_ne_true, read, ← behind]

theorem arrival?_blocked (isOpen : c.closed = false) (blocked : Frame.Blocked limit c.unread) :
    c.arrival? limit = match Frame.ending limit c.unread with
      | some (.tooLong _ _) => some .breakOff
      | _ => if c.ended then some .breakOff else none := by
  rw [← List.flatten_singleton (l := c.unread)] at blocked
  rw [arrival?, isOpen, if_neg Bool.false_ne_true, Frame.read_of_blocked blocked,
    List.flatten_singleton]
  cases Frame.ending limit c.unread with
  | none => rfl
  | some e => cases e <;> rfl

/-- When the client has ended its side, nothing is waited for. -/
theorem arrival?_ended (isOpen : c.closed = false) (blocked : Frame.Blocked limit c.unread)
    (ended : c.ended = true) : c.arrival? limit = some .breakOff := by
  rw [arrival?_blocked isOpen blocked, ended]
  split <;> rfl

/-- Before that, only a length that is not allowed breaks a connection off. -/
theorem blocked_of_broken (isOpen : c.closed = false) (blocked : Frame.Blocked limit c.unread)
    (more : c.ended = false) (broken : (c.arrival? limit).isSome = true) (bytes : Bytes) :
    Frame.Blocked limit (c.unread ++ bytes) := by
  rw [arrival?_blocked isOpen blocked, more] at broken
  split at broken
  · rename_i long
    exact Frame.tooLong_append long bytes
  · cases broken

theorem serveUpTo_closed (isClosed : c.closed = true) (fuel : Nat) :
    serveUpTo limit fuel c w = (c, w) := by
  cases fuel with
  | zero => rfl
  | succ fuel => rw [serveUpTo, serveOne?, arrival?, isClosed, if_pos rfl]

/-- Where no message is there to be read, the connection waits or is closed. -/
theorem serveUpTo_blocked (isOpen : c.closed = false) (blocked : Frame.Blocked limit c.unread)
    (fuel : Nat) :
    serveUpTo limit (fuel + 1) c w = (c.settled limit, w) := by
  have arrives : c.arrival? limit = none ∨ c.arrival? limit = some .breakOff := by
    rw [arrival?_blocked isOpen blocked]
    split
    · exact .inr rfl
    · cases c.ended
      · exact .inl rfl
      · exact .inr rfl
  rw [serveUpTo, serveOne?, settled]
  obtain none | broken := arrives
  · rw [none]
    rfl
  · rw [broken]
    exact serveUpTo_closed rfl fuel

section Message

variable {body rest : Bytes} (isOpen : c.closed = false)
  (unread : c.unread = Frame.encode body ++ rest) (fits : Frame.Fits limit body)

include isOpen unread fits

theorem serveOne?_refused {error : Json.DecodeError} (read : Request.decode body = .error error) :
    serveOne? limit c w =
      some (c.answered rest [Worker.refusal error], w) := by
  simp only [serveOne?, arrival?_encode isOpen unread fits, Worker.receive, read, answered]

theorem serveOne?_handled {request : Request} {reply : Reply} {e f : Engine σ ρ}
    (read : Request.decode body = .ok request) (handled : e.handle request = .ok (reply, f)) :
    serveOne? limit c (.running e) =
      some (c.answered rest [reply], .running f) := by
  simp only [serveOne?, arrival?_encode isOpen unread fits, Worker.receive, read, Worker.handle,
    handled, answered]

end Message

/-! ### Whatever has arrived -/

theorem answered_answered (rest tail : Bytes) (first second : List Reply) :
    (c.answered rest first).answered tail second = c.answered tail (first ++ second) := by
  rw [answered, answered, answered, List.append_assoc]

/-- **What has arrived is served**: each whole frame is answered, and the tail is left. It
closes the connection if no frame can come of it. -/
theorem serve_split {bodies : List Bytes} {tail : Bytes} {e e' : Engine σ ρ} {given : List Reply}
    (isOpen : c.closed = false) (split : Frame.Split limit c.unread bodies tail)
    (handled : e.handleAll (requests bodies) = .ok (given, e')) :
    c.serve limit (.running e) =
      ((c.answered tail (answers bodies given)).settled limit, .running e') := by
  have enough : ∀ fuel, c.unread.length < fuel → serveUpTo limit fuel c (.running e) =
      ((c.answered tail (answers bodies given)).settled limit, .running e') := by
    induction bodies generalizing c e given with
    | nil =>
      intro fuel positive
      obtain ⟨fuel, rfl⟩ := Nat.exists_eq_add_one_of_ne_zero (Nat.ne_zero_of_lt positive)
      cases handled
      have unread : c.unread = tail := split.eq
      rw [serveUpTo_blocked isOpen (unread ▸ split.blocked), answers, answered, List.append_nil,
        ← unread]
    | cons body bodies ih =>
      intro fuel positive
      obtain ⟨fuel, rfl⟩ := Nat.exists_eq_add_one_of_ne_zero (Nat.ne_zero_of_lt positive)
      obtain ⟨fit, fits⟩ := List.forall_mem_cons.1 split.fits
      have unread : c.unread = Frame.encode body ++ (Frame.encodeAll bodies ++ tail) := by
        rw [split.eq, Frame.encodeAll_cons, List.append_assoc]
      have shorter : (Frame.encodeAll bodies ++ tail).length < fuel := by
        rw [unread, List.length_append, Frame.length_encode, Frame.headerLength] at positive
        omega
      have left (replies : List Reply) : Frame.Split limit
          (c.answered (Frame.encodeAll bodies ++ tail) replies).unread bodies tail :=
        ⟨rfl, fits, split.blocked⟩
      cases read : Request.decode body with
      | error error =>
        rw [requests_cons_of_error read] at handled
        have rest := ih (c := c.answered _ [Worker.refusal error]) isOpen (left _) handled fuel shorter
        rw [answered_answered, List.singleton_append] at rest
        rw [serveUpTo, serveOne?_refused isOpen unread fit read, answers_cons_of_error read]
        exact rest
      | ok request =>
        rw [requests_cons_of_ok read] at handled
        obtain ⟨reply, f, later, one, others, rfl⟩ := Engine.handleAll_cons_ok.1 handled
        have rest := ih (c := c.answered _ [reply]) isOpen (left _) others fuel shorter
        rw [answered_answered, List.singleton_append] at rest
        rw [serveUpTo, serveOne?_handled isOpen unread fit read one, answers_cons_of_ok read]
        exact rest
  exact enough _ (Nat.lt_succ_self _)

/-! ### The whole session -/

theorem serve_closed (isClosed : c.closed = true) : c.serve limit w = (c, w) :=
  serveUpTo_closed isClosed _

/-- A closed connection takes nothing and answers nothing. -/
theorem session_closed (isClosed : c.closed = true) (pieces : Stream) :
    session limit pieces c w = (c.finish, w) := by
  induction pieces with
  | nil => exact serve_closed isClosed
  | cons piece rest ih =>
    rw [session, send, if_pos isClosed, serve_closed isClosed]
    exact ih

/-- From any moment on, the frames of what has arrived and of what is still to come are
answered, and then the connection is closed. -/
theorem session_split {bodies : List Bytes} {tail : Bytes} {e e' : Engine σ ρ} {given : List Reply}
    {pieces : Stream} (isOpen : c.closed = false) (more : c.ended = false)
    (split : Frame.Split limit (c.unread ++ pieces.flatten) bodies tail)
    (handled : e.handleAll (requests bodies) = .ok (given, e')) :
    ∃ last, session limit pieces c (.running e) = (last, .running e') ∧ last.closed = true ∧
      last.replies = c.replies ++ answers bodies given := by
  induction pieces generalizing c e bodies given with
  | nil =>
    rw [List.flatten_nil, List.append_nil] at split
    have served := serve_split (c := c.finish) isOpen split handled
    have broken : (c.finish.answered tail (answers bodies given)).arrival? limit = some .breakOff :=
      arrival?_ended isOpen split.blocked rfl
    rw [settled, broken, Option.isSome_some, if_pos rfl] at served
    exact ⟨_, served, rfl, rfl⟩
  | cons piece rest ih =>
    obtain ⟨first, left, now⟩ := Frame.exists_split limit (c.unread ++ piece)
    have bytes : Frame.Split limit (Frame.encodeAll first ++ (left ++ rest.flatten)) bodies tail := by
      rwa [← List.append_assoc, ← now.eq, List.append_assoc, ← List.flatten_cons]
    obtain ⟨second, rfl, later⟩ := bytes.behind now.fits
    rw [requests_append] at handled
    obtain ⟨before, f, after, one, others, rfl⟩ := Engine.handleAll_append_ok.1 handled
    let c' := Connection.answered left (answers first before) { c with unread := c.unread ++ piece }
    have served : (c.send piece).serve limit (.running e) = (c'.settled limit, .running f) := by
      rw [send, if_neg (by rw [isOpen]; exact Bool.false_ne_true)]
      exact serve_split (c := { c with unread := c.unread ++ piece }) isOpen now one
    rw [session, served, settled, answers_append (Engine.length_of_handleAll one), ← List.append_assoc]
    by_cases broken : (c'.arrival? limit).isSome
    · -- no frame can come of what is left, so there is none behind it
      obtain ⟨rfl, -⟩ := later.of_blocked
        (blocked_of_broken (c := c') isOpen now.blocked more broken rest.flatten)
      cases others
      rw [if_pos broken, answers, List.append_nil]
      exact ⟨_, session_closed rfl rest, rfl, rfl⟩
    · rw [if_neg broken]
      exact ih (c := c') isOpen more later others

/-- **A session answers every frame once**, whatever bytes a client sends and however they
arrive. The frames are answered in order, each as the requests before it have left the
engine; the connection is closed behind the last of them, and what it has sent reads back
as the answers. Messages that are no requests can be put in or left out anywhere: nothing
else is answered otherwise, and the engine is the same. -/
theorem session_answered (limit : Nat) (e : Engine σ ρ) (pieces : Stream) :
    (∃ frames tail, Frame.Split limit pieces.flatten frames tail) ∧
    ∀ (frames : List Bytes) (tail : Bytes) (given : List Reply) (e' : Engine σ ρ),
      Frame.Split limit pieces.flatten frames tail → e.handleAll (requests frames) = .ok (given, e') →
      ∃ last, session limit pieces fresh (.running e) = (last, .running e') ∧ last.closed = true ∧
        Answered e frames last.replies e' ∧
        (∀ (accepted : Nat) (s : Stream), s.flatten = last.written →
          (∀ reply ∈ last.replies, reply.encode.length < UInt32.size ∧ reply.encode.length ≤ accepted) →
          Frame.Reads accepted s (last.replies.map Reply.encode) none ∧
          (last.replies.map Reply.encode).map Reply.decode = last.replies.map .ok) ∧
        (∀ before junk after, frames = before ++ after → (∀ body ∈ junk, request? body = none) →
          ∀ (other : Stream) (rest : Bytes),
            Frame.Split limit other.flatten (before ++ junk ++ after) rest →
            ∃ other', session limit other fresh (.running e) = (other', .running e') ∧
              other'.replies = last.replies.take before.length ++ answers junk [] ++
                last.replies.drop before.length) := by
  refine ⟨Frame.exists_split limit pieces.flatten, ?_⟩
  intro frames tail given e' split handled
  obtain ⟨last, ran, isClosed, replies⟩ := session_split (c := fresh) rfl rfl split handled
  have replies : last.replies = answers frames given := replies
  refine ⟨last, ran, isClosed, replies ▸ answered_answers handled, ?_, ?_⟩
  · intro accepted s delivered short
    refine ⟨Frame.reads_encodeAll (fun body mem => ?_) delivered, ?_⟩
    · obtain ⟨reply, inside, rfl⟩ := List.mem_map.1 mem
      exact ⟨(short reply inside).1, (short reply inside).2⟩
    · rw [List.map_map]
      exact List.map_congr_left fun reply _ => reply.reads_back
  · rintro before junk after rfl nothing other rest split'
    have same : requests (before ++ junk ++ after) = requests (before ++ after) := requests_insert nothing
    obtain ⟨other', ran', -, replies'⟩ :=
      session_split (c := fresh) rfl rfl split' (same.symm ▸ handled)
    refine ⟨other', ran', ?_⟩
    rw [replies]
    exact replies'.trans (answers_insert (Engine.length_of_handleAll handled) nothing)

/-- A request, a message that is no request and a frame that is cut short, a few bytes at a
time; and the same with an empty message in front. -/
theorem session_answered_dribbled :
    let engine : Engine Headless Cache := .start (.ofConfigs []) .empty
    let refresh := Request.encode (.refresh 0)
    let pieces : Stream := [[0, 0], [0, 30, 123], refresh.drop 1 ++ [0], [0, 0, 2, 123, 125, 0, 0]]
    let replies : List Reply := [.ok, .error 4 "missing field `type`"]
    Frame.Split 64 pieces.flatten [refresh, [123, 125]] [0, 0] ∧
    engine.handleAll (requests [refresh, [123, 125]]) = .ok ([.ok], engine.refresh 0) ∧
    (∀ reply ∈ replies, reply.encode.length < UInt32.size ∧ reply.encode.length ≤ 99) ∧
    ∃ last, session 64 pieces fresh (.running engine) = (last, .running (engine.refresh 0)) ∧
      last.closed = true ∧ last.replies = replies ∧
      Answered engine [refresh, [123, 125]] replies (engine.refresh 0) ∧
      Frame.Reads 99 [last.written] (replies.map Reply.encode) none ∧
      ∃ other', session 64 ([0, 0, 0, 0] :: pieces) fresh (.running engine) =
          (other', .running (engine.refresh 0)) ∧
        other'.replies = .error 4 "the text ended too early" :: replies := by
  intro engine refresh pieces replies
  have fits : ∀ body ∈ [refresh, [123, 125]], Frame.Fits 64 body :=
    List.forall_mem_cons.2 ⟨⟨by decide, by decide⟩, List.forall_mem_singleton.2 ⟨by decide, by decide⟩⟩
  have split : Frame.Split 64 pieces.flatten [refresh, [123, 125]] [0, 0] :=
    ⟨by decide +kernel, fits, .inl (by decide)⟩
  have split' : Frame.Split 64 ([0, 0, 0, 0] :: pieces).flatten [[], refresh, [123, 125]] [0, 0] :=
    ⟨by decide +kernel, List.forall_mem_cons.2 ⟨⟨by decide, by decide⟩, fits⟩, .inl (by decide)⟩
  have handled : engine.handleAll (requests [refresh, [123, 125]]) = .ok ([.ok], engine.refresh 0) := rfl
  have short : ∀ reply ∈ replies, reply.encode.length < UInt32.size ∧ reply.encode.length ≤ 99 := by
    decide +kernel
  obtain ⟨last, ran, isClosed, answered, reads, inserted⟩ :=
    (session_answered 64 engine pieces).2 _ _ _ _ split handled
  have given : last.replies = replies := (congrArg (·.1.replies) ran).symm
  rw [given] at answered reads inserted
  obtain ⟨other', ran', more⟩ := inserted [] [[]] _ rfl (List.forall_mem_singleton.2 rfl) _ _ split'
  exact ⟨split, handled, short, last, ran, isClosed, given, answered,
    (reads 99 [last.written] List.flatten_singleton short).1, other', ran', more⟩

end Connection

end DisplayComposer
