import DisplayComposer.Server.Connection
/-!
# DisplayComposer.Proofs.Server.Answers

**What messages are answered.** The messages of a client are of two kinds. Those that are
requests go to the engine, and the engine's replies come back in the same order; all
others are refused on the spot. So the answers to a list of messages are the engine's
replies, with a refusal put in for each message that is no request.

* `Engine.handleAll` — the replies to some requests, and the engine behind them;
* `requests`, `answers` — the requests among some messages, and what all are answered;
* `Answered` — the same, message by message.
-/

namespace DisplayComposer

variable {σ ρ : Type} [Hardware σ] [Resources ρ]

/-! ### The engine -/

namespace Engine

/-- Handle some requests in their order. Their replies, and the engine behind them, unless
one of them stops the program. -/
def handleAll : List Request → Engine σ ρ → Except Crash (List Reply × Engine σ ρ)
  | [], e => .ok ([], e)
  | request :: rest, e => do
    let (reply, e) ← e.handle request
    let (replies, e) ← handleAll rest e
    pure (reply :: replies, e)

variable {e e' : Engine σ ρ} {given : List Reply}

theorem handleAll_cons_ok {request : Request} {rest : List Request} :
    handleAll (request :: rest) e = .ok (given, e') ↔
      ∃ reply f later, e.handle request = .ok (reply, f) ∧ handleAll rest f = .ok (later, e') ∧
        given = reply :: later := by
  constructor
  · intro h
    obtain ⟨⟨reply, f⟩, first, h⟩ := Except.bind_eq_ok_iff.1 h
    obtain ⟨⟨later, e''⟩, others, h⟩ := Except.bind_eq_ok_iff.1 h
    cases h
    exact ⟨reply, f, later, first, others, rfl⟩
  · rintro ⟨reply, f, later, first, others, rfl⟩
    exact Except.bind_eq_ok_iff.2 ⟨_, first, Except.bind_eq_ok_iff.2 ⟨_, others, rfl⟩⟩

theorem handleAll_append_ok {first second : List Request} :
    handleAll (first ++ second) e = .ok (given, e') ↔
      ∃ before f after, handleAll first e = .ok (before, f) ∧ handleAll second f = .ok (after, e') ∧
        given = before ++ after := by
  induction first generalizing e given with
  | nil =>
    constructor
    · exact fun h => ⟨[], e, given, rfl, h, rfl⟩
    · rintro ⟨before, f, after, first, second, rfl⟩
      cases first
      exact second
  | cons request first ih =>
    rw [List.cons_append, handleAll_cons_ok]
    constructor
    · rintro ⟨reply, f, later, one, others, rfl⟩
      obtain ⟨before, g, after, first, second, rfl⟩ := ih.1 others
      exact ⟨reply :: before, g, after, handleAll_cons_ok.2 ⟨reply, f, before, one, first, rfl⟩, second,
        rfl⟩
    · rintro ⟨before, g, after, all, second, rfl⟩
      obtain ⟨reply, f, before, one, others, rfl⟩ := handleAll_cons_ok.1 all
      exact ⟨reply, f, before ++ after, one, ih.2 ⟨before, g, after, others, second, rfl⟩, rfl⟩

theorem length_of_handleAll {requests : List Request}
    (h : handleAll requests e = .ok (given, e')) : given.length = requests.length := by
  induction requests generalizing e given with
  | nil => cases h; rfl
  | cons request rest ih =>
    obtain ⟨reply, f, later, -, others, rfl⟩ := handleAll_cons_ok.1 h
    rw [List.length_cons, List.length_cons, ih others]

end Engine

/-! ### Messages -/

/-- The request that a message is, if it is one. -/
def request? (body : Bytes) : Option Request := (Request.decode body).toOption

/-- The requests among some messages. -/
def requests (bodies : List Bytes) : List Request := bodies.filterMap request?

/-- What messages are answered, if `given` are the replies to the requests among them. A
request without a reply is the last message that is looked at. -/
def answers : List Bytes → List Reply → List Reply
  | [], _ => []
  | body :: rest, given =>
    match Request.decode body, given with
    | .error e, given => Worker.refusal e :: answers rest given
    | .ok _, reply :: given => reply :: answers rest given
    | .ok _, [] => []

section Messages

variable {body : Bytes} {rest : List Bytes} {given later : List Reply}

theorem requests_append (first second : List Bytes) :
    requests (first ++ second) = requests first ++ requests second := List.filterMap_append

theorem requests_cons_of_ok {request : Request} (h : Request.decode body = .ok request) :
    requests (body :: rest) = request :: requests rest :=
  List.filterMap_cons_some (by rw [request?, h]; rfl)

theorem requests_cons_of_error {e : Json.DecodeError} (h : Request.decode body = .error e) :
    requests (body :: rest) = requests rest :=
  List.filterMap_cons_none (by rw [request?, h]; rfl)

theorem answers_cons_of_ok {request : Request} {reply : Reply} (h : Request.decode body = .ok request) :
    answers (body :: rest) (reply :: given) = reply :: answers rest given := by
  simp only [answers, h]

theorem answers_cons_of_error {e : Json.DecodeError} (h : Request.decode body = .error e) :
    answers (body :: rest) given = Worker.refusal e :: answers rest given := by
  simp only [answers, h]

/-- Answers are made from the front: a list of messages whose requests have all got their
replies is answered, and then what follows it. -/
theorem answers_append {first second : List Bytes} (all : given.length = (requests first).length) :
    answers (first ++ second) (given ++ later) = answers first given ++ answers second later := by
  induction first generalizing given with
  | nil =>
    obtain rfl := List.length_eq_zero_iff.1 all
    rfl
  | cons body first ih =>
    rw [List.cons_append]
    cases read : Request.decode body with
    | error e =>
      rw [requests_cons_of_error read] at all
      rw [answers_cons_of_error read, answers_cons_of_error read, ih all, List.cons_append]
    | ok request =>
      rw [requests_cons_of_ok read] at all
      cases given with
      | nil => cases all
      | cons reply given =>
        rw [List.cons_append, answers_cons_of_ok read, answers_cons_of_ok read,
          ih (Nat.succ.inj all), List.cons_append]

/-- More replies only add answers at the end. -/
theorem answers_grow (bodies : List Bytes) (given later : List Reply) :
    answers bodies given <+: answers bodies (given ++ later) := by
  induction bodies generalizing given with
  | nil => exact List.prefix_rfl
  | cons body rest ih =>
    cases read : Request.decode body with
    | error e =>
      rw [answers_cons_of_error read, answers_cons_of_error read]
      exact List.cons_prefix_cons.2 ⟨rfl, ih given⟩
    | ok request =>
      cases given with
      | nil =>
        simp only [answers, read]
        exact List.nil_prefix
      | cons reply given =>
        rw [List.cons_append, answers_cons_of_ok read, answers_cons_of_ok read]
        exact List.cons_prefix_cons.2 ⟨rfl, ih given⟩

/-- One answer for each message. -/
theorem length_answers {bodies : List Bytes} (all : given.length = (requests bodies).length) :
    (answers bodies given).length = bodies.length := by
  induction bodies generalizing given with
  | nil => rfl
  | cons body rest ih =>
    cases read : Request.decode body with
    | error e =>
      rw [requests_cons_of_error read] at all
      rw [answers_cons_of_error read, List.length_cons, List.length_cons, ih all]
    | ok request =>
      rw [requests_cons_of_ok read] at all
      cases given with
      | nil => cases all
      | cons reply given =>
        rw [answers_cons_of_ok read, List.length_cons, List.length_cons, ih (Nat.succ.inj all)]

/-- Messages that are no requests can be put in anywhere. -/
theorem requests_insert {before junk after : List Bytes} (nothing : ∀ body ∈ junk, request? body = none) :
    requests (before ++ junk ++ after) = requests (before ++ after) := by
  have none : requests junk = [] := List.filterMap_eq_nil_iff.2 nothing
  rw [requests_append, requests_append, requests_append, none, List.append_nil]

/-- They are refused where they stand, and nothing else is answered otherwise. -/
theorem answers_insert {before junk after : List Bytes}
    (all : given.length = (requests (before ++ after)).length)
    (nothing : ∀ body ∈ junk, request? body = none) :
    answers (before ++ junk ++ after) given =
      (answers (before ++ after) given).take before.length ++ answers junk [] ++
        (answers (before ++ after) given).drop before.length := by
  have none : ([] : List Reply).length = (requests junk).length := by
    rw [requests, List.filterMap_eq_nil_iff.2 nothing]
    rfl
  rw [requests_append, List.length_append] at all
  obtain ⟨first, second, rfl, front⟩ : ∃ first second, given = first ++ second ∧
      first.length = (requests before).length :=
    ⟨given.take (requests before).length, given.drop _, (List.take_append_drop _ _).symm,
      List.length_take_of_le (by omega)⟩
  have length := length_answers front
  rw [List.append_assoc, answers_append front, answers_append front, ← length, List.take_left,
    List.drop_left, ← List.nil_append second, answers_append none, List.nil_append, List.append_assoc]

end Messages

/-! ### Message by message -/

/-- What some messages are answered by a service whose engine is `e` before and `e'` behind
them: each has one answer, which depends on the requests before it only. -/
structure Answered (e : Engine σ ρ) (bodies : List Bytes) (replies : List Reply)
    (e' : Engine σ ρ) : Prop where
  length : replies.length = bodies.length
  /-- What is no request is refused, with the code of a bad parameter. -/
  refused : ∀ (n : Nat) (body : Bytes) (error : Json.DecodeError), bodies[n]? = some body →
    Request.decode body = .error error → replies[n]? = some (.error 4 error.message)
  /-- A request is handled by the engine that the requests before it have left. -/
  handled : ∀ (n : Nat) (body : Bytes) (request : Request), bodies[n]? = some body →
    Request.decode body = .ok request → ∃ given before reply after,
      e.handleAll (requests (bodies.take n)) = .ok (given, before) ∧
      before.handle request = .ok (reply, after) ∧ replies[n]? = some reply
  engine : ∃ given, e.handleAll (requests bodies) = .ok (given, e')

theorem eq_append_of_getElem? {α : Type} {list : List α} {n : Nat} {a : α} (h : list[n]? = some a) :
    ∃ rest, list = list.take n ++ a :: rest ∧ (list.take n).length = n := by
  obtain ⟨within, rfl⟩ := List.getElem?_eq_some_iff.1 h
  refine ⟨list.drop (n + 1), ?_, List.length_take_of_le (Nat.le_of_lt within)⟩
  rw [List.getElem_cons_drop, List.take_append_drop]

theorem answered_answers {e e' : Engine σ ρ} {bodies : List Bytes} {given : List Reply}
    (h : e.handleAll (requests bodies) = .ok (given, e')) :
    Answered e bodies (answers bodies given) e' where
  length := length_answers (Engine.length_of_handleAll h)
  refused n body error found read := by
    obtain ⟨rest, split, place⟩ := eq_append_of_getElem? found
    rw [split, requests_append] at h
    obtain ⟨before, f, after, first, -, rfl⟩ := Engine.handleAll_append_ok.1 h
    have all := Engine.length_of_handleAll first
    rw [split, answers_append all, answers_cons_of_error read, List.getElem?_append_right]
    · rw [length_answers all, place, Nat.sub_self]
      rfl
    · exact Nat.le_of_eq (by rw [length_answers all, place])
  handled n body request found read := by
    obtain ⟨rest, split, place⟩ := eq_append_of_getElem? found
    rw [split, requests_append, requests_cons_of_ok read] at h
    obtain ⟨before, f, after, first, second, rfl⟩ := Engine.handleAll_append_ok.1 h
    obtain ⟨reply, g, later, one, -, rfl⟩ := Engine.handleAll_cons_ok.1 second
    have all := Engine.length_of_handleAll first
    refine ⟨before, f, reply, g, first, one, ?_⟩
    rw [split, answers_append all, answers_cons_of_ok read, List.getElem?_append_right]
    · rw [length_answers all, place, Nat.sub_self]
      rfl
    · exact Nat.le_of_eq (by rw [length_answers all, place])
  engine := ⟨given, h⟩

end DisplayComposer
