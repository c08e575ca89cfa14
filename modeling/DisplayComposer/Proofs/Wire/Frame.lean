import DisplayComposer.Wire.Frame
/-!
# DisplayComposer.Proofs.Wire.Frame

**What is read from a stream of frames.** Reading depends on the bytes that a stream
delivers and not on how it cuts them into pieces. Whatever the bytes are, they are the
frames of some messages and a tail in which no further frame is whole, and there is only
one way to take them apart so. The messages are what is read, and the tail says why
reading stops.

* `Stream.fill_fst`, `Stream.flatten_fill_snd` — filling is taking and dropping;
* `Frame.encodeAll`, `Frame.Split` — frames one behind the other, and the tail;
* `Frame.Reads` — what one call of `Frame.read` after the other returns;
* `Frame.Split.reads` — the messages of a split are read, and then its ending;
* `Frame.reads_whole_or_cut` — the round trip, for whole streams and for cut ones.
-/

namespace DisplayComposer

/-! ### Filling -/

namespace Stream

theorem fill_fst (n : Nat) (s : Stream) : (s.fill n).1 = s.flatten.take n := by
  induction s generalizing n with
  | nil => simp [fill]
  | cons piece rest ih =>
    rw [fill, List.flatten_cons]
    split
    · rename_i short
      rw [List.take_append_of_le_length (Nat.le_of_lt short)]
    · rename_i long
      simp only [ih]
      rw [List.take_append, List.take_of_length_le (Nat.le_of_not_lt long)]

theorem flatten_fill_snd (n : Nat) (s : Stream) : (s.fill n).2.flatten = s.flatten.drop n := by
  induction s generalizing n with
  | nil => simp [fill]
  | cons piece rest ih =>
    rw [fill, List.flatten_cons]
    split
    · rename_i short
      rw [List.flatten_cons, List.drop_append_of_le_length (Nat.le_of_lt short)]
    · rename_i long
      simp only [ih]
      rw [List.drop_append, List.drop_of_length_le (Nat.le_of_not_lt long), List.nil_append]

/-- One read of at most `n` bytes. It ends where a piece ends, and at the end of the
stream it finds nothing. -/
def next (n : Nat) : Stream → Bytes × Stream
  | [] => ([], [])
  | piece :: rest =>
    if n < piece.length then (piece.take n, piece.drop n :: rest) else (piece, rest)

/-- Filling is reading again and again, each time as much as is still missing, until
enough has come or a read finds nothing. -/
theorem fill_eq_next {n : Nat} {s : Stream} (pos : 0 < n) (whole : ∀ piece ∈ s, piece ≠ []) :
    s.fill n =
      if (s.next n).1 = [] then s.next n
      else
        let (more, rest) := (s.next n).2.fill (n - (s.next n).1.length)
        ((s.next n).1 ++ more, rest) := by
  cases s with
  | nil => rfl
  | cons piece rest =>
    have some : piece ≠ [] := whole piece List.mem_cons_self
    rw [fill]
    by_cases short : n < piece.length
    · have read : next n (piece :: rest) = (piece.take n, piece.drop n :: rest) := by
        rw [next, if_pos short]
      have found : piece.take n ≠ [] := by
        simp only [ne_eq, List.take_eq_nil_iff, not_or]
        exact ⟨Nat.ne_of_gt pos, some⟩
      -- what this read leaves in the piece is there, so nothing more is taken
      have left : 0 < (piece.drop n).length := by rw [List.length_drop]; omega
      have enough : n - (piece.take n).length = 0 := by rw [List.length_take]; omega
      simp only [read, if_pos short, if_neg found, enough, fill, if_pos left, List.take_zero,
        List.drop_zero, List.append_nil]
    · have read : next n (piece :: rest) = (piece, rest) := by rw [next, if_neg short]
      simp only [read, if_neg short, if_neg some]

end Stream

namespace Frame

/-! ### The length in front of a message -/

theorem lengthBytes_lengthOf (a b c d : UInt8) :
    lengthBytes (lengthOf [a, b, c, d]) = [a, b, c, d] := by
  have ha := a.toNat_lt_size
  have hb := b.toNat_lt_size
  have hc := c.toNat_lt_size
  have hd := d.toNat_lt_size
  have size : UInt8.size = 256 := rfl
  simp only [lengthBytes, lengthOf, List.foldl_cons, List.foldl_nil, Nat.shiftRight_eq_div_pow,
    List.cons.injEq, and_true]
  refine ⟨?_, ?_, ?_, ?_⟩ <;>
    apply UInt8.toNat_inj.1 <;> rw [UInt8.toNat_ofNat'] <;> omega

theorem lengthOf_lt (a b c d : UInt8) : lengthOf [a, b, c, d] < UInt32.size := by
  have ha := a.toNat_lt_size
  have hb := b.toNat_lt_size
  have hc := c.toNat_lt_size
  have hd := d.toNat_lt_size
  have size : UInt8.size = 256 := rfl
  have size' : UInt32.size = 256 ^ 4 := rfl
  simp only [lengthOf, List.foldl_cons, List.foldl_nil]
  omega

@[simp] theorem length_lengthBytes (n : Nat) : (lengthBytes n).length = headerLength := rfl

@[simp] theorem length_encode (body : Bytes) :
    (encode body).length = headerLength + body.length := by
  rw [encode, List.length_append, length_lengthBytes]

/-- What begins with a length has it in front. -/
theorem take_lengthBytes (n : Nat) (rest : Bytes) :
    (lengthBytes n ++ rest).take headerLength = lengthBytes n := by
  rw [← length_lengthBytes n, List.take_left]

theorem take_encode (body rest : Bytes) :
    (encode body ++ rest).take headerLength = lengthBytes body.length := by
  rw [encode, List.append_assoc, take_lengthBytes]

theorem drop_encode (body rest : Bytes) : (encode body ++ rest).drop headerLength = body ++ rest := by
  rw [encode, List.append_assoc, ← length_lengthBytes body.length, List.drop_left]

/-! ### Reading once -/

/-- What is read depends on the bytes of a stream alone, and so do the bytes left. -/
theorem read_eq (limit : Nat) (s : Stream) :
    read limit s =
      if s.flatten = [] then .ok none
      else if s.flatten.length < headerLength then .error (.header s.flatten.length)
      else
        let length := lengthOf (s.flatten.take headerLength)
        if limit < length then .error (.tooLong length limit)
        else if s.flatten.length < headerLength + length then .error .body
        else .ok (some ((s.flatten.drop headerLength).take length,
          ((s.fill headerLength).2.fill length).2)) := by
  have header : (s.fill headerLength).1 = s.flatten.take headerLength := s.fill_fst headerLength
  have length : (s.flatten.take headerLength).length = min headerLength s.flatten.length :=
    List.length_take
  have positive : 0 < headerLength := by decide
  simp only [read, header]
  by_cases empty : s.flatten = []
  · simp [empty]
  · have start : (s.flatten.take headerLength).isEmpty = false := by
      simp [empty, headerLength]
    rw [start, if_neg empty, if_neg Bool.false_ne_true]
    by_cases short : s.flatten.length < headerLength
    · rw [if_pos short, if_pos (by omega), List.take_of_length_le (Nat.le_of_lt short)]
    · rw [if_neg short, if_neg (by omega)]
      simp only [Stream.fill_fst, Stream.flatten_fill_snd, List.length_take, List.length_drop]
      by_cases long : limit < lengthOf (s.flatten.take headerLength)
      · simp only [if_pos long]
      · simp only [if_neg long]
        by_cases cut :
            s.flatten.length < headerLength + lengthOf (s.flatten.take headerLength)
        · rw [if_pos cut, if_pos (by omega)]
        · rw [if_neg cut, if_neg (by omega)]

/-- Whether a message can travel and is not refused. -/
structure Fits (limit : Nat) (body : Bytes) : Prop where
  short : body.length < UInt32.size
  allowed : body.length ≤ limit

/-- A whole frame is read, and what is behind it is left. -/
theorem read_encode {limit : Nat} {body rest : Bytes} (fits : Fits limit body) {s : Stream}
    (delivered : s.flatten = encode body ++ rest) :
    ∃ left : Stream, read limit s = .ok (some (body, left)) ∧ left.flatten = rest := by
  have behind : s.flatten.drop headerLength = body ++ rest := by rw [delivered, drop_encode]
  have length : lengthOf (s.flatten.take headerLength) = body.length := by
    rw [delivered, take_encode, lengthOf_lengthBytes fits.short]
  have total : s.flatten.length = headerLength + body.length + rest.length := by
    rw [delivered, List.length_append, length_encode]
  have some : s.flatten ≠ [] := by
    intro empty
    rw [empty, List.length_nil, headerLength] at total
    omega
  refine ⟨((s.fill headerLength).2.fill body.length).2, ?_, ?_⟩
  · have notShort : ¬s.flatten.length < headerLength := by omega
    have notLong : ¬limit < body.length := Nat.not_lt.2 fits.allowed
    have notCut : ¬s.flatten.length < headerLength + body.length := by omega
    simp only [read_eq, if_neg some, if_neg notShort, length, if_neg notLong, if_neg notCut, behind,
      List.take_left]
  · rw [Stream.flatten_fill_snd, Stream.flatten_fill_snd, behind, List.drop_left]

/-! ### Frames and what is behind them -/

/-- The frames of some messages, one behind the other. -/
def encodeAll (bodies : List Bytes) : Bytes := bodies.flatMap encode

@[simp] theorem encodeAll_nil : encodeAll [] = [] := rfl

@[simp] theorem encodeAll_cons (body : Bytes) (bodies : List Bytes) :
    encodeAll (body :: bodies) = encode body ++ encodeAll bodies := rfl

@[simp] theorem encodeAll_append (bodies more : List Bytes) :
    encodeAll (bodies ++ more) = encodeAll bodies ++ encodeAll more := List.flatMap_append

/-- Bytes that do not begin with a whole frame within the limit. -/
def Blocked (limit : Nat) (tail : Bytes) : Prop :=
  tail.length < headerLength ∨ limit < lengthOf (tail.take headerLength) ∨
    tail.length < headerLength + lengthOf (tail.take headerLength)

/-- How reading ends in front of such bytes: without an error only if there are none. -/
def ending (limit : Nat) (tail : Bytes) : Option ReadError :=
  if tail = [] then none
  else if tail.length < headerLength then some (.header tail.length)
  else if limit < lengthOf (tail.take headerLength) then
    some (.tooLong (lengthOf (tail.take headerLength)) limit)
  else some .body

/-- What the next call of `read` says of an ending. -/
def answer : Option ReadError → Except ReadError (Option (Bytes × Stream))
  | none => .ok none
  | some e => .error e

theorem read_of_blocked {limit : Nat} {s : Stream} (blocked : Blocked limit s.flatten) :
    read limit s = answer (ending limit s.flatten) := by
  rw [read_eq, ending]
  by_cases empty : s.flatten = []
  · rw [if_pos empty, if_pos empty, answer]
  rw [if_neg empty, if_neg empty]
  by_cases short : s.flatten.length < headerLength
  · rw [if_pos short, if_pos short, answer]
  rw [if_neg short, if_neg short]
  by_cases long : limit < lengthOf (s.flatten.take headerLength)
  · simp only [if_pos long, answer]
  have cut : s.flatten.length < headerLength + lengthOf (s.flatten.take headerLength) := by
    rcases blocked with h | h | h
    · exact absurd h short
    · exact absurd h long
    · exact h
  simp only [if_neg long, if_pos cut, answer]

/-- Some bytes as the frames of messages, none longer than the limit, and a tail that
holds no further one. -/
structure Split (limit : Nat) (bytes : Bytes) (bodies : List Bytes) (tail : Bytes) : Prop where
  eq : bytes = encodeAll bodies ++ tail
  fits : ∀ body ∈ bodies, Fits limit body
  blocked : Blocked limit tail

theorem eq_encode_append {limit : Nat} {bytes : Bytes} (free : ¬Blocked limit bytes) :
    ∃ body rest, bytes = encode body ++ rest ∧ Fits limit body := by
  simp only [Blocked, headerLength, not_or, Nat.not_lt] at free
  obtain ⟨enough, allowed, whole⟩ := free
  match bytes with
  | a :: b :: c :: d :: behind =>
    simp only [List.take_succ_cons, List.take_zero] at allowed whole
    have length : (behind.take (lengthOf [a, b, c, d])).length = lengthOf [a, b, c, d] := by
      simp only [List.length_cons] at whole
      rw [List.length_take]
      omega
    refine ⟨behind.take (lengthOf [a, b, c, d]), behind.drop (lengthOf [a, b, c, d]), ?_, ?_, ?_⟩
    · rw [encode, length, lengthBytes_lengthOf, List.append_assoc, List.take_append_drop]
      rfl
    · rw [length]
      exact lengthOf_lt a b c d
    · rw [length]
      exact allowed
  | [] | [_] | [_, _] | [_, _, _] => simp at enough

/-- Whatever the bytes are, there is a split of them. -/
theorem exists_split (limit : Nat) (bytes : Bytes) : ∃ bodies tail, Split limit bytes bodies tail := by
  by_cases blocked : Blocked limit bytes
  · exact ⟨[], bytes, rfl, nofun, blocked⟩
  · obtain ⟨body, rest, heq, fits⟩ := eq_encode_append blocked
    have shorter : rest.length < bytes.length := by
      rw [heq, List.length_append, length_encode, headerLength]
      omega
    obtain ⟨bodies, tail, split⟩ := exists_split limit rest
    refine ⟨body :: bodies, tail, ?_, ?_, split.blocked⟩
    · rw [heq, split.eq, encodeAll_cons, List.append_assoc]
    · exact List.forall_mem_cons.2 ⟨fits, split.fits⟩
termination_by bytes.length

/-- Where a whole frame begins, reading goes on. -/
theorem not_blocked_encode {limit : Nat} {body : Bytes} (fits : Fits limit body) (rest : Bytes) :
    ¬Blocked limit (encode body ++ rest) := by
  intro blocked
  rw [← List.flatten_singleton (l := encode body ++ rest)] at blocked
  obtain ⟨left, read, -⟩ := read_encode fits List.flatten_singleton
  rw [read_of_blocked blocked] at read
  cases stop : ending limit [encode body ++ rest].flatten <;> rw [stop] at read <;> cases read

/-- Nothing is taken from the front of a tail. -/
theorem Split.of_blocked {limit : Nat} {bytes tail : Bytes} {bodies : List Bytes}
    (split : Split limit bytes bodies tail) (blocked : Blocked limit bytes) :
    bodies = [] ∧ tail = bytes := by
  cases bodies with
  | nil => exact ⟨rfl, split.eq.symm⟩
  | cons body bodies =>
    rw [split.eq, encodeAll_cons, List.append_assoc] at blocked
    exact absurd blocked (not_blocked_encode (split.fits body List.mem_cons_self) _)

/-- The frames that bytes begin with are the first of their split, and what follows is
split into the others. -/
theorem Split.behind {limit : Nat} {more tail : Bytes} {first bodies : List Bytes}
    (split : Split limit (encodeAll first ++ more) bodies tail)
    (fits : ∀ body ∈ first, Fits limit body) :
    ∃ second, bodies = first ++ second ∧ Split limit more second tail := by
  induction first generalizing bodies with
  | nil => exact ⟨bodies, rfl, split⟩
  | cons body first ih =>
    obtain ⟨fit, fits⟩ := List.forall_mem_cons.1 fits
    have bytes := split.eq
    rw [encodeAll_cons, List.append_assoc] at bytes
    cases bodies with
    | nil =>
      have blocked : Blocked limit (encodeAll [] ++ tail) := split.blocked
      rw [← bytes] at blocked
      exact absurd blocked (not_blocked_encode fit _)
    | cons body' bodies =>
      obtain ⟨fit', fits'⟩ := List.forall_mem_cons.1 split.fits
      rw [encodeAll_cons, List.append_assoc] at bytes
      -- both frames are what is read from these bytes
      obtain ⟨left, read, behind⟩ := read_encode fit List.flatten_singleton
      obtain ⟨left', read', behind'⟩ := read_encode fit' (List.flatten_singleton.trans bytes)
      rw [read] at read'
      cases read'
      obtain ⟨second, rfl, rest⟩ := ih ⟨behind.symm.trans behind', fits', split.blocked⟩ fits
      exact ⟨second, rfl, rest⟩

/-- A length that is not allowed stays in front, whatever follows. -/
theorem tooLong_append {limit length allowed : Nat} {tail : Bytes}
    (long : ending limit tail = some (.tooLong length allowed)) (more : Bytes) :
    Blocked limit (tail ++ more) := by
  rw [ending] at long
  split at long
  · cases long
  split at long
  · cases long
  rename_i enough
  split at long
  · rename_i announced
    refine .inr (.inl ?_)
    rwa [List.take_append_of_le_length (Nat.le_of_not_lt enough)]
  · cases long

/-! ### Reading to the end -/

/-- What one call of `read` after the other returns: messages, and then either that the
stream has ended between frames or an error. -/
inductive Reads (limit : Nat) : Stream → List Bytes → Option ReadError → Prop where
  | ended {s : Stream} : read limit s = .ok none → Reads limit s [] none
  | failed {s : Stream} {e : ReadError} : read limit s = .error e → Reads limit s [] (some e)
  | message {s left : Stream} {body : Bytes} {bodies : List Bytes} {stop : Option ReadError} :
      read limit s = .ok (some (body, left)) → Reads limit left bodies stop →
        Reads limit s (body :: bodies) stop

/-- **The messages of a split are read**, in their order, and then reading ends as the
tail says. -/
theorem Split.reads {limit : Nat} {s : Stream} {bodies : List Bytes} {tail : Bytes}
    (split : Split limit s.flatten bodies tail) : Reads limit s bodies (ending limit tail) := by
  induction bodies generalizing s with
  | nil =>
    have delivered : s.flatten = tail := split.eq
    have last := read_of_blocked (delivered ▸ split.blocked : Blocked limit s.flatten)
    rw [delivered] at last
    cases stop : ending limit tail with
    | none => exact .ended (by rw [last, stop, answer])
    | some e => exact .failed (by rw [last, stop, answer])
  | cons body bodies ih =>
    have delivered : s.flatten = encode body ++ (encodeAll bodies ++ tail) := by
      rw [split.eq, encodeAll_cons, List.append_assoc]
    obtain ⟨left, first, behind⟩ := read_encode (split.fits body List.mem_cons_self) delivered
    refine .message first (ih ⟨behind, ?_, split.blocked⟩)
    exact fun other hother => split.fits other (List.mem_cons_of_mem _ hother)

/-- Only a whole frame is read as a message. -/
theorem eq_of_read {limit : Nat} {s left : Stream} {body : Bytes}
    (first : read limit s = .ok (some (body, left))) :
    s.flatten = encode body ++ left.flatten := by
  by_cases blocked : Blocked limit s.flatten
  · rw [read_of_blocked blocked] at first
    cases stop : ending limit s.flatten <;> rw [stop] at first <;> cases first
  · obtain ⟨body', rest, delivered, fits⟩ := eq_encode_append blocked
    obtain ⟨left', first', behind⟩ := read_encode fits delivered
    rw [first] at first'
    cases first'
    rw [delivered, behind]

/-- Reading all messages of a stream is one call of `read` after the other: its bound on
the number of calls is never reached. -/
theorem readAll_eq_of_reads {limit : Nat} {s : Stream} {bodies : List Bytes}
    {stop : Option ReadError} (reads : Reads limit s bodies stop) :
    readAll limit s = (bodies, stop) := by
  have enough : ∀ fuel, s.flatten.length < fuel → readUpTo limit fuel s = (bodies, stop) := by
    induction reads with
    | ended last =>
      intro fuel positive
      obtain ⟨fuel, rfl⟩ := Nat.exists_eq_add_one_of_ne_zero (Nat.ne_zero_of_lt positive)
      rw [readUpTo, last]
    | failed last =>
      intro fuel positive
      obtain ⟨fuel, rfl⟩ := Nat.exists_eq_add_one_of_ne_zero (Nat.ne_zero_of_lt positive)
      rw [readUpTo, last]
    | message first _ ih =>
      intro fuel positive
      obtain ⟨fuel, rfl⟩ := Nat.exists_eq_add_one_of_ne_zero (Nat.ne_zero_of_lt positive)
      -- a message takes at least its header from the stream
      have shorter := congrArg List.length (eq_of_read first)
      rw [List.length_append, length_encode, headerLength] at shorter
      rw [readUpTo, first]
      simp only [ih fuel (by omega)]
  exact enough _ (Nat.lt_succ_self _)

/-- Frames and nothing behind them are read to the end. -/
theorem reads_encodeAll {limit : Nat} {bodies : List Bytes} (fits : ∀ body ∈ bodies, Fits limit body)
    {s : Stream} (delivered : s.flatten = encodeAll bodies) : Reads limit s bodies none := by
  have split : Split limit s.flatten bodies [] :=
    ⟨by rw [delivered, List.append_nil], fits, .inl (by decide)⟩
  exact split.reads

/-! ### Cut streams -/

/-- The place in a stream of frames where the frame of message `n` begins. -/
def boundary (bodies : List Bytes) (n : Nat) : Nat := (encodeAll (bodies.take n)).length

theorem boundary_succ {bodies : List Bytes} {n : Nat} {body : Bytes} (h : bodies[n]? = some body) :
    boundary bodies (n + 1) = boundary bodies n + (encode body).length := by
  rw [boundary, boundary, List.take_add_one, h, Option.toList_some, encodeAll_append,
    List.length_append, encodeAll_cons, encodeAll_nil, List.append_nil]

/-- A cut lies at a boundary or within the frame of one message. -/
theorem exists_cut {bodies : List Bytes} {k : Nat} (within : k < (encodeAll bodies).length) :
    ∃ n body, bodies[n]? = some body ∧ boundary bodies n ≤ k ∧ k < boundary bodies (n + 1) ∧
      (encodeAll bodies).take k =
        encodeAll (bodies.take n) ++ (encode body).take (k - boundary bodies n) := by
  induction bodies generalizing k with
  | nil => simp at within
  | cons first bodies ih =>
    by_cases inFirst : k < (encode first).length
    · refine ⟨0, first, rfl, Nat.zero_le _, ?_, ?_⟩
      · simpa [boundary] using inFirst
      · simp only [boundary, List.take_zero, encodeAll_nil, List.length_nil, Nat.sub_zero,
          List.nil_append, encodeAll_cons]
        rw [List.take_append_of_le_length (Nat.le_of_lt inFirst)]
    · rw [encodeAll_cons, List.length_append] at within
      have later : k - (encode first).length < (encodeAll bodies).length := by omega
      obtain ⟨n, body, found, low, high, cut⟩ := ih later
      have shift : ∀ m, boundary (first :: bodies) (m + 1) =
          (encode first).length + boundary bodies m := by
        intro m
        rw [boundary, boundary, List.take_succ_cons, encodeAll_cons, List.length_append]
      refine ⟨n + 1, body, found, ?_, ?_, ?_⟩
      · rw [shift]; omega
      · rw [shift]; omega
      · rw [encodeAll_cons, List.take_append, List.take_of_length_le (Nat.le_of_not_lt inFirst), cut,
          List.take_succ_cons, encodeAll_cons, List.append_assoc, shift, Nat.sub_sub]

/-- The beginning of a frame announces the message, as soon as the header is there. -/
theorem take_take_encode (body : Bytes) {m : Nat} (header : headerLength ≤ m) :
    ((encode body).take m).take headerLength = lengthBytes body.length := by
  rw [List.take_take, Nat.min_eq_left header, ← List.append_nil (encode body), take_encode]

/-- The beginning of a frame is no whole frame. -/
theorem blocked_take_encode {limit : Nat} {body : Bytes} (fits : Fits limit body) {m : Nat}
    (cut : m < (encode body).length) : Blocked limit ((encode body).take m) := by
  have length : ((encode body).take m).length = m := List.length_take_of_le (Nat.le_of_lt cut)
  by_cases short : m < headerLength
  · exact .inl (by rw [length]; exact short)
  · refine .inr (.inr ?_)
    rw [length, take_take_encode body (Nat.le_of_not_lt short), lengthOf_lengthBytes fits.short,
      ← length_encode]
    exact cut

theorem ending_take_encode {limit : Nat} {body : Bytes} (fits : Fits limit body) {m : Nat}
    (inside : 0 < m) (cut : m < (encode body).length) :
    ending limit ((encode body).take m) =
      some (if m < headerLength then .header m else .body) := by
  have length : ((encode body).take m).length = m := List.length_take_of_le (Nat.le_of_lt cut)
  have some : (encode body).take m ≠ [] := by
    intro empty
    rw [empty] at length
    exact Nat.ne_of_lt inside length
  rw [ending, if_neg some, length]
  by_cases short : m < headerLength
  · rw [if_pos short, if_pos short]
  · rw [if_neg short, if_neg short, take_take_encode body (Nat.le_of_not_lt short),
      lengthOf_lengthBytes fits.short, if_neg (Nat.not_lt.2 fits.allowed)]

theorem blocked_tooLong {limit length : Nat} (representable : length < UInt32.size)
    (long : limit < length) (rest : Bytes) :
    Blocked limit (lengthBytes length ++ rest) ∧
      ending limit (lengthBytes length ++ rest) = some (.tooLong length limit) := by
  have header := take_lengthBytes length rest
  have some : lengthBytes length ++ rest ≠ [] := by simp [lengthBytes]
  have enough : ¬(lengthBytes length ++ rest).length < headerLength := by
    rw [List.length_append, length_lengthBytes]
    omega
  have announced : limit < lengthOf ((lengthBytes length ++ rest).take headerLength) := by
    rw [header, lengthOf_lengthBytes representable]
    exact long
  refine ⟨.inr (.inl announced), ?_⟩
  rw [ending, if_neg some, if_neg enough, if_pos announced, header,
    lengthOf_lengthBytes representable]

/-- **Frames round-trip over any stream.** However a stream delivers the frames of some
messages, the messages are read and then its end. If it ends anywhere but between two
frames, the messages before that place are read and then an error, which says whether
the header or the message was cut. A header that announces too much is an error whatever
follows it. -/
theorem reads_whole_or_cut (limit : Nat) (bodies : List Bytes)
    (fits : ∀ body ∈ bodies, body.length < UInt32.size ∧ body.length ≤ limit) :
    (∀ s : Stream, s.flatten = encodeAll bodies → Reads limit s bodies none) ∧
    (∀ (k : Nat) (s : Stream), s.flatten = (encodeAll bodies).take k →
      k < (encodeAll bodies).length → (∀ n, k ≠ boundary bodies n) →
      ∃ n, boundary bodies n < k ∧ k < boundary bodies (n + 1) ∧
        Reads limit s (bodies.take n)
          (some (if k - boundary bodies n < headerLength then .header (k - boundary bodies n)
            else .body))) ∧
    (∀ (length : Nat) (rest : Bytes) (s : Stream), length < UInt32.size → limit < length →
      s.flatten = encodeAll bodies ++ (lengthBytes length ++ rest) →
      Reads limit s bodies (some (.tooLong length limit))) := by
  have allFit : ∀ body ∈ bodies, Fits limit body := fun body h => ⟨(fits body h).1, (fits body h).2⟩
  refine ⟨?_, ?_, ?_⟩
  · exact fun s delivered => reads_encodeAll allFit delivered
  · intro k s delivered within off
    obtain ⟨n, body, found, low, high, cut⟩ := exists_cut within
    have inside : boundary bodies n < k := Nat.lt_of_le_of_ne low (Ne.symm (off n))
    have fit : Fits limit body := allFit body (List.mem_of_getElem? found)
    have partly : k - boundary bodies n < (encode body).length := by
      rw [boundary_succ found] at high
      omega
    have split : Split limit s.flatten (bodies.take n)
        ((encode body).take (k - boundary bodies n)) :=
      ⟨delivered.trans cut, fun b hb => allFit b (List.mem_of_mem_take hb),
        blocked_take_encode fit partly⟩
    refine ⟨n, inside, high, ?_⟩
    rw [← ending_take_encode fit (by omega) partly]
    exact split.reads
  · intro length rest s representable long delivered
    obtain ⟨blocked, last⟩ := blocked_tooLong representable long rest
    have split : Split limit s.flatten bodies (lengthBytes length ++ rest) :=
      ⟨delivered, allFit, blocked⟩
    rw [← last]
    exact split.reads

/-- Two messages that come a few bytes at a time, the second one empty: as a whole, cut
within the header of the second, and with a third in front of which a length stands that
is not allowed. -/
theorem reads_dribbled :
    (∀ body ∈ [[7, 8], []], body.length < UInt32.size ∧ body.length ≤ 2) ∧
    Reads 2 [[0], [0, 0], [2, 7], [8, 0], [0, 0, 0]] [[7, 8], []] none ∧
    (8 < (encodeAll [[7, 8], []]).length ∧ ∀ n, 8 ≠ boundary [[7, 8], []] n) ∧
    (∃ n, boundary [[7, 8], []] n < 8 ∧ 8 < boundary [[7, 8], []] (n + 1) ∧
      Reads 2 [[0], [0, 0], [2, 7], [8, 0], [0]] ([[7, 8], []].take n)
        (some (if 8 - boundary [[7, 8], []] n < headerLength then
          .header (8 - boundary [[7, 8], []] n) else .body))) ∧
    (3 < UInt32.size ∧ 2 < 3) ∧
    Reads 2 [[0, 0, 0, 2, 7, 8], [0, 0, 0, 0, 0], [0, 0, 3, 9]] [[7, 8], []]
      (some (.tooLong 3 2)) := by
  have off : ∀ n, 8 ≠ boundary [[7, 8], []] n := by
    intro n
    match n with
    | 0 | 1 => decide
    | n + 2 =>
      rw [boundary, List.take_of_length_le (Nat.le_add_left 2 n)]
      decide
  obtain ⟨whole, cut, long⟩ := reads_whole_or_cut 2 [[7, 8], []] (by decide)
  refine ⟨by decide, whole _ rfl, ⟨by decide, off⟩, cut 8 _ rfl (by decide) off, by decide, ?_⟩
  exact long 3 [9] _ (by decide) (by decide) rfl

end Frame

end DisplayComposer
