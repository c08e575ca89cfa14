import DisplayComposer.Crash
import DisplayComposer.Proofs.Json.Literal
/-!
# DisplayComposer.Proofs.Json.Text

**Printed values read back.** The text of a value is read as the node of that value, with
nothing left and nothing missed, if the literals in it are proper. The node has that value
again if what its numbers denote is in range and it is not nested too deeply.

* `Proper` — the values that have a text;
* `Proper.readsBack`, `read_print` — the text of a value is read as its node;
* `Fits` — the values that a text can hold, by how deep they nest;
* `Fits.value_ofValue` — the value of the node.
-/

namespace DisplayComposer.Json

/-- Values that have a text. -/
inductive Proper : Json → Prop where
  | null : Proper .null
  | bool {b : Bool} : Proper (.bool b)
  | number {l : Literal} (proper : l.Proper) : Proper (.number l)
  | string {s : String} : Proper (.string s)
  | array {items : List Json} (inside : ∀ j ∈ items, Proper j) : Proper (.array items)
  | object {members : List (String × Json)} (inside : ∀ m ∈ members, Proper m.2) :
      Proper (.object members)

/-! ### Where a value begins -/

theorem skipBlanks_cons {b : UInt8} (h : isBlank b = false) (rest : Bytes) :
    skipBlanks (b :: rest) = b :: rest := by
  rw [skipBlanks, List.dropWhile_cons_of_neg (by rw [h]; exact Bool.false_ne_true)]

theorem quoted_eq_cons (s : String) : quoted s = 34 :: (quoted s).drop 1 := rfl

/-- A number begins with its sign or with a digit. -/
theorem exists_head_chars {l : Literal} (proper : l.Proper) :
    ∃ b tail, l.chars.map asciiByte = b :: tail ∧ (b = 45 ∨ ∃ d, b = digitByte d) := by
  rw [map_chars]
  cases l.negative with
  | true => exact ⟨45, _, rfl, .inl rfl⟩
  | false =>
    cases whole : l.whole with
    | nil => exact absurd whole proper.whole
    | cons d ds => exact ⟨digitByte d, _, rfl, .inr ⟨d, rfl⟩⟩

/-- A value begins with something that is neither a blank nor the end of an array. -/
theorem Proper.exists_head {j : Json} (h : Proper j) :
    ∃ b tail, j.print = b :: tail ∧ isBlank b = false ∧ b ≠ 93 := by
  have digits : ∀ d : Digit, isBlank (digitByte d) = false ∧ digitByte d ≠ 93 := by decide
  cases h with
  | null => exact ⟨110, [117, 108, 108], rfl, by decide⟩
  | @bool b =>
    cases b with
    | true => exact ⟨116, [114, 117, 101], rfl, by decide⟩
    | false => exact ⟨102, [97, 108, 115, 101], rfl, by decide⟩
  | number proper =>
    obtain ⟨b, tail, text, start⟩ := exists_head_chars proper
    refine ⟨b, tail, by rw [print, text], ?_⟩
    obtain rfl | ⟨d, rfl⟩ := start
    · decide
    · exact digits d
  | @string s => exact ⟨34, (quoted s).drop 1, by rw [print, quoted_eq_cons]; rfl, by decide⟩
  | array _ => exact ⟨91, _, by rw [print], by decide⟩
  | object _ => exact ⟨123, _, by rw [print], by decide⟩

theorem printItems_cons_cons (i j : Json) (items : List Json) :
    printItems (i :: j :: items) = i.print ++ 44 :: printItems (j :: items) := by
  rw [printItems]
  exact fun h => nomatch h

theorem printMembers_singleton (k : String) (j : Json) :
    printMembers [(k, j)] = quoted k ++ 58 :: (j.print ++ [125]) := by
  rw [printMembers, List.append_assoc, List.cons_append]

theorem printMembers_cons_cons (k : String) (j : Json) (m : String × Json)
    (members : List (String × Json)) :
    printMembers ((k, j) :: m :: members) =
      quoted k ++ 58 :: (j.print ++ 44 :: printMembers (m :: members)) := by
  rw [printMembers, List.append_assoc, List.cons_append]
  exact fun h => nomatch h

/-- The items of an array begin as the first of them does. -/
theorem exists_head_printItems {i : Json} (h : Proper i) (items : List Json) :
    ∃ b tail, printItems (i :: items) = b :: tail ∧ isBlank b = false ∧ b ≠ 93 := by
  obtain ⟨b, tail, head, start⟩ := h.exists_head
  cases items with
  | nil => exact ⟨b, tail ++ [93], by rw [printItems, head]; rfl, start⟩
  | cons j items => exact ⟨b, _, by rw [printItems_cons_cons, head]; rfl, start⟩

/-- The members of an object begin with a quote. -/
theorem printMembers_eq_cons (m : String × Json) (members : List (String × Json)) :
    printMembers (m :: members) = 34 :: (printMembers (m :: members)).drop 1 := by
  obtain ⟨k, j⟩ := m
  cases members with
  | nil => rw [printMembers_singleton, quoted_eq_cons]; rfl
  | cons m members => rw [printMembers_cons_cons, quoted_eq_cons]; rfl

/-! ### One step of reading -/

section Step

variable {fuel : Nat} {bs rest : Bytes} {n : Node}

theorem readItems_last (h : readValue fuel bs = (n, some (93 :: rest))) :
    readItems (fuel + 1) bs = ([n], .closed, some rest) := by
  rw [readItems, h]
  simp only [skipBlanks_cons (by decide : isBlank 93 = false), if_true]

theorem readItems_more {b : UInt8} (h : readValue fuel bs = (n, some (44 :: b :: rest)))
    (blank : isBlank b = false) (bracket : b ≠ 93) :
    readItems (fuel + 1) bs =
      (n :: (readItems fuel (b :: rest)).1, (readItems fuel (b :: rest)).2) := by
  rw [readItems, h]
  simp only [skipBlanks_cons (by decide : isBlank 44 = false), skipBlanks_cons blank,
    if_neg bracket, if_neg (by decide : (44 : UInt8) ≠ 93), if_true]

theorem readMembers_last (k : String) (h : readValue fuel bs = (n, some (125 :: rest))) :
    readMembers (fuel + 1) ((quoted k).drop 1 ++ 58 :: bs) =
      ([(Quoted.ofText k, n)], .closed, some rest) := by
  rw [readMembers]
  simp only [Quoted.scan_quoted, Quoted.rest, skipBlanks_cons (by decide : isBlank 58 = false), if_true,
    h, skipBlanks_cons (by decide : isBlank 125 = false), Quoted.ofText]

theorem readMembers_more (k : String) (h : readValue fuel bs = (n, some (44 :: 34 :: rest))) :
    readMembers (fuel + 1) ((quoted k).drop 1 ++ 58 :: bs) =
      ((Quoted.ofText k, n) :: (readMembers fuel rest).1, (readMembers fuel rest).2) := by
  rw [readMembers]
  simp only [Quoted.scan_quoted, Quoted.rest, skipBlanks_cons (by decide : isBlank 58 = false), if_true,
    h, skipBlanks_cons (by decide : isBlank 44 = false), if_neg (by decide : (44 : UInt8) ≠ 125),
    skipBlanks_cons (by decide : isBlank 34 = false), Quoted.ofText]

theorem readValue_items {b : UInt8} (blank : isBlank b = false) (bracket : b ≠ 93) :
    readValue (fuel + 1) (91 :: b :: rest) =
      (.array (readItems fuel (b :: rest)).1 (readItems fuel (b :: rest)).2.1,
        (readItems fuel (b :: rest)).2.2) := by
  rw [readValue]
  simp only [skipBlanks_cons (by decide : isBlank 91 = false), skipBlanks_cons blank,
    if_neg bracket, if_neg (by decide : (91 : UInt8) ≠ 34), if_true]

theorem readValue_members :
    readValue (fuel + 1) (123 :: 34 :: rest) =
      (.object (readMembers fuel rest).1 (readMembers fuel rest).2.1, (readMembers fuel rest).2.2) := by
  rw [readValue]
  simp only [skipBlanks_cons (by decide : isBlank 123 = false),
    skipBlanks_cons (by decide : isBlank 34 = false), if_neg (by decide : (123 : UInt8) ≠ 34),
    if_neg (by decide : (123 : UInt8) ≠ 91), if_neg (by decide : (34 : UInt8) ≠ 125), if_true]

/-- What begins with a sign or a digit is read as a number. -/
theorem readValue_number {b : UInt8} (start : b = 45 ∨ ∃ d, b = digitByte d) :
    readValue (fuel + 1) (b :: rest) = readNumber (b :: rest) := by
  have digits : ∀ d : Digit, isBlank (digitByte d) = false ∧ digitByte d ≠ 34 ∧ digitByte d ≠ 91 ∧
      digitByte d ≠ 123 ∧ digitByte d ≠ 110 ∧ digitByte d ≠ 116 ∧ digitByte d ≠ 102 := by decide
  obtain rfl | ⟨d, rfl⟩ := start
  · simp [readValue, skipBlanks_cons, isBlank]
  · obtain ⟨blank, others⟩ := digits d
    simp [readValue, skipBlanks_cons, blank, others, isDigit_digitByte]

theorem scanWord_append (word rest : Bytes) : scanWord word (word ++ rest) = .ok rest := by
  induction word with
  | nil => cases rest <;> rfl
  | cons b word ih => rw [List.cons_append, scanWord, if_pos rfl, ih]

end Step

/-! ### Reading what was printed -/

/-- The text of a value is read as its node, with enough fuel and whatever follows it, as
long as that could not belong to a number. -/
def ReadsBack (j : Json) : Prop :=
  ∀ (fuel : Nat) (rest : Bytes), 2 * j.print.length ≤ fuel → Behind rest →
    readValue fuel (j.print ++ rest) = (.ofValue j, some rest)

theorem readsBack_word {j : Json} {word : String} (faulty : Fault → Node)
    (text : j.print = utf8 word) (some : 0 < (utf8 word).length)
    (dispatch : ∀ fuel rest, readValue (fuel + 1) (utf8 word ++ rest) =
      readWord word (.ofValue j) faulty (utf8 word ++ rest)) : ReadsBack j := by
  intro fuel rest enough _
  rw [text] at enough ⊢
  obtain ⟨fuel, rfl⟩ := Nat.exists_eq_add_of_le' (by omega : 1 ≤ fuel)
  rw [dispatch, readWord, scanWord_append]

theorem readsBack_number {l : Literal} (proper : l.Proper) : ReadsBack (.number l) := by
  intro fuel rest enough behind
  have text : print (.number l) = l.chars.map asciiByte := by rw [print]
  have number := scanNumber_chars proper behind
  obtain ⟨b, tail, head, start⟩ := exists_head_chars proper
  rw [text, head, List.length_cons] at enough
  obtain ⟨fuel, rfl⟩ := Nat.exists_eq_add_of_le' (by omega : 1 ≤ fuel)
  rw [text]
  rw [head, List.cons_append] at number ⊢
  rw [readValue_number start, readNumber, number, Node.ofValue]

theorem readsBack_string (s : String) : ReadsBack (.string s) := by
  intro fuel rest enough _
  have text : print (.string s) = 34 :: (quoted s).drop 1 := by rw [print, quoted_eq_cons]; rfl
  rw [text, List.length_cons] at enough
  obtain ⟨fuel, rfl⟩ := Nat.exists_eq_add_of_le' (by omega : 1 ≤ fuel)
  rw [text, List.cons_append, readValue]
  simp only [skipBlanks_cons (by decide : isBlank 34 = false), if_true, Quoted.scan_quoted,
    Quoted.rest, Node.ofValue, Quoted.ofText]

/-- The items of an array are read up to its end. -/
theorem readItems_printItems {i : Json} {items : List Json}
    (back : ∀ j ∈ i :: items, ReadsBack j) (proper : ∀ j ∈ i :: items, Proper j) (fuel : Nat)
    (rest : Bytes) (enough : 2 * (printItems (i :: items)).length ≤ fuel + 1) :
    readItems fuel (printItems (i :: items) ++ rest) =
      (Node.ofItems (i :: items), .closed, some rest) := by
  induction items generalizing i fuel with
  | nil =>
    rw [printItems, List.length_append, List.length_singleton] at enough
    obtain ⟨fuel, rfl⟩ := Nat.exists_eq_add_of_le' (by omega : 1 ≤ fuel)
    rw [printItems, List.append_assoc, List.singleton_append, Node.ofItems, Node.ofItems]
    exact readItems_last
      (back i List.mem_cons_self fuel _ (by omega) (behind_cons (by decide) rest))
  | cons j items ih =>
    rw [printItems_cons_cons, List.length_append, List.length_cons] at enough
    obtain ⟨fuel, rfl⟩ := Nat.exists_eq_add_of_le' (by omega : 1 ≤ fuel)
    have item := back i List.mem_cons_self fuel (44 :: (printItems (j :: items) ++ rest)) (by omega)
      (behind_cons (by decide) _)
    have others := ih (fun k hk => back k (List.mem_cons_of_mem i hk))
      (fun k hk => proper k (List.mem_cons_of_mem i hk)) fuel (by omega)
    obtain ⟨b, tail, head, blank, bracket⟩ :=
      exists_head_printItems (proper j (List.mem_cons_of_mem i List.mem_cons_self)) items
    rw [printItems_cons_cons, List.append_assoc, List.cons_append]
    rw [head, List.cons_append] at item others ⊢
    rw [readItems_more item blank bracket, others]
    rfl

/-- The members of an object are read up to its end, from behind the first quote on. -/
theorem readMembers_printMembers {m : String × Json} {members : List (String × Json)}
    (back : ∀ p ∈ m :: members, ReadsBack p.2) (fuel : Nat) (rest : Bytes)
    (enough : 2 * (printMembers (m :: members)).length ≤ fuel + 1) :
    readMembers fuel ((printMembers (m :: members)).drop 1 ++ rest) =
      (Node.ofMembers (m :: members), .closed, some rest) := by
  induction members generalizing m fuel with
  | nil =>
    obtain ⟨k, j⟩ := m
    rw [printMembers_singleton, quoted_eq_cons, List.length_append, List.length_cons,
      List.length_cons, List.length_append] at enough
    obtain ⟨fuel, rfl⟩ := Nat.exists_eq_add_of_le' (by omega : 1 ≤ fuel)
    have value := back (k, j) List.mem_cons_self fuel (125 :: rest) (by dsimp only; omega)
      (behind_cons (by decide) rest)
    rw [printMembers_singleton, quoted_eq_cons, List.cons_append, List.drop_succ_cons, List.drop_zero,
      List.append_assoc, List.cons_append, List.append_assoc, List.singleton_append,
      readMembers_last k value, Node.ofMembers, Node.ofMembers]
  | cons p members ih =>
    obtain ⟨k, j⟩ := m
    rw [printMembers_cons_cons, quoted_eq_cons, List.length_append, List.length_cons,
      List.length_cons, List.length_append, List.length_cons] at enough
    obtain ⟨fuel, rfl⟩ := Nat.exists_eq_add_of_le' (by omega : 1 ≤ fuel)
    have value := back (k, j) List.mem_cons_self fuel (44 :: (printMembers (p :: members) ++ rest))
      (by dsimp only; omega) (behind_cons (by decide) _)
    have others := ih (fun q hq => back q (List.mem_cons_of_mem _ hq)) fuel (by omega)
    rw [printMembers_eq_cons p members, List.cons_append] at value
    rw [printMembers_cons_cons, quoted_eq_cons, List.cons_append, List.drop_succ_cons, List.drop_zero,
      List.append_assoc, List.cons_append, List.append_assoc, List.cons_append,
      printMembers_eq_cons p members, List.cons_append, readMembers_more k value, others]
    rfl

/-- **What was printed reads back.** -/
theorem Proper.readsBack {j : Json} (h : Proper j) : ReadsBack j := by
  induction h with
  | null => exact readsBack_word .partialNull (by rw [print]) (by decide) fun _ _ => rfl
  | @bool b =>
    cases b with
    | true => exact readsBack_word (fun f => .broken f f) (by rw [print]) (by decide) fun _ _ => rfl
    | false => exact readsBack_word (fun f => .broken f f) (by rw [print]) (by decide) fun _ _ => rfl
  | number proper => exact readsBack_number proper
  | string => exact readsBack_string _
  | @array items inside ih =>
    intro fuel rest enough _
    rw [print, List.length_cons] at enough
    obtain ⟨fuel, rfl⟩ := Nat.exists_eq_add_of_le' (by omega : 1 ≤ fuel)
    rw [print, Node.ofValue, List.cons_append]
    cases items with
    | nil => rfl
    | cons i items =>
      have read := readItems_printItems ih inside fuel rest (by omega)
      obtain ⟨b, tail, head, blank, bracket⟩ :=
        exists_head_printItems (inside i List.mem_cons_self) items
      rw [head, List.cons_append] at read ⊢
      rw [readValue_items blank bracket, read]
  | @object members inside ih =>
    intro fuel rest enough _
    rw [print, List.length_cons] at enough
    obtain ⟨fuel, rfl⟩ := Nat.exists_eq_add_of_le' (by omega : 1 ≤ fuel)
    rw [print, Node.ofValue, List.cons_append]
    cases members with
    | nil => rfl
    | cons m members =>
      have read := readMembers_printMembers ih fuel rest (by omega)
      rw [printMembers_eq_cons, List.cons_append, readValue_members, read]

/-- The text of a value, read as a whole. -/
theorem read_print {j : Json} (h : Proper j) :
    Document.read j.print = ⟨.ofValue j, false⟩ := by
  have read := h.readsBack (2 * j.print.length + 2) [] (Nat.le_add_right _ 2) behind_nil
  rw [List.append_nil] at read
  rw [Document.read, read]
  rfl

/-! ### The value of a node -/

/-- Values that a text can hold, nested at most this deep. -/
inductive Fits : Nat → Json → Prop where
  | null {d : Nat} : Fits d .null
  | bool {d : Nat} {b : Bool} : Fits d (.bool b)
  | number {d : Nat} {l : Literal} (proper : l.Proper) (inRange : l.value?.isSome) :
      Fits d (.number l)
  | string {d : Nat} {s : String} : Fits d (.string s)
  | array {d : Nat} {items : List Json} (inside : ∀ j ∈ items, Fits d j) :
      Fits (d + 1) (.array items)
  | object {d : Nat} {members : List (String × Json)} (inside : ∀ m ∈ members, Fits d m.2) :
      Fits (d + 1) (.object members)

theorem Fits.proper {d : Nat} {j : Json} (h : Fits d j) : Proper j := by
  induction h with
  | null => exact .null
  | bool => exact .bool
  | number proper _ => exact .number proper
  | string => exact .string
  | array _ ih => exact .array ih
  | object _ ih => exact .object ih

theorem values_ofItems {limit : Nat} {items : List Json}
    (back : ∀ j ∈ items, (Node.ofValue j).value limit = .ok j) :
    Node.values limit (Node.ofItems items) = .ok items := by
  induction items with
  | nil => rfl
  | cons j items ih =>
    obtain ⟨first, others⟩ := List.forall_mem_cons.1 back
    rw [Node.ofItems, Node.values, first, ih others]
    rfl

theorem memberValues_ofMembers {limit : Nat} {members : List (String × Json)}
    (back : ∀ m ∈ members, (Node.ofValue m.2).value limit = .ok m.2) :
    Node.memberValues limit (Node.ofMembers members) = .ok members := by
  induction members with
  | nil => rfl
  | cons m members ih =>
    obtain ⟨k, j⟩ := m
    obtain ⟨first, others⟩ := List.forall_mem_cons.1 back
    rw [Node.ofMembers, Node.memberValues, Quoted.text_ofText, ih others, first]
    rfl

/-- **A node of a value has that value**, within the limit on nesting. -/
theorem Fits.value_ofValue {d : Nat} {j : Json} (h : Fits d j) {limit : Nat} (deep : d < limit) :
    (Node.ofValue j).value limit = .ok j := by
  induction h generalizing limit with
  | null => rfl
  | bool => rfl
  | number _ inRange => rw [Node.ofValue, Node.value, if_pos inRange]
  | string => rw [Node.ofValue, Node.value, Quoted.text_ofText]; rfl
  | @array d items inside ih =>
    obtain ⟨limit, rfl⟩ := Nat.exists_eq_add_of_le' (by omega : 2 ≤ limit)
    have values := values_ofItems fun j mem => ih j mem (by omega : d < limit + 1)
    rw [Node.ofValue, Node.value, enter]
    simp only [bind, Except.bind, values]
    rfl
  | @object d members inside ih =>
    obtain ⟨limit, rfl⟩ := Nat.exists_eq_add_of_le' (by omega : 2 ≤ limit)
    have values := memberValues_ofMembers fun m mem => ih m mem (by omega : d < limit + 1)
    rw [Node.ofValue, Node.value, enter]
    simp only [bind, Except.bind, values]
    rfl

mutual

/-- The node of a value has no other value, however deep it nests. -/
theorem eq_of_value_ofValue {limit : Nat} :
    ∀ {j j' : Json}, (Node.ofValue j).value limit = .ok j' → j' = j
  | .null, _, h => (Except.ok.inj h).symm
  | .bool _, _, h => (Except.ok.inj h).symm
  | .number l, j', h => by
    rw [Node.ofValue, Node.value] at h
    split at h
    · exact (Except.ok.inj h).symm
    · cases h
  | .string s, j', h => by
    rw [Node.ofValue, Node.value, Quoted.text_ofText] at h
    exact (Except.ok.inj h).symm
  | .array items, j', h => by
    obtain ⟨limit, -, h⟩ := Except.bind_eq_ok_iff.1 h
    obtain ⟨items', values, h⟩ := Except.bind_eq_ok_iff.1 h
    rw [← Except.ok.inj h, eq_of_values_ofItems values]
  | .object members, j', h => by
    obtain ⟨limit, -, h⟩ := Except.bind_eq_ok_iff.1 h
    obtain ⟨members', values, h⟩ := Except.bind_eq_ok_iff.1 h
    rw [← Except.ok.inj h, eq_of_memberValues_ofMembers values]

theorem eq_of_values_ofItems {limit : Nat} :
    ∀ {items items' : List Json}, Node.values limit (Node.ofItems items) = .ok items' → items' = items
  | [], _, h => (Except.ok.inj h).symm
  | j :: items, _, h => by
    obtain ⟨j', value, h⟩ := Except.bind_eq_ok_iff.1 h
    obtain ⟨items', values, h⟩ := Except.bind_eq_ok_iff.1 h
    rw [← Except.ok.inj h, eq_of_value_ofValue value, eq_of_values_ofItems values]

theorem eq_of_memberValues_ofMembers {limit : Nat} : ∀ {members members' : List (String × Json)},
    Node.memberValues limit (Node.ofMembers members) = .ok members' → members' = members
  | [], _, h => (Except.ok.inj h).symm
  | (k, j) :: members, _, h => by
    rw [Node.ofMembers, Node.memberValues, Quoted.text_ofText] at h
    obtain ⟨k', name, h⟩ := Except.bind_eq_ok_iff.1 h
    obtain ⟨j', value, h⟩ := Except.bind_eq_ok_iff.1 h
    obtain ⟨members', values, h⟩ := Except.bind_eq_ok_iff.1 h
    rw [← Except.ok.inj h, ← Except.ok.inj name, eq_of_value_ofValue value,
      eq_of_memberValues_ofMembers values]

end

/-- **A printed value holds no other value than itself.** -/
theorem eq_of_ofBytes_print {j j' : Json} (h : Proper j) (value : ofBytes j.print = .ok j') : j' = j := by
  rw [ofBytes, read_print h] at value
  obtain ⟨j'', value, returned⟩ := Except.bind_eq_ok_iff.1 value
  rw [← Except.ok.inj returned, eq_of_value_ofValue value]

end DisplayComposer.Json
