import DisplayComposer.Crash
import DisplayComposer.Json.Codec
import DisplayComposer.Proofs.Json.Text
/-!
# DisplayComposer.Proofs.Json.Codec

**Values that a codec carries.** A codec carries a value if what it writes for it is fit
for a text and is read as that value again, in whichever way it is read. What is made of
parts is carried if its parts are, so only numbers have to be looked at: integers of every
width are carried, and a float is carried if its own text reads back.

* `Codec.Carries`, `Codec.Carries.decodeBytes` — from a value to its text and back;
* `Codec.carries_integer` and its fellows — scalars;
* `Codec.carries_list`, `Codec.carries_nullable`, `Codec.carries_choice`.
-/

namespace DisplayComposer.Json

variable {α β : Type} {d : Nat}

/-- Whether a reading leaves room for values nested this deep. -/
def Reading.Allows (d : Nat) : Reading → Prop
  | .streamed limit => d < limit
  | .buffered | .inMemory => True

/-- Inside an array or object there is room for one level less. -/
theorem Reading.Allows.enter {reading : Reading} (h : reading.Allows (d + 1)) :
    ∃ inside : Reading, reading.enter = .ok inside ∧ inside.Allows d := by
  cases reading with
  | streamed limit =>
    match limit, h with
    | limit + 2, h => exact ⟨.streamed (limit + 1), rfl, Nat.lt_of_succ_lt_succ h⟩
  | buffered => exact ⟨.buffered, rfl, trivial⟩
  | inMemory => exact ⟨.inMemory, rfl, trivial⟩

namespace Codec

/-- A codec carries a value that is nested at most this deep: what is written for it fits
into a text and is read as the value. -/
structure Carries (c : Codec α) (d : Nat) (a : α) : Prop where
  fits : Fits d (c.encode a)
  reads : ∀ reading : Reading, reading.Allows d →
    c.decode reading (.ofValue (c.encode a)) = .ok a

/-- **What is carried survives its text.** -/
theorem Carries.decodeBytes {c : Codec α} {a : α} (h : c.Carries d a) (deep : d < nestingLimit) :
    c.decodeBytes (c.encodeBytes a) = .ok a := by
  rw [Codec.decodeBytes, encodeBytes, read_print h.fits.proper]
  simp only [h.reads (.streamed nestingLimit) deep]
  rfl

/-! ### Scalars -/

/-- An integer of 64 bits is carried if its type knows it again. -/
theorem carries_integer {expected : String} {ofInt? : Int → Option α} {toInt : α → Int} {a : α}
    (low : Int64.minValue.toInt ≤ toInt a) (high : toInt a < UInt64.size)
    (back : ofInt? (toInt a) = some a) : (integer expected ofInt? toInt).Carries d a where
  fits := .number (Literal.proper_ofInt _) (by rw [Literal.value?_ofInt low high]; rfl)
  reads _ _ := by
    simp only [integer, Json.ofInt, Node.ofValue, Literal.value?_ofInt low high, back]

theorem carries_int32 (n : Int32) : int32.Carries d n := by
  have low := n.minValue_le_toInt
  have high := n.toInt_lt
  have least : Int64.minValue.toInt ≤ Int32.minValue.toInt := by decide
  have size : (2 : Int) ^ 31 < UInt64.size := by decide
  exact carries_integer (by omega) (by omega) (int32Of?_toInt n)

theorem carries_int64 (n : Int64) : int64.Carries d n := by
  have low := n.minValue_le_toInt
  have high := n.toInt_lt
  have size : (2 : Int) ^ 63 < UInt64.size := by decide
  exact carries_integer low (by omega) (int64Of?_toInt n)

theorem carries_uint8 (n : UInt8) : uint8.Carries d n := by
  have high := n.toNat_lt_size
  have least : Int64.minValue.toInt ≤ 0 := by decide
  have size : UInt8.size < UInt64.size := by decide
  exact carries_integer (by omega) (by omega) (uint8Of?_toNat n)

theorem carries_uint32 (n : UInt32) : uint32.Carries d n := by
  have high := n.toNat_lt_size
  have least : Int64.minValue.toInt ≤ 0 := by decide
  have size : UInt32.size < UInt64.size := by decide
  exact carries_integer (by omega) (by omega) (uint32Of?_toNat n)

theorem carries_bool (b : Bool) : bool.Carries d b where
  fits := .bool
  reads _ _ := rfl

theorem carries_string (s : String) : string.Carries d s where
  fits := .string
  reads _ _ := by
    simp only [string, Node.ofValue, Quoted.text_ofText]
    rfl

theorem carries_imap {c : Codec α} {f : α → β} {g : β → α} {b : β} (h : c.Carries d (g b))
    (inverse : f (g b) = b) : (c.imap f g).Carries d b where
  fits := h.fits
  reads reading room := by
    simp only [imap, h.reads reading room, Except.map, inverse]

/-! ### Floats -/

/-- A node of the wrong type is never read. -/
theorem wrongType_ne_ok (n : Node) (expected : String) (a : α) : n.wrongType expected ≠ .ok a := by
  intro h
  obtain ⟨_, _, h⟩ := Except.bind_eq_ok_iff.1 h
  cases h

/-- Only a number is read as a float. -/
theorem number_of_decode_float {reading : Reading} {n : Node} {x : Single}
    (h : float.decode reading n = .ok x) : ∃ l : Literal, n = .number l ∧ l.value?.isSome := by
  cases n with
  | number l =>
    refine ⟨l, rfl, ?_⟩
    cases value : l.value? with
    | none => simp [float, value] at h
    | some v => rfl
  | _ => exact absurd h (wrongType_ne_ok _ _ _)

/-- Whatever a float is written as has a text. -/
theorem proper_float (x : Single) : (float.encode x).Proper := by
  by_cases finite : x.isFinite
  · have written : float.encode x = .number (Literal.ofBinary Literal.singleLayout x) := if_pos finite
    exact written ▸ .number (Literal.proper_ofBinary _ finite)
  · have written : float.encode x = .null := if_neg finite
    exact written ▸ .null

/-- **A float whose own text reads back is carried**, and it is not written as `null`. -/
theorem carries_float {x : Single} (survives : float.decodeBytes (float.encodeBytes x) = .ok x) :
    float.Carries d x ∧ float.encode x ≠ .null := by
  rw [decodeBytes, encodeBytes, read_print (proper_float x)] at survives
  obtain ⟨y, decoded, returned⟩ := Except.bind_eq_ok_iff.1 survives
  obtain rfl : y = x := Except.ok.inj returned
  obtain ⟨l, number, inRange⟩ := number_of_decode_float decoded
  have written : float.encode y = .number l := by
    generalize float.encode y = j at number
    cases j with
    | number => exact congrArg Json.number (Node.number.inj number)
    | _ => cases number
  have proper := proper_float y
  rw [written] at proper
  cases proper with
  | number proper =>
    refine ⟨⟨written ▸ .number proper inRange, fun _ _ => decoded⟩, fun null => ?_⟩
    rw [written] at null
    cases null

/-! ### Lists, absent values and choices -/

theorem carries_list {c : Codec α} {as : List α} (h : ∀ a ∈ as, c.Carries d a) :
    c.list.Carries (d + 1) as where
  fits := by
    refine .array fun j mem => ?_
    obtain ⟨a, ha, rfl⟩ := List.mem_map.1 mem
    exact (h a ha).fits
  reads reading room := by
    obtain ⟨inside, entered, room⟩ := room.enter
    have items : (Node.ofItems (as.map c.encode)).mapM (c.decode inside) = .ok as := by
      induction as with
      | nil => rfl
      | cons a as ih =>
        obtain ⟨first, others⟩ := List.forall_mem_cons.1 h
        rw [List.map_cons, Node.ofItems, List.mapM_cons, first.reads inside room, ih others]
        rfl
    simp only [list, Node.ofValue, entered, bind, Except.bind, items]
    rfl

/-- A value that is not `null` is not an absent one. -/
theorem decode_nullable {c : Codec α} {reading : Reading} {j : Json} (present : j ≠ .null) :
    c.nullable.decode reading (.ofValue j) = (c.decode reading (.ofValue j)).map some := by
  cases j with
  | null => exact absurd rfl present
  | _ => rfl

/-- A value that is present is told from an absent one as long as it is not written as one. -/
theorem carries_nullable {c : Codec α} {o : Option α}
    (h : ∀ a, o = some a → c.Carries d a ∧ c.encode a ≠ .null) : c.nullable.Carries d o := by
  cases o with
  | none => exact ⟨.null, fun _ _ => rfl⟩
  | some a =>
    obtain ⟨⟨fits, reads⟩, present⟩ := h a rfl
    refine ⟨fits, fun reading room => ?_⟩
    exact (decode_nullable present).trans (congrArg (Except.map some) (reads reading room))

theorem carries_choice {all : List α} {nameOf : α → String} {a : α}
    (found : all.find? (nameOf · = nameOf a) = some a) : (choice all nameOf).Carries d a where
  fits := .string
  reads reading _ := by
    have named : constant all nameOf (nameOf a) = .ok a := by rw [constant, found]
    cases reading <;>
    · simp only [choice, Node.ofValue, streamedChoice, bufferedChoice, Quoted.text_ofText]
      exact named

end Codec

end DisplayComposer.Json
