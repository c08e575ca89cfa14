import DisplayComposer.Json.Node
import DisplayComposer.Proofs.Number.Shortest
/-!
# DisplayComposer.Proofs.Json.Literal

**Number literals read back.** The text of a literal is scanned as that literal if the
literal is proper: digits wherever the grammar wants one, and no zero in front of others.
Integers have such literals, and so has every finite number of single precision.

* `Literal.Proper` — the literals that have a text;
* `scanNumber_chars` — scanning the text of a literal;
* `Literal.proper_ofInt`, `Literal.proper_ofBinary` — integers and floats have proper literals.
-/

namespace DisplayComposer

attribute [local instance] natPow

/-! ### Digits -/

theorem digitsOnto_ne_nil {fuel n : Nat} (pos : 0 < fuel) (tail : List Digit) :
    digitsOnto fuel n tail ≠ [] := by
  induction fuel generalizing n tail with
  | zero => exact absurd pos (Nat.lt_irrefl 0)
  | succ fuel ih =>
    rw [digitsOnto]
    split
    · exact List.cons_ne_nil _ _
    · rename_i large
      cases fuel with
      | zero => exact List.cons_ne_nil _ _
      | succ fuel => exact ih (Nat.succ_pos fuel) _

/-- The first digit of a positive number is not zero. -/
theorem head_digitsOnto {fuel n : Nat} (pos : 0 < n) (enough : n < 2 ^ fuel) {tail ds : List Digit}
    {d : Digit} (h : digitsOnto fuel n tail = d :: ds) : d.val ≠ 0 := by
  induction fuel generalizing n tail with
  | zero => omega
  | succ fuel ih =>
    rw [digitsOnto] at h
    split at h
    · rename_i small
      cases h
      simp only [Digit.ofNat, Fin.val_ofNat]
      omega
    · have double : 2 ^ (fuel + 1) = 2 * 2 ^ fuel := by rw [Nat.pow_succ, Nat.mul_comm]
      exact ih (by omega) (by omega) h

namespace Json

/-! ### The bytes of digits -/

/-- The byte that a digit is written as. -/
def digitByte (d : Digit) : UInt8 := asciiByte d.toChar

theorem isDigit_digitByte : ∀ d : Digit, isDigit (digitByte d) = true := by decide

theorem digitOf_digitByte : ∀ d : Digit, digitOf (digitByte d) = d := by decide

/-- Whether a byte is neither a digit nor stands in the middle of a number. -/
def EndsNumber (b : UInt8) : Prop :=
  isDigit b = false ∧ b ≠ 43 ∧ b ≠ 45 ∧ b ≠ 46 ∧ b ≠ 69 ∧ b ≠ 101

instance : DecidablePred EndsNumber := fun _ => inferInstanceAs (Decidable (_ ∧ _))

/-- What may stand behind a number. -/
def Behind (rest : Bytes) : Prop := ∀ b ∈ rest.head?, EndsNumber b

theorem behind_nil : Behind [] := nofun

theorem behind_cons {b : UInt8} (h : EndsNumber b) (rest : Bytes) : Behind (b :: rest) := by
  intro c hc
  cases hc
  exact h

/-- Digits in front of something else are scanned as they are. -/
theorem scanDigits_append (ds : List Digit) {rest : Bytes} (h : ∀ b ∈ rest.head?, isDigit b = false) :
    scanDigits (ds.map digitByte ++ rest) = (ds, rest) := by
  have all : ∀ b ∈ ds.map digitByte, isDigit b = true := by
    intro b hb
    obtain ⟨d, -, rfl⟩ := List.mem_map.1 hb
    exact isDigit_digitByte d
  have stop : rest.takeWhile isDigit = [] ∧ rest.dropWhile isDigit = rest := by
    cases rest with
    | nil => exact ⟨rfl, rfl⟩
    | cons b rest => simp [h b rfl]
  have back : (ds.map digitByte).map digitOf = ds := by
    rw [List.map_map]
    exact (List.map_congr_left fun d _ => digitOf_digitByte d).trans (List.map_id ds)
  rw [scanDigits, List.takeWhile_append_of_pos all, List.dropWhile_append_of_pos all, stop.1, stop.2,
    List.append_nil, back]

/-! ### The parts of a number -/

def fractionBytes : Option (List Digit) → Bytes
  | none => []
  | some ds => 46 :: ds.map digitByte

def signBytes : ExponentSign → Bytes
  | .unsigned => []
  | .plus => [43]
  | .minus => [45]

def exponentBytes : Option Exponent → Bytes
  | none => []
  | some e => 101 :: (signBytes e.sign ++ e.digits.map digitByte)

/-- The text of a literal, part by part. -/
theorem map_chars (l : Literal) :
    l.chars.map asciiByte =
      (if l.negative then [45] else []) ++
        (l.whole.map digitByte ++ (fractionBytes l.fraction ++ exponentBytes l.exponent)) := by
  obtain ⟨negative, whole, fraction, exponent⟩ := l
  have digits (ds : List Digit) : (ds.map Digit.toChar).map asciiByte = ds.map digitByte :=
    List.map_map
  have minus : asciiByte '-' = 45 := rfl
  have plus : asciiByte '+' = 43 := rfl
  have point : asciiByte '.' = 46 := rfl
  have mark : asciiByte 'e' = 101 := rfl
  rcases negative with _ | _ <;> rcases fraction with _ | ds <;> rcases exponent with _ | ⟨sign, es⟩ <;>
    try rcases sign with _ | _ | _
  all_goals
    simp [Literal.chars, Literal.exponentText, fractionBytes, exponentBytes, signBytes, digits, minus,
      plus, point, mark]

/-- The literals that have a text: a zero in front stands alone, and neither the fraction
nor the exponent is without digits. -/
structure Literal.Proper (l : Literal) : Prop where
  whole : l.whole ≠ []
  leading : ∀ d ds, l.whole = d :: ds → ds ≠ [] → d.val ≠ 0
  fraction : l.fraction ≠ some []
  exponent : ∀ e, l.exponent = some e → e.digits ≠ []

/-! ### Scanning the parts -/

section Scan

variable {rest : Bytes}

theorem scanWhole_digits {ds : List Digit} (behind : ∀ b ∈ rest.head?, isDigit b = false)
    (some : ds ≠ []) (leading : ∀ d tail, ds = d :: tail → tail ≠ [] → d.val ≠ 0) :
    scanWhole (ds.map digitByte ++ rest) = .ok (ds, rest) := by
  rw [scanWhole, scanDigits_append ds behind]
  match ds with
  | [] => exact absurd rfl some
  | [d] => rfl
  | d :: e :: tail =>
    have positive : d.val ≠ 0 := leading d (e :: tail) rfl (List.cons_ne_nil e tail)
    simp only [if_neg positive]

theorem scanFraction_fractionBytes {fraction : Option (List Digit)}
    (behind : ∀ b ∈ rest.head?, isDigit b = false ∧ b ≠ 46) (some : fraction ≠ some []) :
    scanFraction (fractionBytes fraction ++ rest) = .ok (fraction, rest) := by
  match fraction with
  | none =>
    cases rest with
    | nil => rfl
    | cons b rest =>
      have other : b ≠ 46 := (behind b rfl).2
      simp only [fractionBytes, List.nil_append, scanFraction, if_neg other]
  | Option.some [] => exact absurd rfl some
  | Option.some (d :: ds) =>
    have digits := scanDigits_append (d :: ds) fun b hb => (behind b hb).1
    simp only [fractionBytes, List.cons_append, scanFraction, if_true, digits]

/-- Without a sign, what follows the mark of an exponent is not taken for one. -/
theorem head_digits (ds : List Digit) (behind : Behind rest) :
    ∀ b ∈ (ds.map digitByte ++ rest).head?, b ≠ 43 ∧ b ≠ 45 := by
  have other : ∀ d : Digit, digitByte d ≠ 43 ∧ digitByte d ≠ 45 := by decide
  intro b hb
  cases ds with
  | nil => exact ⟨(behind b hb).2.1, (behind b hb).2.2.1⟩
  | cons d ds =>
    cases hb
    exact other d

/-- What an exponent is scanned as, once its sign has been. -/
theorem scanExponent_mark (sign : ExponentSign) (ds : List Digit) (behind : Behind rest) :
    scanExponent (101 :: (signBytes sign ++ ds.map digitByte) ++ rest) =
      match ds with
      | [] => .error (missingDigit rest)
      | d :: ds => .ok (some ⟨sign, d :: ds⟩, rest) := by
  have digits := scanDigits_append ds fun b hb => (behind b hb).1
  have unsigned := head_digits ds behind
  rw [List.cons_append, List.append_assoc]
  cases sign with
  | unsigned =>
    rw [signBytes, List.nil_append]
    cases text : ds.map digitByte ++ rest with
    | nil =>
      rw [text] at digits
      obtain ⟨none, rfl⟩ := List.append_eq_nil_iff.1 text
      obtain rfl := List.map_eq_nil_iff.1 none
      rfl
    | cons c behind =>
      rw [text] at digits unsigned
      obtain ⟨plus, minus⟩ := unsigned c rfl
      simp only [scanExponent, true_or, if_true, if_neg plus, if_neg minus, digits]
      cases ds <;> rfl
  | plus =>
    simp only [signBytes, List.singleton_append, scanExponent, true_or, if_true, digits]
    cases ds <;> rfl
  | minus =>
    have other : (45 : UInt8) ≠ 43 := by decide
    simp only [signBytes, List.singleton_append, scanExponent, true_or, if_true, if_neg other, digits]
    cases ds <;> rfl

theorem scanExponent_exponentBytes {exponent : Option Exponent} (behind : Behind rest)
    (some : ∀ e, exponent = some e → e.digits ≠ []) :
    scanExponent (exponentBytes exponent ++ rest) = .ok (exponent, rest) := by
  match exponent with
  | none =>
    cases rest with
    | nil => rfl
    | cons b rest =>
      obtain ⟨-, -, -, -, upper, lower⟩ := behind b rfl
      simp only [exponentBytes, List.nil_append, scanExponent, upper, lower, or_self, if_false]
  | Option.some ⟨sign, []⟩ => exact absurd rfl (some ⟨sign, []⟩ rfl)
  | Option.some ⟨sign, d :: ds⟩ => exact scanExponent_mark sign (d :: ds) behind

/-! ### Scanning a number -/

/-- What stands behind the fraction of a number. -/
theorem behind_fraction (exponent : Option Exponent) (behind : Behind rest) :
    ∀ b ∈ (exponentBytes exponent ++ rest).head?, isDigit b = false ∧ b ≠ 46 := by
  intro b hb
  cases exponent with
  | none => exact ⟨(behind b hb).1, (behind b hb).2.2.2.1⟩
  | some e =>
    cases hb
    decide

/-- What stands behind the whole digits of a number. -/
theorem behind_whole (fraction : Option (List Digit)) (exponent : Option Exponent)
    (behind : Behind rest) :
    ∀ b ∈ (fractionBytes fraction ++ (exponentBytes exponent ++ rest)).head?, isDigit b = false := by
  intro b hb
  cases fraction with
  | none => exact (behind_fraction exponent behind b hb).1
  | some ds =>
    cases hb
    decide

/-- Only a sign looks like one. -/
theorem head_chars (l : Literal) (behind : Behind rest) :
    (l.chars.map asciiByte ++ rest).head? = some 45 ↔ l.negative = true := by
  have other : ∀ d : Digit, digitByte d ≠ 45 := by decide
  rw [map_chars]
  obtain ⟨negative, whole, fraction, exponent⟩ := l
  cases negative with
  | true => exact ⟨fun _ => rfl, fun _ => rfl⟩
  | false =>
    refine iff_of_false ?_ Bool.false_ne_true
    cases whole with
    | cons d ds => simp [other d]
    | nil =>
      cases fraction with
      | some ds => simp [fractionBytes]
      | none =>
        cases exponent with
        | some e => simp [fractionBytes, exponentBytes]
        | none =>
          intro h
          exact (behind 45 h).2.2.1 rfl

/-- Scanning the text of a literal, part by part. -/
theorem scanNumber_eq (l : Literal) (behind : Behind rest) :
    scanNumber (l.chars.map asciiByte ++ rest) =
      (scanWhole (l.whole.map digitByte ++
        (fractionBytes l.fraction ++ (exponentBytes l.exponent ++ rest)))).bind fun w =>
      (scanFraction w.2).bind fun f =>
      (scanExponent f.2).bind fun e => .ok (⟨l.negative, w.1, f.1, e.1⟩, e.2) := by
  have sign : decide ((l.chars.map asciiByte ++ rest).head? = some 45) = l.negative := by
    rw [Bool.eq_iff_iff, decide_eq_true_iff]
    exact head_chars l behind
  have unsigned :
      (if (l.chars.map asciiByte ++ rest).head? = some 45
        then (l.chars.map asciiByte ++ rest).drop 1 else l.chars.map asciiByte ++ rest) =
      l.whole.map digitByte ++ (fractionBytes l.fraction ++ (exponentBytes l.exponent ++ rest)) := by
    simp only [head_chars l behind]
    rw [map_chars]
    cases l.negative <;> simp
  unfold scanNumber
  simp only [sign, unsigned]
  rfl

/-- The text of a proper literal is scanned as that literal. -/
theorem scanNumber_chars {l : Literal} (proper : l.Proper) (behind : Behind rest) :
    scanNumber (l.chars.map asciiByte ++ rest) = .ok (l, rest) := by
  rw [scanNumber_eq l behind,
    scanWhole_digits (behind_whole l.fraction l.exponent behind) proper.whole proper.leading]
  simp only [Except.bind, scanExponent_exponentBytes behind proper.exponent,
    scanFraction_fractionBytes (behind_fraction l.exponent behind) proper.fraction]

end Scan

/-! ### Integers and floats -/

theorem decimalDigits_ne_nil (n : Nat) : decimalDigits n ≠ [] :=
  digitsOnto_ne_nil (Nat.succ_pos _) []

/-- No zero stands in front of other digits. -/
theorem head_decimalDigits {n : Nat} {d : Digit} {ds : List Digit} (h : decimalDigits n = d :: ds)
    (more : ds ≠ [] ∨ 0 < n) : d.val ≠ 0 := by
  rcases Nat.eq_zero_or_pos n with rfl | positive
  · cases h
    exact absurd rfl (more.resolve_right (Nat.lt_irrefl 0))
  · exact head_digitsOnto positive Nat.lt_log2_self h

theorem Literal.proper_ofInt (n : Int) : (Literal.ofInt n).Proper where
  whole := decimalDigits_ne_nil _
  leading _ _ h more := head_decimalDigits h (.inl more)
  fraction := nofun
  exponent := nofun

/-- A decimal has a proper literal, however it is laid out: its digits begin with a zero only if
that is all of them, and then it stands in front of the point. -/
theorem Literal.proper_ofDecimal (layout : Literal.Positional) (negative : Bool) {d : Decimal}
    (nonzero : 0 < d.significand ∨ d.exponent = 0) : (Literal.ofDecimal layout negative d).Proper := by
  obtain ⟨first, others, digits⟩ := List.exists_cons_of_ne_nil (decimalDigits_ne_nil d.significand)
  have single : d.significand = 0 → others = [] := fun zero => by
    rw [zero] at digits
    exact (List.cons.inj digits).2.symm
  unfold ofDecimal
  dsimp only
  rw [digits]
  split
  · split
    · rw [List.cons_append, List.take_succ_cons, List.drop_succ_cons]
      refine ⟨List.cons_ne_nil _ _, ?_, ?_, nofun⟩
      · rintro e ds ⟨⟩ more
        obtain positive | flat := nonzero
        · exact head_decimalDigits digits (.inr positive)
        · refine head_decimalDigits digits (Nat.eq_zero_or_pos _ |>.imp_left fun zero => ?_)
          rw [single zero, flat] at more
          exact absurd rfl more
      · rw [ne_eq, Option.some.injEq, List.drop_eq_nil_iff, List.length_append,
          List.length_replicate, List.length_cons]
        omega
    · exact ⟨List.cons_ne_nil _ _, by rintro d ds ⟨⟩ more; exact absurd rfl more, by simp, nofun⟩
  · refine ⟨List.cons_ne_nil _ _, ?_, ?_, ?_⟩
    · rintro d ds ⟨⟩ more
      exact absurd rfl more
    · cases others <;> simp
    · rintro e ⟨⟩
      exact decimalDigits_ne_nil _

/-- So has every finite number of single precision. -/
theorem Literal.proper_ofBinary (layout : Literal.Positional) {x : Single}
    (finite : x.isFinite = true) : (Literal.ofBinary layout x).Proper := by
  refine proper_ofDecimal layout x.negative ?_
  cases nonzero : x.isZero with
  | false => exact .inl (Single.shortest_pos finite nonzero)
  | true => exact .inr (by rw [Binary.shortest, if_pos nonzero])

end Json

end DisplayComposer
