import DisplayComposer.Proofs.Json.Literal
import DisplayComposer.Proofs.Toml.Quoted
import DisplayComposer.Toml.Document
/-!
# DisplayComposer.Proofs.Toml.Reader

**Lines read back.** A line that was written for a setting is read as that setting, and so is
every kind of value that a setting can have. What is left of a document when some lines are
read does not depend on them, so lines are put together as texts that say some statements,
whatever follows.

* `integer?_signedText`, `readValue?_settingText` — values;
* `Bare`, `readKey?_bare` — keys that need no quotes;
* `Says` — a text of whole lines, and its statements;
* `says_setting`, `says_header`, `says_element` — one line.
-/

namespace DisplayComposer.Toml

/-! ### Numbers -/

theorem toChar_isTokenChar : ∀ d : Digit, isTokenChar d.toChar = true := by decide

/-- Characters other than digits that mean something where a number can stand. -/
def marks : List Char := ['+', '-', '_', 'x', 'o', 'b', 't', 'f']

theorem toChar_ne (d : Digit) {mark : Char} (hmark : mark ∈ marks) : d.toChar ≠ mark := by
  have hnot : ∀ d : Digit, d.toChar ∉ marks := by decide
  rintro rfl
  exact hnot d hmark

theorem toChar_eq_zero : ∀ d : Digit, d.toChar = '0' → d.val = 0 := by decide

theorem digitValue?_toChar : ∀ d : Digit, digitValue? 10 d.toChar = some d.val := by decide

/-- Digits have no underscores between them. -/
theorem ungroup?_digits {ds : List Digit} (h : ds ≠ []) :
    ungroup? (ds.map Digit.toChar) = some (ds.map Digit.toChar) := by
  have hne : ∀ d : Digit, d.toChar ≠ '_' := fun d => toChar_ne d (by decide)
  induction ds with
  | nil => exact absurd rfl h
  | cons d ds ih =>
    cases ds with
    | nil => exact if_neg (hne d)
    | cons e ds =>
      rw [List.map_cons, List.map_cons, ungroup?, if_neg (hne d), if_neg (hne e)]
      rw [List.map_cons] at ih
      rw [ih (List.cons_ne_nil e ds), Option.map_some]

theorem natural?_digits {ds : List Digit} (h : ds ≠ []) :
    natural? 10 (ds.map Digit.toChar) = some (ofDigits ds) := by
  have hvalues : (ds.map Digit.toChar).mapM (digitValue? 10) = some (ds.map Fin.val) := by
    clear h
    induction ds with
    | nil => rfl
    | cons d ds ih => rw [List.map_cons, List.mapM_cons, digitValue?_toChar, ih]; rfl
  rw [natural?, ungroup?_digits h]
  simp only [bind, Option.bind, hvalues, pure, List.foldl_map]
  rfl

theorem whole?_decimalDigits (n : Nat) :
    whole? ((decimalDigits n).map Digit.toChar) = some n := by
  have hdigits := natural?_digits (Json.decimalDigits_ne_nil n)
  rw [ofDigits_decimalDigits] at hdigits
  rw [whole?, hdigits]
  -- only zero begins with a zero
  intro c cs hzero
  cases hds : decimalDigits n with
  | nil => exact Json.decimalDigits_ne_nil n hds
  | cons d ds =>
    rw [hds] at hzero
    obtain ⟨hd, hmore⟩ := List.cons.inj hzero
    have hne : ds ≠ [] := by
      rintro rfl
      cases hmore
    exact Json.head_decimalDigits hds (.inl hne) (toChar_eq_zero d hd)

theorem signedText_toList (n : Int) : (signedText n).toList =
    (if n < 0 then ['-'] else []) ++ (decimalDigits n.natAbs).map Digit.toChar := by
  rw [signedText, decimalText]
  split <;> simp

/-- Digits have no mark in front that says what they are. -/
theorem integerValue?_digits (n : Nat) :
    integerValue? ((decimalDigits n).map Digit.toChar) = some (n : Int) := by
  have hbase : ∀ {mark : Char} {tail : List Char}, mark ∈ marks →
      (decimalDigits n).map Digit.toChar ≠ '0' :: mark :: tail := by
    intro mark tail hmark heq
    have hmem : mark ∈ (decimalDigits n).map Digit.toChar := heq ▸ by simp
    obtain ⟨d, -, hd⟩ := List.mem_map.1 hmem
    exact toChar_ne d hmark hd
  have hsign : splitSign ((decimalDigits n).map Digit.toChar) =
      (false, (decimalDigits n).map Digit.toChar) := by
    cases hds : decimalDigits n with
    | nil => rfl
    | cons d ds =>
      rw [splitSign]
      · exact fun _ heq => toChar_ne d (by decide) (List.cons.inj heq).1
      · exact fun _ heq => toChar_ne d (by decide) (List.cons.inj heq).1
  rw [integerValue?, hsign]
  · simp only [whole?_decimalDigits]
    rfl
  · exact fun _ => hbase (by decide)
  · exact fun _ => hbase (by decide)
  · exact fun _ => hbase (by decide)

/-- An integer that a document can hold is written as it is read. -/
theorem integer?_signedText {n : Int} (h : inRange n = true) :
    integer? (signedText n).toList = some n := by
  have hvalue : integerValue? (signedText n).toList = some n := by
    rw [signedText_toList]
    by_cases hneg : n < 0
    · rw [if_pos hneg, List.singleton_append, integerValue?]
      · simp only [splitSign, whole?_decimalDigits]
        show some (-(n.natAbs : Int)) = some n
        exact congrArg some (by omega)
      · exact fun _ heq => absurd (List.cons.inj heq).1 (by decide)
      · exact fun _ heq => absurd (List.cons.inj heq).1 (by decide)
      · exact fun _ heq => absurd (List.cons.inj heq).1 (by decide)
    · rw [if_neg hneg, List.nil_append, integerValue?_digits]
      exact congrArg some (by omega)
  rw [integer?, hvalue, Option.filter_some, if_pos h]

/-! ### Values -/

theorem isTokenChar_ne {c : Char} (h : isTokenChar c = true) :
    c ∉ ['[', '{', '"', '\'', '\n'] := by
  intro hc
  simp only [List.mem_cons, List.not_mem_nil, or_false] at hc
  rcases hc with rfl | rfl | rfl | rfl | rfl <;> cases h

variable {c : Char} {cs rest : List Char}

/-- What does not begin with a bracket is a quoted text or a token. -/
theorem readValue?_eq (hbracket : c ≠ '[') (hbrace : c ≠ '{') : readValue? (c :: cs) =
    match readQuoted? (c :: cs) with
    | some (text, rest) => some (.string (String.ofList text), rest)
    | none => readToken? (c :: cs) := by
  show readValueUpTo? (78 + 1) (c :: cs) = _
  unfold readValueUpTo?
  split
  next heq => exact absurd (List.cons.inj heq).1 hbracket
  next heq => exact absurd (List.cons.inj heq).1 hbrace
  next => rfl

/-- What begins with a character of a token is one. -/
theorem readValue?_token (hc : isTokenChar c = true) :
    readValue? (c :: cs) = readToken? (c :: cs) := by
  have hnot := isTokenChar_ne hc
  simp only [List.mem_cons, not_or] at hnot
  obtain ⟨hbracket, hbrace, hdouble, hsingle, -⟩ := hnot
  have hopen : opening? (c :: cs) = none := by
    rw [opening?]
    · exact fun _ heq => hdouble (List.cons.inj heq).1
    · exact fun _ heq => hsingle (List.cons.inj heq).1
    · exact fun _ heq => hdouble (List.cons.inj heq).1
    · exact fun _ heq => hsingle (List.cons.inj heq).1
  have hquoted : readQuoted? (c :: cs) = none := by
    rw [readQuoted?, hopen]
    rfl
  rw [readValue?_eq hbracket hbrace, hquoted]

theorem readValue?_quoted (s : String) :
    readValue? (quoted s.toList ++ '\n' :: rest) = some (.string s, '\n' :: rest) := by
  have hread : readQuoted? (quoted s.toList ++ '\n' :: rest) = some (s.toList, '\n' :: rest) :=
    readQuoted?_quoted _ fun h => newline_ne_quote _ (Option.some.inj h)
  have hhead := head?_quoted s.toList
  cases hquoted : quoted s.toList with
  | nil =>
    rw [hquoted] at hhead
    cases hhead
  | cons q tail =>
    rw [hquoted] at hhead
    rw [hquoted, List.cons_append] at hread
    obtain rfl := Option.some.inj hhead
    have hother : (Style.of s.toList).quote ≠ '[' ∧ (Style.of s.toList).quote ≠ '{' := by
      rcases (Style.of s.toList).quote_eq with h | h <;> rw [h] <;> decide
    rw [List.cons_append, readValue?_eq hother.1 hother.2, hread]
    dsimp only
    rw [String.ofList_toList]

theorem readValue?_integer {n : Int} (h : inRange n = true) :
    readValue? ((signedText n).toList ++ '\n' :: rest) = some (.integer n, '\n' :: rest) := by
  have hchars : ∀ c ∈ (signedText n).toList, isTokenChar c = true ∧ c ≠ 't' ∧ c ≠ 'f' := by
    intro c hc
    rw [signedText_toList, List.mem_append] at hc
    rcases hc with hc | hc
    · split at hc
      · obtain rfl := List.mem_singleton.1 hc
        decide
      · cases hc
    · obtain ⟨d, -, rfl⟩ := List.mem_map.1 hc
      exact ⟨toChar_isTokenChar d, toChar_ne d (by decide), toChar_ne d (by decide)⟩
  have hvalue := integer?_signedText h
  cases htext : (signedText n).toList with
  | nil =>
    rw [htext] at hvalue
    cases hvalue
  | cons c cs =>
    rw [htext] at hvalue hchars
    obtain ⟨htoken, ht, hf⟩ := hchars c (List.mem_cons_self ..)
    have hend : ∀ c ∈ ('\n' :: rest).head?, isTokenChar c = false := fun c hc => by
      cases hc
      rfl
    have htake := takeWhile_word (fun c hc => (hchars c hc).1) hend
    have hdrop := dropWhile_word (fun c hc => (hchars c hc).1) hend
    rw [List.cons_append] at htake hdrop ⊢
    rw [readValue?_token htoken, readToken?, htake, hdrop,
      if_neg fun heq => ht (List.cons.inj heq).1, if_neg fun heq => hf (List.cons.inj heq).1,
      hvalue]

theorem readValue?_boolean (b : Bool) :
    readValue? ((if b then "true" else "false").toList ++ '\n' :: rest) =
      some (.boolean b, '\n' :: rest) := by
  cases b <;> rfl

/-- **The text of a value reads back** at the end of a line. -/
theorem readValue?_settingText {v : Value} {text : List Char}
    (h : Document.settingText? v = some text) :
    readValue? (text ++ '\n' :: rest) = some (v, '\n' :: rest) := by
  unfold Document.settingText? at h
  split at h
  · cases h
    exact readValue?_quoted _
  · obtain ⟨hrange, h⟩ := Option.ite_none_right_eq_some.1 h
    cases h
    exact readValue?_integer hrange
  · cases h
    exact readValue?_boolean _
  · cases h
    rfl
  · cases h

/-- A value does not begin with a blank. -/
theorem skipBlanks_of_readValue? {r : Value × List Char} (h : readValue? cs = some r) :
    skipBlanks cs = cs := by
  cases cs with
  | nil => rfl
  | cons c cs =>
    cases hc : isBlank c with
    | false => exact skipBlanks_of_not_isBlank hc
    | true =>
      simp only [isBlank, Bool.or_eq_true, decide_eq_true_eq] at hc
      rcases hc with rfl | rfl <;> cases h

/-! ### Keys -/

/-- A key that is a bare word. -/
def Bare (k : String) : Prop := k.toList.isEmpty = false ∧ k.toList.all isBareChar = true

instance : DecidablePred Bare := fun k =>
  inferInstanceAs (Decidable (k.toList.isEmpty = false ∧ k.toList.all isBareChar = true))

theorem isBareChar_ne (h : isBareChar c = true) :
    isBlank c = false ∧ c ∉ ['[', ']', '#', '\n', '\r', '\ufeff'] := by
  refine ⟨?_, fun hc => ?_⟩
  · rw [isBlank, Bool.or_eq_false_iff]
    constructor <;> rw [decide_eq_false_iff_not] <;> rintro rfl <;> cases h
  · simp only [List.mem_cons, List.not_mem_nil, or_false] at hc
    rcases hc with rfl | rfl | rfl | rfl | rfl | rfl <;> cases h

variable {k : String}

/-- A bare word begins with a character of one. -/
theorem Bare.exists_cons (hk : Bare k) (rest : List Char) :
    ∃ c cs, k.toList ++ rest = c :: cs ∧ isBareChar c = true := by
  obtain ⟨hne, hall⟩ := hk
  cases htext : k.toList with
  | nil => exact absurd htext (List.isEmpty_eq_false_iff.1 hne)
  | cons c cs =>
    exact ⟨c, cs ++ rest, rfl, List.all_eq_true.1 hall c (htext ▸ List.mem_cons_self ..)⟩

theorem Bare.skipBlanks (hk : Bare k) (rest : List Char) :
    skipBlanks (k.toList ++ rest) = k.toList ++ rest := by
  obtain ⟨c, cs, heq, hc⟩ := hk.exists_cons rest
  rw [heq, skipBlanks_of_not_isBlank (isBareChar_ne hc).1]

/-- A bare word is read as a key, with the blanks behind it. -/
theorem readKey?_bare (hk : Bare k) (hstop : ∀ c ∈ rest.head?, isBareChar c = false)
    (hdot : ∀ cs, skipBlanks rest ≠ '.' :: cs) :
    readKey? (k.toList ++ rest) = some (⟨[], k⟩, skipBlanks rest) := by
  have hpart : readPart? (k.toList ++ rest) = some (k, rest) := by
    have hall := List.all_eq_true.1 hk.2
    rw [readPart?, takeWhile_word hall hstop, dropWhile_word hall hstop, hk.1,
      String.ofList_toList]
    rfl
  show readKeyUpTo? (78 + 1) (k.toList ++ rest) = _
  rw [readKeyUpTo?, hk.skipBlanks, hpart]
  simp only [bind, Option.bind]
  rfl

/-! ### Lines -/

/-- The statements of a document, however much fuel there is. -/
def Reads (cs : List Char) (statements : List Statement) : Prop :=
  ∀ fuel, cs.length ≤ fuel → readLines? fuel cs = some statements

theorem reads_nil : Reads [] [] := by
  intro fuel _
  cases fuel <;> rfl

/-- The lines of a text say some statements, whatever the lines behind it say. -/
def Says (text : List Char) (statements : List Statement) : Prop :=
  ∀ rest more, Reads rest more → Reads (text ++ rest) (statements ++ more)

theorem says_nil : Says [] [] := fun _ _ h => h

theorem Says.append {text text' : List Char} {statements statements' : List Statement}
    (h : Says text statements) (h' : Says text' statements') :
    Says (text ++ text') (statements ++ statements') := by
  intro rest more hrest
  rw [List.append_assoc, List.append_assoc]
  exact h _ _ (h' _ _ hrest)

/-- A line says what it is read as, if that takes all of it. -/
theorem says_line {line : List Char} {statement : Option Statement}
    (h : ∀ rest, readLine? (line ++ '\n' :: rest) = some (statement, '\n' :: rest)) :
    Says (line ++ ['\n']) statement.toList := by
  intro rest more hrest fuel hfuel
  rw [List.append_assoc, List.singleton_append] at hfuel ⊢
  rw [List.length_append, List.length_cons] at hfuel
  obtain ⟨fuel, rfl⟩ := Nat.exists_eq_add_one.2 (Nat.lt_of_lt_of_le (by omega) hfuel)
  have hend : endLine? ('\n' :: rest) = some rest := rfl
  rw [readLines?, h rest]
  · simp only [bind, Option.bind, hend, hrest fuel (by omega), pure]
  · simp

/-- What does not begin with a bracket and is not empty is a setting. -/
theorem readLine?_bare (hk : Bare k) (rest : List Char) : readLine? (k.toList ++ rest) =
    (readSetting? readValue? (k.toList ++ rest)).map fun (s, rest) =>
      (some (.setting s.1 s.2), rest) := by
  have hblanks := hk.skipBlanks rest
  obtain ⟨c, cs, heq, hc⟩ := hk.exists_cons rest
  have hnot := (isBareChar_ne hc).2
  simp only [List.mem_cons, not_or] at hnot
  obtain ⟨hbracket, -, hcomment, hnewline, hreturn, -⟩ := hnot
  rw [heq] at hblanks ⊢
  rw [readLine?, hblanks]
  split
  · rename_i hnil
    cases hnil
  · rename_i hcons
    exact absurd (List.cons.inj hcons).1 hbracket
  · rename_i hcons
    exact absurd (List.cons.inj hcons).1 hbracket
  · rename_i hcons
    obtain ⟨rfl, rfl⟩ := List.cons.inj hcons
    rw [if_neg (by simp [hcomment, hnewline, hreturn])]
    cases readSetting? readValue? (c :: cs) <;> rfl

/-- The line of a setting. -/
theorem says_setting (hk : Bare k) {v : Value} {text : List Char}
    (h : Document.settingText? v = some text) :
    Says (k.toList ++ [' ', '=', ' '] ++ text ++ ['\n']) [.setting ⟨[], k⟩ v] := by
  show Says _ (some (Statement.setting ⟨[], k⟩ v)).toList
  refine says_line fun rest => ?_
  have hvalue : readValue? (text ++ '\n' :: rest) = some (v, '\n' :: rest) :=
    readValue?_settingText h
  have hkey : readKey? (k.toList ++ ' ' :: '=' :: ' ' :: (text ++ '\n' :: rest)) =
      some (⟨[], k⟩, '=' :: ' ' :: (text ++ '\n' :: rest)) :=
    readKey?_bare hk (fun c hc => by cases hc; rfl) fun cs hdot => by cases hdot
  have hline : k.toList ++ [' ', '=', ' '] ++ text ++ '\n' :: rest =
      k.toList ++ ' ' :: '=' :: ' ' :: (text ++ '\n' :: rest) := by simp
  rw [hline, readLine?_bare hk, readSetting?, hkey]
  have hblank : skipBlanks (' ' :: (text ++ '\n' :: rest)) =
      skipBlanks (text ++ '\n' :: rest) := rfl
  simp only [bind, Option.bind, hblank, skipBlanks_of_readValue? hvalue, hvalue]
  rfl

/-- The line of a header. -/
theorem says_header (hk : Bare k) : Says (['['] ++ k.toList ++ [']', '\n']) [.header ⟨[], k⟩] := by
  show Says (['['] ++ k.toList ++ ([']'] ++ ['\n'])) (some (Statement.header ⟨[], k⟩)).toList
  rw [← List.append_assoc]
  refine says_line fun rest => ?_
  have hkey : readKey? (k.toList ++ ']' :: '\n' :: rest) = some (⟨[], k⟩, ']' :: '\n' :: rest) :=
    readKey?_bare hk (fun c hc => by cases hc; rfl) fun cs hdot => by cases hdot
  obtain ⟨c, cs, heq, hc⟩ := hk.exists_cons (']' :: '\n' :: rest)
  have hline : ['['] ++ k.toList ++ [']'] ++ '\n' :: rest =
      '[' :: (k.toList ++ ']' :: '\n' :: rest) := by simp
  have hsingle : c ≠ '[' := by
    rintro rfl
    cases hc
  rw [heq] at hkey hline
  rw [hline, readLine?, skipBlanks_of_not_isBlank (by decide)]
  split
  · rename_i hnil
    cases hnil
  · rename_i hcons
    exact absurd (List.cons.inj (List.cons.inj hcons).2).1 hsingle
  · rename_i hcons
    obtain rfl := (List.cons.inj hcons).2
    simp only [bind, Option.bind, hkey]
    rfl
  · rename_i hnot hcons
    exact absurd (List.cons.inj hcons).1.symm hnot

/-- The line of an element of an array of tables. -/
theorem says_element (hk : Bare k) :
    Says (['[', '['] ++ k.toList ++ [']', ']', '\n']) [.element ⟨[], k⟩] := by
  show Says (['[', '['] ++ k.toList ++ ([']', ']'] ++ ['\n']))
    (some (Statement.element ⟨[], k⟩)).toList
  rw [← List.append_assoc]
  refine says_line fun rest => ?_
  have hkey : readKey? (k.toList ++ ']' :: ']' :: '\n' :: rest) =
      some (⟨[], k⟩, ']' :: ']' :: '\n' :: rest) :=
    readKey?_bare hk (fun c hc => by cases hc; rfl) fun cs hdot => by cases hdot
  have hline : ['[', '['] ++ k.toList ++ [']', ']'] ++ '\n' :: rest =
      '[' :: '[' :: (k.toList ++ ']' :: ']' :: '\n' :: rest) := by simp
  rw [hline, readLine?, skipBlanks_of_not_isBlank (by decide)]
  simp only [bind, Option.bind, hkey]
  rfl

/-- An empty line says nothing. -/
theorem says_empty : Says ['\n'] [] := by
  show Says ([] ++ ['\n']) (none : Option Statement).toList
  exact says_line fun rest => rfl

end DisplayComposer.Toml
