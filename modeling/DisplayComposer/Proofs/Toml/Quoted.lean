import DisplayComposer.Toml.Quoted
/-!
# DisplayComposer.Proofs.Toml.Quoted

**Quoted text reads back.** Whatever the characters of a text are, scanning what was written for
it gives them again, and stops behind the closing quote. What is written is a sequence of pieces
that are scanned one by one, but for quotes: whether one closes the text depends on how many
stand together, so runs of them are kept shorter than what closes the text. At the end of a
text between tripled quotes a run and the closing quotes are one, and are taken apart again.

* `takeWhile_word`, `dropWhile_word` — where a word ends;
* `Scans` — a piece that stands for some characters;
* `Written` — what is written for some characters behind a run of quotes;
* `written_escaped`, `written_literal` — the two ways of writing;
* `readQuoted?_quoted` — reading a quoted text.
-/

namespace DisplayComposer.Toml

/-- How many quotes may stand together in a text. -/
def Style.limit (style : Style) : Nat := if style.multiline then 2 else 0

variable {style : Style} {run : Nat} {cs body piece tail rest : List Char} {c : Char} {m : Bool}

/-! ### Words -/

section Words

variable {p : Char → Bool} {word : List Char}

/-- A word ends where a character follows that is not of its kind. -/
theorem takeWhile_word (hword : ∀ c ∈ word, p c = true) (hrest : ∀ c ∈ rest.head?, p c = false) :
    (word ++ rest).takeWhile p = word := by
  rw [List.takeWhile_append_of_pos hword]
  cases rest with
  | nil => exact List.append_nil word
  | cons c rest =>
    rw [List.takeWhile_cons_of_neg (by simp [hrest c rfl]), List.append_nil]

theorem dropWhile_word (hword : ∀ c ∈ word, p c = true) (hrest : ∀ c ∈ rest.head?, p c = false) :
    (word ++ rest).dropWhile p = rest := by
  rw [List.dropWhile_append_of_pos hword]
  cases rest with
  | nil => rfl
  | cons c rest => exact List.dropWhile_cons_of_neg (by simp [hrest c rfl])

end Words

/-! ### Pieces -/

/-- What is not a quote does not end a text. -/
theorem Style.end?_of_ne (hc : c ≠ style.quote) (cs : List Char) : style.end? (c :: cs) = none := by
  unfold Style.end? tripleEnd?
  split
  · rw [List.takeWhile_cons_of_neg (by simpa using hc)]
    rfl
  · exact if_neg fun h => hc (Option.some.inj h)

theorem scan_next {mode mode' : Mode} {text : List Char}
    (h : style.step mode c cs = .next text mode') :
    scan style mode (c :: cs) =
      (scan style mode' cs).map fun (more, rest) => (text ++ more, rest) := by
  rw [scan, h]

theorem scan_silent {mode mode' : Mode} (h : style.step mode c cs = .next [] mode') :
    scan style mode (c :: cs) = scan style mode' cs := by
  rw [scan_next h]
  cases scan style mode' cs <;> rfl

theorem scan_close {mode : Mode} {text : List Char}
    (h : style.step mode c cs = .close text rest) :
    scan style mode (c :: cs) = some (text, rest) := by
  rw [scan, h]

/-- Where nothing was begun, a piece is scanned as some text, whatever follows. -/
def Scans (style : Style) (piece text : List Char) : Prop :=
  ∀ tail, scan style .plain (piece ++ tail) =
    (scan style .plain tail).map fun (more, rest) => (text ++ more, rest)

theorem isTextChar_ne (hc : isTextChar c = true) : c ≠ '\n' ∧ c ≠ '\r' := by
  constructor <;> rintro rfl <;> cases hc

theorem scans_char (hquote : c ≠ style.quote) (hslash : c = '\\' → style.basic = false)
    (htext : isTextChar c = true) : Scans style [c] [c] := by
  intro tail
  obtain ⟨hnewline, hreturn⟩ := isTextChar_ne htext
  have hescape : ¬ (c = '\\' ∧ style.basic = true) := fun h => by
    rw [hslash h.1] at h
    cases h.2
  refine scan_next ?_
  rw [Style.step, Style.plainStep, Style.end?_of_ne hquote]
  dsimp only
  rw [if_neg hescape, if_neg hnewline, if_neg hreturn, if_pos htext]

theorem newline_ne_quote (style : Style) : '\n' ≠ style.quote := by
  unfold Style.quote
  split <;> decide

theorem scans_newline (hmultiline : style.multiline = true) : Scans style ['\n'] ['\n'] := by
  intro tail
  refine scan_next ?_
  rw [Style.step, Style.plainStep, Style.end?_of_ne (newline_ne_quote style)]
  dsimp only
  rw [if_neg (by simp), if_pos rfl, if_pos hmultiline]

/-- A backslash in a basic text. -/
theorem scan_backslash (tail : List Char) :
    scan ⟨true, m⟩ .plain ('\\' :: tail) = scan ⟨true, m⟩ .escape tail := by
  refine scan_silent ?_
  rw [Style.step, Style.plainStep, Style.end?_of_ne (by simp [Style.quote])]
  dsimp only
  rw [if_pos ⟨rfl, rfl⟩]

theorem scans_escape {e : Char} (he : simpleEscape? e = some c) :
    Scans ⟨true, m⟩ ['\\', e] [c] := by
  intro tail
  have hunit : e ≠ 'u' ∧ e ≠ 'U' := by
    constructor <;> rintro rfl <;> cases he
  refine (scan_backslash (e :: tail)).trans (scan_next ?_)
  rw [Style.step, Style.escapeStep, if_neg hunit.1, if_neg hunit.2, he]

theorem hexDigit?_toUpper (n : Nat) : hexDigit? (hexDigit n).toUpper = some (n % 16) := by
  have hbelow : ∀ n < 16, hexDigit? (hexDigit n).toUpper = some n := by decide
  rw [← hbelow (n % 16) (Nat.mod_lt _ (by decide))]
  unfold hexDigit
  rw [Nat.mod_mod]

theorem charOf?_toNat (c : Char) : charOf? c.toNat = some c := by
  have hvalid : c.toNat.isValidChar := c.valid
  rw [charOf?, if_pos hvalid, Char.ofNat_toNat]

/-- A character by its number, if that has four digits. -/
theorem scans_unit (hc : c.toNat < 65536) :
    Scans ⟨true, m⟩ ('\\' :: 'u' :: unitDigits c.toNat) [c] := by
  intro tail
  have hopen : Style.step ⟨true, m⟩ .escape 'u' (unitDigits c.toNat ++ tail) =
      .next [] (.digits 3 0) := by
    rw [Style.step, Style.escapeStep, if_pos rfl]
  have hdigit : ∀ left value n (tail : List Char),
      Style.step ⟨true, m⟩ (.digits (left + 1) value) (hexDigit n).toUpper tail =
        .next [] (.digits left (16 * value + n % 16)) := by
    intro left value n tail
    rw [Style.step, digitStep, hexDigit?_toUpper]
  have hlast : ∀ value n (tail : List Char), 16 * value + n % 16 = c.toNat →
      Style.step ⟨true, m⟩ (.digits 0 value) (hexDigit n).toUpper tail = .next [c] .plain := by
    intro value n tail hvalue
    rw [Style.step, digitStep, hexDigit?_toUpper]
    dsimp only
    rw [hvalue, charOf?_toNat]
  refine (scan_backslash ('u' :: (unitDigits c.toNat ++ tail))).trans ?_
  rw [scan_silent hopen]
  show scan ⟨true, m⟩ (.digits 3 0) ((hexDigit (c.toNat / 4096)).toUpper ::
    (hexDigit (c.toNat / 256)).toUpper :: (hexDigit (c.toNat / 16)).toUpper ::
    (hexDigit c.toNat).toUpper :: tail) = _
  rw [scan_silent (hdigit ..), scan_silent (hdigit ..), scan_silent (hdigit ..)]
  exact scan_next (hlast _ _ _ (by omega))

/-! ### What is written -/

/-- What is written for some characters behind a run of quotes. -/
inductive Written (style : Style) : (run : Nat) → List Char → List Char → Prop where
  | nil {run : Nat} : Written style run [] []
  | quote {run : Nat} {cs body : List Char} : run < style.limit → Written style (run + 1) cs body →
      Written style run (style.quote :: cs) (style.quote :: body)
  | newline {run : Nat} {cs body : List Char} : style.multiline = true → Written style 0 cs body →
      Written style run ('\n' :: cs) ('\n' :: body)
  | piece {run : Nat} {cs body : List Char} (c : Char) (more text : List Char) :
      c ≠ style.quote → c ≠ '\n' → c ≠ '\r' → Scans style (c :: more) text →
      Written style 0 cs body → Written style run (text ++ cs) (c :: more ++ body)

theorem Written.char (hquote : c ≠ style.quote) (hslash : c = '\\' → style.basic = false)
    (htext : isTextChar c = true) (h : Written style 0 cs body) :
    Written style run (c :: cs) (c :: body) :=
  .piece c [] [c] hquote (isTextChar_ne htext).1 (isTextChar_ne htext).2
    (scans_char hquote hslash htext) h

/-- Escapes begin with a backslash. -/
theorem Written.escape {more : List Char} (hscans : Scans ⟨true, m⟩ ('\\' :: more) [c])
    (h : Written ⟨true, m⟩ 0 cs body) :
    Written ⟨true, m⟩ run (c :: cs) ('\\' :: more ++ body) :=
  .piece '\\' more [c] (by simp [Style.quote]) (by decide) (by decide) hscans h

theorem toNat_lt_of_not_isTextChar (h : isTextChar c = false) : c.toNat < 65536 := by
  have hlow : ¬ (32 ≤ c.toNat ∧ c.toNat ≠ 127) := fun hboth => by
    simp [isTextChar, hboth.1, hboth.2] at h
  omega

theorem written_escapeChar (hquote : c ≠ '"') (h : Written ⟨true, m⟩ 0 cs body) :
    Written ⟨true, m⟩ run (c :: cs) (escapeChar m c ++ body) := by
  unfold escapeChar
  by_cases hslash : c = '\\'
  · rw [if_pos hslash]
    subst hslash
    exact .escape (scans_escape rfl) h
  rw [if_neg hslash]
  by_cases htab : c = '\t'
  · rw [if_pos htab]
    exact .escape (scans_escape (htab ▸ rfl)) h
  rw [if_neg htab]
  by_cases hnewline : c = '\n'
  · rw [if_pos hnewline]
    subst hnewline
    cases m with
    | true => exact .newline rfl h
    | false => exact .escape (scans_escape rfl) h
  rw [if_neg hnewline]
  by_cases hback : c = '\x08'
  · rw [if_pos hback]
    exact .escape (scans_escape (hback ▸ rfl)) h
  rw [if_neg hback]
  by_cases hfeed : c = '\x0c'
  · rw [if_pos hfeed]
    exact .escape (scans_escape (hfeed ▸ rfl)) h
  rw [if_neg hfeed]
  by_cases hreturn : c = '\r'
  · rw [if_pos hreturn]
    exact .escape (scans_escape (hreturn ▸ rfl)) h
  rw [if_neg hreturn]
  by_cases htext : isTextChar c = true
  · rw [if_pos htext]
    exact .char hquote (fun hc => absurd hc hslash) htext h
  · rw [if_neg htext]
    exact .escape (scans_unit (toNat_lt_of_not_isTextChar (by simpa using htext))) h

/-- A basic text, with its escapes. -/
theorem written_escaped (m : Bool) (run : Nat) (cs : List Char) :
    Written ⟨true, m⟩ run cs (escaped m run cs) := by
  induction cs generalizing run with
  | nil => exact .nil
  | cons c cs ih =>
    rw [escaped]
    by_cases hquote : c = '"'
    · subst hquote
      rw [if_pos rfl]
      by_cases hroom : run < Style.limit ⟨true, m⟩
      · rw [if_pos (show run < if m then 2 else 0 from hroom)]
        exact .quote hroom (ih (run + 1))
      · rw [if_neg (show ¬ run < if m then 2 else 0 from hroom)]
        exact .escape (scans_escape rfl) (ih 0)
    · rw [if_neg hquote]
      exact written_escapeChar hquote (ih 0)

theorem le_longestRun (c : Char) (run : Nat) (cs : List Char) : run ≤ longestRun c run cs := by
  induction cs generalizing run with
  | nil => exact Nat.le_refl run
  | cons d cs ih =>
    rw [longestRun]
    split
    · exact Nat.le_trans (Nat.le_succ run) (ih (run + 1))
    · exact Nat.le_max_left ..

/-- A literal text, as it is. -/
theorem written_literal (hescapes : cs.any isEscapedOnly = false)
    (hnewline : cs.contains '\n' = true → m = true)
    (hrun : longestRun '\'' run cs ≤ Style.limit ⟨false, m⟩) : Written ⟨false, m⟩ run cs cs := by
  induction cs generalizing run with
  | nil => exact .nil
  | cons c cs ih =>
    rw [List.any_cons, Bool.or_eq_false_iff] at hescapes
    obtain ⟨hescape, hescapes⟩ := hescapes
    have hrest := fun {run : Nat} => @ih run hescapes fun h => hnewline (by
      rw [List.contains_cons, h, Bool.or_true])
    rw [longestRun] at hrun
    by_cases hquote : c = '\''
    · rw [if_pos hquote] at hrun
      subst hquote
      exact .quote (Nat.lt_of_lt_of_le (Nat.lt_succ_self run)
        (Nat.le_trans (le_longestRun ..) hrun)) (hrest hrun)
    · rw [if_neg hquote] at hrun
      have hrest := hrest (Nat.le_trans (Nat.le_max_right ..) hrun)
      by_cases hc : c = '\n'
      · subst hc
        exact .newline (hnewline (by simp)) hrest
      · have htext : isTextChar c = true := by simpa [isEscapedOnly, hc] using hescape
        exact .char hquote (fun _ => rfl) htext hrest

/-! ### The end of a text -/

/-- The quotes that begin a text: all of it, or fewer than close it. -/
theorem Written.leading (h : Written style run cs body) (hrun : run ≤ style.limit) :
    (∃ k, run + k ≤ style.limit ∧ body = .replicate k style.quote ∧
      cs = .replicate k style.quote) ∨
    ∃ k, run + k ≤ style.limit ∧
      ∀ tail, (body ++ tail).takeWhile (· = style.quote) = .replicate k style.quote := by
  induction h with
  | nil => exact .inl ⟨0, hrun, rfl, rfl⟩
  | quote hroom _ ih =>
    rcases ih hroom with ⟨k, hk, rfl, rfl⟩ | ⟨k, hk, htake⟩
    · exact .inl ⟨k + 1, by omega, rfl, rfl⟩
    · refine .inr ⟨k + 1, by omega, fun tail => ?_⟩
      rw [List.cons_append, List.takeWhile_cons_of_pos (by simp), htake, List.replicate_succ]
  | newline _ _ _ =>
    refine .inr ⟨0, hrun, fun tail => ?_⟩
    exact List.takeWhile_cons_of_neg (by simpa using newline_ne_quote style)
  | piece c _ _ hquote =>
    refine .inr ⟨0, hrun, fun tail => ?_⟩
    exact List.takeWhile_cons_of_neg (by simpa using hquote)

/-- Quotes in front of closing ones belong to the text. -/
theorem Style.end?_replicate {k : Nat} (hk : k ≤ style.limit)
    (hrest : rest.head? ≠ some style.quote) :
    style.end? (.replicate k style.quote ++ (style.delimiter ++ rest)) =
      some (.replicate k style.quote, rest) := by
  unfold Style.end? Style.delimiter
  unfold Style.limit at hk
  split
  · rename_i hmultiline
    rw [if_pos hmultiline] at hk
    have hall : List.replicate k style.quote ++
        ([style.quote, style.quote, style.quote] ++ rest) =
          .replicate (k + 3) style.quote ++ rest := by
      rw [← List.replicate_append_replicate, List.append_assoc]
      rfl
    have htake : (List.replicate (k + 3) style.quote ++ rest).takeWhile (· = style.quote) =
        .replicate (k + 3) style.quote :=
      takeWhile_word (by simp) fun c hc => decide_eq_false fun heq => hrest (heq ▸ hc)
    have hkept : min (k + 3 - 3) 2 = k := by omega
    rw [hall, tripleEnd?, htake]
    dsimp only
    rw [List.length_replicate, if_neg (by omega), hkept, List.take_replicate,
      Nat.min_eq_left (by omega), List.drop_append_of_le_length (by simp),
      List.drop_replicate, Nat.sub_self, List.replicate_zero, List.nil_append]
  · rename_i hsingle
    rw [if_neg hsingle] at hk
    obtain rfl : k = 0 := Nat.le_zero.1 hk
    exact if_pos rfl

theorem scan_replicate {k : Nat} (hk : k ≤ style.limit) (hrest : rest.head? ≠ some style.quote) :
    scan style .plain (.replicate k style.quote ++ (style.delimiter ++ rest)) =
      some (.replicate k style.quote, rest) := by
  have hend := Style.end?_replicate hk hrest
  cases htext : List.replicate k style.quote ++ (style.delimiter ++ rest) with
  | nil =>
    rw [htext] at hend
    unfold Style.end? at hend
    split at hend <;> cases hend
  | cons c cs =>
    rw [htext] at hend
    refine scan_close ?_
    rw [Style.step, Style.plainStep, hend]

/-- Quotes that are fewer than close a text. -/
theorem scan_quote {k : Nat} (hmultiline : style.multiline = true) (hk : k ≤ 2)
    (htake : (style.quote :: cs).takeWhile (· = style.quote) = .replicate k style.quote) :
    scan style .plain (style.quote :: cs) =
      (scan style .plain cs).map fun (more, rest) => ([style.quote] ++ more, rest) := by
  have hend : style.end? (style.quote :: cs) = none := by
    rw [Style.end?, if_pos hmultiline, tripleEnd?, htake]
    dsimp only
    rw [List.length_replicate, if_pos (by omega)]
  refine scan_next ?_
  rw [Style.step, Style.plainStep, hend]
  obtain ⟨basic, multiline⟩ := style
  cases basic <;> rfl

/-- What is written is scanned as what it was written for. -/
theorem scan_written (h : Written style run cs body) (hrun : run ≤ style.limit)
    (hrest : rest.head? ≠ some style.quote) :
    scan style .plain (body ++ (style.delimiter ++ rest)) = some (cs, rest) := by
  induction h with
  | nil => exact scan_replicate (k := 0) (Nat.zero_le _) hrest
  | @quote run cs body hroom h ih =>
    rcases (Written.quote hroom h).leading hrun with ⟨k, hk, hbody, hcs⟩ | ⟨k, hk, htake⟩
    · rw [hbody, hcs]
      exact scan_replicate (by omega) hrest
    · have hmultiline : style.multiline = true := by
        cases hmultiline : style.multiline with
        | true => rfl
        | false =>
          rw [Style.limit, hmultiline] at hroom
          exact absurd hroom (Nat.not_lt_zero run)
      rw [Style.limit, if_pos hmultiline] at hk
      have htake : (style.quote :: (body ++ (style.delimiter ++ rest))).takeWhile
          (· = style.quote) = .replicate k style.quote := htake _
      rw [List.cons_append, scan_quote hmultiline (by omega) htake, ih hroom]
      rfl
  | newline hmultiline _ ih =>
    rw [List.cons_append, ← List.singleton_append, scans_newline hmultiline, ih (Nat.zero_le _)]
    rfl
  | piece c more text _ _ _ hscans _ ih =>
    rw [List.append_assoc, hscans, ih (Nat.zero_le _)]
    rfl

/-! ### Whole texts -/

/-- The style of a text can hold it. -/
theorem written_quoted (cs : List Char) : Written (Style.of cs) 0 cs
    (if (Style.of cs).basic then escaped (Style.of cs).multiline 0 cs else cs) := by
  have hbasic : ∀ m, Written ⟨true, m⟩ 0 cs (escaped m 0 cs) := fun m => written_escaped m 0 cs
  unfold Style.of
  dsimp only
  split
  · exact hbasic false
  · split
    · rename_i hplain
      simp only [Bool.not_eq_true'] at hplain
      refine written_literal hplain.1 (fun h => ?_) (Nat.le_of_eq hplain.2.2)
      rw [hplain.2.1] at h
      cases h
    · split
      · exact hbasic true
      · split
        · rename_i hplain
          simp only [Bool.not_eq_true'] at hplain
          exact written_literal hplain.1 (fun _ => rfl) hplain.2
        · exact hbasic _

/-- A text without line ends does not begin with one, however it is written. -/
theorem Written.newline?_eq_none (h : Written style run cs body) (hcs : cs.contains '\n' = false)
    (rest : List Char) : newline? (body ++ (style.delimiter ++ rest)) = none := by
  have hquote : ∀ tail, newline? (style.quote :: tail) = none := by
    intro tail
    obtain ⟨basic, multiline⟩ := style
    cases basic <;> rfl
  cases h with
  | nil =>
    rw [List.nil_append, Style.delimiter]
    split <;> exact hquote _
  | quote => exact hquote _
  | newline => simp at hcs
  | piece c more text _ hnewline hreturn =>
    show newline? (c :: _) = none
    unfold newline?
    split
    · rename_i h
      exact absurd (List.cons.inj h).1 hnewline
    · rename_i h
      exact absurd (List.cons.inj h).1 hreturn
    · rfl

/-- One quote opens a text on one line if it is not the first of three. -/
theorem opening?_single (b : Bool)
    (h : ∀ cs, tail ≠ Style.quote ⟨b, false⟩ :: Style.quote ⟨b, false⟩ :: cs) :
    opening? (Style.quote ⟨b, false⟩ :: tail) = some (⟨b, false⟩, tail) := by
  cases b with
  | true =>
    show opening? ('"' :: tail) = _
    rw [opening?]
    exact h
  | false =>
    show opening? ('\'' :: tail) = _
    rw [opening?]
    exact h

/-- A text on one line is shorter than what would make its first quote one of three. -/
theorem Written.ne_triple {b : Bool} (h : Written ⟨b, false⟩ 0 cs body)
    (hrest : rest.head? ≠ some (Style.quote ⟨b, false⟩)) (tail : List Char) :
    body ++ (Style.delimiter ⟨b, false⟩ ++ rest) ≠
      Style.quote ⟨b, false⟩ :: Style.quote ⟨b, false⟩ :: tail := by
  intro heq
  rcases h.leading (Nat.zero_le _) with ⟨k, hk, rfl, -⟩ | ⟨k, hk, htake⟩
  · obtain rfl : k = 0 := Nat.le_zero.1 (Nat.zero_add k ▸ hk)
    have hsecond : rest = Style.quote ⟨b, false⟩ :: tail := (List.cons.inj heq).2
    exact hrest (hsecond ▸ rfl)
  · obtain rfl : k = 0 := Nat.le_zero.1 (Nat.zero_add k ▸ hk)
    have hnone := htake (Style.delimiter ⟨b, false⟩ ++ rest)
    rw [heq, List.takeWhile_cons_of_pos (by simp)] at hnone
    cases hnone

/-- What opens a text says how it is written. -/
theorem opening?_written (h : Written style 0 cs body) (hrest : rest.head? ≠ some style.quote) :
    opening? (style.delimiter ++ (if style.multiline ∧ cs.contains '\n' then ['\n'] else []) ++
      body ++ style.delimiter ++ rest) = some (style, body ++ (style.delimiter ++ rest)) := by
  obtain ⟨b, m⟩ := style
  simp only [List.append_assoc]
  cases m with
  | false =>
    rw [if_neg (by simp), List.nil_append]
    exact opening?_single b (h.ne_triple hrest)
  | true =>
    have hopen : ∀ text : List Char, opening? (Style.delimiter ⟨b, true⟩ ++ text) =
        some (⟨b, true⟩, (newline? text).getD text) := by
      intro text
      cases b <;> rfl
    rw [hopen]
    by_cases hnewline : cs.contains '\n' = true
    · rw [if_pos ⟨rfl, hnewline⟩]
      rfl
    · rw [if_neg fun hboth => hnewline hboth.2, List.nil_append,
        h.newline?_eq_none (by simpa using hnewline)]
      rfl

/-- **A quoted text reads back,** whatever its characters are, if no quote follows it. -/
theorem readQuoted?_quoted (cs : List Char) {rest : List Char}
    (hrest : rest.head? ≠ some (Style.of cs).quote) :
    readQuoted? (quoted cs ++ rest) = some (cs, rest) := by
  have hwritten := written_quoted cs
  have hopen := opening?_written hwritten hrest
  rw [readQuoted?, show opening? (quoted cs ++ rest) = _ from hopen]
  exact scan_written hwritten (Nat.zero_le _) hrest

/-- A text begins with a quote. -/
theorem head?_quoted (cs : List Char) : (quoted cs).head? = some (Style.of cs).quote := by
  unfold quoted Style.delimiter
  dsimp only
  split <;> rfl

theorem Style.quote_eq (style : Style) : style.quote = '"' ∨ style.quote = '\'' := by
  unfold Style.quote
  split
  · exact .inl rfl
  · exact .inr rfl

end DisplayComposer.Toml
