import McpGateway.Shlex

/-! # The words `shlex.split` reads off a command

    `command_list` hands a stdio backend's command to `shlex.split`.  This
    file says which strings it accepts and what it returns, without the
    lexer's states: a command is leading blanks, then words each followed by
    blanks, and perhaps a last word that the end of the input closes.  A word
    is one or more pieces written next to each other: a character that is
    neither blank, quote nor backslash; a backslash and any character, which
    stands for that character; a single-quoted string, which stands for
    itself; a double-quoted string, inside which `\\` and `\"` stand for the
    second character and any other backslash is kept.

    * `lex_command`: the lexer returns the words of every command.
    * `lex_blank_sound`: every string the lexer accepts spells a command,
      whose words are what it returns.
    * `split_reads_commands`: `shlex.split(s)` returns `ws` exactly when
      `s` spells a command whose words are `ws`, and raises exactly when `s`
      spells no command. -/

namespace McpShlex

/-! ## Commands -/

/-- One character inside double quotes: a character other than `"` and
    `\`, or a backslash and the character after it. -/
inductive DChar where
  | char (c : Char)
  | esc (c : Char)
  deriving DecidableEq, Repr

/-- One piece of a word. -/
inductive Seg where
  | plain (c : Char)
  | escaped (c : Char)
  | single (s : List Char)
  | double (body : List DChar)
  deriving DecidableEq, Repr

/-- A character inside double quotes is neither `"` nor `\`. -/
def DChar.WellFormed : DChar → Bool
  | .char c => c ≠ '"' && c ≠ '\\'
  | .esc _ => true

/-- How the character is written. -/
def DChar.text : DChar → List Char
  | .char c => [c]
  | .esc c => ['\\', c]

/-- What it stands for: a backslash is dropped only before `\` and `"`. -/
def DChar.value : DChar → List Char
  | .char c => [c]
  | .esc c => if c = '\\' ∨ c = '"' then [c] else ['\\', c]

/-- A plain character is neither blank, quote nor backslash; a
    single-quoted string holds no `'`. -/
def Seg.WellFormed : Seg → Bool
  | .plain c => !isBlank c && !isQuote c && c ≠ '\\'
  | .escaped _ => true
  | .single s => !s.elem '\''
  | .double body => body.all DChar.WellFormed

/-- How the piece is written. -/
def Seg.text : Seg → List Char
  | .plain c => [c]
  | .escaped c => ['\\', c]
  | .single s => '\'' :: s ++ ['\'']
  | .double body => '"' :: body.flatMap DChar.text ++ ['"']

/-- What the piece stands for. -/
def Seg.value : Seg → List Char
  | .plain c => [c]
  | .escaped c => [c]
  | .single s => s
  | .double body => body.flatMap DChar.value

/-- The piece is quoted; a word made of empty quotes is still a word. -/
def Seg.quoted : Seg → Bool
  | .single _ | .double _ => true
  | _ => false

/-- A word: one or more well-formed pieces, written next to each other. -/
structure Word where
  segs : List Seg
  nonempty : segs ≠ []
  wellFormed : segs.all Seg.WellFormed = true

/-- How the word is written. -/
def Word.text (w : Word) : List Char := w.segs.flatMap Seg.text

/-- The word `shlex.split` returns for it. -/
def Word.value (w : Word) : String := String.mk (w.segs.flatMap Seg.value)

/-- A command: leading blanks, words each followed by one or more blanks,
    and a last word that the end of the input closes. -/
structure Command where
  lead : List Char
  words : List (Word × List Char)
  last : Option Word
  lead_blank : lead.all isBlank = true
  sep_blank : words.all (fun p => !p.2.isEmpty && p.2.all isBlank) = true

/-- How the command is written. -/
def Command.text (c : Command) : List Char :=
  c.lead ++ (c.words.flatMap (fun p => p.1.text ++ p.2) ++ (c.last.map Word.text).getD [])

/-- Its words, in order. -/
def Command.values (c : Command) : List String :=
  c.words.map (·.1.value) ++ (c.last.map Word.value).toList

/-! ## The lexer reads every command -/

section Complete

variable (rest : List Char)

theorem lex_blanks : ∀ b : List Char, b.all isBlank = true →
    lex (b ++ rest) .blank [] false = lex rest .blank [] false
  | [], _ => rfl
  | x :: b, h => by
      rw [List.all_cons, Bool.and_eq_true] at h
      simp only [List.cons_append, lex, h.1, if_true, List.isEmpty_nil, Bool.not_true, Bool.or_false,
        Bool.false_eq_true, if_false]
      exact lex_blanks b h.2

/-- Reading one character inside double quotes. -/
theorem lex_dchar (d : DChar) (hd : d.WellFormed = true) (cs tok : List Char) (q : Bool) :
    lex (d.text ++ cs) (.quote '"') tok q = lex cs (.quote '"') (tok ++ d.value) true := by
  cases d with
  | char c =>
      obtain ⟨hq, hb⟩ : c ≠ '"' ∧ c ≠ '\\' := by simpa [DChar.WellFormed] using hd
      simp [DChar.text, DChar.value, lex, hq, hb]
  | esc c =>
      by_cases hc : c = '\\' ∨ c = '"'
      · rcases hc with rfl | rfl <;> simp [DChar.text, DChar.value, lex]
      · simp [DChar.text, DChar.value, lex, hc, not_or.1 hc]

theorem lex_dchars : ∀ body : List DChar, body.all DChar.WellFormed = true → ∀ tok q, ∃ q',
    lex (body.flatMap DChar.text ++ rest) (.quote '"') tok q =
      lex rest (.quote '"') (tok ++ body.flatMap DChar.value) q'
  | [], _, tok, q => ⟨q, by simp⟩
  | d :: body, h, tok, q => by
      rw [List.all_cons, Bool.and_eq_true] at h
      obtain ⟨q', hq'⟩ := lex_dchars body h.2 (tok ++ d.value) true
      refine ⟨q', ?_⟩
      rw [List.flatMap_cons, List.append_assoc, lex_dchar d h.1, hq', List.flatMap_cons, List.append_assoc]

/-- A character inside quotes that neither closes them nor escapes. -/
theorem lex_quote_char {q c : Char} (hc : c ≠ q) (he : ¬(c = '\\' ∧ q = '"')) (cs tok : List Char) (b : Bool) :
    lex (c :: cs) (.quote q) tok b = lex cs (.quote q) (tok ++ [c]) true := by
  simp only [lex, hc, if_false]
  rw [if_neg (by simpa using he)]

theorem lex_single : ∀ s : List Char, '\'' ∉ s → ∀ tok q,
    lex (s ++ '\'' :: rest) (.quote '\'') tok q = lex rest .word (tok ++ s) true
  | [], _, tok, q => by simp [lex]
  | c :: s, h, tok, q => by
      have hc : c ≠ '\'' := fun e => h (e ▸ List.mem_cons_self _ _)
      rw [List.cons_append, lex_quote_char hc (by simp), lex_single s (fun m => h (List.mem_cons_of_mem _ m)),
        List.append_assoc, List.singleton_append]

theorem lex_word_quote {c : Char} (hq : isQuote c = true) (cs tok : List Char) (q : Bool) :
    lex (c :: cs) .word tok q = lex cs (.quote c) tok q := by
  have hb : isBlank c = false := by
    unfold isQuote at hq; unfold isBlank
    rcases (by simpa using hq : c = '\'' ∨ c = '"') with rfl | rfl <;> rfl
  simp [lex, hb, hq]

theorem lex_quote_close (c : Char) (cs tok : List Char) (q : Bool) :
    lex (c :: cs) (.quote c) tok q = lex cs .word tok true := by
  simp [lex]

/-- Reading one piece inside a word. -/
theorem lex_seg (g : Seg) (hg : g.WellFormed = true) (tok : List Char) (q : Bool) :
    lex (g.text ++ rest) .word tok q = lex rest .word (tok ++ g.value) (q || g.quoted) := by
  cases g with
  | plain c =>
      obtain ⟨⟨hb, hq⟩, hs⟩ : (isBlank c = false ∧ isQuote c = false) ∧ c ≠ '\\' := by
        simpa [Seg.WellFormed] using hg
      simp [Seg.text, Seg.value, Seg.quoted, lex, hb, hq, hs]
  | escaped c => simp [Seg.text, Seg.value, Seg.quoted, lex, isBlank, isQuote]
  | single s =>
      have hs : '\'' ∉ s := by simpa [Seg.WellFormed, List.elem_eq_mem] using hg
      have htext : (Seg.single s).text ++ rest = '\'' :: (s ++ '\'' :: rest) := by simp [Seg.text]
      rw [htext, lex_word_quote (by decide), lex_single rest s hs, Seg.value, Seg.quoted, Bool.or_true]
  | double body =>
      have hb : body.all DChar.WellFormed = true := by simpa [Seg.WellFormed] using hg
      obtain ⟨q', hq'⟩ := lex_dchars ('"' :: rest) body hb tok q
      have htext : (Seg.double body).text ++ rest = '"' :: (body.flatMap DChar.text ++ '"' :: rest) := by
        simp [Seg.text]
      rw [htext, lex_word_quote (by decide), hq', lex_quote_close, Seg.value, Seg.quoted, Bool.or_true]

theorem lex_segs : ∀ segs : List Seg, segs.all Seg.WellFormed = true → ∀ tok q,
    lex (segs.flatMap Seg.text ++ rest) .word tok q =
      lex rest .word (tok ++ segs.flatMap Seg.value) (q || segs.any Seg.quoted)
  | [], _, tok, q => by simp
  | g :: segs, h, tok, q => by
      rw [List.all_cons, Bool.and_eq_true] at h
      rw [List.flatMap_cons, List.append_assoc, lex_seg _ g h.1, lex_segs segs h.2, List.flatMap_cons,
        List.any_cons, List.append_assoc, Bool.or_assoc]

/-- Between tokens, a character that is not blank starts a word as it
    would continue an empty one. -/
theorem lex_blank_start {x : Char} (hx : isBlank x = false) (xs : List Char) :
    lex (x :: xs) .blank [] false = lex (x :: xs) .word [] false := by
  by_cases hs : x = '\\'
  · subst hs; simp [lex, isBlank, isQuote]
  · by_cases hq : isQuote x = true <;> simp [lex, hx, hs, hq]

theorem Seg.text_head {g : Seg} (hg : g.WellFormed = true) : ∃ x xs, g.text = x :: xs ∧ isBlank x = false := by
  cases g with
  | plain c => exact ⟨c, [], rfl, by simp_all [Seg.WellFormed]⟩
  | escaped c => exact ⟨_, _, rfl, rfl⟩
  | single s => exact ⟨_, _, rfl, rfl⟩
  | double body => exact ⟨_, _, rfl, rfl⟩

/-- A word yields a token even when it stands for the empty string: it then
    holds a quote. -/
theorem Word.emits (w : Word) : (!(w.segs.flatMap Seg.value).isEmpty || w.segs.any Seg.quoted) = true := by
  obtain ⟨_ | ⟨g, segs⟩, hne, _⟩ := w
  · exact absurd rfl hne
  · cases g <;> simp [Seg.value, Seg.quoted]

/-- Reading a whole word from between tokens. -/
theorem lex_word (w : Word) :
    lex (w.text ++ rest) .blank [] false =
      lex rest .word (w.segs.flatMap Seg.value) (w.segs.any Seg.quoted) := by
  obtain ⟨_ | ⟨g, segs⟩, hne, hw⟩ := w
  · exact absurd rfl hne
  · obtain ⟨x, xs, hx, hb⟩ := Seg.text_head (List.all_eq_true.1 hw g (List.mem_cons_self _ _))
    have htext : Word.text ⟨g :: segs, hne, hw⟩ ++ rest = x :: (xs ++ (segs.flatMap Seg.text ++ rest)) := by
      simp [Word.text, hx]
    rw [htext, lex_blank_start hb, ← List.cons_append, ← List.append_assoc, ← hx, ← List.flatMap_cons,
      lex_segs rest _ hw, List.nil_append, Bool.false_or]

theorem lex_word_end {tok : List Char} {q : Bool} (h : (!tok.isEmpty || q) = true) :
    lex [] .word tok q = .ok [String.mk tok] := by
  have hn : (tok.isEmpty && !q) = false := by cases tok <;> cases q <;> simp_all
  simp only [lex, hn, Bool.false_eq_true, if_false]

theorem lex_word_blank {x : Char} (hx : isBlank x = true) (cs : List Char) {tok : List Char} {q : Bool}
    (h : (!tok.isEmpty || q) = true) :
    lex (x :: cs) .word tok q = (String.mk tok :: ·) <$> lex cs .blank [] false := by
  simp [lex, hx, h]

/-- A word ends at a run of blanks, which the lexer then skips. -/
theorem lex_word_sep {b : List Char} (hb : (!b.isEmpty && b.all isBlank) = true) {tok : List Char} {q : Bool}
    (h : (!tok.isEmpty || q) = true) :
    lex (b ++ rest) .word tok q = (String.mk tok :: ·) <$> lex rest .blank [] false := by
  cases b with
  | nil => simp at hb
  | cons x b =>
      simp only [List.isEmpty_cons, Bool.not_false, Bool.true_and, List.all_cons, Bool.and_eq_true] at hb
      rw [List.cons_append, lex_word_blank hb.1 _ h, lex_blanks rest b hb.2]

theorem lex_words : ∀ words : List (Word × List Char),
    words.all (fun p => !p.2.isEmpty && p.2.all isBlank) = true → ∀ last : Option Word,
      lex (words.flatMap (fun p => p.1.text ++ p.2) ++ (last.map Word.text).getD []) .blank [] false =
        .ok (words.map (·.1.value) ++ (last.map Word.value).toList)
  | [], _, none => rfl
  | [], _, some w => by
      rw [List.flatMap_nil, List.nil_append, Option.map_some', Option.getD_some, ← List.append_nil w.text,
        lex_word, lex_word_end w.emits]
      rfl
  | (w, b) :: words, h, last => by
      rw [List.all_cons, Bool.and_eq_true] at h
      rw [List.flatMap_cons, List.append_assoc, List.append_assoc, lex_word, lex_word_sep _ h.1 w.emits,
        lex_words words h.2 last]
      rfl

/-- **EVERY COMMAND IS READ**: the lexer returns the words of every
    command. -/
theorem lex_command (c : Command) : lex c.text .blank [] false = .ok c.values := by
  rw [Command.text, lex_blanks _ _ c.lead_blank, lex_words _ c.sep_blank]
  rfl

end Complete

/-! ## Every string the lexer accepts is a command -/

section Sound

variable {tok : List Char} {q : Bool} {ws : List String}

theorem lex_quote_sound_single : ∀ s : List Char, ∀ tok q, lex s (.quote '\'') tok q = .ok ws →
    ∃ (body rest : List Char), '\'' ∉ body ∧ s = body ++ '\'' :: rest ∧ lex rest .word (tok ++ body) true = .ok ws
  | [], _, _, h => by cases h
  | c :: cs, tok, q, h => by
      by_cases hc : c = '\''
      · subst hc
        rw [lex_quote_close] at h
        exact ⟨[], cs, List.not_mem_nil _, rfl, by rwa [List.append_nil]⟩
      · rw [lex_quote_char hc (by simp)] at h
        obtain ⟨body, rest, hb, hs, hr⟩ := lex_quote_sound_single cs _ _ h
        refine ⟨c :: body, rest, ?_, by rw [hs, List.cons_append], by rwa [← List.singleton_append,
          ← List.append_assoc]⟩
        exact List.not_mem_cons_of_ne_of_not_mem (Ne.symm hc) hb

theorem lex_quote_sound_double (s : List Char) : ∀ tok q, lex s (.quote '"') tok q = .ok ws →
    ∃ (body : List DChar) (rest : List Char), body.all DChar.WellFormed = true ∧
      s = body.flatMap DChar.text ++ '"' :: rest ∧
      lex rest .word (tok ++ body.flatMap DChar.value) true = .ok ws := by
  intro tok q h
  match s, h with
  | [], h => cases h
  | c :: cs, h =>
      by_cases hc : c = '"'
      · subst hc
        rw [lex_quote_close] at h
        exact ⟨[], cs, rfl, rfl, by rwa [List.flatMap_nil, List.append_nil]⟩
      have step : ∃ (d : DChar) (cs' : List Char), d.WellFormed = true ∧ c :: cs = d.text ++ cs' ∧ cs'.length < (c :: cs).length := by
        by_cases hs : c = '\\'
        · subst hs
          match cs, h with
          | [], h => simp [lex] at h
          | c' :: cs', _ => exact ⟨.esc c', cs', rfl, rfl, by simp only [List.length_cons]; omega⟩
        · exact ⟨.char c, cs, by simp [DChar.WellFormed, hc, hs], rfl, by simp⟩
      obtain ⟨d, cs', hd, heq, hlt⟩ := step
      rw [heq, lex_dchar d hd] at h
      obtain ⟨body, rest, hb, hs, hr⟩ := lex_quote_sound_double cs' _ _ h
      refine ⟨d :: body, rest, by simp [hd, hb], by rw [heq, hs, List.flatMap_cons, List.append_assoc], ?_⟩
      rwa [List.flatMap_cons, ← List.append_assoc]
termination_by s.length

theorem lex_word_plain {c : Char} (hb : isBlank c = false) (hq : isQuote c = false) (hs : c ≠ '\\')
    (cs tok : List Char) (q : Bool) : lex (c :: cs) .word tok q = lex cs .word (tok ++ [c]) q := by
  simp [lex, hb, hq, hs]

/-- One piece read from inside a word, whatever the lexer accepts. -/
theorem lex_seg_sound {x : Char} (hx : isBlank x = false) {xs : List Char}
    (h : lex (x :: xs) .word tok q = .ok ws) :
    ∃ (g : Seg) (rest : List Char), g.WellFormed = true ∧ x :: xs = g.text ++ rest ∧
      lex rest .word (tok ++ g.value) (q || g.quoted) = .ok ws := by
  by_cases hq : isQuote x = true
  · rw [lex_word_quote hq] at h
    rcases (by simpa [isQuote] using hq : x = '\'' ∨ x = '"') with rfl | rfl
    · obtain ⟨body, rest, hb, hs, hr⟩ := lex_quote_sound_single xs tok q h
      exact ⟨.single body, rest, by simpa [Seg.WellFormed, List.elem_eq_mem] using hb,
        by simp [Seg.text, hs], by simpa [Seg.value, Seg.quoted] using hr⟩
    · obtain ⟨body, rest, hb, hs, hr⟩ := lex_quote_sound_double xs tok q h
      exact ⟨.double body, rest, by simpa [Seg.WellFormed] using hb,
        by simp [Seg.text, hs], by simpa [Seg.value, Seg.quoted] using hr⟩
  by_cases hs : x = '\\'
  · subst hs
    match xs, h with
    | [], h => simp [lex, isBlank, isQuote] at h
    | c :: cs, h =>
        refine ⟨.escaped c, cs, rfl, rfl, ?_⟩
        simpa [lex, isBlank, isQuote, Seg.value, Seg.quoted] using h
  · rw [lex_word_plain hx (by simpa using hq) hs] at h
    exact ⟨.plain x, xs, by simp [Seg.WellFormed, hx, hq, hs], rfl, by simpa [Seg.value, Seg.quoted] using h⟩

theorem Seg.text_length_pos {g : Seg} (hg : g.WellFormed = true) : 0 < g.text.length := by
  obtain ⟨x, xs, h, -⟩ := Seg.text_head hg
  simp [h]

/-- The rest of a word, and what follows it: the end of the input, or a
    blank and the rest of the command. -/
theorem lex_word_sound (s : List Char) : ∀ tok q ws, (!tok.isEmpty || q) = true →
    lex s .word tok q = .ok ws →
    ∃ (segs : List Seg) (rest : List Char) (ws' : List String), segs.all Seg.WellFormed = true ∧ s = segs.flatMap Seg.text ++ rest ∧
      ws = String.mk (tok ++ segs.flatMap Seg.value) :: ws' ∧
      ((rest = [] ∧ ws' = []) ∨
        ∃ y rest', rest = y :: rest' ∧ isBlank y = true ∧ lex rest' .blank [] false = .ok ws') := by
  intro tok q ws he h
  match s, h with
  | [], h =>
      rw [lex_word_end he] at h
      cases h
      exact ⟨[], [], [], rfl, rfl, by simp, .inl ⟨rfl, rfl⟩⟩
  | x :: xs, h =>
      by_cases hx : isBlank x = true
      · rw [lex_word_blank hx _ he] at h
        cases hr : lex xs .blank [] false with
        | error e => rw [hr] at h; cases h
        | ok ws' =>
            rw [hr] at h
            cases h
            exact ⟨[], x :: xs, ws', rfl, rfl, by simp, .inr ⟨x, xs, rfl, hx, hr⟩⟩
      · obtain ⟨g, rest, hg, hs, hr⟩ := lex_seg_sound (by simpa using hx) h
        have hlt : rest.length < (x :: xs).length := by
          have := Seg.text_length_pos hg
          rw [hs, List.length_append]
          omega
        have he' : (!(tok ++ g.value).isEmpty || (q || g.quoted)) = true := by
          cases tok <;> cases q <;> simp_all
        obtain ⟨segs, rest', ws', hw, hs', hv, hend⟩ := lex_word_sound rest _ _ _ he' hr
        refine ⟨g :: segs, rest', ws', by simp [hg, hw], by rw [hs, hs', List.flatMap_cons, List.append_assoc],
          by rw [hv, List.flatMap_cons, List.append_assoc], hend⟩
termination_by s.length

theorem Seg.emits (g : Seg) : (!g.value.isEmpty || g.quoted) = true := by
  cases g <;> simp [Seg.value, Seg.quoted]

theorem lex_blank_skip {x : Char} (hx : isBlank x = true) (xs : List Char) :
    lex (x :: xs) .blank [] false = lex xs .blank [] false :=
  lex_blanks xs [x] (by simp [hx])

/-- **EVERY ACCEPTED STRING IS A COMMAND**: what the lexer accepts from
    between tokens spells a command, and what it returns are the command's
    words. -/
theorem lex_blank_sound (s : List Char) : ∀ ws, lex s .blank [] false = .ok ws →
    ∃ c : Command, c.text = s ∧ c.values = ws := by
  intro ws h
  match s, h with
  | [], h =>
      cases h
      exact ⟨⟨[], [], none, rfl, rfl⟩, rfl, rfl⟩
  | x :: xs, h =>
      by_cases hx : isBlank x = true
      · rw [lex_blank_skip hx] at h
        obtain ⟨c, hc, hv⟩ := lex_blank_sound xs ws h
        exact ⟨{ c with lead := x :: c.lead, lead_blank := by simp [hx, c.lead_blank] },
          by simp [Command.text, ← hc], hv⟩
      have hx' : isBlank x = false := by simpa using hx
      rw [lex_blank_start hx'] at h
      obtain ⟨g, rest, hg, hs, hr⟩ := lex_seg_sound hx' h
      rw [List.nil_append, Bool.false_or] at hr
      obtain ⟨segs, rest', ws', hw, hs', hv, hend⟩ := lex_word_sound rest _ _ _ g.emits hr
      let w : Word := ⟨g :: segs, List.cons_ne_nil _ _, by simp [hg, hw]⟩
      have hwt : x :: xs = w.text ++ rest' := by simp [w, Word.text, hs, hs', List.append_assoc]
      have hwv : ws = w.value :: ws' := by simp [hv, w, Word.value]
      rcases hend with ⟨rfl, rfl⟩ | ⟨y, rest'', rfl, hy, hr'⟩
      · exact ⟨⟨[], [], some w, rfl, rfl⟩, by simp [Command.text, hwt], by simp [Command.values, hwv]⟩
      · have hlt : rest''.length < (x :: xs).length := by
          rw [hwt, List.length_append, List.length_cons]
          omega
        obtain ⟨c, hc, hcv⟩ := lex_blank_sound rest'' ws' hr'
        refine ⟨⟨[], (w, y :: c.lead) :: c.words, c.last, rfl, ?_⟩, ?_, ?_⟩
        · simp [hy, c.lead_blank, c.sep_blank]
        · simp [Command.text, hwt, ← hc]
        · simp [Command.values, hwv, ← hcv]
termination_by s.length

end Sound

/-- **SPLIT READS COMMANDS**: `shlex.split(s)` returns `ws` exactly when
    `s` spells a command whose words are `ws`, and it raises exactly when
    `s` spells no command. -/
theorem split_reads_commands (s : String) :
    (∀ ws, split s = .ok ws ↔ ∃ c : Command, c.text = s.data ∧ c.values = ws) ∧
      ((∃ e, split s = .error e) ↔ ∀ c : Command, c.text ≠ s.data) := by
  refine ⟨fun ws => ⟨lex_blank_sound s.data ws, ?_⟩, ⟨?_, fun h => ?_⟩⟩
  · rintro ⟨c, hc, rfl⟩
    rw [split, ← hc]
    exact lex_command c
  · rintro ⟨e, he⟩ c hc
    rw [split, ← hc, lex_command c] at he
    cases he
  · cases hs : split s with
    | error e => exact ⟨e, rfl⟩
    | ok ws =>
        obtain ⟨c, hc, -⟩ := lex_blank_sound s.data ws hs
        exact absurd hc (h c)

example : split "npx -y 'my server' \"a\\\"b\"" = .ok ["npx", "-y", "my server", "a\"b"] := by rfl

end McpShlex
