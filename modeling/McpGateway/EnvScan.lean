import McpGateway.Config

/-! # `expand_env_vars` as one left-to-right scan

    `expand_env_vars` is `re.sub` over `\$\{([^}]+)\}|\$([A-Za-z_][A-Za-z0-9_]*)`
    with `os.environ.get(var_name, match.group(0))` as the replacement.  This
    file says, without the regular expression, what one left-to-right scan of
    the input does.  The scan cuts the input into pieces (`Scan`): a `${name}`
    reference (a nonempty run of non-`}` characters closed by `}`), a `$ident`
    reference (a maximal identifier) or a character that starts neither.  Each
    reference is written as its variable's value when the environment defines
    it and verbatim otherwise; a character is copied.

    * `Scan.unique`, `scan_exists`: every input has exactly one such cutting.
    * `reSub_scan`: `re.sub`, given fuel for the whole input, writes the
      pieces' expansions one after another, so inserted text is never read
      again.
    * `expandEnvVars_scan`: `expand_env_vars(s)` is the output of the scan,
      and is `s` itself when the environment defines none of the names `s`
      references.

    Everything rests on one fact per piece: `patternMatch` at the head of the
    input finds exactly the reference the scan reads there (`patternMatch_braced`,
    `patternMatch_bare`, `patternMatch_noRef`). -/

namespace McpConfig

/-! ## The scan -/

/-- A piece of the input as the scan reads it. -/
inductive Piece where
  /-- A `${name}` reference. -/
  | braced (name : List Char)
  /-- A `$ident` reference. -/
  | bare (ident : List Char)
  /-- A character that starts no reference. -/
  | char (c : Char)
  deriving DecidableEq, Repr

/-- The input a piece covers. -/
def Piece.text : Piece → List Char
  | .braced name => '$' :: '{' :: name ++ ['}']
  | .bare ident => '$' :: ident
  | .char c => [c]

/-- The variable a piece references. -/
def Piece.name? : Piece → Option (List Char)
  | .braced name | .bare name => some name
  | .char _ => none

/-- A reference becomes its variable's value when `E` defines it, and stays
    verbatim otherwise; any other character is copied. -/
def Piece.expand (E : Environ) (p : Piece) : List Char :=
  match p.name? with
  | some name => ((E (String.mk name)).map String.data).getD p.text
  | none => p.text

/-- No reference starts the input: no `${` closed after a nonempty run of
    non-`}` characters, and no `$` before an identifier start. -/
def NoRef (s : List Char) : Prop :=
  (∀ name rest, s = '$' :: '{' :: (name ++ '}' :: rest) → name = [] ∨ '}' ∈ name) ∧
    ∀ c rest, s = '$' :: c :: rest → isIdentStart c = false

/-- `Scan s ps`: reading `s` from left to right cuts it into the pieces `ps`. -/
inductive Scan : List Char → List Piece → Prop where
  | nil : Scan [] []
  | braced {name rest : List Char} {ps : List Piece} : name ≠ [] → '}' ∉ name → Scan rest ps →
      Scan ('$' :: '{' :: (name ++ '}' :: rest)) (.braced name :: ps)
  | bare {c : Char} {ident rest : List Char} {ps : List Piece} : isIdentStart c = true →
      (∀ x ∈ ident, isIdentChar x = true) → (∀ x ∈ rest.head?, isIdentChar x = false) →
      Scan rest ps → Scan ('$' :: c :: (ident ++ rest)) (.bare (c :: ident) :: ps)
  | char {c : Char} {rest : List Char} {ps : List Piece} : NoRef (c :: rest) → Scan rest ps →
      Scan (c :: rest) (.char c :: ps)

/-- The pieces cover the input, in order. -/
theorem Scan.text {s : List Char} {ps : List Piece} (h : Scan s ps) : ps.flatMap Piece.text = s := by
  induction h with
  | nil => rfl
  | braced _ _ _ ih => simp [Piece.text, ih]
  | bare _ _ _ _ ih => simp [Piece.text, ih]
  | char _ _ ih => simp [Piece.text, ih]

/-- The name and the text of a piece tell which piece it is. -/
theorem Piece.eq_of_name?_text {p q : Piece} (hn : p.name? = q.name?) (ht : p.text = q.text) : p = q := by
  cases p <;> cases q <;> simp only [Piece.name?, Piece.text, Option.some.injEq, Piece.braced.injEq,
    Piece.bare.injEq, Piece.char.injEq, List.cons.injEq, reduceCtorEq, and_true] at hn ht ⊢
  all_goals first
    | exact hn
    | exact ht
    | (subst hn; have := congrArg List.length ht
       simp only [List.length_cons, List.length_append, List.length_singleton] at this; omega)

/-! ## What `patternMatch` finds at the head of the input -/

/-- `[^}]+\}` reads up to the first `}`. -/
theorem untilClose_append {name : List Char} (rest : List Char) (hc : '}' ∉ name) :
    untilClose (name ++ '}' :: rest) = some (name, rest) := by
  induction name with
  | nil => simp [untilClose]
  | cons x xs ih =>
      rw [List.mem_cons, not_or] at hc
      simp [untilClose, Ne.symm hc.1, ih hc.2]

/-- What `untilClose` reads ends at the first `}`. -/
theorem untilClose_some {cs name rest : List Char} (h : untilClose cs = some (name, rest)) :
    cs = name ++ '}' :: rest ∧ '}' ∉ name := by
  induction cs generalizing name with
  | nil => cases h
  | cons c cs ih =>
      unfold untilClose at h
      split at h
      · cases h
        exact ⟨by rw [‹c = '}'›]; rfl, List.not_mem_nil _⟩
      · obtain ⟨⟨n, r⟩, hu, he⟩ := Option.map_eq_some'.1 h
        cases he
        obtain ⟨rfl, hn⟩ := ih hu
        simp [hn, Ne.symm ‹¬c = '}'›]

theorem patternMatch_braced {name rest : List Char} (hn : name ≠ []) (hc : '}' ∉ name) :
    patternMatch ('$' :: '{' :: (name ++ '}' :: rest)) = some (name, (Piece.braced name).text, rest) := by
  obtain ⟨x, xs, rfl⟩ := List.exists_cons_of_ne_nil hn
  rw [patternMatch.eq_1, untilClose_append rest hc]
  rfl

theorem patternMatch_ident {c : Char} (cs : List Char) (hc : isIdentStart c = true) :
    patternMatch ('$' :: c :: cs) = some (c :: cs.takeWhile isIdentChar,
      '$' :: c :: cs.takeWhile isIdentChar, cs.dropWhile isIdentChar) := by
  have hb : c ≠ '{' := by rintro rfl; exact absurd hc (by decide)
  rw [patternMatch.eq_2 c cs hb, if_pos hc]

theorem patternMatch_bare {c : Char} {ident rest : List Char} (hc : isIdentStart c = true)
    (hi : ∀ x ∈ ident, isIdentChar x = true) (hr : ∀ x ∈ rest.head?, isIdentChar x = false) :
    patternMatch ('$' :: c :: (ident ++ rest)) = some (c :: ident, (Piece.bare (c :: ident)).text, rest) := by
  have ht : rest.takeWhile isIdentChar = [] ∧ rest.dropWhile isIdentChar = rest := by
    cases rest with
    | nil => exact ⟨rfl, rfl⟩
    | cons y ys =>
        have hy := hr y rfl
        simp [List.takeWhile, List.dropWhile, hy]
  rw [patternMatch_ident _ hc, List.takeWhile_append_of_pos hi, List.dropWhile_append_of_pos hi, ht.1,
    ht.2, List.append_nil]
  rfl

theorem patternMatch_noRef {s : List Char} (h : NoRef s) : patternMatch s = none := by
  unfold patternMatch
  split
  · next cs =>
      split
      · next x n rest hu =>
          obtain ⟨hs, hx⟩ := untilClose_some hu
          rcases h.1 (x :: n) rest (by rw [hs]) with h' | h'
          · cases h'
          · exact absurd h' hx
      · rfl
  · next c cs _ =>
      rw [h.2 c cs rfl, if_neg Bool.false_ne_true]
  · rfl

/-- A character other than `$` starts no reference. -/
theorem noRef_of_ne {c : Char} (rest : List Char) (h : c ≠ '$') : NoRef (c :: rest) :=
  ⟨fun _ _ hs => absurd (List.cons.inj hs).1 h, fun _ _ hs => absurd (List.cons.inj hs).1 h⟩

theorem noRef_of_patternMatch {s : List Char} (h : patternMatch s = none) : NoRef s := by
  constructor
  · rintro name rest rfl
    by_contra hn
    push_neg at hn
    rw [patternMatch_braced hn.1 hn.2] at h
    cases h
  · rintro c rest rfl
    cases hc : isIdentStart c
    · rfl
    · rw [patternMatch_ident rest hc] at h
      cases h

/-- What `patternMatch` finds is the first piece of a scan. -/
theorem scan_of_patternMatch {s name whole rest : List Char}
    (h : patternMatch s = some (name, whole, rest)) :
    ∃ p : Piece, p.text = whole ∧ s = whole ++ rest ∧ ∀ ps, Scan rest ps → Scan s (p :: ps) := by
  unfold patternMatch at h
  split at h
  · next cs =>
      split at h
      · next x n r hu =>
          cases h
          obtain ⟨rfl, hx⟩ := untilClose_some hu
          exact ⟨.braced (x :: n), rfl, by simp [Piece.text], fun _ => .braced (List.cons_ne_nil _ _) hx⟩
      · cases h
  · next c cs _ =>
      split at h
      · next hc =>
          cases h
          refine ⟨.bare (c :: cs.takeWhile isIdentChar), rfl, ?_, fun ps hps => ?_⟩
          · simp [Piece.text, List.takeWhile_append_dropWhile]
          · have hr : ∀ x ∈ (cs.dropWhile isIdentChar).head?, isIdentChar x = false := by
              intro x hx
              have := List.head?_dropWhile_not isIdentChar cs
              rwa [Option.mem_def.1 hx] at this
            have := @Scan.bare c (cs.takeWhile isIdentChar) (cs.dropWhile isIdentChar) ps hc
              (List.all_eq_true.1 List.all_takeWhile) hr hps
            rwa [List.takeWhile_append_dropWhile] at this
      · cases h
  · cases h

/-! ## Every input has one scan -/

theorem scan_exists : ∀ s : List Char, ∃ ps, Scan s ps
  | [] => ⟨[], .nil⟩
  | c :: cs => by
      rcases h : patternMatch (c :: cs) with _ | ⟨name, whole, rest⟩
      · obtain ⟨ps, hps⟩ := scan_exists cs
        exact ⟨_, .char (noRef_of_patternMatch h) hps⟩
      · obtain ⟨p, rfl, hs, hstep⟩ := scan_of_patternMatch h
        have hlen : rest.length < (c :: cs).length := by
          have : p.text ≠ [] := by cases p <;> simp [Piece.text]
          rw [hs, List.length_append]
          have := List.length_pos.2 this
          omega
        obtain ⟨ps, hps⟩ := scan_exists rest
        exact ⟨_, hstep ps hps⟩
termination_by s => s.length

/-- The first piece of a scan is the one `patternMatch` finds, or, when it
    finds none, the first character. -/
theorem Scan.head {s : List Char} {p : Piece} {ps : List Piece} (h : Scan s (p :: ps)) :
    ∃ rest, s = p.text ++ rest ∧ Scan rest ps ∧
      patternMatch s = p.name?.map fun name => (name, p.text, rest) := by
  cases h with
  | braced hn hc h => exact ⟨_, by simp [Piece.text], h, patternMatch_braced hn hc⟩
  | bare hc hi hr h => exact ⟨_, rfl, h, patternMatch_bare hc hi hr⟩
  | char hn h => exact ⟨_, rfl, h, patternMatch_noRef hn⟩

/-- Two scans of one input start with the same piece and go on over the
    same rest. -/
theorem Scan.head_unique {s : List Char} {p p' : Piece} {ps ps' : List Piece} (h : Scan s (p :: ps))
    (h' : Scan s (p' :: ps')) : p = p' ∧ ∃ rest, Scan rest ps ∧ Scan rest ps' := by
  obtain ⟨r, hs, hr, hp⟩ := h.head
  obtain ⟨r', hs', hr', hp'⟩ := h'.head
  rw [hp] at hp'
  cases hq : p.name? with
  | none =>
      have hq' : p'.name? = none := by rw [hq] at hp'; exact Option.map_eq_none'.1 hp'.symm
      cases p <;> cases p' <;> simp only [Piece.name?, reduceCtorEq] at hq hq'
      obtain ⟨rfl, rfl⟩ := List.cons.inj (hs.symm.trans hs')
      exact ⟨rfl, r, hr, hr'⟩
  | some n =>
      rw [hq] at hp'
      cases hq' : p'.name? with
      | none => rw [hq'] at hp'; cases hp'
      | some n' =>
          rw [hq'] at hp'
          simp only [Option.map_some', Option.some.injEq, Prod.mk.injEq] at hp'
          obtain ⟨rfl, ht, rfl⟩ := hp'
          exact ⟨Piece.eq_of_name?_text (hq.trans hq'.symm) ht, r, hr, hr'⟩

theorem Scan.unique {s : List Char} {ps ps' : List Piece} (h : Scan s ps) (h' : Scan s ps') :
    ps = ps' := by
  induction ps generalizing s ps' with
  | nil => cases h; cases h'; rfl
  | cons p ps ih =>
      cases ps' with
      | nil => cases h'; cases h
      | cons p' ps' =>
          obtain ⟨rfl, rest, hr, hr'⟩ := h.head_unique h'
          rw [ih hr hr']

/-! ## `re.sub` writes the scan -/

/-- With fuel for the whole input, `re.sub` writes the expansion of each
    piece of the scan in turn. -/
theorem reSub_scan (E : Environ) {s : List Char} {ps : List Piece} (h : Scan s ps) :
    ∀ n, s.length ≤ n → reSub E n s = ps.flatMap (Piece.expand E) := by
  induction h with
  | nil => intro n _; cases n <;> rfl
  | braced hn hc _ ih =>
      rintro (_ | n) hl
      · simp at hl
      · simp only [List.length_cons, List.length_append] at hl
        rw [reSub, patternMatch_braced hn hc]
        dsimp only
        rw [ih n (by omega)]
        rfl
  | bare hc hi hr _ ih =>
      rintro (_ | n) hl
      · simp at hl
      · simp only [List.length_cons, List.length_append] at hl
        rw [reSub, patternMatch_bare hc hi hr]
        dsimp only
        rw [ih n (by omega)]
        rfl
  | char hn _ ih =>
      rintro (_ | n) hl
      · simp at hl
      · rw [reSub, patternMatch_noRef hn, ih n (by simpa using hl)]
        rfl

/-- A piece whose variable `E` does not define is written as it stands. -/
theorem Piece.expand_undefined {E : Environ} {p : Piece}
    (h : ∀ name ∈ p.name?, E (String.mk name) = none) : p.expand E = p.text := by
  unfold Piece.expand
  split
  · next name hn => rw [h name hn]; rfl
  · rfl

/-- **EXPAND = SCAN**: every string has exactly one left-to-right scan, and
    `expand_env_vars` writes it: each `${name}` and `$ident` reference as the
    variable's value when the environment defines it and verbatim otherwise,
    every other character as it is.  So a string whose references the
    environment leaves undefined comes back unchanged. -/
theorem expandEnvVars_scan (E : Environ) (s : String) :
    (∃! ps, Scan s.data ps) ∧
      ∀ ps, Scan s.data ps →
        expandEnvVars E s = String.mk (ps.flatMap (Piece.expand E)) ∧
          ((∀ p ∈ ps, ∀ name ∈ p.name?, E (String.mk name) = none) → expandEnvVars E s = s) := by
  obtain ⟨ps, hps⟩ := scan_exists s.data
  refine ⟨⟨ps, hps, fun ps' h' => (hps.unique h').symm⟩, fun ps h => ?_⟩
  have he : expandEnvVars E s = String.mk (ps.flatMap (Piece.expand E)) :=
    congrArg String.mk (reSub_scan E h _ le_rfl)
  refine ⟨he, fun hu => ?_⟩
  rw [he, List.flatMap_def, List.map_congr_left fun p hp => Piece.expand_undefined (hu p hp),
    ← List.flatMap_def, h.text]

/-- `HOME` is `/root`; nothing else is set. -/
def homeEnv : Environ := fun k => if k = "HOME" then some "/root" else none

/-- `${HOME}/bin:$PATH` reads as a braced reference, five characters and a
    bare reference; `HOME` is replaced and the unset `PATH` kept. -/
theorem expandEnvVars_scan_home :
    Scan "${HOME}/bin:$PATH".data
        ([.braced "HOME".data] ++ "/bin:".data.map .char ++ [.bare "PATH".data]) ∧
      expandEnvVars homeEnv "${HOME}/bin:$PATH" = "/root/bin:$PATH" := by
  have hs : Scan "${HOME}/bin:$PATH".data
      ([.braced "HOME".data] ++ "/bin:".data.map .char ++ [.bare "PATH".data]) := by
    refine @Scan.braced "HOME".data "/bin:$PATH".data _ (by decide) (by decide) ?_
    repeat refine .char (noRef_of_ne _ (by decide)) ?_
    exact @Scan.bare 'P' "ATH".data [] [] rfl (by decide) (fun _ h => nomatch h) .nil
  exact ⟨hs, ((expandEnvVars_scan homeEnv _).2 _ hs).1.trans rfl⟩

end McpConfig
