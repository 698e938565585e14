import McpGateway.Json

/-! # `shlex.split`: the tokenizer behind `BackendConfig.command_list`

    `command_list` turns a stdio backend's command string into an argument
    vector with `shlex.split`, which runs `shlex.read_token` in POSIX mode with
    `whitespace_split = True` and no comment characters.  The lexer is a state
    machine over the characters: between tokens, inside a word, inside a
    quote, or just after a backslash.  It raises `ValueError` when the input
    ends inside a quote (`"No closing quotation"`) or right after a backslash
    (`"No escaped character"`).

    `lex` follows `read_token` branch by branch, one character per step, so it
    is structural in the input.  Which strings it accepts, and the words it
    returns for them, is the subject of `McpGateway.ShlexWords`. -/

namespace McpShlex

open McpJson

/-- `shlex.whitespace`. -/
def isBlank (c : Char) : Bool := c = ' ' || c = '\t' || c = '\r' || c = '\n'

/-- `shlex.quotes`. -/
def isQuote (c : Char) : Bool := c = '\'' || c = '"'

/-- The lexer state (`shlex.state`): `' '`, `'a'`, a quote character, or the
    escape character together with the state it returns to (`escapedstate`,
    the word when `inQuote` is false, the double quote otherwise). -/
inductive LexState where
  | blank
  | word
  | quote (q : Char)
  | escape (inQuote : Bool)
  deriving DecidableEq, Repr

/-- `read_token` run to the end of the input: the tokens still to come, given
    the state, the token read so far and the `quoted` flag. -/
def lex : List Char → LexState → List Char → Bool → Except PyExc (List String)
  | [], .blank, tok, quoted
  | [], .word, tok, quoted =>
      .ok (if tok.isEmpty && !quoted then [] else [String.mk tok])
  | [], .quote _, _, _ => .error ⟨.valueError, "No closing quotation"⟩
  | [], .escape _, _, _ => .error ⟨.valueError, "No escaped character"⟩
  | c :: cs, .blank, tok, quoted =>
      if isBlank c then
        if !tok.isEmpty || quoted then (String.mk tok :: ·) <$> lex cs .blank [] false
        else lex cs .blank tok quoted
      else if c = '\\' then lex cs (.escape false) tok quoted
      else if isQuote c then lex cs (.quote c) tok quoted
      else lex cs .word [c] quoted
  | c :: cs, .quote q, tok, _ =>
      if c = q then lex cs .word tok true
      else if c = '\\' && q = '"' then lex cs (.escape true) tok true
      else lex cs (.quote q) (tok ++ [c]) true
  | c :: cs, .escape inQuote, tok, quoted =>
      let kept := if inQuote && c ≠ '\\' && c ≠ '"' then tok ++ ['\\'] else tok
      lex cs (if inQuote then .quote '"' else .word) (kept ++ [c]) quoted
  | c :: cs, .word, tok, quoted =>
      if isBlank c then
        if !tok.isEmpty || quoted then (String.mk tok :: ·) <$> lex cs .blank [] false
        else lex cs .blank tok quoted
      else if isQuote c then lex cs (.quote c) tok quoted
      else if c = '\\' then lex cs (.escape false) tok quoted
      else lex cs .word (tok ++ [c]) quoted

/-- `shlex.split(s)`. -/
def split (s : String) : Except PyExc (List String) := lex s.data .blank [] false

end McpShlex
