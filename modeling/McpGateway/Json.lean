import Mathlib.Data.Rat.Defs

/-! # JSON values and the Python operations the gateway applies to them

    The gateway handles the JSON it receives from clients and from backends as
    Python objects: it calls `dict.get`, tests truthiness and `in`, lowers
    strings and compares lengths with a client's `limit`.  Each of these raises
    on a value of the wrong type.  This file fixes the values (`Json`, as
    `json.loads` builds them), the exceptions (`PyExc`) and one total function
    per Python operation, returning `Except PyExc`, so that every handler built
    on them states its failure cases explicitly.

    Library functions whose exact output no theorem here depends on (`str.lower`,
    `str.strip`, `json.dumps`) are bundled as the parameter `PyLib`. -/

namespace McpJson

/-- A JSON value as `json.loads` returns it.  Objects keep their fields in
    order; a float is modelled by its exact rational value. -/
inductive Json where
  | null
  | bool (b : Bool)
  | int (n : Int)
  | float (q : ℚ)
  | str (s : String)
  | arr (xs : List Json)
  | obj (kvs : List (String × Json))
  deriving Inhabited, Repr

/-- The kinds of Python exception the modelled code can raise. -/
inductive ExcKind where
  | attributeError
  | typeError
  | valueError
  | jsonDecodeError
  | unicodeDecodeError
  | recursionError
  | oSError
  | timeoutError
  | assertionError
  deriving DecidableEq, Repr

/-- A raised Python exception; `msg` is what `str(e)` returns. -/
structure PyExc where
  kind : ExcKind
  msg : String
  deriving Repr

/-- The library functions the model takes as given: string case and
    whitespace handling, serialisation and parsing (`json.dumps`,
    `json.loads`, `str` of a non-string),
    and pydantic's lax parsing of a string into an `int`, a `float` or a
    `bool`. -/
structure PyLib where
  lower : String → String
  strip : String → String
  dumps : Json → String
  loads : String → Option Json
  repr : Json → String
  strToInt : String → Option Int
  strToFloat : String → Option ℚ
  strToBool : String → Option Bool

/-! ## Strings -/

/-- `p` occurs in `s` as a contiguous block. -/
def isInfix (p : List Char) : List Char → Bool
  | [] => p.isEmpty
  | c :: cs => p.isPrefixOf (c :: cs) || isInfix p cs

/-- Python's `p in s` on strings. -/
def contains (s p : String) : Bool := isInfix p.data s.data

/-- Python's `s.startswith(p)`. -/
def startsWith (s p : String) : Bool := p.data.isPrefixOf s.data

/-- Python's `s.endswith(p)`. -/
def endsWith (s p : String) : Bool := p.data.isSuffixOf s.data

/-! ## Objects -/

/-- The value bound to `key` in a field list. -/
def find? : List (String × Json) → String → Option Json
  | [], _ => none
  | (k, v) :: rest, key => if k = key then some v else find? rest key

/-- Python's `d[key] = v`: replace the binding in place, else append it. -/
def setField : List (String × Json) → String → Json → List (String × Json)
  | [], key, v => [(key, v)]
  | (k, w) :: rest, key, v =>
      if k = key then (k, v) :: rest else (k, w) :: setField rest key v

/-- The `id` a JSON-RPC message carries, when it is an object with one. -/
def Json.id? : Json → Option Json
  | .obj kvs => find? kvs "id"
  | _ => none

/-- The value is the string `s`. -/
def Json.isStr (s : String) : Json → Bool
  | .str t => t = s
  | _ => false

/-! ## Python operations -/

/-- `v.get(key, default)`: only a `dict` has `get`. -/
def pyGet : Json → String → Json → Except PyExc Json
  | .obj kvs, key, d => .ok ((find? kvs key).getD d)
  | _, _, _ => .error ⟨.attributeError, "object has no attribute 'get'"⟩

/-- `str(v)`: a string is itself; any other value is rendered. -/
def pyStr (py : PyLib) : Json → String
  | .str s => s
  | v => py.repr v

/-- Python truthiness. -/
def truthy : Json → Bool
  | .null => false
  | .bool b => b
  | .int n => n ≠ 0
  | .float q => q ≠ 0
  | .str s => !s.isEmpty
  | .arr xs => !xs.isEmpty
  | .obj kvs => !kvs.isEmpty

/-- `key in v` for a string `key`: a key of a dict, an element of a list, a
    substring of a string; anything else is not iterable. -/
def pyIn (key : String) : Json → Except PyExc Bool
  | .obj kvs => .ok (kvs.any (·.1 = key))
  | .arr xs => .ok (xs.any (Json.isStr key))
  | .str s => .ok (contains s key)
  | _ => .error ⟨.typeError, "argument is not iterable"⟩

/-- `s.lower()`: only a `str` has `lower`. -/
def pyLower (py : PyLib) : Json → Except PyExc String
  | .str s => .ok (py.lower s)
  | _ => .error ⟨.attributeError, "object has no attribute 'lower'"⟩

/-- `s.startswith(p)`: only a `str` has `startswith`. -/
def pyStartsWith (p : String) : Json → Except PyExc Bool
  | .str s => .ok (startsWith s p)
  | _ => .error ⟨.attributeError, "object has no attribute 'startswith'"⟩

/-- `v[:n]`: a string or a list is cut to its first `n` items; any other
    value raises (`TypeError`, or from Python 3.12 a `KeyError` for a dict). -/
def pySlice (n : Nat) : Json → Except PyExc Json
  | .str s => .ok (.str (String.mk (s.data.take n)))
  | .arr xs => .ok (.arr (xs.take n))
  | _ => .error ⟨.typeError, "object is not subscriptable"⟩

/-- `n >= limit` for an `int` `n`: defined for the numeric types (a `bool` is
    an `int` in Python). -/
def pyGe (n : Nat) : Json → Except PyExc Bool
  | .int m => .ok (decide (m ≤ n))
  | .float q => .ok (decide (q ≤ n))
  | .bool b => .ok (decide (b.toNat ≤ n))
  | _ => .error ⟨.typeError, "'>=' not supported between instances"⟩

/-! ## JSON-RPC messages -/

/-- `{"jsonrpc": "2.0", "error": {"code": code, "message": message}, "id": id}`. -/
def rpcError (code : Int) (message : String) (id : Json) : Json :=
  .obj [("jsonrpc", .str "2.0"),
    ("error", .obj [("code", .int code), ("message", .str message)]), ("id", id)]

/-- `{"jsonrpc": "2.0", "result": result, "id": id}`. -/
def rpcResult (result : Json) (id : Json) : Json :=
  .obj [("jsonrpc", .str "2.0"), ("result", result), ("id", id)]

/-! ## A concrete library -/

mutual
/-- Compact JSON text of a value. -/
def Json.render : Json → String
  | .null => "null"
  | .bool b => if b then "true" else "false"
  | .int n => toString n
  | .float q => toString q
  | .str s => "\"" ++ s ++ "\""
  | .arr xs => "[" ++ renderList xs ++ "]"
  | .obj kvs => "\x7b" ++ renderFields kvs ++ "\x7d"

/-- The elements of an array, comma separated. -/
def renderList : List Json → String
  | [] => ""
  | [x] => x.render
  | x :: xs => x.render ++ ", " ++ renderList xs

/-- The fields of an object, comma separated. -/
def renderFields : List (String × Json) → String
  | [] => ""
  | [(k, v)] => "\"" ++ k ++ "\": " ++ v.render
  | (k, v) :: kvs => "\"" ++ k ++ "\": " ++ v.render ++ ", " ++ renderFields kvs
end

/-- The spellings pydantic reads as a boolean. -/
def boolWord (s : String) : Option Bool :=
  if s ∈ ["1", "on", "t", "true", "y", "yes"] then some true
  else if s ∈ ["0", "off", "f", "false", "n", "no"] then some false
  else none

/-- A library for closed examples: ASCII case mapping and whitespace, the
    compact renderer, integer and boolean spellings; it parses no JSON text. -/
def PyLib.ascii : PyLib where
  lower s := String.mk (s.data.map Char.toLower)
  strip s := String.mk ((s.data.dropWhile Char.isWhitespace).reverse.dropWhile Char.isWhitespace).reverse
  dumps := Json.render
  loads _ := none
  repr := Json.render
  strToInt s := s.trim.toInt?
  strToFloat s := s.trim.toInt?.map (↑)
  strToBool s := boolWord (s.trim.map Char.toLower)

@[simp] theorem find?_setField_self (kvs : List (String × Json)) (key : String) (v : Json) :
    find? (setField kvs key v) key = some v := by
  induction kvs with
  | nil => simp [setField, find?]
  | cons kw rest ih =>
      obtain ⟨k, w⟩ := kw
      by_cases h : k = key <;> simp [setField, find?, h, ih]

@[simp] theorem rpcError_id (code : Int) (message : String) (id : Json) :
    (rpcError code message id).id? = some id := rfl

@[simp] theorem rpcResult_id (result id : Json) : (rpcResult result id).id? = some id := rfl

theorem pyGet_obj (kvs : List (String × Json)) (key : String) (d : Json) :
    pyGet (.obj kvs) key d = .ok ((find? kvs key).getD d) := rfl

end McpJson
