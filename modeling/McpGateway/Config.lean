import McpGateway.Shlex

/-! # Configuration: environment expansion, validation, `from_dict`, `model_dump`

    `config.py` loads the gateway's configuration from a dictionary.  Every
    backend entry is validated into a `BackendConfig`; its string fields pass
    through `expand_env_vars` on the way in (`expand_env`,
    `expand_dict_values`), and the model validator `validate_transport` rejects
    an entry with neither a `command` nor an `http_url`.  The gateway-level
    settings are validated into a `GatewayConfig` with pydantic's lax
    coercions and range checks.

    The validated records carry what validation established as fields
    (`has_transport`, `idle_nonneg`, the port range), so a configuration that
    validation would reject cannot be built.

    `expand_env_vars` is `re.sub` over the pattern
    `\$\{([^}]+)\}|\$([A-Za-z_][A-Za-z0-9_]*)`: `patternMatch` is the pattern
    tried at the head of the input (first alternative first) and `reSub` the
    left-to-right replacement loop, with fuel the input's length since every
    match consumes at least two characters. -/

namespace McpConfig

open McpJson

/-- The process environment, `os.environ.get`. -/
abbrev Environ := String → Option String

/-! ## `expand_env_vars` -/

/-- `[A-Za-z_]`. -/
def isIdentStart (c : Char) : Bool := c.isAlpha || c = '_'

/-- `[A-Za-z0-9_]`. -/
def isIdentChar (c : Char) : Bool := c.isAlphanum || c = '_'

/-- `[^}]*\}`: the characters before the first `}`, and those after it. -/
def untilClose : List Char → Option (List Char × List Char)
  | [] => none
  | c :: cs =>
      if c = '}' then some ([], cs) else (untilClose cs).map fun (n, r) => (c :: n, r)

/-- The pattern matched at the head of the input: the variable name
    (`group(1) or group(2)`), the matched text (`group(0)`) and the rest. -/
def patternMatch : List Char → Option (List Char × List Char × List Char)
  | '$' :: '{' :: cs =>
      match untilClose cs with
      | some (c :: n, rest) => some (c :: n, '$' :: '{' :: c :: n ++ ['}'], rest)
      | _ => none
  | '$' :: c :: cs =>
      if isIdentStart c then
        some (c :: cs.takeWhile isIdentChar, '$' :: c :: cs.takeWhile isIdentChar,
          cs.dropWhile isIdentChar)
      else none
  | _ => none

/-- `replacer`: the variable's value, or the matched text when it is unset. -/
def replacer (E : Environ) (name whole : List Char) : List Char :=
  ((E (String.mk name)).map String.data).getD whole

/-- `re.sub(pattern, replacer, value)` on the characters, with fuel. -/
def reSub (E : Environ) : Nat → List Char → List Char
  | 0, cs => cs
  | _ + 1, [] => []
  | n + 1, c :: cs =>
      match patternMatch (c :: cs) with
      | some (name, whole, rest) => replacer E name whole ++ reSub E n rest
      | none => c :: reSub E n cs

/-- `expand_env_vars(value)`. -/
def expandEnvVars (E : Environ) (value : String) : String :=
  String.mk (reSub E value.length value.data)

/-! ## Field coercions (pydantic, lax mode) -/

/-- The error pydantic raises for a field it cannot coerce. -/
def invalid (field : String) : PyExc := ⟨.valueError, "validation error for " ++ field⟩

/-- A `str` field. -/
def coerceStr (field : String) : Json → Except PyExc String
  | .str s => .ok s
  | _ => .error (invalid field)

/-- A `float` field. -/
def coerceFloat (py : PyLib) (field : String) : Json → Except PyExc ℚ
  | .int n => .ok n
  | .float q => .ok q
  | .bool b => .ok b.toNat
  | .str s => match py.strToFloat s with
    | some q => .ok q
    | none => .error (invalid field)
  | _ => .error (invalid field)

/-- An `int` field. -/
def coerceInt (py : PyLib) (field : String) : Json → Except PyExc Int
  | .int n => .ok n
  | .float q => if q.den = 1 then .ok q.num else .error (invalid field)
  | .bool b => .ok b.toNat
  | .str s => match py.strToInt s with
    | some n => .ok n
    | none => .error (invalid field)
  | _ => .error (invalid field)

/-- A `bool` field. -/
def coerceBool (py : PyLib) (field : String) : Json → Except PyExc Bool
  | .bool b => .ok b
  | .int n => if n = 0 then .ok false else if n = 1 then .ok true else .error (invalid field)
  | .float q => if q = 0 then .ok false else if q = 1 then .ok true else .error (invalid field)
  | .str s => match py.strToBool s with
    | some b => .ok b
    | none => .error (invalid field)
  | _ => .error (invalid field)

/-- The field `key` of `d` coerced, or its default when absent. -/
def fieldOr {α : Type} (d : List (String × Json)) (key : String) (dflt : α)
    (coerce : Json → Except PyExc α) : Except PyExc α :=
  match find? d key with
  | some v => coerce v
  | none => .ok dflt

/-- A required field of `d`, coerced. -/
def requiredField {α : Type} (d : List (String × Json)) (key : String)
    (coerce : Json → Except PyExc α) : Except PyExc α :=
  match find? d key with
  | some v => coerce v
  | none => .error (invalid key)

/-- `v.items()`: only a `dict` has `items`. -/
def items : Json → Except PyExc (List (String × Json))
  | .obj kvs => .ok kvs
  | _ => .error ⟨.attributeError, "object has no attribute 'items'"⟩

/-! ## `BackendConfig` -/

/-- A validated backend entry.  `has_transport` is what `validate_transport`
    checks; `idle_nonneg` is the field constraint `ge=0`. -/
structure BackendConfig where
  name : String
  description : String
  command : Option String
  httpUrl : Option String
  env : List (String × String)
  headers : List (String × String)
  cwd : Option String
  idleTimeout : ℚ
  enabled : Bool
  has_transport : command.isSome ∨ httpUrl.isSome
  idle_nonneg : 0 ≤ idleTimeout

/-- `BackendConfig(name=name, command=command)`, every other field at its
    default. -/
def BackendConfig.ofCommand (name command : String) : BackendConfig :=
  ⟨name, "", some command, none, [], [], none, 300, true, .inl rfl, Rat.num_nonneg.mp (by decide)⟩

/-- `BackendConfig(name=name, http_url=url)`, every other field at its default. -/
def BackendConfig.ofUrl (name url : String) : BackendConfig :=
  ⟨name, "", none, some url, [], [], none, 300, true, .inr rfl, Rat.num_nonneg.mp (by decide)⟩

/-- The transports a backend can use. -/
inductive Transport where
  | stdio
  | http
  | sse
  deriving DecidableEq, Repr

/-- The string `transport_type` returns. -/
def Transport.name : Transport → String
  | .stdio => "stdio"
  | .http => "http"
  | .sse => "sse"

/-- `BackendConfig.transport_type`. -/
def BackendConfig.transportType (c : BackendConfig) : Transport :=
  if c.command.any (· ≠ "") then .stdio
  else if c.httpUrl.any fun u => u ≠ "" && endsWith u "/sse" then .sse
  else .http

/-- `BackendConfig.command_list`: `None` for a missing or empty command,
    else `shlex.split(command)`, which may raise. -/
def BackendConfig.commandList (c : BackendConfig) : Except PyExc (Option (List String)) :=
  match c.command with
  | some cmd => if cmd = "" then .ok none else some <$> McpShlex.split cmd
  | none => .ok none

/-- `BackendConfig.expand_env`, run on `command`, `http_url` and `cwd` as
    given (before type validation): a non-string makes `re.sub` raise. -/
def expandEnv (E : Environ) : Option Json → Except PyExc (Option String)
  | none | some .null => .ok none
  | some (.str s) => .ok (some (expandEnvVars E s))
  | some _ => .error ⟨.typeError, "expected string or bytes-like object"⟩

/-- `BackendConfig.expand_dict_values`, run on `env` and `headers`. -/
def expandDictValues (py : PyLib) (E : Environ) :
    Option Json → Except PyExc (List (String × String))
  | none | some .null => .ok []
  | some (.obj kvs) => .ok (kvs.map fun kv => (kv.1, expandEnvVars E (pyStr py kv.2)))
  | some _ => .error ⟨.attributeError, "object has no attribute 'items'"⟩

/-- `BackendConfig(**d)`: the field validators, then `validate_transport`. -/
def BackendConfig.validate (py : PyLib) (E : Environ) (d : List (String × Json)) :
    Except PyExc BackendConfig := do
  let name ← requiredField d "name" (coerceStr "name")
  let description ← fieldOr d "description" "" (coerceStr "description")
  let command ← expandEnv E (find? d "command")
  let httpUrl ← expandEnv E (find? d "http_url")
  let env ← expandDictValues py E (find? d "env")
  let headers ← expandDictValues py E (find? d "headers")
  let cwd ← expandEnv E (find? d "cwd")
  let idleTimeout ← fieldOr d "idle_timeout" 300 (coerceFloat py "idle_timeout")
  let enabled ← fieldOr d "enabled" true (coerceBool py "enabled")
  if hi : 0 ≤ idleTimeout then
    if ht : command.isSome ∨ httpUrl.isSome then
      pure ⟨name, description, command, httpUrl, env, headers, cwd, idleTimeout, enabled, ht, hi⟩
    else .error ⟨.valueError, "Backend '" ++ name ++ "' must have either 'command' or 'http_url'"⟩
  else .error (invalid "idle_timeout")

/-! ## `GatewayConfig` -/

/-- `log_level`. -/
inductive LogLevel where
  | DEBUG
  | INFO
  | WARNING
  | ERROR
  deriving DecidableEq, Repr

/-- The `Literal` the log level is validated against. -/
def LogLevel.text : LogLevel → String
  | .DEBUG => "DEBUG"
  | .INFO => "INFO"
  | .WARNING => "WARNING"
  | .ERROR => "ERROR"

/-- A `Literal["DEBUG", "INFO", "WARNING", "ERROR"]` field. -/
def coerceLogLevel : Json → Except PyExc LogLevel
  | .str "DEBUG" => .ok .DEBUG
  | .str "INFO" => .ok .INFO
  | .str "WARNING" => .ok .WARNING
  | .str "ERROR" => .ok .ERROR
  | _ => .error (invalid "log_level")

/-- A validated gateway configuration, with the field constraints as fields.
    `backends` keeps the order of the configuration's map. -/
structure GatewayConfig where
  host : String
  port : Int
  enableMetaMcp : Bool
  backends : List (String × BackendConfig)
  logLevel : LogLevel
  healthCheckInterval : ℚ
  requestTimeout : ℚ
  port_range : 1 ≤ port ∧ port ≤ 65535
  health_ge : 1 ≤ healthCheckInterval
  request_ge : 1 ≤ requestTimeout

/-- `GatewayConfig(**settings)` with the backends already validated; keys
    that are not fields are ignored. -/
def GatewayConfig.validate (py : PyLib) (settings : List (String × Json))
    (backends : List (String × BackendConfig)) : Except PyExc GatewayConfig := do
  let host ← fieldOr settings "host" "127.0.0.1" (coerceStr "host")
  let port ← fieldOr settings "port" 39400 (coerceInt py "port")
  let enableMetaMcp ← fieldOr settings "enable_meta_mcp" true (coerceBool py "enable_meta_mcp")
  let logLevel ← fieldOr settings "log_level" .INFO coerceLogLevel
  let health ← fieldOr settings "health_check_interval" 30
    (coerceFloat py "health_check_interval")
  let request ← fieldOr settings "request_timeout" 30 (coerceFloat py "request_timeout")
  if hp : 1 ≤ port ∧ port ≤ 65535 then
    if hh : 1 ≤ health then
      if hr : 1 ≤ request then
        pure ⟨host, port, enableMetaMcp, backends, logLevel, health, request, hp, hh, hr⟩
      else .error (invalid "request_timeout")
    else .error (invalid "health_check_interval")
  else .error (invalid "port")

/-- The loop of `from_dict` over the backend entries: a dict entry gets its key
    as `name` and is validated; any other entry is skipped. -/
def validateBackends (py : PyLib) (E : Environ) :
    List (String × Json) → Except PyExc (List (String × BackendConfig))
  | [] => .ok []
  | (name, .obj kvs) :: rest => do
      let b ← BackendConfig.validate py E (setField kvs "name" (.str name))
      let bs ← validateBackends py E rest
      pure ((name, b) :: bs)
  | _ :: rest => validateBackends py E rest

/-- `data.get("backends") or data.get("servers") or {}`. -/
def backendsRaw (data : List (String × Json)) : Json :=
  match (find? data "backends").filter truthy with
  | some v => v
  | none => ((find? data "servers").filter truthy).getD (.obj [])

/-- `GatewayConfig.from_dict(data)`. -/
def fromDict (py : PyLib) (E : Environ) (data : List (String × Json)) :
    Except PyExc GatewayConfig := do
  let settings := data.filter fun kv => kv.1 ≠ "backends" && kv.1 ≠ "servers"
  let entries ← items (backendsRaw data)
  let backends ← validateBackends py E entries
  GatewayConfig.validate py settings backends

/-- `GatewayConfig.get_enabled_backends()`. -/
def GatewayConfig.getEnabledBackends (c : GatewayConfig) : List (String × BackendConfig) :=
  c.backends.filter (·.2.enabled)

/-! ## `model_dump` -/

/-- An optional string as dumped. -/
def dumpOpt : Option String → Json
  | some s => .str s
  | none => .null

/-- A string map as dumped. -/
def dumpMap (m : List (String × String)) : Json := .obj (m.map fun kv => (kv.1, .str kv.2))

/-- `BackendConfig.model_dump()`. -/
def BackendConfig.modelDump (c : BackendConfig) : List (String × Json) :=
  [("name", .str c.name), ("description", .str c.description), ("command", dumpOpt c.command),
    ("http_url", dumpOpt c.httpUrl), ("env", dumpMap c.env), ("headers", dumpMap c.headers),
    ("cwd", dumpOpt c.cwd), ("idle_timeout", .float c.idleTimeout), ("enabled", .bool c.enabled)]

/-- `GatewayConfig.model_dump()`. -/
def GatewayConfig.modelDump (c : GatewayConfig) : List (String × Json) :=
  [("host", .str c.host), ("port", .int c.port), ("enable_meta_mcp", .bool c.enableMetaMcp),
    ("backends", .obj (c.backends.map fun kb => (kb.1, .obj kb.2.modelDump))),
    ("log_level", .str c.logLevel.text), ("health_check_interval", .float c.healthCheckInterval),
    ("request_timeout", .float c.requestTimeout)]

end McpConfig
