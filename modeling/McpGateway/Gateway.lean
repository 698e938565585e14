import Mathlib.Algebra.Order.Ring.Unbundled.Rat
import McpGateway.Backend

/-! # The gateway: routing, the Meta-MCP handlers and the idle checker

    `Gateway` holds the enabled backends in registration order, each under
    its name, as the dict `self.backends` does.  A handler runs to completion
    before the next one starts; a POST it sends to an HTTP backend is awaited
    to its reply at once.  It returns the JSON response, or the exception
    that aiohttp turns into an HTTP 500, together with the gateway, whose
    adapters keep whatever the handler did to them before it raised.

    What a handler meets is an `Env`: the time the request arrives, the
    clock's readings at each `time.time()` the handler makes after it, what
    each backend's world does, and how each HTTP backend answers a POST.  The request body is
    what `await request.json()` yields: a JSON value, or the exception
    decoding raised (`JSONDecodeError` for text that is not JSON,
    `UnicodeDecodeError` for bytes that are not UTF-8). -/

namespace McpServer

open McpJson McpConfig McpBackend

/-- The fields of `Gateway` the handlers read: the Meta-MCP switch and the
    backends in registration order. -/
structure Gateway where
  enableMetaMcp : Bool
  backends : List (String × Adapter)

/-- `Gateway(config)` at time `now`: an adapter for each enabled backend. -/
def Gateway.init (config : GatewayConfig) (now : ℚ) : Gateway :=
  ⟨config.enableMetaMcp, config.getEnabledBackends.map fun e => (e.1, Adapter.init e.2 now)⟩

/-- What one request meets: the time it arrives, the clock's readings at the
    handler's `time.time()` calls on each backend `n` (`startAt n` after the
    `Popen` of a `start()` the handler makes, `sendAt n` at `send_request`'s
    stamp, which comes after it), what each backend's world does, and how
    each HTTP backend answers a POST.  The clock does not go back. -/
structure Env where
  now : ℚ
  startAt : String → ℚ
  sendAt : String → ℚ
  world : String → World
  reply : String → HttpReply
  arrive_le : ∀ n, now ≤ startAt n
  start_le : ∀ n, startAt n ≤ sendAt n

/-- A request whose handler reads the clock at `t` every time. -/
def Env.at (t : ℚ) (world : String → World) (reply : String → HttpReply) : Env :=
  ⟨t, fun _ => t, fun _ => t, world, reply, fun _ => le_rfl, fun _ => le_rfl⟩

theorem Env.arrive_le_sendAt (env : Env) (n : String) : env.now ≤ env.sendAt n :=
  (env.arrive_le n).trans (env.start_le n)

/-- `web.json_response(body, status=status)`. -/
structure Response where
  status : Nat
  body : Json

/-- `self.backends.get(name)`: the position and the entry. -/
def Gateway.get (g : Gateway) (name : String) : Option (Nat × String × Adapter) :=
  (g.backends.enum.find? fun e => e.2.1 = name)

/-- `self.backends.get(key)` for a key taken from client JSON: a list or a
    dict is unhashable, and no other non-string is a key. -/
def Gateway.getJson (g : Gateway) : Json → Except PyExc (Option (Nat × String × Adapter))
  | .str s => .ok (g.get s)
  | .arr _ => .error ⟨.typeError, "unhashable type: 'list'"⟩
  | .obj _ => .error ⟨.typeError, "unhashable type: 'dict'"⟩
  | _ => .ok none

theorem Gateway.get_name {g : Gateway} {name n : String} {i : Nat} {a : Adapter}
    (h : g.get name = some (i, n, a)) : n = name := by
  simpa using List.find?_some h

/-- Put back the `i`-th adapter. -/
def Gateway.setAt (g : Gateway) (i : Nat) (a : Adapter) : Gateway :=
  { g with backends := g.backends.modify (fun e => (e.1, a)) i }

theorem Gateway.getElem?_of_get {g : Gateway} {name n : String} {i : Nat} {a : Adapter}
    (h : g.get name = some (i, n, a)) : g.backends[i]? = some (n, a) :=
  List.mem_enum_iff_getElem?.1 (List.mem_of_find?_eq_some h)

theorem Gateway.getElem?_of_getJson {g : Gateway} {key : Json} {n : String} {i : Nat} {a : Adapter}
    (h : g.getJson key = .ok (some (i, n, a))) : g.backends[i]? = some (n, a) := by
  cases key <;> first | cases h | exact Gateway.getElem?_of_get (Except.ok.inj h)

theorem Gateway.getElem?_setAt {g : Gateway} {i : Nat} {n : String} {a : Adapter}
    (hi : g.backends[i]? = some (n, a)) (a' : Adapter) : (g.setAt i a').backends[i]? = some (n, a') := by
  simp [Gateway.setAt, List.getElem?_modify, hi]

theorem find?_enumFrom_modify {name n : String} {a a' : Adapter} :
    ∀ (l : List (String × Adapter)) (k i : Nat),
      (l.enumFrom k).find? (fun e => e.2.1 = name) = some (k + i, n, a) →
        ((l.modify (fun e => (e.1, a')) i).enumFrom k).find? (fun e => e.2.1 = name) = some (k + i, n, a')
  | [], _, _, h => by cases h
  | e :: l, k, i, h => by
      rw [List.enumFrom_cons, List.find?_cons] at h
      by_cases he : e.1 = name
      · simp only [he, decide_True] at h
        obtain ⟨hk, rfl⟩ := Prod.mk.inj (Option.some.inj h)
        obtain rfl : i = 0 := by omega
        simp only at he
        simp [List.enumFrom_cons, he]
      · simp only [he, decide_False] at h
        cases i with
        | zero => exact absurd (List.mem_enumFrom (List.mem_of_find?_eq_some h)).1 (by omega)
        | succ j =>
            rw [List.modify_succ_cons, List.enumFrom_cons, List.find?_cons]
            simp only [he, decide_False]
            rw [show k + (j + 1) = k + 1 + j by omega] at h ⊢
            exact find?_enumFrom_modify l (k + 1) j h

/-- Putting back the `i`-th adapter keeps it under its name. -/
theorem Gateway.get_setAt {g : Gateway} {name n : String} {i : Nat} {a : Adapter}
    (h : g.get name = some (i, n, a)) (a' : Adapter) : (g.setAt i a').get name = some (i, n, a') := by
  have := @find?_enumFrom_modify name n a a' g.backends 0 i (by rw [Nat.zero_add]; exact h)
  rwa [Nat.zero_add] at this

/-- `await backend.send_request(request)`, the POST of an HTTP backend
    awaited to its reply `r`. -/
def callBackend (py : PyLib) (a : Adapter) (now : ℚ) (req : Json) (w : World) (r : HttpReply) :
    Except PyExc Json × Adapter :=
  match sendRequest py a now req w with
  | (.done res, a) => (res, a)
  | (.posted d, a) =>
      let res := completeHttpRequest py { a with inflight := a.inflight.eraseIdx (a.inflight.length - 1) } d r
      (.ok res.1, res.2)

/-! ## The meta-tools -/

/-- The JSON-RPC error for a body that is not JSON. -/
def parseError : Json := rpcError (-32700) "Parse error" .null

/-- `_meta_initialize`. -/
def metaInitialize (id : Json) : Json :=
  rpcResult (.obj [("protocolVersion", .str "2024-11-05"), ("capabilities", .obj [("tools", .obj [])]),
    ("serverInfo", .obj [("name", .str "mcp-gateway"), ("version", .str "1.0.0"),
      ("description", .str "Universal MCP Gateway with Meta-MCP for dynamic tool discovery")])]) id

/-- A string property of an input schema. -/
def strProp (description : String) : Json :=
  .obj [("type", .str "string"), ("description", .str description)]

/-- The four meta-tools `_meta_tools_list` returns. -/
def metaTools : List Json :=
  [.obj [("name", .str "gateway_list_servers"),
      ("description", .str "List all available MCP backend servers"),
      ("inputSchema", .obj [("type", .str "object"), ("properties", .obj []), ("required", .arr [])])],
    .obj [("name", .str "gateway_list_tools"),
      ("description", .str "List all tools from a specific backend server"),
      ("inputSchema", .obj [("type", .str "object"),
        ("properties", .obj [("server", strProp "Name of the backend server")]),
        ("required", .arr [.str "server"])])],
    .obj [("name", .str "gateway_search_tools"),
      ("description", .str "Search for tools across all backends by keyword"),
      ("inputSchema", .obj [("type", .str "object"),
        ("properties", .obj [("query", strProp "Search keyword"),
          ("limit", .obj [("type", .str "integer"), ("description", .str "Max results (default 10)"),
            ("default", .int 10)])]),
        ("required", .arr [.str "query"])])],
    .obj [("name", .str "gateway_invoke"),
      ("description", .str "Invoke a tool on a specific backend"),
      ("inputSchema", .obj [("type", .str "object"),
        ("properties", .obj [("server", strProp "Backend server name"), ("tool", strProp "Tool name to invoke"),
          ("arguments", .obj [("type", .str "object"), ("description", .str "Tool arguments"),
            ("default", .obj [])])]),
        ("required", .arr [.str "server", .str "tool"])])]]

/-- `_meta_tools_list`. -/
def metaToolsList (id : Json) : Json := rpcResult (.obj [("tools", .arr metaTools)]) id

/-- `{"content": [{"type": "text", "text": text}]}` as a result. -/
def textResult (text : String) (id : Json) : Json :=
  rpcResult (.obj [("content", .arr [.obj [("type", .str "text"), ("text", .str text)]])]) id

/-- One backend's entry in `_call_list_servers`. -/
def serverInfo (e : String × Adapter) : Except PyExc Json := do
  let tools ← e.2.getCachedTools
  pure (.obj [("name", .str e.1), ("description", .str e.2.backend.config.description),
    ("transport", .str e.2.backend.config.transportType.name), ("running", .bool e.2.isRunning),
    ("tools_count", .int tools.length)])

/-- `_call_list_servers`. -/
def callListServers (py : PyLib) (g : Gateway) (id : Json) : Except PyExc Json := do
  let servers ← g.backends.mapM serverInfo
  pure (textResult (py.dumps (.obj [("servers", .arr servers)])) id)

/-- `_call_list_tools`. -/
def callListTools (py : PyLib) (g : Gateway) (arguments id : Json) (env : Env) :
    Except PyExc Json × Gateway :=
  match pyGet arguments "server" .null with
  | .error e => (.error e, g)
  | .ok server =>
      if !truthy server then (.ok (rpcError (-32602) "Missing 'server' parameter" id), g)
      else match g.getJson server with
        | .error e => (.error e, g)
        | .ok none => (.ok (rpcError (-32001) ("Unknown server: " ++ pyStr py server) id), g)
        | .ok (some (i, name, a)) =>
            let r := start py a (env.startAt name) (env.world name)
            let g := g.setAt i r.2
            match r.1 with
            | .error e => (.error e, g)
            | .ok _ => match r.2.getCachedTools with
              | .error e => (.error e, g)
              | .ok tools =>
                  (.ok (textResult (py.dumps (.obj [("server", server), ("tools", .arr tools)])) id), g)

/-- `query in tool_name.lower() or query in tool_desc.lower()`. -/
def matchesQuery (py : PyLib) (q : String) (toolName toolDesc : Json) : Except PyExc Bool := do
  if contains (← pyLower py toolName) q then pure true
  else pure (contains (← pyLower py toolDesc) q)

/-- The inner loop of `_call_search_tools` over one backend's tools: append
    a match, then stop once `len(matches) >= limit`. -/
def scanTools (py : PyLib) (q : String) (limit : Json) (name : String) :
    List Json → List Json → Except PyExc (List Json)
  | [], ms => .ok ms
  | tool :: tools, ms => do
      let toolName ← pyGet tool "name" (.str "")
      let toolDesc ← pyGet tool "description" (.str "")
      let ms ← if ← matchesQuery py q toolName toolDesc then do
          let desc ← pySlice 200 toolDesc
          pure (ms ++ [.obj [("server", .str name), ("tool", toolName), ("description", desc)]])
        else pure ms
      if ← pyGe ms.length limit then pure ms else scanTools py q limit name tools ms

/-- The outer loop of `_call_search_tools`: start each backend in turn,
    scan its cached tools, and stop once `len(matches) >= limit`.  Returns
    the matches and the backends as the loop left them. -/
def searchBackends (py : PyLib) (q : String) (limit : Json) (env : Env) :
    List (String × Adapter) → List Json → Except PyExc (List Json) × List (String × Adapter)
  | [], ms => (.ok ms, [])
  | (name, a) :: rest, ms =>
      let r := start py a (env.startAt name) (env.world name)
      match r.1, (do
          let ms ← scanTools py q limit name (← r.2.getCachedTools) ms
          pure (ms, ← pyGe ms.length limit)) with
      | .error e, _ => (.error e, (name, r.2) :: rest)
      | .ok _, .error e => (.error e, (name, r.2) :: rest)
      | .ok _, .ok (ms, true) => (.ok ms, (name, r.2) :: rest)
      | .ok _, .ok (ms, false) =>
          let s := searchBackends py q limit env rest ms
          (s.1, (name, r.2) :: s.2)

/-- `_call_search_tools`. -/
def callSearchTools (py : PyLib) (g : Gateway) (arguments id : Json) (env : Env) :
    Except PyExc Json × Gateway :=
  match (do
      let q ← pyLower py (← pyGet arguments "query" (.str ""))
      pure (q, ← pyGet arguments "limit" (.int 10))) with
  | .error e => (.error e, g)
  | .ok (q, limit) =>
      if q = "" then (.ok (rpcError (-32602) "Missing 'query' parameter" id), g)
      else
        let s := searchBackends py q limit env g.backends []
        (s.1.map fun ms => textResult
            (py.dumps (.obj [("query", .str q), ("matches", .arr ms), ("total", .int ms.length)])) id,
          { g with backends := s.2 })

/-- `_call_invoke`. -/
def callInvoke (py : PyLib) (g : Gateway) (arguments id : Json) (env : Env) :
    Except PyExc Json × Gateway :=
  match (do
      pure (← pyGet arguments "server" .null, ← pyGet arguments "tool" .null,
        ← pyGet arguments "arguments" (.obj []))) with
  | .error e => (.error e, g)
  | .ok (server, tool, toolArgs) =>
      if !truthy server then (.ok (rpcError (-32602) "Missing 'server' parameter" id), g)
      else if !truthy tool then (.ok (rpcError (-32602) "Missing 'tool' parameter" id), g)
      else match g.getJson server with
        | .error e => (.error e, g)
        | .ok none => (.ok (rpcError (-32001) ("Unknown server: " ++ pyStr py server) id), g)
        | .ok (some (i, name, a)) =>
            let req := Json.obj [("jsonrpc", .str "2.0"), ("method", .str "tools/call"), ("id", id),
              ("params", .obj [("name", tool), ("arguments", toolArgs)])]
            let r := callBackend py a (env.sendAt name) req (env.world name) (env.reply name)
            (r.1, g.setAt i r.2)

/-- `_meta_tools_call`. -/
def metaToolsCall (py : PyLib) (g : Gateway) (body id : Json) (env : Env) :
    Except PyExc Json × Gateway :=
  match (do
      let params ← pyGet body "params" (.obj [])
      pure (← pyGet params "name" (.str ""), ← pyGet params "arguments" (.obj []))) with
  | .error e => (.error e, g)
  | .ok (toolName, arguments) =>
      if toolName.isStr "gateway_list_servers" then (callListServers py g id, g)
      else if toolName.isStr "gateway_list_tools" then callListTools py g arguments id env
      else if toolName.isStr "gateway_search_tools" then callSearchTools py g arguments id env
      else if toolName.isStr "gateway_invoke" then callInvoke py g arguments id env
      else (.ok (rpcError (-32601) ("Unknown tool: " ++ pyStr py toolName) id), g)

/-! ## The HTTP handlers -/

/-- A handler's JSON answered with status 200. -/
def ok200 (r : Except PyExc Json × Gateway) : Except PyExc Response × Gateway :=
  (r.1.map fun v => ⟨200, v⟩, r.2)

/-- `await request.json()` failing: a `JSONDecodeError` is answered 400,
    anything else propagates. -/
def bodyFailed (g : Gateway) (e : PyExc) : Except PyExc Response × Gateway :=
  if e.kind = .jsonDecodeError then (.ok ⟨400, parseError⟩, g) else (.error e, g)

/-- `_handle_meta_mcp`. -/
def handleMetaMcp (py : PyLib) (g : Gateway) (body : Except PyExc Json) (env : Env) :
    Except PyExc Response × Gateway :=
  if !g.enableMetaMcp then (.ok ⟨403, .obj [("error", .str "Meta-MCP disabled")]⟩, g)
  else match body with
    | .error e => bodyFailed g e
    | .ok body =>
        match (do pure (← pyGet body "method" (.str ""), ← pyGet body "id" .null)) with
        | .error e => (.error e, g)
        | .ok (method, id) =>
            if method.isStr "initialize" then ok200 (.ok (metaInitialize id), g)
            else if method.isStr "tools/list" then ok200 (.ok (metaToolsList id), g)
            else if method.isStr "tools/call" then ok200 (metaToolsCall py g body id env)
            else match pyStartsWith "notifications/" method with
              | .error e => (.error e, g)
              | .ok true => ok200 (.ok (.obj [("jsonrpc", .str "2.0"), ("result", .null), ("id", id)]), g)
              | .ok false =>
                  ok200 (.ok (rpcError (-32601) ("Unknown method: " ++ pyStr py method) id), g)

/-- `_handle_mcp` for the path `/mcp/{name}`. -/
def handleMcp (py : PyLib) (g : Gateway) (name : String) (body : Except PyExc Json) (env : Env) :
    Except PyExc Response × Gateway :=
  if name = "" then handleMetaMcp py g body env
  else match g.get name with
    | none => (.ok ⟨404, rpcError (-32001) ("Unknown backend: " ++ name) .null⟩, g)
    | some (i, _, a) =>
        let r := start py a (env.startAt name) (env.world name)
        let g := g.setAt i r.2
        match r.1 with
        | .error e => (.error e, g)
        | .ok false => (.ok ⟨503, rpcError (-32000) ("Backend unavailable: " ++ name) .null⟩, g)
        | .ok true => match body with
          | .error e => bodyFailed g e
          | .ok body =>
              let c := callBackend py r.2 (env.sendAt name) body (env.world name) (env.reply name)
              ok200 (c.1, g.setAt i c.2)

/-- One backend's entry in `_handle_health`. -/
def healthInfo (e : String × Adapter) : Except PyExc (String × Json) := do
  let tools ← e.2.getCachedTools
  pure (e.1, .obj [("running", .bool e.2.isRunning), ("restart_count", .int e.2.backend.restartCount),
    ("tools_cached", .int tools.length)])

/-- `_handle_health`. -/
def handleHealth (g : Gateway) : Except PyExc Response := do
  let backends ← g.backends.mapM healthInfo
  pure ⟨200, .obj [("status", .str "healthy"), ("backends", .obj backends)]⟩

/-! ## Runs -/

/-- The body of `_idle_checker`'s loop at time `now`: stop the backend if it
    is running and idle for longer than its `idle_timeout`. -/
def tickBackend (now : ℚ) (e : String × Adapter) : String × Adapter :=
  if e.2.isRunning && decide (now - e.2.backend.lastUsed > e.2.backend.config.idleTimeout) then
    (e.1, stop e.2)
  else e

/-- One pass of `_idle_checker` at time `now`. -/
def idleTick (g : Gateway) (now : ℚ) : Gateway :=
  { g with backends := g.backends.map (tickBackend now) }

/-- `Gateway.stop`: every backend stopped, one after another. -/
def Gateway.stop (g : Gateway) : Gateway :=
  { g with backends := g.backends.map fun e => (e.1, McpBackend.stop e.2) }

theorem tickBackend_stops {now : ℚ} {e : String × Adapter} (hr : e.2.isRunning = true)
    (hidle : now - e.2.backend.lastUsed > e.2.backend.config.idleTimeout) :
    tickBackend now e = (e.1, stop e.2) := by
  simp [tickBackend, hr, hidle]

theorem tickBackend_keeps {now : ℚ} {e : String × Adapter}
    (h : e.2.isRunning = false ∨ now - e.2.backend.lastUsed ≤ e.2.backend.config.idleTimeout) :
    tickBackend now e = e := by
  rcases h with h | h
  · simp [tickBackend, h]
  · simp [tickBackend, not_lt.mpr h]

/-- What happens to the gateway: a request to `/mcp/{name}`, a request to
    `/mcp`, or a pass of the idle checker. -/
inductive Event where
  | direct (name : String) (body : Except PyExc Json) (env : Env)
  | meta (body : Except PyExc Json) (env : Env)
  | tick (now : ℚ)

/-- Apply one `Event`. -/
def Gateway.step (py : PyLib) (g : Gateway) : Event → Gateway
  | .direct name body env => (handleMcp py g name body env).2
  | .meta body env => (handleMetaMcp py g body env).2
  | .tick now => idleTick g now

/-- Apply a sequence of `Event`s. -/
def Gateway.run (py : PyLib) (g : Gateway) (evs : List Event) : Gateway :=
  evs.foldl (Gateway.step py) g

end McpServer
