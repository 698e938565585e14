import McpGateway.Config

/-! # The backend adapter (`MCPBackend`) and the world it talks to

    One adapter drives one backend over one of three transports.  A stdio
    backend is a child process: the adapter writes JSON lines to its stdin and
    reads lines from its stdout with `select` and `readline`, which block the
    event loop; the child runs on its own meanwhile, writing lines or exiting.
    An HTTP backend is a URL: every exchange is one aiohttp request whose
    outcome the server decides, and `_send_http_request` suspends while its
    POST is in flight.

    The state is the adapter's fields (`MCPBackend`) together with the
    processes it has spawned, indexed by pid, its POSTs awaiting a reply, and
    `toolsLog`, the `tools/list` replies it has received (the history of the
    wire, which the code does not keep).  Each operation is a function of the
    state and of a `World`, which says what the child and the servers do
    while the operation runs; `step` applies one operation, or one action of a
    child or a server, and `run` a whole sequence.

    The `asyncio.Lock` of the source is not modelled: the stdio operations
    that take it never suspend while holding it, so it is never contended,
    and the HTTP paths do not take it.  Every other field the operations read
    or write is here. -/

namespace McpBackend

open McpJson McpConfig

/-! ## The world -/

/-- A line a child writes on its stdout: JSON text, or bytes that
    `json.loads(response.decode())` rejects. -/
inductive Line where
  | json (v : Json)
  | malformed

/-- What a child does on its own: write a line on its stdout; close its
    end of stdin, after which a write to the pipe breaks it; close its end of
    stdout, after which it writes nothing more; or exit, which closes both
    and after which `poll()` reports the exit.  An exiting process closes
    its pipes before `poll()` can see it gone, so the adapter may meet a
    broken pipe while `poll()` still returns `None`. -/
inductive ChildEvent where
  | write (l : Line)
  | closeStdin
  | closeStdout
  | exit

/-- A child process: whether `poll()` returns `None`, whether its ends of
    stdin and stdout are open, the lines written to its stdin, and the lines
    on its stdout that have not been read. -/
structure Child where
  alive : Bool
  stdinOpen : Bool
  stdoutOpen : Bool
  stdin : List Json
  stdout : List Line

/-- The outcome of one aiohttp request: it raises, or a response arrives with
    a status, headers, a content type, the lines of its body, and what
    `resp.json()` makes of the body (`none` when it raises). -/
inductive HttpReply where
  | failed (msg : String)
  | response (status : Nat) (headers : List (String × String)) (contentType : String)
      (lines : List String) (body : Option Json)

/-- The outcome of the SSE GET: it raises, or a response arrives with a status
    and the lines of the stream; reading past them raises (`raises`, the
    10-second watchdog or a broken stream) or ends the stream. -/
inductive SseGet where
  | failed (msg : String)
  | response (status : Nat) (lines : List String) (raises : Option String)

/-- What the outside world does during one adapter operation: whether `Popen`
    succeeds, what the child does before each read (the handshake's two and a
    request's one), and how the SSE GET and the initialize and `tools/list`
    POSTs end.  `spawnDelay` is how far the clock has moved from
    `send_request`'s stamp to the `time.time()` after a `Popen` that the
    send makes on the way; the clock does not go back. -/
structure World where
  spawned : Bool
  onInit : List ChildEvent
  onTools : List ChildEvent
  onReply : List ChildEvent
  sseGet : SseGet
  initPost : HttpReply
  toolsPost : HttpReply
  spawnDelay : ℚ
  spawnDelay_nonneg : 0 ≤ spawnDelay

/-! ## The adapter -/

/-- The fields of `MCPBackend`; `process` is the pid of the child it holds. -/
structure MCPBackend where
  config : BackendConfig
  process : Option Nat
  lastUsed : ℚ
  restartCount : Nat
  initialized : Bool
  toolsCache : Option Json
  httpSessionId : Option String
  sseMessageUrl : Option String

/-- A POST of `_send_http_request` awaiting its reply. -/
structure Dispatch where
  request : Json
  url : Option String
  sessionId : Option String

/-- The adapter with the children it spawned (by pid), its POSTs in flight,
    and the `tools/list` replies it has received. -/
structure Adapter where
  backend : MCPBackend
  children : List Child
  inflight : List Dispatch
  toolsLog : List Json

/-- A fresh adapter (`MCPBackend(config=...)`), created at time `now`. -/
def Adapter.init (config : BackendConfig) (now : ℚ) : Adapter :=
  ⟨⟨config, none, now, 0, false, none, none, none⟩, [], [], []⟩

/-- `MCPBackend.is_http`. -/
def Adapter.isHttp (a : Adapter) : Bool := a.backend.config.httpUrl.isSome

/-- `self.process and self.process.poll() is None`. -/
def Adapter.processAlive (a : Adapter) : Bool :=
  match a.backend.process with
  | some pid => (a.children[pid]?).any (·.alive)
  | none => false

/-- `MCPBackend.is_running`. -/
def Adapter.isRunning (a : Adapter) : Bool :=
  if a.isHttp then a.backend.initialized else a.processAlive

/-- `MCPBackend.get_cached_tools`.  A truthy cache that is not a dict (a
    reply can be a list holding the string `"result"`) has no `get`. -/
def Adapter.getCachedTools (a : Adapter) : Except PyExc (List Json) :=
  match a.backend.toolsCache.filter truthy with
  | some cache => do
      match ← pyGet cache "result" (.obj []) with
      | .obj res => match (find? res "tools").getD (.arr []) with
        | .arr tools => pure tools
        | _ => pure []
      | _ => pure []
  | none => pure []

/-- Set a field of the adapter's record. -/
def Adapter.setBackend (a : Adapter) (f : MCPBackend → MCPBackend) : Adapter :=
  { a with backend := f a.backend }

/-- `self._tools_cache = result`, recording the reply it came from. -/
def Adapter.cacheTools (a : Adapter) (v : Json) : Adapter :=
  a.setBackend fun b => { b with toolsCache := some v }

/-- `"result" in result` inside the fetch's `try`: a reply that is not
    iterable raises, and the fetch swallows it. -/
def hasResult (v : Json) : Bool :=
  match pyIn "result" v with
  | .ok b => b
  | .error _ => false

/-- A `tools/list` reply arrives: it is logged, and cached when it has a
    `result`. -/
def Adapter.receiveTools (a : Adapter) (v : Json) : Adapter :=
  let a := { a with toolsLog := a.toolsLog ++ [v] }
  if hasResult v then a.cacheTools v else a

/-! ## Requests -/

/-- The `initialize` request of every handshake. -/
def initRequest : Json :=
  .obj [("jsonrpc", .str "2.0"), ("method", .str "initialize"), ("id", .int 0),
    ("params", .obj [("protocolVersion", .str "2024-11-05"), ("capabilities", .obj []),
      ("clientInfo", .obj [("name", .str "mcp-gateway"), ("version", .str "1.0")])])]

/-- The `tools/list` request of every fetch. -/
def toolsRequest : Json :=
  .obj [("jsonrpc", .str "2.0"), ("method", .str "tools/list"), ("id", .int 1)]

/-- `request.get("id")` for a request known to be a dict. -/
def requestId (req : Json) : Json :=
  match req with
  | .obj kvs => (find? kvs "id").getD .null
  | _ => .null

/-- `"id" not in request`. -/
def isNotification (req : Json) : Bool :=
  match req with
  | .obj kvs => !kvs.any (·.1 = "id")
  | _ => false

/-! ## Stdio transport -/

/-- What a child does, applied to it; a child whose stdout is closed writes
    nothing. -/
def Child.apply (c : Child) : ChildEvent → Child
  | .write l => if c.stdoutOpen then { c with stdout := c.stdout ++ [l] } else c
  | .closeStdin => { c with stdinOpen := false }
  | .closeStdout => { c with stdoutOpen := false }
  | .exit => { c with alive := false, stdinOpen := false, stdoutOpen := false }

/-- An event that closes a pipe while the child goes on running. -/
def ChildEvent.closesPipe : ChildEvent → Bool
  | .closeStdin | .closeStdout => true
  | _ => false

/-- A child's pipes are open while it runs. -/
def Child.OpenWhileAlive (c : Child) : Prop := c.alive = true → c.stdinOpen = true ∧ c.stdoutOpen = true

/-- Apply `f` to the child `pid`. -/
def Adapter.updateChild (a : Adapter) (pid : Nat) (f : Child → Child) : Adapter :=
  { a with children := a.children.modify f pid }

theorem Adapter.getElem?_updateChild_eq_some {a : Adapter} {pid q : Nat} {f : Child → Child} {c : Child} :
    (a.updateChild pid f).children[q]? = some c ↔
      ∃ c₀, a.children[q]? = some c₀ ∧ (if pid = q then f c₀ else c₀) = c := by
  simp only [Adapter.updateChild, List.getElem?_modify, Option.map_eq_map, Option.map_eq_some']

/-- The child `pid` does `evs`. -/
def Adapter.childDoes (a : Adapter) (pid : Nat) (evs : List ChildEvent) : Adapter :=
  a.updateChild pid fun c => evs.foldl Child.apply c

/-- `process.stdin.write(line); flush()`: the pipe is broken once the child
    has closed its end of stdin. -/
def Adapter.writeLine (a : Adapter) (pid : Nat) (v : Json) : Except PyExc Adapter :=
  if (a.children[pid]?).any (·.stdinOpen) then
    .ok (a.updateChild pid fun c => { c with stdin := c.stdin ++ [v] })
  else .error ⟨.oSError, "[Errno 32] Broken pipe"⟩

/-- `select([stdout], [], [], timeout)` then `readline()`: the oldest unread
    line if one has arrived, nothing otherwise.  Once the child's stdout is
    closed and drained, `readline()` returns `b''` at once; every caller
    treats that as it treats the timeout, so the two are not told apart. -/
def Adapter.readLine (a : Adapter) (pid : Nat) : Option Line × Adapter :=
  match a.children[pid]? with
  | some ⟨_, _, _, _, l :: _⟩ => (some l, a.updateChild pid fun c => { c with stdout := c.stdout.tail })
  | _ => (none, a)

/-- `_fetch_tools_stdio`: write `tools/list`, read one line, cache it when it
    is JSON with a `result`; every failure is swallowed. -/
def fetchToolsStdio (a : Adapter) (pid : Nat) (evs : List ChildEvent) : Adapter :=
  match a.writeLine pid toolsRequest with
  | .error _ => a
  | .ok a =>
      match (a.childDoes pid evs).readLine pid with
      | (some (.json v), a) => a.receiveTools v
      | (_, a) => a

/-- `_mcp_handshake_stdio`: write `initialize`, read one line; any line marks
    the adapter initialized and fetches the tools. -/
def mcpHandshakeStdio (a : Adapter) (pid : Nat) (w : World) : Adapter :=
  match a.writeLine pid initRequest with
  | .error _ => a
  | .ok a =>
      match (a.childDoes pid w.onInit).readLine pid with
      | (some _, a) =>
          fetchToolsStdio (a.setBackend fun b => { b with initialized := true }) pid w.onTools
      | (none, a) => a

/-- `self.process = subprocess.Popen(...)` succeeding at time `now`, and the
    fields `_start_stdio` sets after it; the new child gets the next pid. -/
def Adapter.spawn (a : Adapter) (now : ℚ) : Adapter :=
  let a' := { a with children := a.children ++ [({ alive := true, stdinOpen := true, stdoutOpen := true, stdin := [], stdout := [] } : Child)] }
  a'.setBackend fun b =>
    { b with process := some a.children.length, restartCount := b.restartCount + 1, lastUsed := now,
             initialized := false }

/-- `_start_stdio`.  `command_list` runs before the `try`, so a command that
    `shlex.split` rejects makes `start()` raise. -/
def startStdio (a : Adapter) (now : ℚ) (w : World) : Except PyExc Bool × Adapter :=
  if a.processAlive then (.ok true, a)
  else match a.backend.config.commandList with
    | .error e => (.error e, a)
    | .ok none | .ok (some []) => (.ok false, a)
    | .ok (some (_ :: _)) =>
        if w.spawned then (.ok true, mcpHandshakeStdio (a.spawn now) a.children.length w)
        else (.ok false, a)

/-! ## HTTP and SSE transports -/

/-- `name in resp.headers` and `resp.headers[name]`, matched case-insensitively. -/
def headerValue (hs : List (String × String)) (name : String) : Option String :=
  (hs.find? fun kv => String.mk (kv.1.data.map Char.toLower) = name).map (·.2)

/-- `if "mcp-session-id" in resp.headers: self._http_session_id = ...`. -/
def Adapter.refreshSession (a : Adapter) (headers : List (String × String)) : Adapter :=
  match headerValue headers "mcp-session-id" with
  | some sid => a.setBackend fun b => { b with httpSessionId := some sid }
  | none => a

/-- `_fetch_tools_http`: POST `tools/list`; a 200 reply whose JSON body has a
    `result` is cached; every failure is swallowed. -/
def fetchToolsHttp (a : Adapter) (r : HttpReply) : Adapter :=
  match r with
  | .response 200 _ _ _ (some v) => a.receiveTools v
  | _ => a

/-- `_init_streamable_http`: whatever the `initialize` POST does, the adapter
    ends up initialized and the call returns `True`. -/
def initStreamableHttp (a : Adapter) (w : World) : Bool × Adapter :=
  let done (a : Adapter) := a.setBackend fun b => { b with initialized := true }
  match w.initPost with
  | .response 200 headers _ _ _ => (true, done (fetchToolsHttp (a.refreshSession headers) w.toolsPost))
  | _ => (true, done a)

/-- `s[:s.rfind(sep)]` when `sep` occurs in `s`, else `s`: `s.rsplit(sep, 1)[0]`. -/
def beforeLast (sep s : List Char) : List Char :=
  let rec go : List Char → Option (List Char)
    | [] => none
    | c :: cs => match go cs with
      | some pre => some (c :: pre)
      | none => if sep.isPrefixOf (c :: cs) then some [] else none
  (go s).getD s

theorem beforeLast.go_short {sep : List Char} :
    ∀ t : List Char, t.length < sep.length → beforeLast.go sep t = none
  | [], _ => rfl
  | c :: cs, h => by
      have hp : sep.isPrefixOf (c :: cs) = false := by
        rw [Bool.eq_false_iff]
        exact fun hp => absurd (List.isPrefixOf_iff_prefix.1 hp).length_le (Nat.not_le.2 h)
      simp only [beforeLast.go, go_short cs (Nat.lt_of_succ_lt h), hp, Bool.false_eq_true, if_false]

theorem beforeLast.go_append {sep : List Char} (hs : sep ≠ []) :
    ∀ u : List Char, beforeLast.go sep (u ++ sep) = some u
  | [] => by
      obtain ⟨s, ss, rfl⟩ := List.exists_cons_of_ne_nil hs
      simp only [List.nil_append, beforeLast.go, @go_short (s :: ss) ss (Nat.lt_succ_self _),
        List.isPrefixOf_iff_prefix.2 (List.prefix_refl _), if_true]
  | c :: u => by simp only [List.cons_append, beforeLast.go.eq_2, go_append hs u]

/-- `rsplit(sep, 1)[0]` of a string that ends with `sep` cuts that `sep`:
    no later occurrence fits. -/
theorem beforeLast_append {sep : List Char} (hs : sep ≠ []) (u : List Char) :
    beforeLast sep (u ++ sep) = u := by
  rw [beforeLast, beforeLast.go_append hs, Option.getD_some]

/-- The path of the first `data: ` line of the stream that mentions
    `/message`, as `decoded[6:]`. -/
def endpointData (py : PyLib) : List String → Option String
  | [] => none
  | line :: rest =>
      let decoded := py.strip line
      if startsWith decoded "data: " && contains decoded "/message" then
        some (String.mk (decoded.data.drop 6))
      else endpointData py rest

/-- The second half of `_init_sse_session`: POST `initialize` to
    `self._sse_message_url`; on a 200, fetch the tools and return `True`. -/
def sseInitialize (a : Adapter) (w : World) : Bool × Adapter :=
  match w.initPost with
  | .response 200 _ _ _ _ =>
      (true, (fetchToolsHttp a w.toolsPost).setBackend fun b => { b with initialized := true })
  | _ => (false, a)

/-- `_init_sse_session`: GET the stream for an endpoint, then POST
    `initialize` to `self._sse_message_url` and fetch the tools.  The check
    after the stream reads the field, which an earlier attempt may have set. -/
def initSseSession (py : PyLib) (a : Adapter) (w : World) : Bool × Adapter :=
  let base := String.mk (beforeLast "/sse".data (a.backend.config.httpUrl.getD "").data)
  match w.sseGet with
  | .failed _ => (false, a)
  | .response status lines raises =>
      if status ≠ 200 then (false, a)
      else match endpointData py lines with
        | some data => sseInitialize (a.setBackend fun b => { b with sseMessageUrl := some (base ++ data) }) w
        | none =>
            if raises.isSome then (false, a)
            else if a.backend.sseMessageUrl.any (· ≠ "") then sseInitialize a w
            else (false, a)

/-- `_init_http_session`. -/
def initHttpSession (py : PyLib) (a : Adapter) (w : World) : Bool × Adapter :=
  if a.backend.config.httpUrl.any (fun u => u ≠ "" && endsWith u "/sse") then initSseSession py a w
  else initStreamableHttp a w

/-! ## The three operations -/

/-- `MCPBackend.start`. -/
def start (py : PyLib) (a : Adapter) (now : ℚ) (w : World) : Except PyExc Bool × Adapter :=
  if a.isHttp then
    if a.backend.initialized then (.ok true, a)
    else let r := initHttpSession py a w; (.ok r.1, r.2)
  else startStdio a now w

/-- `MCPBackend.stop`: an HTTP adapter forgets its session; a stdio adapter
    terminates its child (killing it after 5 seconds), which exits, and
    drops it. -/
def stop (a : Adapter) : Adapter :=
  if a.isHttp then
    a.setBackend fun b => { b with initialized := false, httpSessionId := none, sseMessageUrl := none }
  else match a.backend.process with
    | some pid =>
        (a.updateChild pid (Child.apply · .exit)).setBackend fun b =>
          { b with process := none, initialized := false }
    | none => a

@[simp] theorem stop_toolsCache (a : Adapter) : (stop a).backend.toolsCache = a.backend.toolsCache := by
  unfold stop
  repeat' split
  all_goals rfl

@[simp] theorem stop_config (a : Adapter) : (stop a).backend.config = a.backend.config := by
  unfold stop
  repeat' split
  all_goals rfl

@[simp] theorem stop_toolsLog (a : Adapter) : (stop a).toolsLog = a.toolsLog := by
  unfold stop
  repeat' split
  all_goals rfl

/-- The cached `tools/list` reply with the request's id:
    `cached = self._tools_cache.copy(); cached["id"] = request.get("id")`. -/
def cachedReply (cache id : Json) : Except PyExc Json :=
  match cache with
  | .obj kvs => .ok (.obj (setField kvs "id" id))
  | .arr _ => .error ⟨.typeError, "list indices must be integers or slices, not str"⟩
  | _ => .error ⟨.attributeError, "object has no attribute 'copy'"⟩

/-- `_send_stdio_request`; a `start()` on the way reads the clock
    `w.spawnDelay` after `send_request`'s stamp `now`. -/
def sendStdioRequest (py : PyLib) (a : Adapter) (now : ℚ) (req : Json) (w : World) :
    Except PyExc Json × Adapter :=
  let id := requestId req
  let (started, a) := if a.isRunning then (Except.ok true, a) else start py a (now + w.spawnDelay) w
  match started with
  | .error e => (.error e, a)
  | .ok false => (.ok (rpcError (-32000) "Backend unavailable" id), a)
  | .ok true =>
      match a.backend.process with
      | none => (.ok (rpcError (-32000) "" id), a)
      | some pid =>
          match a.writeLine pid req with
          | .error e => (.ok (rpcError (-32000) e.msg id), a)
          | .ok a =>
              if isNotification req then
                (.ok (.obj [("jsonrpc", .str "2.0"), ("result", .null)]), a)
              else match (a.childDoes pid w.onReply).readLine pid with
                | (some (.json v), a) => (.ok v, a)
                | (some .malformed, a) => (.ok (rpcError (-32000) "Expecting value" id), a)
                | (none, a) => (.ok (rpcError (-32000) "Timeout waiting for response" id), a)

/-- What `send_request` has done when it returns or first suspends. -/
inductive Sent where
  | done (r : Except PyExc Json)
  | posted (d : Dispatch)

/-- `_send_http_request` up to its POST: start the session if needed (inside
    the `try`), then put the POST in flight with the current session id and
    URL. -/
def sendHttpRequest (py : PyLib) (a : Adapter) (now : ℚ) (req : Json) (w : World) :
    Sent × Adapter :=
  let (started, a) := if a.backend.initialized then (Except.ok true, a)
    else start py a (now + w.spawnDelay) w
  match started with
  | .error e => (.done (.ok (rpcError (-32000) e.msg (requestId req))), a)
  | .ok _ =>
      let url := if a.backend.sseMessageUrl.any (· ≠ "") then a.backend.sseMessageUrl
        else a.backend.config.httpUrl
      let d : Dispatch := ⟨req, url, a.backend.httpSessionId⟩
      (.posted d, { a with inflight := a.inflight ++ [d] })

/-- `MCPBackend.send_request`: stamp `last_used`, answer `tools/list` from the
    cache when it is populated, else dispatch on the transport. -/
def sendRequest (py : PyLib) (a : Adapter) (now : ℚ) (req : Json) (w : World) : Sent × Adapter :=
  let a := a.setBackend fun b => { b with lastUsed := now }
  match pyGet req "method" .null with
  | .error e => (.done (.error e), a)
  | .ok m =>
      match a.backend.toolsCache.filter truthy with
      | some cache =>
          if m.isStr "tools/list" then (.done (cachedReply cache (requestId req)), a)
          else if a.isHttp then sendHttpRequest py a now req w
          else let r := sendStdioRequest py a now req w; (.done r.1, r.2)
      | none =>
          if a.isHttp then sendHttpRequest py a now req w
          else let r := sendStdioRequest py a now req w; (.done r.1, r.2)

/-- The reply of a `text/event-stream` response: the first `data: ` line,
    parsed (`none` when the stream has no such line). -/
def firstDataEvent (py : PyLib) : List String → Option (Option Json)
  | [] => none
  | line :: rest =>
      let decoded := py.strip line
      if startsWith decoded "data: " then some (py.loads (String.mk (decoded.data.drop 6)))
      else firstDataEvent py rest

/-- The rest of `_send_http_request` once the POST `d` gets its reply `r`:
    refresh the session id, decode the reply; every exception becomes a
    `-32000` error object. -/
def completeHttpRequest (py : PyLib) (a : Adapter) (d : Dispatch) (r : HttpReply) : Json × Adapter :=
  let id := requestId d.request
  match r with
  | .failed msg => (rpcError (-32000) msg id, a)
  | .response _ headers contentType lines body =>
      let a := a.refreshSession headers
      let framed := if contains contentType "text/event-stream" then firstDataEvent py lines else none
      match framed with
      | some (some v) => (v, a)
      | some none => (rpcError (-32000) "Expecting value" id, a)
      | none => match body with
        | some (.obj kvs) => (.obj kvs, a)
        | some _ => (rpcError (-32000) "cannot convert to dict" id, a)
        | none => (rpcError (-32000) "Attempt to decode JSON failed" id, a)

/-- Completing a POST changes the adapter only by the session id its reply
    carries. -/
theorem completeHttpRequest_state (py : PyLib) (a : Adapter) (d : Dispatch) (r : HttpReply) :
    (completeHttpRequest py a d r).2 = match r with
      | .failed _ => a
      | .response _ headers _ _ _ => a.refreshSession headers := by
  cases r with
  | failed msg => rfl
  | response status headers contentType lines body =>
      simp only [completeHttpRequest]
      repeat' split
      all_goals rfl

/-! ## Runs -/

/-- One thing that can happen to an adapter: one of its operations, the reply
    to its `i`-th POST in flight, or an action of its child `pid`. -/
inductive Op where
  | start (now : ℚ) (w : World)
  | stop
  | send (now : ℚ) (req : Json) (w : World)
  | reply (i : Nat) (r : HttpReply)
  | child (pid : Nat) (ev : ChildEvent)

/-- What an `Op` returns to its caller. -/
inductive Outcome where
  | started (r : Except PyExc Bool)
  | stopped
  | answered (req : Json) (r : Except PyExc Json)
  | posted (req : Json)
  | none

/-- Apply one `Op`. -/
def step (py : PyLib) (a : Adapter) : Op → Adapter × Outcome
  | .start now w => let r := start py a now w; (r.2, .started r.1)
  | .stop => (stop a, .stopped)
  | .send now req w =>
      match sendRequest py a now req w with
      | (.done r, a') => (a', .answered req r)
      | (.posted _, a') => (a', .posted req)
  | .reply i r =>
      match a.inflight[i]? with
      | some d =>
          let res := completeHttpRequest py { a with inflight := a.inflight.eraseIdx i } d r
          (res.2, .answered d.request (.ok res.1))
      | none => (a, .none)
  | .child pid ev => (a.childDoes pid [ev], .none)

/-- Apply a sequence of `Op`s, collecting the outcomes. -/
def run (py : PyLib) : Adapter → List Op → Adapter × List Outcome
  | a, [] => (a, [])
  | a, op :: ops =>
      let r := step py a op
      let rest := run py r.1 ops
      (rest.1, r.2 :: rest.2)

/-- The states a run can reach. -/
inductive Reachable (py : PyLib) (a₀ : Adapter) : Adapter → Prop where
  | init : Reachable py a₀ a₀
  | step {a : Adapter} (op : Op) : Reachable py a₀ a → Reachable py a₀ (step py a op).1

theorem run_reachable (py : PyLib) (a₀ : Adapter) :
    ∀ (ops : List Op) (a : Adapter), Reachable py a₀ a → Reachable py a₀ (run py a ops).1 := by
  intro ops
  induction ops with
  | nil => exact fun _ h => h
  | cons op ops ih => exact fun a h => ih _ (h.step op)

end McpBackend
