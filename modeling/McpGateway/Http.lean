import McpGateway.Stdio

/-! # The HTTP transports: exchanges that overlap, and a stale SSE endpoint

    * `stop_then_reply_keeps_session`: `_send_http_request` takes no lock, and
      `stop()` of an HTTP adapter returns before `async with self._lock`.  A
      stop that lands while a POST is in flight does not wait for it, and the
      reply, when it comes, writes its `mcp-session-id` into the stopped
      adapter.  `http_exchanges_overlap` runs it, and two POSTs in flight at
      once, on a concrete adapter.
    * `initSseSession_false` and `initSseSession_true`: an SSE attempt that
      fails leaves `_initialized`, `_tools_cache` and the received replies
      alone, but may leave behind the endpoint its GET announced; an attempt
      succeeds with that URL, or, when its own GET announced none, with the
      URL an earlier attempt left.  `sse_stale_endpoint` runs the two.
    * `start_sse_messageUrl`: the URL an attempt stores is `http_url` with
      its final `/sse` cut off, followed by the announced data as it came. -/

namespace McpHttp

open McpJson McpConfig McpBackend McpStdio

/-! ## Stop does not wait for a POST in flight -/

/-- A reply to the oldest POST in flight, arriving after `stop()`, leaves a
    stopped adapter holding the session id the reply carried. -/
theorem stop_then_reply_keeps_session (py : PyLib) {a : Adapter} (hh : a.isHttp = true)
    {d : Dispatch} {ds : List Dispatch} (hd : a.inflight = d :: ds) (status : Nat)
    (headers : List (String × String)) (contentType : String) (lines : List String)
    (body : Option Json) {sid : String} (hs : headerValue headers "mcp-session-id" = some sid) :
    (step py (stop a) (.reply 0 (.response status headers contentType lines body))).1.isRunning
        = false ∧
      (step py (stop a) (.reply 0 (.response status headers contentType lines body))).1.backend.httpSessionId
        = some sid := by
  have hstop : stop a = a.setBackend fun b =>
      { b with initialized := false, httpSessionId := none, sseMessageUrl := none } := by
    simp [stop, hh]
  rw [hstop]
  simp only [step, Adapter.setBackend, hd, List.getElem?_cons_zero, completeHttpRequest_state,
    Adapter.refreshSession, hs]
  simp only [Adapter.isRunning, Adapter.isHttp] at hh ⊢
  simp [hh]

/-- A fresh adapter for the streamable-HTTP backend `api`. -/
def apiAdapter : Adapter := Adapter.init (BackendConfig.ofUrl "api" "http://localhost:8080/mcp") 0

/-- The server answers `initialize` and `tools/list` with 200. -/
def okWorld : World :=
  { quietWorld with
    initPost := .response 200 [] "application/json" [] (some (replyTo 0))
    toolsPost := .response 200 [] "application/json" []
      (some (rpcResult (.obj [("tools", .arr [])]) (.int 1))) }

/-- Two sends on one adapter are in flight at once; and a stop between a
    send's POST and its reply leaves a stopped adapter with the reply's
    session id. -/
theorem http_exchanges_overlap :
    (run PyLib.ascii apiAdapter [.send 1 (callRequest 1) okWorld, .send 2 (callRequest 2) okWorld]).1.inflight.length
        = 2 ∧
      (run PyLib.ascii apiAdapter [.send 1 (callRequest 1) okWorld, .stop,
        .reply 0 (.response 200 [("Mcp-Session-Id", "s-1")] "application/json" [] (some (replyTo 1)))]).1.isRunning
        = false ∧
      (run PyLib.ascii apiAdapter [.send 1 (callRequest 1) okWorld, .stop,
        .reply 0 (.response 200 [("Mcp-Session-Id", "s-1")] "application/json" [] (some (replyTo 1)))]).1.backend.httpSessionId
        = some "s-1" :=
  ⟨rfl, @stop_then_reply_keeps_session PyLib.ascii (step PyLib.ascii apiAdapter (.send 1 (callRequest 1) okWorld)).1
    rfl _ [] rfl 200 [("Mcp-Session-Id", "s-1")] "application/json" [] (some (replyTo 1)) "s-1" rfl⟩

/-! ## SSE attempts -/

/-- A failed `initialize` POST changes nothing. -/
theorem sseInitialize_false {a a' : Adapter} {w : World} (h : sseInitialize a w = (false, a')) :
    a' = a := by
  unfold sseInitialize at h
  split at h
  · cases h
  · cases h; rfl

/-- The `initialize` POST and the tools fetch after it keep the message URL. -/
theorem sseInitialize_url {a a' : Adapter} {w : World} {ok : Bool}
    (h : sseInitialize a w = (ok, a')) : a'.backend.sseMessageUrl = a.backend.sseMessageUrl := by
  unfold sseInitialize at h
  split at h
  · cases h
    unfold fetchToolsHttp Adapter.receiveTools
    repeat' split
    all_goals rfl
  · cases h; rfl

/-- **FAILED ATTEMPT**: an SSE attempt that returns `False` changes nothing
    but `_sse_message_url`, which it may set to the endpoint its own GET
    announced. -/
theorem initSseSession_false {py : PyLib} {a a' : Adapter} {w : World}
    (h : initSseSession py a w = (false, a')) :
    a'.backend.initialized = a.backend.initialized ∧ a'.backend.toolsCache = a.backend.toolsCache ∧
      a'.toolsLog = a.toolsLog := by
  unfold initSseSession at h
  repeat' split at h
  all_goals first
    | (cases h; exact ⟨rfl, rfl, rfl⟩)
    | (cases sseInitialize_false h; exact ⟨rfl, rfl, rfl⟩)

/-- **SUCCESSFUL ATTEMPT**: an SSE attempt that returns `True` uses the
    endpoint its own GET announced, or, when it announced none, the URL left
    by an earlier attempt. -/
theorem initSseSession_true {py : PyLib} {a a' : Adapter} {w : World}
    (h : initSseSession py a w = (true, a')) :
    ∃ status lines raises, w.sseGet = .response status lines raises ∧
      ((∃ data, endpointData py lines = some data ∧
          a'.backend.sseMessageUrl = some (String.mk (beforeLast "/sse".data
            (a.backend.config.httpUrl.getD "").data) ++ data)) ∨
        (endpointData py lines = none ∧ a'.backend.sseMessageUrl = a.backend.sseMessageUrl ∧
          a.backend.sseMessageUrl.any (· ≠ "") = true)) := by
  unfold initSseSession at h
  dsimp only at h
  split at h
  · cases h
  · rename_i status lines raises hget
    refine ⟨status, lines, raises, hget, ?_⟩
    split at h
    · cases h
    · split at h
      · rename_i data hdata
        exact .inl ⟨data, hdata, sseInitialize_url h⟩
      · rename_i hnone
        split at h
        · cases h
        · split at h
          · rename_i hurl
            exact .inr ⟨hnone, sseInitialize_url h, hurl⟩
          · cases h

/-- An SSE backend's `http_url` ends with `/sse`, so `_init_http_session`
    takes the SSE path. -/
theorem initHttpSession_sse (py : PyLib) {a : Adapter} {u : String}
    (hu : a.backend.config.httpUrl = some (u ++ "/sse")) (w : World) :
    initHttpSession py a w = initSseSession py a w := by
  have hend : endsWith (u ++ "/sse") "/sse" = true := by
    rw [endsWith, List.isSuffixOf_iff_suffix, String.data_append]
    exact List.suffix_append _ _
  have hne : u ++ "/sse" ≠ "" := fun h =>
    absurd (List.append_eq_nil.1 ((String.data_append u "/sse").symm.trans (congrArg String.data h))).2
      (by decide)
  simp [initHttpSession, hu, hend, hne]

/-- **SSE MESSAGE URL**: `start()` of an SSE backend whose `http_url` is
    `u` followed by `/sse`, not yet initialised, whose GET answers 200 with
    an endpoint line, stores as `_sse_message_url` the URL `u` followed by
    the endpoint's data, whatever the `initialize` POST answers:
    `rsplit("/sse", 1)` cuts exactly that suffix, and the data is appended
    as it came, whether a path or a full URL. -/
theorem start_sse_messageUrl (py : PyLib) {a : Adapter} {u : String}
    (hu : a.backend.config.httpUrl = some (u ++ "/sse")) (hi : a.backend.initialized = false) (now : ℚ)
    {w : World} {lines : List String} {raises : Option String} {data : String}
    (hget : w.sseGet = .response 200 lines raises) (hd : endpointData py lines = some data) :
    (start py a now w).2.backend.sseMessageUrl = some (u ++ data) := by
  have hh : a.isHttp = true := by rw [Adapter.isHttp, hu]; rfl
  have hbase : String.mk (beforeLast "/sse".data (u ++ "/sse").data) = u := by
    rw [String.data_append, beforeLast_append (by decide)]
  simp only [start, hh, hi, if_true, Bool.false_eq_true, if_false, initHttpSession_sse py hu]
  unfold initSseSession
  simp only [hu, hget, hd, Option.getD_some, hbase, ne_eq, not_true_eq_false, if_false]
  exact sseInitialize_url rfl

/-- A fresh adapter for the SSE backend `events`. -/
def eventsAdapter : Adapter := Adapter.init (BackendConfig.ofUrl "events" "http://localhost:8080/sse") 0

/-- The GET announces an endpoint; the `initialize` POST to it gets a 500. -/
def endpointRejected : World :=
  { quietWorld with
    sseGet := .response 200 ["event: endpoint", "data: /message?sessionId=abc"] none
    initPost := .response 500 [] "text/plain" [] none }

/-- The GET announces no endpoint; every POST gets a 200. -/
def noEndpoint : World := { okWorld with sseGet := .response 200 ["event: ping"] none }

/-- The first attempt fails and leaves its endpoint behind; the second, whose
    GET announces none, succeeds with it. -/
theorem sse_stale_endpoint :
    (start PyLib.ascii eventsAdapter 0 endpointRejected).1 = .ok false ∧
      (start PyLib.ascii eventsAdapter 0 endpointRejected).2.backend.sseMessageUrl
        = some "http://localhost:8080/message?sessionId=abc" ∧
      (start PyLib.ascii (start PyLib.ascii eventsAdapter 0 endpointRejected).2 1 noEndpoint).1
        = .ok true ∧
      (start PyLib.ascii (start PyLib.ascii eventsAdapter 0 endpointRejected).2 1
        noEndpoint).2.backend.sseMessageUrl = some "http://localhost:8080/message?sessionId=abc" := by
  have hstale : (start PyLib.ascii eventsAdapter 0 endpointRejected).2.backend.sseMessageUrl
      = some "http://localhost:8080/message?sessionId=abc" := rfl
  have hsecond : initSseSession PyLib.ascii (start PyLib.ascii eventsAdapter 0 endpointRejected).2 noEndpoint
      = (true, (start PyLib.ascii (start PyLib.ascii eventsAdapter 0 endpointRejected).2 1 noEndpoint).2) := rfl
  have hnone : endpointData PyLib.ascii ["event: ping"] = none := rfl
  obtain ⟨_, _, _, hget, ⟨_, hd, -⟩ | ⟨-, hurl, -⟩⟩ := initSseSession_true hsecond
  · cases hget
    rw [hnone] at hd
    cases hd
  · exact ⟨rfl, hstale, rfl, hurl.trans hstale⟩

/-- `events` at `http://localhost:8080/sse` stores
    `http://localhost:8080/message?sessionId=abc`, though its POST fails. -/
theorem start_sse_messageUrl_events :
    eventsAdapter.backend.config.httpUrl = some ("http://localhost:8080" ++ "/sse") ∧
      eventsAdapter.backend.initialized = false ∧
      endpointRejected.sseGet = .response 200 ["event: endpoint", "data: /message?sessionId=abc"] none ∧
      endpointData PyLib.ascii ["event: endpoint", "data: /message?sessionId=abc"] = some "/message?sessionId=abc" ∧
      (start PyLib.ascii eventsAdapter 0 endpointRejected).2.backend.sseMessageUrl
        = some ("http://localhost:8080" ++ "/message?sessionId=abc") :=
  ⟨rfl, rfl, rfl, rfl, start_sse_messageUrl PyLib.ascii rfl rfl 0 rfl rfl⟩

end McpHttp
