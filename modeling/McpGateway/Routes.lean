import Mathlib.Data.String.Basic
import McpGateway.Hibernation

/-! # The two routes to a backend's tools

    A client calls a backend's tool either directly, with a JSON-RPC
    `tools/call` POSTed to `/mcp/{name}`, or through Meta-MCP, with a
    `tools/call` of `gateway_invoke` at `/mcp`.  `_handle_mcp` calls
    `start()` itself and answers 503 when it reports `False`;
    `_call_invoke` builds the same `tools/call` request and leaves the start
    to `send_request`, which stamps `last_used` first and then starts a
    backend that is not running.

    * `start_clock`: `start()` never reads `last_used` and reads the clock
      only for a spawn's stamp: whenever it runs, it reports the same and
      leaves the same adapter up to `last_used`.
    * `sendRequest_after_start`: a `send_request` that does not ask for
      `tools/list` does the same, up to `last_used`, whether or not
      `start()` ran just before it, as long as that start left the backend
      running.
    * `invoke_eq_direct`: hence `gateway_invoke` and a direct `tools/call`
      answer the same whenever the backend comes up, and leave the same
      gateway but for `last_used`: `send_request`'s stamp on the direct
      route, that stamp or a later spawn's through `gateway_invoke`.
    * `metaMcp_answers_id`: every 200 answer of `/mcp` carries the request's
      `id`, except the reply of a backend that `gateway_invoke` passes on. -/

namespace McpBackend

/-- `self.last_used = time.time()` at time `t`, the first line of
    `send_request`. -/
def Adapter.stamp (a : Adapter) (t : ℚ) : Adapter := a.setBackend fun b => { b with lastUsed := t }

end McpBackend

namespace McpRoutes

open McpJson McpConfig McpBackend McpInner McpServer McpIdle

/-! ## Stamping `last_used` commutes with the transports -/

section Stamp

variable (t : ℚ)

theorem stamp_of_lastUsed {a : Adapter} (h : a.backend.lastUsed = t) : a.stamp t = a := by
  obtain ⟨⟨⟩, _, _, _⟩ := a
  subst h
  rfl

@[simp] theorem stamp_backend (a : Adapter) : (a.stamp t).backend = { a.backend with lastUsed := t } := rfl

@[simp] theorem stamp_processAlive (a : Adapter) : (a.stamp t).processAlive = a.processAlive := rfl

@[simp] theorem stamp_isRunning (a : Adapter) : (a.stamp t).isRunning = a.isRunning := rfl

@[simp] theorem stamp_isHttp (a : Adapter) : (a.stamp t).isHttp = a.isHttp := rfl

/-- A field update other than `last_used` commutes with the stamp. -/
theorem setBackend_stamp (a : Adapter) {f : MCPBackend → MCPBackend}
    (hf : ∀ b, f { b with lastUsed := t } = { f b with lastUsed := t }) :
    (a.stamp t).setBackend f = (a.setBackend f).stamp t :=
  congrArg (fun b => { a with backend := b }) (hf a.backend)

theorem receiveTools_stamp (a : Adapter) (v : Json) :
    (a.stamp t).receiveTools v = (a.receiveTools v).stamp t := by
  unfold Adapter.receiveTools
  split <;> rfl

theorem refreshSession_stamp (a : Adapter) (headers : List (String × String)) :
    (a.stamp t).refreshSession headers = (a.refreshSession headers).stamp t := by
  unfold Adapter.refreshSession
  split <;> rfl

theorem fetchToolsHttp_stamp (a : Adapter) (r : HttpReply) :
    fetchToolsHttp (a.stamp t) r = (fetchToolsHttp a r).stamp t := by
  unfold fetchToolsHttp
  split
  · exact receiveTools_stamp t a _
  · rfl

theorem sseInitialize_stamp (a : Adapter) (w : World) :
    sseInitialize (a.stamp t) w = ((sseInitialize a w).1, (sseInitialize a w).2.stamp t) := by
  unfold sseInitialize
  split
  · rw [fetchToolsHttp_stamp]; rfl
  · rfl

theorem initSseSession_stamp (py : PyLib) (a : Adapter) (w : World) :
    initSseSession py (a.stamp t) w = ((initSseSession py a w).1, (initSseSession py a w).2.stamp t) := by
  unfold initSseSession
  simp only [stamp_backend]
  repeat' split
  all_goals first
    | rfl
    | exact sseInitialize_stamp t _ w
    | rw [setBackend_stamp t a fun _ => rfl, sseInitialize_stamp]

theorem initStreamableHttp_stamp (a : Adapter) (w : World) :
    initStreamableHttp (a.stamp t) w = ((initStreamableHttp a w).1, (initStreamableHttp a w).2.stamp t) := by
  unfold initStreamableHttp
  split
  · rw [refreshSession_stamp, fetchToolsHttp_stamp]; rfl
  · rfl

theorem initHttpSession_stamp (py : PyLib) (a : Adapter) (w : World) :
    initHttpSession py (a.stamp t) w = ((initHttpSession py a w).1, (initHttpSession py a w).2.stamp t) := by
  unfold initHttpSession
  simp only [stamp_backend]
  split
  · exact initSseSession_stamp t py a w
  · exact initStreamableHttp_stamp t a w

@[simp] theorem stamp_children (a : Adapter) : (a.stamp t).children = a.children := rfl

@[simp] theorem stamp_stamp (a : Adapter) (u : ℚ) : (a.stamp u).stamp t = a.stamp t := rfl

theorem stamp_lastUsed (a : Adapter) : a.stamp a.backend.lastUsed = a := stamp_of_lastUsed _ rfl

theorem writeLine_stamp (a : Adapter) (pid : Nat) (v : Json) :
    (a.stamp t).writeLine pid v = (a.writeLine pid v).map (·.stamp t) := by
  unfold Adapter.writeLine
  rw [stamp_children]
  split <;> rfl

theorem readLine_stamp (a : Adapter) (pid : Nat) :
    (a.stamp t).readLine pid = ((a.readLine pid).1, (a.readLine pid).2.stamp t) := by
  unfold Adapter.readLine
  rw [stamp_children]
  split <;> rfl

theorem childDoes_stamp (a : Adapter) (pid : Nat) (evs : List ChildEvent) :
    (a.stamp t).childDoes pid evs = (a.childDoes pid evs).stamp t := rfl

theorem fetchToolsStdio_stamp (a : Adapter) (pid : Nat) (evs : List ChildEvent) :
    fetchToolsStdio (a.stamp t) pid evs = (fetchToolsStdio a pid evs).stamp t := by
  unfold fetchToolsStdio
  rw [writeLine_stamp]
  cases a.writeLine pid toolsRequest with
  | error => rfl
  | ok a₁ =>
      dsimp only [Except.map]
      rw [childDoes_stamp, readLine_stamp]
      rcases (a₁.childDoes pid evs).readLine pid with ⟨_ | _ | _, a₂⟩
      all_goals first | rfl | exact receiveTools_stamp t a₂ _

theorem mcpHandshakeStdio_stamp (a : Adapter) (pid : Nat) (w : World) :
    mcpHandshakeStdio (a.stamp t) pid w = (mcpHandshakeStdio a pid w).stamp t := by
  unfold mcpHandshakeStdio
  rw [writeLine_stamp]
  cases a.writeLine pid initRequest with
  | error => rfl
  | ok a₁ =>
      dsimp only [Except.map]
      rw [childDoes_stamp, readLine_stamp]
      rcases (a₁.childDoes pid w.onInit).readLine pid with ⟨_ | _, a₂⟩
      · rfl
      · dsimp only
        rw [setBackend_stamp t a₂ fun _ => rfl, fetchToolsStdio_stamp]

theorem completeHttpRequest_stamp (py : PyLib) (a : Adapter) (d : Dispatch) (r : HttpReply) :
    completeHttpRequest py (a.stamp t) d r =
      ((completeHttpRequest py a d r).1, (completeHttpRequest py a d r).2.stamp t) := by
  cases r with
  | failed => rfl
  | response =>
      simp only [completeHttpRequest, refreshSession_stamp]
      repeat' split
      all_goals rfl

end Stamp

/-! ## The clock reaches `start()` only through a spawn's stamp -/

section Clock

variable (py : PyLib) (a : Adapter) (v t t' : ℚ) (w : World)

/-- An HTTP start neither reads nor writes `last_used`. -/
theorem start_http_stamp (hh : a.isHttp = true) :
    start py (a.stamp v) t w = ((start py a t' w).1, (start py a t' w).2.stamp v) := by
  unfold start
  rw [stamp_isHttp, if_pos hh, if_pos hh, stamp_backend]
  split
  · rfl
  · dsimp only
    rw [initHttpSession_stamp]

theorem startStdio_clock :
    ∃ τ, startStdio (a.stamp v) t w = ((startStdio a t' w).1, (startStdio a t' w).2.stamp τ) := by
  unfold startStdio
  simp only [stamp_processAlive, stamp_backend, stamp_children]
  repeat' split
  all_goals first
    | exact ⟨v, rfl⟩
    | exact ⟨t, congrArg _ (mcpHandshakeStdio_stamp t (a.spawn t') _ w)⟩

/-- **THE CLOCK ONLY STAMPS**: `start()` reports the same whatever the time
    it reads and whatever `last_used` held, and leaves the same adapter up
    to `last_used`. -/
theorem start_clock : ∃ τ, start py (a.stamp v) t w = ((start py a t' w).1, (start py a t' w).2.stamp τ) := by
  by_cases hh : a.isHttp
  · exact ⟨v, start_http_stamp py a v t t' w hh⟩
  · unfold start
    rw [stamp_isHttp, if_neg hh, if_neg hh]
    exact startStdio_clock a v t t' w

end Clock

/-! ## `send_request` after `start()` -/

section AfterStart

variable (py : PyLib) {a : Adapter} {s now : ℚ} {w : World}

theorem isRunning_http (hh : a.isHttp = true) : a.isRunning = a.backend.initialized := by
  rw [Adapter.isRunning, if_pos hh]

theorem isHttp_start : (start py a now w).2.isHttp = a.isHttp := by
  rw [Adapter.isHttp, Adapter.isHttp, (moves_start py a now w).config]

/-- `start()` on a running backend reports `True` and changes nothing. -/
theorem start_running (h : a.isRunning = true) : start py a now w = (.ok true, a) := by
  unfold start
  by_cases hh : a.isHttp
  · rw [if_pos hh, if_pos ((isRunning_http hh).symm.trans h)]
  · rw [Adapter.isRunning, if_neg hh] at h
    rw [if_neg hh, startStdio, if_pos h]

theorem start_ok_of_running (hup : (start py a now w).2.isRunning = true) :
    (start py a now w).1 = .ok true := by
  by_contra hne
  rw [start_not_running py hne] at hup
  cases hup

/-- A `_send_stdio_request` whose test at the top leaves the backend `b`
    running does what it does on `b`. -/
theorem sendStdioRequest_of_ready {b : Adapter} (req : Json)
    (h : (if a.isRunning then (Except.ok true, a) else start py a (now + w.spawnDelay) w) = (.ok true, b))
    (hb : b.isRunning = true) : sendStdioRequest py a now req w = sendStdioRequest py b now req w := by
  unfold sendStdioRequest
  rw [h, if_pos hb]

/-- On a running backend `_send_stdio_request` neither reads nor writes
    `last_used`. -/
theorem sendStdioRequest_stamp (t : ℚ) (h : a.isRunning = true) (req : Json) :
    sendStdioRequest py (a.stamp t) now req w =
      ((sendStdioRequest py a now req w).1, (sendStdioRequest py a now req w).2.stamp t) := by
  unfold sendStdioRequest
  rw [stamp_isRunning, if_pos h, if_pos h]
  dsimp only
  rw [show (a.stamp t).backend.process = a.backend.process from rfl]
  cases a.backend.process with
  | none => rfl
  | some pid =>
      dsimp only
      rw [writeLine_stamp]
      cases a.writeLine pid req with
      | error => rfl
      | ok a₁ =>
          dsimp only [Except.map]
          cases isNotification req
          · rw [childDoes_stamp, readLine_stamp]
            rcases (a₁.childDoes pid w.onReply).readLine pid with ⟨_ | _ | _, a₂⟩ <;> rfl
          · rfl

/-- Stamped at `now`, a backend that `start()` at `s` would bring up is
    brought up by `_send_stdio_request`'s own start, to the same adapter up
    to `last_used`. -/
theorem sendStdioRequest_after_start (req : Json) (hup : (start py a s w).2.isRunning = true) :
    ∃ τ, sendStdioRequest py (a.stamp now) now req w =
      ((sendStdioRequest py ((start py a s w).2.stamp now) now req w).1,
        (sendStdioRequest py ((start py a s w).2.stamp now) now req w).2.stamp τ) := by
  by_cases hr : a.isRunning
  · rw [start_running py hr]
    exact ⟨_, by rw [stamp_lastUsed]⟩
  · obtain ⟨τ, hτ⟩ := start_clock py a now (now + w.spawnDelay) s w
    have hready : (if (a.stamp now).isRunning then (Except.ok true, a.stamp now)
        else start py (a.stamp now) (now + w.spawnDelay) w) = (.ok true, (start py a s w).2.stamp τ) := by
      rw [stamp_isRunning, if_neg hr, hτ, start_ok_of_running py hup]
    refine ⟨τ, ?_⟩
    rw [sendStdioRequest_of_ready py req hready hup, ← stamp_stamp τ _ now,
      sendStdioRequest_stamp py τ (by rwa [stamp_isRunning])]

theorem sendHttpRequest_after_start (hh : a.isHttp = true) (req : Json)
    (hup : (start py a s w).2.isRunning = true) :
    sendHttpRequest py (a.stamp now) now req w = sendHttpRequest py ((start py a s w).2.stamp now) now req w := by
  have hh' : (start py a s w).2.isHttp = true := (isHttp_start py).trans hh
  have hready : (if (a.stamp now).backend.initialized then (Except.ok true, a.stamp now)
      else start py (a.stamp now) (now + w.spawnDelay) w) = (.ok true, (start py a s w).2.stamp now) := by
    rw [stamp_backend]
    by_cases hi : a.backend.initialized
    · rw [if_pos hi, start_running py ((isRunning_http hh).trans hi)]
    · rw [if_neg hi, start_http_stamp py a now _ s w hh, start_ok_of_running py hup]
  unfold sendHttpRequest
  rw [hready, stamp_backend, if_pos ((isRunning_http hh').symm.trans hup)]

/-- `send_request` of anything but `tools/list` stamps `last_used` and goes
    to the transport. -/
theorem sendRequest_of_method {req m : Json} (hm : pyGet req "method" .null = .ok m)
    (hl : m.isStr "tools/list" = false) :
    sendRequest py a now req w =
      if a.isHttp then sendHttpRequest py (a.stamp now) now req w
      else ((.done (sendStdioRequest py (a.stamp now) now req w).1, (sendStdioRequest py (a.stamp now) now req w).2)) := by
  unfold sendRequest
  rw [hm]
  dsimp only
  split
  · rw [hl, if_neg Bool.false_ne_true]; rfl
  · rfl

/-- **LAZY START**: a `send_request` that does not ask for `tools/list`
    does the same whether or not `start()` ran just before it, as long as
    that start left the backend running: the same reply, and the same
    adapter up to `last_used`. -/
theorem sendRequest_after_start (req : Json) {m : Json} (hm : pyGet req "method" .null = .ok m)
    (hl : m.isStr "tools/list" = false) (hup : (start py a s w).2.isRunning = true) :
    ∃ τ, sendRequest py a now req w =
      ((sendRequest py (start py a s w).2 now req w).1, (sendRequest py (start py a s w).2 now req w).2.stamp τ) := by
  rw [sendRequest_of_method py hm hl, sendRequest_of_method py hm hl, isHttp_start]
  split
  · next hh => exact ⟨_, by rw [sendHttpRequest_after_start py hh req hup, stamp_lastUsed]⟩
  · obtain ⟨τ, hτ⟩ := @sendStdioRequest_after_start py a s now w req hup
    exact ⟨τ, by rw [hτ]⟩

theorem callBackend_after_start (req : Json) {m : Json} (hm : pyGet req "method" .null = .ok m)
    (hl : m.isStr "tools/list" = false) (hup : (start py a s w).2.isRunning = true) (r : HttpReply) :
    ∃ τ, callBackend py a now req w r =
      ((callBackend py (start py a s w).2 now req w r).1, (callBackend py (start py a s w).2 now req w r).2.stamp τ) := by
  obtain ⟨τ, hτ⟩ := @sendRequest_after_start py a s now w req m hm hl hup
  unfold callBackend
  rw [hτ]
  rcases sendRequest py (start py a s w).2 now req w with ⟨_ | d, b⟩
  · exact ⟨τ, rfl⟩
  · exact ⟨τ, (congrArg (fun p => (Except.ok p.1, p.2))
      (completeHttpRequest_stamp τ py { b with inflight := b.inflight.eraseIdx (b.inflight.length - 1) } d r) :)⟩

/-- `send_request` on a running backend leaves `last_used` at its stamp. -/
theorem lastUsed_sendRequest_running (req : Json) {m : Json} (hm : pyGet req "method" .null = .ok m)
    (hl : m.isStr "tools/list" = false) (h : a.isRunning = true) :
    (sendRequest py a now req w).2.backend.lastUsed = now := by
  rw [sendRequest_of_method py hm hl]
  split
  · next hh =>
      have hi : (a.stamp now).backend.initialized = true := (isRunning_http hh).symm.trans h
      rcases sendHttpRequest_state py (a.stamp now) now req w with h' | ⟨d, h'⟩ <;> rw [h', if_pos hi] <;> rfl
  · dsimp only
    rw [(inner_sendStdioRequest py _ now req w).lastUsed, stamp_isRunning, if_pos h]
    rfl

end AfterStart

/-! ## `gateway_invoke` against `/mcp/{name}` -/

/-- The `tools/call` request `_call_invoke` builds; a client calling the
    tool directly POSTs the same body to `/mcp/{server}`. -/
def toolsCall (tool toolArgs id : Json) : Json :=
  .obj [("jsonrpc", .str "2.0"), ("method", .str "tools/call"), ("id", id),
    ("params", .obj [("name", tool), ("arguments", toolArgs)])]

/-- A Meta-MCP `tools/call` of `gateway_invoke` on `server`. -/
def invokeCall (server tool toolArgs id : Json) : Json :=
  .obj [("jsonrpc", .str "2.0"), ("method", .str "tools/call"), ("id", id),
    ("params", .obj [("name", .str "gateway_invoke"),
      ("arguments", .obj [("server", server), ("tool", tool), ("arguments", toolArgs)])])]

theorem truthy_str {s : String} (h : s ≠ "") : truthy (.str s) = true := by
  rw [truthy, Bool.not_eq_true', Bool.eq_false_iff]
  exact fun he => h ((String.isEmpty_iff s).1 he)

/-- Putting back the `i`-th adapter twice keeps the second. -/
theorem Gateway.setAt_setAt (g : Gateway) (i : Nat) (a a' : Adapter) :
    (g.setAt i a).setAt i a' = g.setAt i a' := by
  simp only [Gateway.setAt, List.modify_modify_eq]
  rfl

section Invoke

variable (py : PyLib) (g : Gateway) (env : Env)

theorem handleMetaMcp_invoke (hm : g.enableMetaMcp = true) (server tool toolArgs id : Json) :
    handleMetaMcp py g (.ok (invokeCall server tool toolArgs id)) env =
      ok200 (callInvoke py g (.obj [("server", server), ("tool", tool), ("arguments", toolArgs)]) id env) := by
  rw [handleMetaMcp, hm]
  rfl

theorem callInvoke_found {server tool : Json} (hs : truthy server = true) (ht : truthy tool = true)
    {i : Nat} {n : String} {a : Adapter} (hg : g.getJson server = .ok (some (i, n, a))) (toolArgs id : Json) :
    callInvoke py g (.obj [("server", server), ("tool", tool), ("arguments", toolArgs)]) id env =
      ((callBackend py a (env.sendAt n) (toolsCall tool toolArgs id) (env.world n) (env.reply n)).1,
        g.setAt i (callBackend py a (env.sendAt n) (toolsCall tool toolArgs id) (env.world n) (env.reply n)).2) := by
  unfold callInvoke
  simp only [pyGet_obj, find?, String.reduceEq, ↓reduceIte, Option.getD_some, bind, Except.bind, pure,
    Except.pure, hs, ht, hg, Bool.not_true, Bool.false_eq_true]
  rfl

theorem handleMcp_started {name : String} (hn : name ≠ "") {i : Nat} {n : String} {a : Adapter}
    (hg : g.get name = some (i, n, a)) (hs : (start py a (env.startAt name) (env.world name)).1 = .ok true) (body : Json) :
    handleMcp py g name (.ok body) env =
      ok200 ((callBackend py (start py a (env.startAt name) (env.world name)).2 (env.sendAt name) body
          (env.world name) (env.reply name)).1,
        g.setAt i (callBackend py (start py a (env.startAt name) (env.world name)).2 (env.sendAt name) body
          (env.world name) (env.reply name)).2) := by
  simp only [handleMcp, if_neg hn, hg, hs]
  rw [Gateway.setAt_setAt]

/-- **TWO ROUTES, ONE ANSWER**: whenever the backend `name` is running once
    `start()` returns, calling a tool through `gateway_invoke` at `/mcp` and
    POSTing the same `tools/call` to `/mcp/{name}` give the same response,
    and leave the same gateway but for the backend's `last_used`.  The
    direct route starts the backend and then sends, so `send_request`'s
    stamp is the last; `gateway_invoke` sends at once, and a spawn that
    `send_request` makes on the way stamps a later reading. -/
theorem invoke_eq_direct (hm : g.enableMetaMcp = true) {name : String} (hn : name ≠ "") {i : Nat}
    {n : String} {a : Adapter} (hg : g.get name = some (i, n, a)) {tool : Json} (ht : truthy tool = true)
    (toolArgs id : Json) (hup : (start py a (env.startAt name) (env.world name)).2.isRunning = true) :
    (handleMetaMcp py g (.ok (invokeCall (.str name) tool toolArgs id)) env).1 =
        (handleMcp py g name (.ok (toolsCall tool toolArgs id)) env).1 ∧
      ∃ (a' : Adapter) (t : ℚ), env.sendAt name ≤ t ∧
        (handleMcp py g name (.ok (toolsCall tool toolArgs id)) env).2 = g.setAt i (a'.stamp (env.sendAt name)) ∧
        (handleMetaMcp py g (.ok (invokeCall (.str name) tool toolArgs id)) env).2 = g.setAt i (a'.stamp t) := by
  obtain rfl : n = name := Gateway.get_name hg
  obtain ⟨τ, hτ⟩ := @callBackend_after_start py a (env.startAt n) (env.sendAt n) (env.world n)
    (toolsCall tool toolArgs id) _ rfl rfl hup (env.reply n)
  have hle := lastUsed_callBackend py a (env.sendAt n) (toolsCall tool toolArgs id) (env.world n) (env.reply n)
  have hdirect := (callBackend_lastUsed py _ (env.sendAt n) (toolsCall tool toolArgs id) (env.world n) (env.reply n)).trans
    (@lastUsed_sendRequest_running py _ (env.sendAt n) (env.world n) (toolsCall tool toolArgs id) _ rfl rfl hup)
  rw [handleMetaMcp_invoke py g env hm, callInvoke_found py g env (truthy_str hn) ht (congrArg Except.ok hg),
    handleMcp_started py g env hn hg (start_ok_of_running py hup)]
  rw [hτ] at hle ⊢
  exact ⟨rfl, _, τ, hle, (congrArg (g.setAt i) (stamp_of_lastUsed _ hdirect).symm :), rfl⟩

end Invoke

/-- `gateway_invoke` of `search` on the HTTP backend `api` at time 1000 and
    the direct call agree. -/
theorem invoke_eq_direct_api :
    apiGateway.enableMetaMcp = true ∧ apiGateway.get "api" = some (0, "api", McpHttp.apiAdapter) ∧
      (start PyLib.ascii McpHttp.apiAdapter (env1000.startAt "api") (env1000.world "api")).2.isRunning = true ∧
      (handleMetaMcp PyLib.ascii apiGateway (.ok (invokeCall (.str "api") (.str "search") (.obj []) (.int 7)))
          env1000).1 =
        (handleMcp PyLib.ascii apiGateway "api" (.ok (toolsCall (.str "search") (.obj []) (.int 7))) env1000).1 ∧
      ∃ (a' : Adapter) (t : ℚ), env1000.sendAt "api" ≤ t ∧
        (handleMcp PyLib.ascii apiGateway "api" (.ok (toolsCall (.str "search") (.obj []) (.int 7))) env1000).2 =
          apiGateway.setAt 0 (a'.stamp (env1000.sendAt "api")) ∧
        (handleMetaMcp PyLib.ascii apiGateway (.ok (invokeCall (.str "api") (.str "search") (.obj []) (.int 7)))
          env1000).2 = apiGateway.setAt 0 (a'.stamp t) :=
  ⟨rfl, rfl, rfl, @invoke_eq_direct PyLib.ascii apiGateway env1000 rfl "api" (by decide) 0 "api" McpHttp.apiAdapter
    rfl (.str "search") rfl (.obj []) (.int 7) rfl⟩

/-! ## The ids of `/mcp`'s answers -/

/-- The body is a `tools/call` of `gateway_invoke`. -/
def IsInvoke (body : Json) : Prop :=
  pyGet body "method" (.str "") = .ok (.str "tools/call") ∧
    (pyGet body "params" (.obj []) >>= fun params => pyGet params "name" (.str "")) = .ok (.str "gateway_invoke")

@[simp] theorem textResult_id (text : String) (id : Json) : (textResult text id).id? = some id := rfl

theorem Json.eq_of_isStr {s : String} {v : Json} (h : v.isStr s = true) : v = .str s := by
  cases v <;> simp_all [Json.isStr]

/-- Two fields read one after the other, as the handlers read them. -/
theorem pair_eq_ok {x y : Except PyExc Json} {a b : Json}
    (h : (x >>= fun a => y >>= fun b => pure (a, b)) = Except.ok (a, b)) : x = .ok a ∧ y = .ok b := by
  cases x <;> cases y <;> cases h
  exact ⟨rfl, rfl⟩

theorem pyGet_id {body id : Json} (h : pyGet body "id" .null = .ok id) : id = requestId body := by
  cases body <;> cases h
  rfl

theorem ok200_eq_ok {r : Except PyExc Json × Gateway} {resp : Response} {g' : Gateway}
    (h : ok200 r = (.ok resp, g')) : ∃ v, r.1 = .ok v ∧ resp = ⟨200, v⟩ := by
  obtain ⟨_ | v, _⟩ := r
  · cases h
  · cases h; exact ⟨v, rfl, rfl⟩

section Ids

variable (py : PyLib) (g : Gateway) (env : Env)

theorem callListServers_id {id v : Json} (h : callListServers py g id = .ok v) : v.id? = some id := by
  unfold callListServers at h
  simp only [bind, Except.bind] at h
  split at h <;> cases h
  rfl

theorem callListTools_id {arguments id v : Json} (h : (callListTools py g arguments id env).1 = .ok v) :
    v.id? = some id := by
  unfold callListTools at h
  repeat' split at h
  all_goals try (dsimp only at h; repeat' split at h)
  all_goals cases h <;> rfl

theorem callSearchTools_id {arguments id v : Json} (h : (callSearchTools py g arguments id env).1 = .ok v) :
    v.id? = some id := by
  unfold callSearchTools at h
  repeat' split at h
  all_goals try (dsimp only [Except.map] at h; repeat' split at h)
  all_goals cases h <;> rfl

/-- The meta-tools answer with the request's `id`, except `gateway_invoke`,
    which passes on what the backend answered. -/
theorem metaToolsCall_id {body id v : Json} (h : (metaToolsCall py g body id env).1 = .ok v) :
    v.id? = some id ∨
      (pyGet body "params" (.obj []) >>= fun params => pyGet params "name" (.str "")) = .ok (.str "gateway_invoke") := by
  unfold metaToolsCall at h
  split at h
  · cases h
  · next toolName arguments hparse =>
      split at h
      · exact .inl (callListServers_id py g h)
      split at h
      · exact .inl (callListTools_id py g env h)
      split at h
      · exact .inl (callSearchTools_id py g env h)
      split at h
      · next hinv =>
          refine .inr ?_
          cases hp : pyGet body "params" (.obj []) with
          | error e => rw [hp] at hparse; cases hparse
          | ok params =>
              rw [hp] at hparse
              rw [← Json.eq_of_isStr hinv]
              exact (pair_eq_ok hparse).1
      · cases h; exact .inl rfl

/-- **ANSWERS CARRY THE ID**: every 200 answer of `/mcp` to a JSON body
    carries the request's `id` (`body.get("id")`), except the answer to a
    `tools/call` of `gateway_invoke`, which is what the backend answered. -/
theorem metaMcp_answers_id {body : Json} {resp : Response} {g' : Gateway}
    (h : handleMetaMcp py g (.ok body) env = (.ok resp, g')) (h200 : resp.status = 200) :
    resp.body.id? = some (requestId body) ∨ IsInvoke body := by
  unfold handleMetaMcp at h
  split at h
  · cases h; cases h200
  dsimp only at h
  split at h
  · cases h
  next method id hparse =>
    obtain ⟨hm, hid⟩ := pair_eq_ok hparse
    rw [← pyGet_id hid]
    split at h
    · cases h; exact .inl rfl
    split at h
    · cases h; exact .inl rfl
    split at h
    · next hcall =>
        obtain ⟨v, hv, rfl⟩ := ok200_eq_ok h
        rcases metaToolsCall_id py g env hv with h' | h'
        · exact .inl h'
        · exact .inr ⟨hm.trans (congrArg _ (Json.eq_of_isStr hcall)), h'⟩
    split at h <;> cases h <;> exact .inl rfl

end Ids

/-- `tools/list` at `/mcp` with id 3. -/
def listTools3 : Json := .obj [("jsonrpc", .str "2.0"), ("method", .str "tools/list"), ("id", .int 3)]

theorem metaMcp_answers_id_list :
    handleMetaMcp PyLib.ascii apiGateway (.ok listTools3) env1000 = (.ok ⟨200, metaToolsList (.int 3)⟩, apiGateway) ∧
      (200 : Nat) = 200 ∧
      ((metaToolsList (.int 3)).id? = some (requestId listTools3) ∨ IsInvoke listTools3) :=
  ⟨rfl, rfl, @metaMcp_answers_id PyLib.ascii apiGateway env1000 listTools3 ⟨200, metaToolsList (.int 3)⟩ apiGateway
    rfl rfl⟩

end McpRoutes
