import Mathlib.Algebra.Order.Field.Rat
import Mathlib.Tactic.NormNum
import McpGateway.Gateway
import McpGateway.Http

/-! # Hibernation and `last_used`

    The idle checker stops a running backend once `now - last_used` exceeds
    its `idle_timeout`.  `last_used` is stamped by `send_request` and by a
    stdio spawn, and by nothing else: an HTTP or SSE session that `start()`
    brings up leaves it alone.

    * `handleMcp_spares`: a direct request whose body is JSON goes through
      `send_request`, so the backend it names is left not running or stamped
      at the request's arrival or later, and no tick within its `idle_timeout` of that
      time stops it.
    * `idleTick_absorbed`: a pass of the idle checker is absorbed by a later
      pass with no request in between, and by `Gateway.stop`.
    * `idle_stops_fresh_http_backend`: an HTTP backend that
      `gateway_list_tools` brings up at time 1000, never sent a request, is
      hibernated by the tick at 1010, ten seconds after its start. -/

namespace McpIdle

open McpJson McpConfig McpBackend McpInner McpServer McpStdio McpHttp

/-! ## `send_request` stamps `last_used` -/

section Stamp

variable (py : PyLib) {a : Adapter} {t now : ℚ}

theorem lastUsed_startStdio (h : t ≤ a.backend.lastUsed) (ht : t ≤ now) (w : World) :
    t ≤ (startStdio a now w).2.backend.lastUsed := by
  unfold startStdio
  repeat' split
  all_goals first
    | exact h
    | rw [(inner_mcpHandshakeStdio _ _ w).lastUsed]; exact ht

theorem lastUsed_start (h : t ≤ a.backend.lastUsed) (ht : t ≤ now) (w : World) :
    t ≤ (start py a now w).2.backend.lastUsed := by
  by_cases hh : a.isHttp
  · rwa [(inner_start_http py hh now w).lastUsed]
  · unfold start
    rw [if_neg hh]
    exact lastUsed_startStdio h ht w

theorem lastUsed_startIf (c : Bool) (h : t ≤ a.backend.lastUsed) (ht : t ≤ now) (w : World) :
    t ≤ (if c then (Except.ok true, a) else start py a now w).2.backend.lastUsed := by
  split
  · exact h
  · exact lastUsed_start py h ht w

/-- `send_request` at `now` leaves `last_used` at `now` or later: it stamps
    first, and a spawn on the way stamps its own, later, reading. -/
theorem lastUsed_sendRequest (a : Adapter) (now : ℚ) (req : Json) (w : World) :
    now ≤ (sendRequest py a now req w).2.backend.lastUsed := by
  have h₀ : now ≤ (a.setBackend fun b => { b with lastUsed := now }).backend.lastUsed := le_rfl
  have ht : now ≤ now + w.spawnDelay := le_add_of_nonneg_right w.spawnDelay_nonneg
  simp only [sendRequest]
  repeat' split
  all_goals first
    | exact h₀
    | rw [(inner_sendStdioRequest py _ now req w).lastUsed]; exact lastUsed_startIf py _ h₀ ht w
    | rcases sendHttpRequest_state py (a.setBackend fun b => { b with lastUsed := now }) now req w with
        h | ⟨d, h⟩ <;> rw [h] <;> exact lastUsed_startIf py _ h₀ ht w

/-- Completing a POST leaves `last_used` as `send_request` left it. -/
theorem callBackend_lastUsed (a : Adapter) (now : ℚ) (req : Json) (w : World) (r : HttpReply) :
    (callBackend py a now req w r).2.backend.lastUsed = (sendRequest py a now req w).2.backend.lastUsed := by
  unfold callBackend
  split
  · next heq => rw [heq]
  · next d a₁ heq =>
      rw [heq]
      exact (inner_completeHttpRequest py _ d r).lastUsed

theorem lastUsed_callBackend (a : Adapter) (now : ℚ) (req : Json) (w : World) (r : HttpReply) :
    now ≤ (callBackend py a now req w r).2.backend.lastUsed :=
  (lastUsed_sendRequest py a now req w).trans_eq (callBackend_lastUsed py a now req w r).symm

end Stamp

/-- A stdio start reports `True`, or returns the adapter as it was, its held
    child dead. -/
theorem startStdio_cases (a : Adapter) (now : ℚ) (w : World) :
    (startStdio a now w).1 = .ok true ∨ ((startStdio a now w).2 = a ∧ a.processAlive = false) := by
  unfold startStdio
  by_cases hp : a.processAlive
  · exact .inl (by rw [if_pos hp])
  · rw [if_neg hp]
    have hp' : a.processAlive = false := by simpa using hp
    repeat' split
    all_goals first | exact .inl rfl | exact .inr ⟨rfl, hp'⟩

/-- `_init_http_session` returns `True`, or leaves `_initialized` as it was:
    a streamable-HTTP attempt always reports success, and a failed SSE
    attempt changes nothing but the endpoint. -/
theorem initHttpSession_cases (py : PyLib) (a : Adapter) (w : World) :
    (initHttpSession py a w).1 = true ∨
      (initHttpSession py a w).2.backend.initialized = a.backend.initialized := by
  unfold initHttpSession
  split
  · rcases hr : initSseSession py a w with ⟨_ | _, a'⟩
    · exact .inr (initSseSession_false hr).1
    · exact .inl rfl
  · unfold initStreamableHttp
    split <;> exact .inl rfl

/-- A start that does not report `True` leaves the adapter not running. -/
theorem start_not_running (py : PyLib) {a : Adapter} {now : ℚ} {w : World}
    (h : (start py a now w).1 ≠ .ok true) : (start py a now w).2.isRunning = false := by
  unfold start at h ⊢
  by_cases hh : a.isHttp
  · rw [if_pos hh] at h ⊢
    by_cases hi : a.backend.initialized
    · rw [if_pos hi] at h
      exact absurd rfl h
    · rw [if_neg hi] at h ⊢
      dsimp only at h ⊢
      rcases initHttpSession_cases py a w with h' | h'
      · exact absurd (by rw [h']) h
      · rw [Adapter.isRunning, Adapter.isHttp, (inner_initHttpSession py a w).config, ← Adapter.isHttp,
          if_pos hh, h']
        simpa using hi
  · rw [if_neg hh] at h ⊢
    rcases startStdio_cases a now w with h' | ⟨h', hp⟩
    · exact absurd h' h
    · rw [h', Adapter.isRunning, if_neg hh, hp]

/-- A backend that is not running, or was last used at `t` or later, is left
    alone by a tick within its `idle_timeout` of `t`. -/
theorem tickBackend_spares {now t : ℚ} {e : String × Adapter}
    (h : e.2.isRunning = false ∨ t ≤ e.2.backend.lastUsed)
    (hle : now - t ≤ e.2.backend.config.idleTimeout) : tickBackend now e = e := by
  rcases h with h | h
  · exact tickBackend_keeps (.inl h)
  · exact tickBackend_keeps (.inr ((sub_le_sub_left h now).trans hle))

/-- **A SERVED REQUEST STAMPS**: after a direct request arriving at time `t`
    whose body is JSON, the backend it names, still in its place, is not
    running or has `last_used` at `t` or later; no idle-checker pass within
    its `idle_timeout` of `t` stops it. -/
theorem handleMcp_spares {py : PyLib} {g : Gateway} {name : String} {body : Json} {env : Env}
    {i : Nat} {n : String} {a : Adapter} (hname : name ≠ "") (hget : g.get name = some (i, n, a)) :
    ∃ a', (handleMcp py g name (.ok body) env).2.backends[i]? = some (n, a') ∧
      ∀ now, now - env.now ≤ a'.backend.config.idleTimeout → tickBackend now (n, a') = (n, a') := by
  have hi := Gateway.getElem?_of_get hget
  have hstart := @start_not_running py a (env.startAt name) (env.world name)
  unfold handleMcp
  rw [if_neg hname, hget]
  dsimp only
  split
  case h_1 | h_2 =>
    refine ⟨_, Gateway.getElem?_setAt hi _, fun now hle => tickBackend_spares (.inl (hstart ?_)) hle⟩
    rw [‹(start py a (env.startAt name) (env.world name)).1 = _›]
    simp
  · exact ⟨_, Gateway.getElem?_setAt (Gateway.getElem?_setAt hi _) _,
      fun now hle => tickBackend_spares (.inr ((env.arrive_le_sendAt name).trans
        (lastUsed_callBackend py _ _ _ _ _))) hle⟩

/-! ## Passes of the idle checker compose -/

theorem stop_isHttp (a : Adapter) : (stop a).isHttp = a.isHttp := by
  rw [Adapter.isHttp, Adapter.isHttp, stop_config]

/-- A stopped backend is not running, whatever it was. -/
theorem stop_isRunning (a : Adapter) : (stop a).isRunning = false := by
  unfold stop
  by_cases hh : a.isHttp
  · rw [if_pos hh]
    simp_all [Adapter.isRunning, Adapter.isHttp, Adapter.setBackend]
  · rw [if_neg hh]
    split <;> simp_all [Adapter.isRunning, Adapter.isHttp, Adapter.setBackend, Adapter.updateChild,
      Adapter.processAlive]

/-- Stopping twice is stopping once. -/
theorem stop_stop (a : Adapter) : stop (stop a) = stop a := by
  nth_rewrite 1 [stop]
  rw [stop_isHttp]
  by_cases hh : a.isHttp
  · rw [if_pos hh, stop, if_pos hh]
    rfl
  · have hp : (stop a).backend.process = none := by
      unfold stop
      rw [if_neg hh]
      split <;> simp_all [Adapter.setBackend]
    rw [if_neg hh, hp]

theorem tickBackend_tickBackend {t₁ t₂ : ℚ} (h : t₁ ≤ t₂) (e : String × Adapter) :
    tickBackend t₂ (tickBackend t₁ e) = tickBackend t₂ e := by
  by_cases hs : e.2.isRunning = true ∧ t₁ - e.2.backend.lastUsed > e.2.backend.config.idleTimeout
  · rw [tickBackend_stops hs.1 hs.2, tickBackend_stops hs.1 (lt_of_lt_of_le hs.2 (sub_le_sub_right h _)),
      tickBackend_keeps (.inl (stop_isRunning _))]
  · have hk : e.2.isRunning = false ∨ t₁ - e.2.backend.lastUsed ≤ e.2.backend.config.idleTimeout := by
      cases hr : e.2.isRunning
      · exact .inl rfl
      · exact .inr (not_lt.1 fun hlt => hs ⟨hr, hlt⟩)
    rw [tickBackend_keeps hk]

theorem tickBackend_fst (now : ℚ) (e : String × Adapter) : (tickBackend now e).1 = e.1 := by
  unfold tickBackend
  split <;> rfl

theorem stop_tickBackend (now : ℚ) (e : String × Adapter) : stop (tickBackend now e).2 = stop e.2 := by
  unfold tickBackend
  split
  · exact stop_stop e.2
  · rfl

/-- **PASSES COMPOSE**: a pass of the idle checker is absorbed by any later
    pass with no request in between, and by `Gateway.stop`: consecutive
    passes act as the last one alone, and a shutdown ends in the same state
    whether or not a pass came just before it. -/
theorem idleTick_absorbed {t₁ t₂ : ℚ} (h : t₁ ≤ t₂) (g : Gateway) :
    idleTick (idleTick g t₁) t₂ = idleTick g t₂ ∧ (idleTick g t₁).stop = g.stop := by
  constructor
  · simp only [idleTick, List.map_map]
    congr 1
    exact List.map_congr_left fun e _ => tickBackend_tickBackend h e
  · simp only [Gateway.stop, idleTick, List.map_map]
    congr 1
    exact List.map_congr_left fun e _ => Prod.ext (tickBackend_fst t₁ e) (stop_tickBackend t₁ e)

/-- A gateway with the one HTTP backend `api`, created at time 0. -/
def apiGateway : Gateway := ⟨true, [("api", apiAdapter)]⟩

/-- `tools/call` of `gateway_list_tools` for the server `api`. -/
def listApi : Json :=
  .obj [("jsonrpc", .str "2.0"), ("method", .str "tools/call"), ("id", .int 1),
    ("params", .obj [("name", .str "gateway_list_tools"), ("arguments", .obj [("server", .str "api")])])]

/-- A request at time 1000 whose backends all answer. -/
def env1000 : Env := .at 1000 (fun _ => okWorld) fun _ => .failed ""

/-- `api` brought up at 1000 by its first `start()`, never sent a request:
    it runs, with `last_used` still 0. -/
def upGateway : Gateway := ⟨true, [("api", (start PyLib.ascii apiAdapter 1000 okWorld).2)]⟩

/-- The tick at 1010 finds `api` idle for longer than its 300 seconds. -/
theorem tickBackend_up_api : tickBackend 1010 ("api", (start PyLib.ascii apiAdapter 1000 okWorld).2)
    = ("api", stop (start PyLib.ascii apiAdapter 1000 okWorld).2) :=
  tickBackend_stops rfl (by show (300 : ℚ) < 1010 - 0; norm_num)

/-- Passes at 1010 and 1020 over `upGateway`: the first hibernates `api`. -/
theorem idleTick_absorbed_api :
    upGateway.backends.map (·.2.isRunning) = [true] ∧
      (idleTick upGateway 1010).backends.map (·.2.isRunning) = [false] ∧
      (1010 : ℚ) ≤ 1020 ∧ idleTick (idleTick upGateway 1010) 1020 = idleTick upGateway 1020 ∧
      (idleTick upGateway 1010).stop = upGateway.stop :=
  ⟨rfl, by show [(tickBackend 1010 _).2.isRunning] = _; rw [tickBackend_up_api]; rfl, by norm_num,
    idleTick_absorbed (by norm_num) _⟩

/-- A direct `tools/call` to `api` at 1000 leaves it stamped, so ticks
    within its timeout keep it. -/
theorem handleMcp_spares_api :
    "api" ≠ "" ∧ apiGateway.get "api" = some (0, "api", apiAdapter) ∧
      ∃ a', (handleMcp PyLib.ascii apiGateway "api" (.ok (callRequest 1)) env1000).2.backends[0]?
          = some ("api", a') ∧
        ∀ now, now - env1000.now ≤ a'.backend.config.idleTimeout →
          tickBackend now ("api", a') = ("api", a') :=
  ⟨by decide, rfl, handleMcp_spares (by decide) rfl⟩

/-- The backend `api` was not running; the meta call at 1000 starts it
    without stamping `last_used`, and the tick at 1010 stops it. -/
theorem idle_stops_fresh_http_backend :
    apiAdapter.isRunning = false ∧
      List.lookup "api" (apiGateway.run PyLib.ascii [.meta (.ok listApi) env1000]).backends
        = some (start PyLib.ascii apiAdapter 1000 okWorld).2 ∧
      (start PyLib.ascii apiAdapter 1000 okWorld).2.isRunning = true ∧
      (start PyLib.ascii apiAdapter 1000 okWorld).2.backend.lastUsed = 0 ∧
      (List.lookup "api" (apiGateway.run PyLib.ascii [.meta (.ok listApi) env1000, .tick 1010]).backends).map
        Adapter.isRunning = some false := by
  have hstep : (apiGateway.run PyLib.ascii [.meta (.ok listApi) env1000]).backends
      = [("api", (start PyLib.ascii apiAdapter 1000 okWorld).2)] := rfl
  refine ⟨rfl, by rw [hstep]; rfl, rfl, rfl, ?_⟩
  show (List.lookup "api" ((apiGateway.run PyLib.ascii [.meta (.ok listApi) env1000]).backends.map
    (tickBackend 1010))).map Adapter.isRunning = some false
  rw [hstep, List.map_singleton, tickBackend_up_api]
  rfl

end McpIdle
