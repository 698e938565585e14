import Mathlib.Data.List.Forall2
import Mathlib.Tactic.NormNum
import McpGateway.Gateway
import McpGateway.Cache

/-! # Every backend of the gateway is an adapter run

    The handlers reach an adapter only through `start()`, `send_request`
    with its POST awaited to the reply, and the idle checker's `stop()`, and
    they put the adapter back under its name, in its place in
    `self.backends`.  A gateway run is therefore, backend by backend, a
    sequence of the adapter's own moves (`McpInner.Moves`), and what holds
    along every adapter run holds of every backend the gateway ever holds.

    * `run_follows`: over any requests and idle ticks the gateway keeps its
      backends, by name and in order, and each adapter has moved by `Moves`.
    * `run_backends`: in a gateway created from a configuration, whatever
      requests and ticks come, the backends are the enabled entries under
      their names, and each keeps its configuration, holds at most one live
      child, and caches the last `tools/list` reply with a `result` it
      received.
    * `stop_leaves_no_child`: `Gateway.stop` after any such run leaves no
      backend running and no child process alive.
    * `health_answers`: after any such run `/health` answers 200 with an
      entry for each backend, as long as every `tools/list` reply with a
      `result` a backend received has `get`. -/

namespace McpRegistry

open McpJson McpConfig McpBackend McpInner McpServer McpStdio McpCache

/-! ## Following a gateway -/

/-- The same backend, its adapter moved. -/
def EntryMoves (e e' : String × Adapter) : Prop := e'.1 = e.1 ∧ Moves e.2 e'.2

theorem EntryMoves.refl (e : String × Adapter) : EntryMoves e e := ⟨rfl, .inner (.refl e.2)⟩

theorem EntryMoves.trans {e₁ e₂ e₃ : String × Adapter} (h₁ : EntryMoves e₁ e₂)
    (h₂ : EntryMoves e₂ e₃) : EntryMoves e₁ e₃ :=
  ⟨h₂.1.trans h₁.1, h₁.2.trans h₂.2⟩

/-- `g'` has the Meta-MCP switch of `g` and its backends, by name and in
    order, each adapter moved. -/
structure Follows (g g' : Gateway) : Prop where
  enableMetaMcp : g'.enableMetaMcp = g.enableMetaMcp
  backends : List.Forall₂ EntryMoves g.backends g'.backends

theorem forall₂_entryMoves_refl (l : List (String × Adapter)) : List.Forall₂ EntryMoves l l :=
  List.forall₂_same.2 fun e _ => EntryMoves.refl e

theorem forall₂_entryMoves_trans {l₁ l₂ l₃ : List (String × Adapter)}
    (h₁ : List.Forall₂ EntryMoves l₁ l₂) (h₂ : List.Forall₂ EntryMoves l₂ l₃) :
    List.Forall₂ EntryMoves l₁ l₃ := by
  induction h₁ generalizing l₃ with
  | nil => exact h₂
  | cons h _ ih =>
      cases h₂ with
      | cons h' t' => exact .cons (h.trans h') (ih t')

theorem Follows.refl (g : Gateway) : Follows g g := ⟨rfl, forall₂_entryMoves_refl _⟩

theorem Follows.trans {g₁ g₂ g₃ : Gateway} (h₁ : Follows g₁ g₂) (h₂ : Follows g₂ g₃) :
    Follows g₁ g₃ :=
  ⟨h₂.1.trans h₁.1, forall₂_entryMoves_trans h₁.2 h₂.2⟩

/-! ## Putting a backend back -/

theorem forall₂_modify {l : List (String × Adapter)} {i : Nat} {n : String} {a a' : Adapter}
    (hi : l[i]? = some (n, a)) (h : Moves a a') :
    List.Forall₂ EntryMoves l (l.modify (fun e => (e.1, a')) i) := by
  induction l generalizing i with
  | nil => cases hi
  | cons e rest ih =>
      cases i with
      | zero =>
          cases Option.some.inj ((List.getElem?_cons_zero).symm.trans hi)
          rw [List.modify_zero_cons]
          exact .cons ⟨rfl, h⟩ (forall₂_entryMoves_refl rest)
      | succ i =>
          rw [List.modify_succ_cons]
          exact .cons (EntryMoves.refl e) (ih ((List.getElem?_cons_succ).symm.trans hi))

/-- Putting back a moved adapter where it was. -/
theorem follows_setAt {g : Gateway} {i : Nat} {n : String} {a a' : Adapter}
    (hi : g.backends[i]? = some (n, a)) (h : Moves a a') : Follows g (g.setAt i a') :=
  ⟨rfl, forall₂_modify hi h⟩

/-! ## What the handlers do to an adapter -/

/-- `send_request` with its POST awaited to the reply is a run of moves:
    the POST goes in flight, comes off, and the reply is taken in. -/
theorem moves_callBackend (py : PyLib) (a : Adapter) (now : ℚ) (req : Json) (w : World)
    (r : HttpReply) : Moves a (callBackend py a now req w r).2 := by
  have h := moves_sendRequest py a now req w
  unfold callBackend
  split
  · next heq => rw [heq] at h; exact h
  · next d a₁ heq =>
      rw [heq] at h
      exact h.trans ((Moves.settle a₁ _).trans (.inner (inner_completeHttpRequest py _ d r)))

/-- The search loop starts the backends it reaches and leaves the rest. -/
theorem forall₂_searchBackends (py : PyLib) (q : String) (limit : Json) (env : Env) :
    ∀ (bs : List (String × Adapter)) (ms : List Json),
      List.Forall₂ EntryMoves bs (searchBackends py q limit env bs ms).2
  | [], _ => .nil
  | (name, a) :: rest, ms => by
      have hs : EntryMoves (name, a) (name, (start py a (env.startAt name) (env.world name)).2) :=
        ⟨rfl, moves_start py a (env.startAt name) (env.world name)⟩
      simp only [searchBackends]
      split
      all_goals first
        | exact .cons hs (forall₂_entryMoves_refl rest)
        | exact .cons hs (forall₂_searchBackends py q limit env rest _)

section Handlers

variable {py : PyLib} {g : Gateway} {env : Env}

/-- `gateway_list_tools` starts the named backend, if any, and puts it back. -/
theorem follows_callListTools (arguments id : Json) : Follows g (callListTools py g arguments id env).2 := by
  unfold callListTools
  dsimp only
  repeat' split
  all_goals first
    | exact .refl g
    | exact follows_setAt (Gateway.getElem?_of_getJson ‹_›) (moves_start py _ _ _)

/-- `gateway_search_tools` hands the backends to the search loop. -/
theorem follows_callSearchTools (arguments id : Json) :
    Follows g (callSearchTools py g arguments id env).2 := by
  unfold callSearchTools
  repeat' split
  all_goals first
    | exact .refl g
    | exact ⟨rfl, forall₂_searchBackends py _ _ env g.backends []⟩

/-- `gateway_invoke` sends the request to the named backend, if any, and
    puts it back. -/
theorem follows_callInvoke (arguments id : Json) : Follows g (callInvoke py g arguments id env).2 := by
  unfold callInvoke
  repeat' split
  all_goals first
    | exact .refl g
    | exact follows_setAt (Gateway.getElem?_of_getJson ‹_›) (moves_callBackend py _ _ _ _ _)

theorem follows_metaToolsCall (body id : Json) : Follows g (metaToolsCall py g body id env).2 := by
  unfold metaToolsCall
  repeat' split
  all_goals first
    | exact .refl g
    | exact follows_callListTools _ id
    | exact follows_callSearchTools _ id
    | exact follows_callInvoke _ id

theorem follows_handleMetaMcp (body : Except PyExc Json) : Follows g (handleMetaMcp py g body env).2 := by
  unfold handleMetaMcp bodyFailed
  repeat' split
  all_goals first
    | exact .refl g
    | exact follows_metaToolsCall _ _

/-- A direct request starts its backend and, once it runs, sends it the
    body: two moves of the same adapter, put back in the same place. -/
theorem follows_handleMcp (name : String) (body : Except PyExc Json) :
    Follows g (handleMcp py g name body env).2 := by
  unfold handleMcp
  split
  · exact follows_handleMetaMcp body
  · split
    · exact .refl g
    · next i n a heq =>
        have hi := Gateway.getElem?_of_get heq
        have h₁ := follows_setAt hi (moves_start py a (env.startAt name) (env.world name))
        unfold bodyFailed
        dsimp only
        repeat' split
        all_goals first
          | exact h₁
          | exact h₁.trans (follows_setAt (Gateway.getElem?_setAt hi _) (moves_callBackend py _ _ _ _ _))

end Handlers

/-- The idle checker stops some backends and leaves the others. -/
theorem follows_idleTick (g : Gateway) (now : ℚ) : Follows g (idleTick g now) := by
  refine ⟨rfl, List.forall₂_map_right_iff.2 (List.forall₂_same.2 fun e _ => ?_)⟩
  unfold tickBackend
  split
  · exact ⟨rfl, .stop e.2⟩
  · exact EntryMoves.refl e

theorem follows_step (py : PyLib) (g : Gateway) (ev : Event) : Follows g (g.step py ev) := by
  cases ev with
  | direct name body env => exact follows_handleMcp name body
  | meta body env => exact follows_handleMetaMcp body
  | tick now => exact follows_idleTick g now

/-- **GATEWAY RUNS**: over any requests and idle ticks, the gateway keeps
    its backends, by name and in order, and each adapter moves only as the
    adapter itself can. -/
theorem run_follows (py : PyLib) (g : Gateway) (evs : List Event) : Follows g (g.run py evs) := by
  induction evs generalizing g with
  | nil => exact .refl g
  | cons ev evs ih => exact (follows_step py g ev).trans (ih (g.step py ev))

/-! ## The adapter invariants, backend by backend -/

theorem forall₂_names {l l' : List (String × Adapter)} (h : List.Forall₂ EntryMoves l l') :
    l'.map Prod.fst = l.map Prod.fst := by
  induction h with
  | nil => rfl
  | cons h _ ih => rw [List.map_cons, List.map_cons, h.1, ih]

theorem exists_of_forall₂ {l l' : List (String × Adapter)} (h : List.Forall₂ EntryMoves l l')
    {e' : String × Adapter} (he : e' ∈ l') : ∃ e ∈ l, EntryMoves e e' := by
  induction h with
  | nil => cases he
  | cons h _ ih =>
      rcases List.mem_cons.1 he with rfl | he
      · exact ⟨_, List.mem_cons_self _ _, h⟩
      · obtain ⟨e, hm, hr⟩ := ih he
        exact ⟨e, List.mem_cons_of_mem _ hm, hr⟩

/-- A backend of a gateway created from `config` is an enabled entry whose
    fresh adapter has moved. -/
theorem exists_init_of_mem_run {py : PyLib} {config : GatewayConfig} {t₀ : ℚ} {evs : List Event}
    {e : String × Adapter} (he : e ∈ ((Gateway.init config t₀).run py evs).backends) :
    ∃ b, (e.1, b) ∈ config.getEnabledBackends ∧ Moves (Adapter.init b t₀) e.2 := by
  obtain ⟨e₀, he₀, hname, hm⟩ := exists_of_forall₂ (run_follows py _ evs).backends he
  obtain ⟨⟨k, b⟩, hkb, rfl⟩ := List.mem_map.1 he₀
  exact ⟨b, hname ▸ hkb, hm⟩

/-- **CLEAN SHUTDOWN**: whatever requests and idle ticks a gateway created
    from `config` has served, `Gateway.stop` leaves no backend running and
    no child process of any backend alive. -/
theorem stop_leaves_no_child (py : PyLib) (config : GatewayConfig) (t₀ : ℚ) (evs : List Event) :
    ∀ e ∈ ((Gateway.init config t₀).run py evs).stop.backends,
      e.2.isRunning = false ∧ ∀ pid, ¬Alive e.2 pid := by
  intro e he
  obtain ⟨e₀, he₀, rfl⟩ := List.mem_map.1 he
  obtain ⟨b, _, hm⟩ := exists_init_of_mem_run he₀
  exact stop_quiet (oneChild_of_moves hm (oneChild_init b t₀))
    (httpNoProcess_of_moves hm fun _ => rfl)

/-! ## `/health` -/

/-- `get_cached_tools` does not raise when the cached reply has `get`. -/
theorem getCachedTools_ok {a : Adapter}
    (h : ∀ c, a.backend.toolsCache = some c → (pyGet c "result" (.obj [])).isOk = true) :
    ∃ tools, a.getCachedTools = .ok tools := by
  unfold Adapter.getCachedTools
  split
  · next c hc =>
      have hok := h c (Option.filter_eq_some.1 hc).1
      cases hr : pyGet c "result" (.obj []) with
      | error e => rw [hr] at hok; cases hok
      | ok r =>
          simp only [bind, Except.bind]
          split <;> (try split) <;> exact ⟨_, rfl⟩
  · exact ⟨[], rfl⟩

theorem mapM_healthInfo :
    ∀ {bs : List (String × Adapter)}, (∀ e ∈ bs, ∃ tools, e.2.getCachedTools = .ok tools) →
      ∃ entries, bs.mapM healthInfo = .ok entries ∧ entries.map Prod.fst = bs.map Prod.fst
  | [], _ => ⟨[], rfl, rfl⟩
  | e :: bs, h => by
      obtain ⟨tools, ht⟩ := h e (List.mem_cons_self _ _)
      obtain ⟨entries, hm, hfst⟩ := mapM_healthInfo fun e' he' => h e' (List.mem_cons_of_mem _ he')
      obtain ⟨x, hx, hx₁⟩ : ∃ x, healthInfo e = .ok x ∧ x.1 = e.1 := by
        simp only [healthInfo, ht, bind, Except.bind, pure, Except.pure]
        exact ⟨_, rfl, rfl⟩
      refine ⟨x :: entries, ?_, by rw [List.map_cons, List.map_cons, hfst, hx₁]⟩
      rw [List.mapM_cons, hx, hm]
      rfl

/-- **HEALTH ANSWERS**: in a gateway created from `config`, whatever
    requests and idle ticks came, as long as every `tools/list` reply with a
    `result` that a backend received has `get`, `/health` answers 200 with
    an entry for each backend, under its name and in order. -/
theorem health_answers (py : PyLib) (config : GatewayConfig) (t₀ : ℚ) (evs : List Event)
    (hreplies : ∀ e ∈ ((Gateway.init config t₀).run py evs).backends, ∀ v ∈ e.2.toolsLog,
      hasResult v = true → (pyGet v "result" (.obj [])).isOk = true) :
    ∃ entries, handleHealth ((Gateway.init config t₀).run py evs)
        = .ok ⟨200, .obj [("status", .str "healthy"), ("backends", .obj entries)]⟩ ∧
      entries.map Prod.fst = config.getEnabledBackends.map Prod.fst := by
  obtain ⟨entries, hm, hfst⟩ := mapM_healthInfo fun e he => getCachedTools_ok fun c hc => by
    obtain ⟨b, -, hmv⟩ := exists_init_of_mem_run he
    have hinv : e.2.backend.toolsCache = lastResult e.2.toolsLog := cacheInv_of_moves hmv rfl
    obtain ⟨hv, hres⟩ := lastResult_mem (hinv ▸ hc)
    exact hreplies e he c hv hres
  refine ⟨entries, by rw [handleHealth, hm]; rfl, ?_⟩
  rw [hfst, forall₂_names (run_follows py _ evs).backends, Gateway.init, List.map_map]
  rfl

/-- A configuration with the one stdio backend `echo`. -/
def echoConfig : GatewayConfig :=
  ⟨"127.0.0.1", 39400, true, [("echo", BackendConfig.ofCommand "echo" "server")], .INFO, 30, 30,
    by decide, by norm_num, by norm_num⟩

/-- A `tools/list` sent to `/mcp/echo` at time 1, the child answering. -/
def echoRun : List Event := [.direct "echo" (.ok (listRequest 2)) (.at 1 (fun _ => toolsWorld) fun _ => .failed "")]

/-- The backend `echo` once it has served `echoRun`. -/
def echoServed : Adapter :=
  ((((Gateway.init echoConfig 0).run PyLib.ascii echoRun).backends.lookup "echo")).getD
    (Adapter.init (BackendConfig.ofCommand "echo" "server") 0)

theorem stop_leaves_no_child_echo :
    echoServed.isRunning = true ∧
      ("echo", stop echoServed) ∈ ((Gateway.init echoConfig 0).run PyLib.ascii echoRun).stop.backends ∧
      (stop echoServed).isRunning = false ∧ ∀ pid, ¬Alive (stop echoServed) pid :=
  have hmem : ("echo", stop echoServed) ∈
      ((Gateway.init echoConfig 0).run PyLib.ascii echoRun).stop.backends := List.mem_singleton.2 rfl
  ⟨rfl, hmem, stop_leaves_no_child PyLib.ascii echoConfig 0 echoRun _ hmem⟩

theorem health_answers_echo :
    (∀ e ∈ ((Gateway.init echoConfig 0).run PyLib.ascii echoRun).backends, ∀ v ∈ e.2.toolsLog,
      hasResult v = true → (pyGet v "result" (.obj [])).isOk = true) ∧
      ∃ entries, handleHealth ((Gateway.init echoConfig 0).run PyLib.ascii echoRun)
          = .ok ⟨200, .obj [("status", .str "healthy"), ("backends", .obj entries)]⟩ ∧
        entries.map Prod.fst = ["echo"] :=
  have hreplies : ∀ e ∈ ((Gateway.init echoConfig 0).run PyLib.ascii echoRun).backends,
      ∀ v ∈ e.2.toolsLog, hasResult v = true → (pyGet v "result" (.obj [])).isOk = true := by decide
  ⟨hreplies, health_answers PyLib.ascii echoConfig 0 echoRun hreplies⟩

end McpRegistry
