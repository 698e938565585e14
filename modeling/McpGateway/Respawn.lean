import McpGateway.Routes

/-! # A child that exits during the handshake

    `_start_stdio` returns `True` once `Popen` succeeds, whatever the
    handshake after it finds.  A child that exits while `initialize` is
    pending closes its pipes at once, but `poll()` reports it gone only
    once it is reaped, so what the next request meets depends on which the
    gateway sees first.  `_handle_mcp` trusts `start()`'s `True` and
    forwards the request; `_send_stdio_request` tests `is_running` again.

    * `startStdio_spawned`: such a `start()` reports `True`, counts one
      more restart, and holds the child as the handshake left it.
    * `handleMcp_exiting_child`: when each child is reaped while
      `initialize` is pending, `send_request` finds the backend not running
      and starts a second child, which exits the same way, and the write to
      it breaks the pipe: the request is answered 200 with the `-32000`
      error `[Errno 32] Broken pipe`, after two spawns.
    * `run_exiting_child`: over any number of such requests,
      `restart_count` grows by exactly two per request.
    * `handleMcp_hungup_child`: when the child has only closed its stdin
      and `poll()` still reports it alive, nothing is spawned again: the
      write to that child breaks the pipe, and the backend is left running
      with one more restart. -/

namespace McpBackend

/-- Whether the child is alive (`poll()` returns `None`) and whether its
    stdin is open (a write does not break the pipe). -/
def Child.flags (c : Child) : Bool × Bool := (c.alive, c.stdinOpen)

/-- How an event of the child changes its flags. -/
def ChildEvent.onFlags (f : Bool × Bool) : ChildEvent → Bool × Bool
  | .closeStdin => (f.1, false)
  | .exit => (false, false)
  | _ => f

/-- What `poll()` and a write see of the child `pid`. -/
def Adapter.childFlags (a : Adapter) (pid : Nat) : Option (Bool × Bool) := (a.children[pid]?).map Child.flags

end McpBackend

namespace McpRespawn

open McpJson McpConfig McpBackend McpInner McpServer McpRoutes

/-! ## What `poll()` and a write see of a child -/

theorem Child.flags_apply (c : Child) (ev : ChildEvent) : (c.apply ev).flags = ChildEvent.onFlags c.flags ev := by
  cases ev with
  | write l => simp only [Child.apply]; split <;> rfl
  | closeStdin | closeStdout | exit => rfl

theorem Child.flags_foldl (evs : List ChildEvent) (c : Child) :
    (evs.foldl Child.apply c).flags = evs.foldl ChildEvent.onFlags c.flags := by
  induction evs generalizing c with
  | nil => rfl
  | cons ev evs ih => rw [List.foldl_cons, List.foldl_cons, ih, Child.flags_apply]

theorem onFlags_foldl_exited (evs : List ChildEvent) :
    evs.foldl ChildEvent.onFlags (false, false) = (false, false) := by
  induction evs with
  | nil => rfl
  | cons ev evs ih => cases ev <;> exact ih

/-- A child reaped at some point of `evs` ends exited, its stdin closed. -/
theorem onFlags_foldl_exit {evs : List ChildEvent} (hx : ChildEvent.exit ∈ evs) (f : Bool × Bool) :
    evs.foldl ChildEvent.onFlags f = (false, false) := by
  induction evs generalizing f with
  | nil => cases hx
  | cons ev evs ih =>
      rcases List.mem_cons.1 hx with rfl | hx
      · exact onFlags_foldl_exited evs
      · exact ih hx _

theorem onFlags_foldl_closed {evs : List ChildEvent} (hx : ChildEvent.exit ∉ evs) (b : Bool) :
    evs.foldl ChildEvent.onFlags (b, false) = (b, false) := by
  induction evs with
  | nil => rfl
  | cons ev evs ih =>
      have hev : ev ≠ .exit := fun h => hx (h ▸ List.mem_cons_self _ _)
      have hx' : ChildEvent.exit ∉ evs := fun h => hx (List.mem_cons_of_mem _ h)
      cases ev <;> first | exact absurd rfl hev | exact ih hx'

/-- A live child that closes its stdin at some point of `evs`, and is not
    reaped, ends alive with its stdin closed. -/
theorem onFlags_foldl_hangUp {evs : List ChildEvent} (hi : ChildEvent.closeStdin ∈ evs)
    (hx : ChildEvent.exit ∉ evs) (s : Bool) : evs.foldl ChildEvent.onFlags (true, s) = (true, false) := by
  induction evs generalizing s with
  | nil => cases hi
  | cons ev evs ih =>
      have hev : ev ≠ .exit := fun h => hx (h ▸ List.mem_cons_self _ _)
      have hx' : ChildEvent.exit ∉ evs := fun h => hx (List.mem_cons_of_mem _ h)
      rcases List.mem_cons.1 hi with rfl | hi'
      · exact onFlags_foldl_closed hx' true
      · cases ev <;> first | exact absurd rfl hev | exact ih hi' hx' _

/-- A step on the children that keeps every child's flags keeps them. -/
theorem childFlags_updateChild {f : Child → Child} (hf : ∀ c, (f c).flags = c.flags) (a : Adapter) (q pid : Nat) :
    (a.updateChild q f).childFlags pid = a.childFlags pid := by
  simp only [Adapter.childFlags, Adapter.updateChild, List.getElem?_modify, Option.map_eq_map, Option.map_map]
  cases a.children[pid]? with
  | none => rfl
  | some c =>
      simp only [Option.map_some', Function.comp_apply]
      split
      · rw [hf]
      · rfl

theorem childFlags_childDoes (a : Adapter) (pid : Nat) (evs : List ChildEvent) :
    (a.childDoes pid evs).childFlags pid = (a.childFlags pid).map fun f => evs.foldl ChildEvent.onFlags f := by
  simp only [Adapter.childFlags, Adapter.childDoes, Adapter.updateChild, List.getElem?_modify, Option.map_eq_map,
    Option.map_map]
  cases a.children[pid]? with
  | none => rfl
  | some c => simp only [Option.map_some', Function.comp_apply, if_true, Child.flags_foldl]

theorem childFlags_readLine (a : Adapter) (q pid : Nat) : (a.readLine q).2.childFlags pid = a.childFlags pid := by
  unfold Adapter.readLine
  split
  · exact @childFlags_updateChild (fun c => { c with stdout := c.stdout.tail }) (fun _ => rfl) a q pid
  · rfl

theorem processAlive_of_childFlags {a : Adapter} {p : Nat} {b s : Bool} (hp : a.backend.process = some p)
    (h : a.childFlags p = some (b, s)) : a.processAlive = b := by
  rw [Adapter.processAlive, hp]
  unfold Adapter.childFlags at h
  cases hc : a.children[p]? <;> simp_all [Child.flags]

/-- A write to a child whose stdin is closed breaks the pipe. -/
theorem writeLine_closed {a : Adapter} {pid : Nat} {b : Bool} (h : a.childFlags pid = some (b, false)) (v : Json) :
    a.writeLine pid v = .error ⟨.oSError, "[Errno 32] Broken pipe"⟩ := by
  unfold Adapter.childFlags at h
  have hw : (a.children[pid]?).any (·.stdinOpen) = false := by
    cases hc : a.children[pid]? <;> simp_all [Child.flags]
  rw [Adapter.writeLine, hw, if_neg Bool.false_ne_true]

/-- A handshake with a child whose stdin is open, and which closes it while
    `initialize` is pending, leaves the child's flags as those events left
    them: reading a line changes neither, and the `tools/list` write fails. -/
theorem mcpHandshakeStdio_childFlags {a : Adapter} {pid : Nat} {w : World} {b : Bool}
    (hopen : a.childFlags pid = some (b, true)) {x : Bool}
    (hf : w.onInit.foldl ChildEvent.onFlags (b, true) = (x, false)) :
    (mcpHandshakeStdio a pid w).childFlags pid = some (x, false) := by
  have hw : (a.children[pid]?).any (·.stdinOpen) = true := by
    unfold Adapter.childFlags at hopen
    cases hc : a.children[pid]? <;> simp_all [Child.flags]
  have h₁ := @childFlags_updateChild (fun c => { c with stdin := c.stdin ++ [initRequest] }) (fun _ => rfl) a pid pid
  have hread := childFlags_readLine
    ((a.updateChild pid fun c => { c with stdin := c.stdin ++ [initRequest] }).childDoes pid w.onInit) pid pid
  rw [childFlags_childDoes, h₁, hopen, Option.map_some', hf] at hread
  unfold mcpHandshakeStdio
  rw [Adapter.writeLine, if_pos hw]
  dsimp only
  split
  · next a₂ hr =>
      rw [hr] at hread
      rwa [fetchToolsStdio, writeLine_closed (show (a₂.setBackend _).childFlags pid = _ from hread)]
  · next a₂ hr =>
      rwa [hr] at hread

theorem writeLine_backend {a a' : Adapter} {pid : Nat} {v : Json} (h : a.writeLine pid v = .ok a') :
    a'.backend = a.backend := by
  unfold Adapter.writeLine at h
  split at h <;> cases h
  rfl

theorem readLine_backend (a : Adapter) (pid : Nat) : (a.readLine pid).2.backend = a.backend := by
  unfold Adapter.readLine
  split <;> rfl

theorem fetchToolsStdio_restartCount (a : Adapter) (pid : Nat) (evs : List ChildEvent) :
    (fetchToolsStdio a pid evs).backend.restartCount = a.backend.restartCount := by
  unfold fetchToolsStdio
  split
  · rfl
  · next a₁ hw =>
      have hb : ((a₁.childDoes pid evs).readLine pid).2.backend = a.backend :=
        (readLine_backend _ pid).trans (writeLine_backend hw :)
      split
      · next v a₂ hr =>
          rw [hr] at hb
          rcases receiveTools_backend a₂ v with h | h <;> rw [h] <;> exact (congrArg MCPBackend.restartCount hb :)
      · next hr =>
          rw [hr] at hb
          exact (congrArg MCPBackend.restartCount hb :)

/-- The handshake counts no restart. -/
theorem mcpHandshakeStdio_restartCount (a : Adapter) (pid : Nat) (w : World) :
    (mcpHandshakeStdio a pid w).backend.restartCount = a.backend.restartCount := by
  unfold mcpHandshakeStdio
  split
  · rfl
  · next a₁ hw =>
      have hb : ((a₁.childDoes pid w.onInit).readLine pid).2.backend = a.backend :=
        (readLine_backend _ pid).trans (writeLine_backend hw :)
      split <;> rename_i hr <;> rw [hr] at hb
      · rw [fetchToolsStdio_restartCount]
        exact (congrArg MCPBackend.restartCount hb :)
      · exact (congrArg MCPBackend.restartCount hb :)

/-! ## `start()` on such a backend -/

theorem childFlags_spawn (a : Adapter) (now : ℚ) :
    (a.spawn now).childFlags a.children.length = some (true, true) := by
  simp [Adapter.childFlags, Adapter.spawn, Adapter.setBackend, Child.flags]

/-- **TRUE ONCE SPAWNED**: `start()` of a stdio backend that is not running,
    with a command and a `Popen` that succeeds, reports `True` and counts
    one more restart, whatever the handshake finds; when the child closes
    its stdin while `initialize` is pending, the backend holds it as those
    events left it. -/
theorem startStdio_spawned {a : Adapter} (hp : a.processAlive = false) {c : String} {cs : List String}
    (hc : a.backend.config.commandList = .ok (some (c :: cs))) (now : ℚ) {w : World}
    (hw : w.spawned = true) {x : Bool} (hf : w.onInit.foldl ChildEvent.onFlags (true, true) = (x, false)) :
    (startStdio a now w).1 = .ok true ∧
      (∃ p, (startStdio a now w).2.backend.process = some p ∧ (startStdio a now w).2.childFlags p = some (x, false)) ∧
      (startStdio a now w).2.backend.restartCount = a.backend.restartCount + 1 ∧
      (startStdio a now w).2.backend.config = a.backend.config := by
  have hinner := inner_mcpHandshakeStdio (a.spawn now) a.children.length w
  simp only [startStdio, hp, hc, hw, if_true, Bool.false_eq_true, if_false, true_and]
  exact ⟨⟨_, hinner.process, mcpHandshakeStdio_childFlags (childFlags_spawn a now) hf⟩,
    mcpHandshakeStdio_restartCount _ _ w, hinner.config⟩

/-! ## A request to `/mcp/{name}` -/

section Request

variable (py : PyLib) {a : Adapter} {now : ℚ} {w : World}

theorem start_stdio (hs : a.isHttp = false) : start py a now w = startStdio a now w := by
  simp [start, hs]

/-- `send_request` of anything but `tools/list` to a stdio backend is
    `_send_stdio_request` after the stamp. -/
theorem callBackend_stdio (hs : a.isHttp = false) (req : Json) {m : Json}
    (hm : pyGet req "method" .null = .ok m) (hl : m.isStr "tools/list" = false) (r : HttpReply) :
    callBackend py a now req w r = sendStdioRequest py (a.stamp now) now req w := by
  rw [callBackend, sendRequest_of_method py hm hl, hs]
  rfl

/-- `_send_stdio_request` whose test at the top leaves a backend holding a
    child with its stdin closed: the write breaks the pipe. -/
theorem sendStdioRequest_closed {b : Adapter} {p : Nat} {x : Bool} (req : Json)
    (h : (if a.isRunning then (Except.ok true, a) else start py a (now + w.spawnDelay) w) = (.ok true, b))
    (hp : b.backend.process = some p) (hx : b.childFlags p = some (x, false)) :
    sendStdioRequest py a now req w = (.ok (rpcError (-32000) "[Errno 32] Broken pipe" (requestId req)), b) := by
  unfold sendStdioRequest
  rw [h]
  simp only [hp, writeLine_closed hx]

/-- A request to `/mcp/{name}` on a stdio backend that is not running,
    whose child closes its stdin while `initialize` is pending:
    `_handle_mcp`'s `start()` spawns it and reports `True`, and the request
    goes to `_send_stdio_request` on the started backend, stamped. -/
theorem handleMcp_spawned (g : Gateway) (env : Env) {name : String} (hn : name ≠ "") {i : Nat}
    {n : String} (hg : g.get name = some (i, n, a)) (hs : a.isHttp = false) (hp : a.processAlive = false)
    {c : String} {cs : List String} (hc : a.backend.config.commandList = .ok (some (c :: cs)))
    (hw : (env.world name).spawned = true) {x : Bool}
    (hf : (env.world name).onInit.foldl ChildEvent.onFlags (true, true) = (x, false)) {body m : Json}
    (hm : pyGet body "method" .null = .ok m) (hl : m.isStr "tools/list" = false) :
    ∃ (a₁ : Adapter) (p₁ : Nat), a₁.backend.process = some p₁ ∧ a₁.childFlags p₁ = some (x, false) ∧
      a₁.backend.restartCount = a.backend.restartCount + 1 ∧ a₁.backend.config = a.backend.config ∧
      handleMcp py g name (.ok body) env =
        ok200 ((sendStdioRequest py (a₁.stamp (env.sendAt name)) (env.sendAt name) body (env.world name)).1,
          g.setAt i (sendStdioRequest py (a₁.stamp (env.sendAt name)) (env.sendAt name) body (env.world name)).2) := by
  obtain ⟨hok₁, ⟨p₁, hproc₁, hfl₁⟩, hrc₁, hcfg₁⟩ := startStdio_spawned hp hc (env.startAt name) hw hf
  have hstart := @start_stdio py a (env.startAt name) (env.world name) hs
  rcases hst : startStdio a (env.startAt name) (env.world name) with ⟨r₁, a₁⟩
  rw [hst] at hok₁ hproc₁ hfl₁ hrc₁ hcfg₁ hstart
  have hs₁ : a₁.isHttp = false := by rw [Adapter.isHttp, hcfg₁]; exact hs
  refine ⟨a₁, p₁, hproc₁, hfl₁, hrc₁, hcfg₁, ?_⟩
  rw [handleMcp_started py g env hn hg (by rw [hstart]; exact hok₁), hstart, callBackend_stdio py hs₁ body hm hl]

/-- **RESPAWN TWICE**: a request to `/mcp/{name}` on a stdio backend that
    is not running, whose children are reaped while `initialize` is
    pending, is answered 200 with the `-32000` error `[Errno 32] Broken
    pipe` under the request's id.  `_handle_mcp`'s `start()` spawns one
    child and reports `True`; `send_request` finds the backend not running
    and spawns a second.  The backend is left not running, with the same
    configuration and two more restarts, so the next such request does the
    same. -/
theorem handleMcp_exiting_child (g : Gateway) (env : Env) {name : String} (hn : name ≠ "") {i : Nat}
    {n : String} (hg : g.get name = some (i, n, a)) (hs : a.isHttp = false) (hp : a.processAlive = false)
    {c : String} {cs : List String} (hc : a.backend.config.commandList = .ok (some (c :: cs)))
    (hw : (env.world name).spawned = true) (hx : ChildEvent.exit ∈ (env.world name).onInit) {body m : Json}
    (hm : pyGet body "method" .null = .ok m) (hl : m.isStr "tools/list" = false) :
    ∃ a', handleMcp py g name (.ok body) env =
        (.ok ⟨200, rpcError (-32000) "[Errno 32] Broken pipe" (requestId body)⟩, g.setAt i a') ∧
      a'.backend.restartCount = a.backend.restartCount + 2 ∧ a'.isHttp = false ∧
      a'.processAlive = false ∧ a'.backend.config = a.backend.config := by
  obtain ⟨a₁, p₁, hproc₁, hfl₁, hrc₁, hcfg₁, heq⟩ :=
    handleMcp_spawned py g env hn hg hs hp hc hw (onFlags_foldl_exit hx _) hm hl
  -- `send_request` finds the first child reaped and spawns a second, at its own reading
  let a₂ := a₁.stamp (env.sendAt name)
  let t₂ := env.sendAt name + (env.world name).spawnDelay
  have hs₂ : a₂.isHttp = false := by rw [stamp_isHttp, Adapter.isHttp, hcfg₁]; exact hs
  have hp₂ : a₂.processAlive = false := processAlive_of_childFlags hproc₁ hfl₁
  have hc₂ : a₂.backend.config.commandList = .ok (some (c :: cs)) := by
    simpa only [a₂, stamp_backend, hcfg₁] using hc
  obtain ⟨hok₃, ⟨p₃, hproc₃, hfl₃⟩, hrc₃, hcfg₃⟩ := startStdio_spawned hp₂ hc₂ t₂ hw (onFlags_foldl_exit hx _)
  have hready : (if a₂.isRunning then (Except.ok true, a₂) else start py a₂ t₂ (env.world name)) =
      (.ok true, (startStdio a₂ t₂ (env.world name)).2) := by
    rw [Adapter.isRunning, hs₂, if_neg Bool.false_ne_true, hp₂, if_neg Bool.false_ne_true, start_stdio py hs₂, ← hok₃]
  refine ⟨_, ?_, ?_, ?_, processAlive_of_childFlags hproc₃ hfl₃, ?_⟩
  · rw [heq, sendStdioRequest_closed py body hready hproc₃ hfl₃]
    rfl
  · simp only [hrc₃, a₂, stamp_backend, hrc₁]
  · simpa only [Adapter.isHttp, hcfg₃, a₂, stamp_backend, hcfg₁] using hs
  · simp only [hcfg₃, a₂, stamp_backend, hcfg₁]

/-- **RESPAWN ONCE**: when the child only closes its stdin while
    `initialize` is pending, and `poll()` still reports it alive, the same
    request spawns one child: `send_request` finds the backend running and
    writes to that child, and the write breaks the pipe.  The backend is
    left running, with one more restart. -/
theorem handleMcp_hungup_child (g : Gateway) (env : Env) {name : String} (hn : name ≠ "") {i : Nat}
    {n : String} (hg : g.get name = some (i, n, a)) (hs : a.isHttp = false) (hp : a.processAlive = false)
    {c : String} {cs : List String} (hc : a.backend.config.commandList = .ok (some (c :: cs)))
    (hw : (env.world name).spawned = true) (hi : ChildEvent.closeStdin ∈ (env.world name).onInit)
    (hx : ChildEvent.exit ∉ (env.world name).onInit) {body m : Json}
    (hm : pyGet body "method" .null = .ok m) (hl : m.isStr "tools/list" = false) :
    ∃ a', handleMcp py g name (.ok body) env =
        (.ok ⟨200, rpcError (-32000) "[Errno 32] Broken pipe" (requestId body)⟩, g.setAt i a') ∧
      a'.backend.restartCount = a.backend.restartCount + 1 ∧ a'.processAlive = true := by
  obtain ⟨a₁, p₁, hproc₁, hfl₁, hrc₁, hcfg₁, heq⟩ :=
    handleMcp_spawned py g env hn hg hs hp hc hw (onFlags_foldl_hangUp hi hx _) hm hl
  -- `poll()` still reports the child alive, so `send_request` writes to it
  have hp₁ : (a₁.stamp (env.sendAt name)).processAlive = true := processAlive_of_childFlags hproc₁ hfl₁
  have hready : (if (a₁.stamp (env.sendAt name)).isRunning then (Except.ok true, a₁.stamp (env.sendAt name))
      else start py (a₁.stamp (env.sendAt name)) (env.sendAt name + (env.world name).spawnDelay) (env.world name)) =
        (.ok true, a₁.stamp (env.sendAt name)) := by
    rw [Adapter.isRunning, stamp_isHttp, Adapter.isHttp, hcfg₁, ← Adapter.isHttp, hs, if_neg Bool.false_ne_true, hp₁,
      if_pos rfl]
  refine ⟨_, ?_, by simp only [stamp_backend, hrc₁], hp₁⟩
  rw [heq, sendStdioRequest_closed py body hready hproc₁ hfl₁]
  rfl

/-- **NO BACKOFF**: a run of requests to `/mcp/{name}` on such a backend,
    each meeting children that are reaped while `initialize` is pending, adds
    exactly two to `restart_count` per request, and the backend is never
    left running. -/
theorem run_exiting_child {name : String} (hn : name ≠ "") {c : String} {cs : List String}
    (reqs : List (Json × Env))
    (hreqs : ∀ r ∈ reqs, (r.2.world name).spawned = true ∧ ChildEvent.exit ∈ (r.2.world name).onInit ∧
      ∃ m, pyGet r.1 "method" .null = .ok m ∧ m.isStr "tools/list" = false)
    {g : Gateway} {i : Nat} {n : String} (hg : g.get name = some (i, n, a)) (hs : a.isHttp = false)
    (hp : a.processAlive = false) (hc : a.backend.config.commandList = .ok (some (c :: cs))) :
    ∃ a', (g.run py (reqs.map fun r => .direct name (.ok r.1) r.2)).get name = some (i, n, a') ∧
      a'.backend.restartCount = a.backend.restartCount + 2 * reqs.length ∧ a'.processAlive = false := by
  induction reqs generalizing g a with
  | nil => exact ⟨a, hg, rfl, hp⟩
  | cons r reqs ih =>
      obtain ⟨hw, hx, m, hm, hl⟩ := hreqs r (List.mem_cons_self r reqs)
      obtain ⟨a₁, heq, hrc₁, hs₁, hp₁, hcfg₁⟩ := handleMcp_exiting_child py g r.2 hn hg hs hp hc hw hx hm hl
      obtain ⟨a', hg', hrc', hp'⟩ := ih (fun r' h => hreqs r' (List.mem_cons_of_mem r h))
        (Gateway.get_setAt hg a₁) hs₁ hp₁ (hcfg₁ ▸ hc)
      have hstep : g.step py (.direct name (.ok r.1) r.2) = g.setAt i a₁ := by rw [Gateway.step, heq]
      refine ⟨a', ?_, ?_, hp'⟩
      · show ((g.step py (.direct name (.ok r.1) r.2)).run py _).get name = _
        rwa [hstep]
      · rw [hrc', hrc₁, List.length_cons]
        omega

end Request

/-- A world where `Popen` succeeds and the child exits, and is reaped, at
    once. -/
def exitWorld : World := { McpStdio.quietWorld with onInit := [.exit] }

/-- Requests at time `t` meeting `exitWorld`. -/
def exitEnv (t : ℚ) : Env := .at t (fun _ => exitWorld) fun _ => .failed ""

/-- A gateway with the stdio backend `echo` only. -/
def echoGateway : Gateway := ⟨true, [("echo", McpStdio.echoAdapter)]⟩

theorem handleMcp_exiting_child_echo :
    echoGateway.get "echo" = some (0, "echo", McpStdio.echoAdapter) ∧
      McpStdio.echoAdapter.backend.config.commandList = .ok (some ["server"]) ∧
      ∃ a', handleMcp PyLib.ascii echoGateway "echo" (.ok (McpStdio.callRequest 1)) (exitEnv 1) =
          (.ok ⟨200, rpcError (-32000) "[Errno 32] Broken pipe" (requestId (McpStdio.callRequest 1))⟩,
            echoGateway.setAt 0 a') ∧
        a'.backend.restartCount = McpStdio.echoAdapter.backend.restartCount + 2 ∧ a'.isHttp = false ∧
        a'.processAlive = false ∧ a'.backend.config = McpStdio.echoAdapter.backend.config :=
  ⟨rfl, rfl, @handleMcp_exiting_child PyLib.ascii McpStdio.echoAdapter echoGateway (exitEnv 1) "echo" (by decide)
    0 "echo" rfl rfl rfl "server" [] rfl rfl (List.mem_singleton_self _) (McpStdio.callRequest 1) (.str "tools/call")
    rfl rfl⟩

/-- A world where `Popen` succeeds and the child closes its stdin at once,
    still running. -/
def hangUpWorld : World := { McpStdio.quietWorld with onInit := [.closeStdin] }

theorem handleMcp_hungup_child_echo :
    echoGateway.get "echo" = some (0, "echo", McpStdio.echoAdapter) ∧ ChildEvent.exit ∉ hangUpWorld.onInit ∧
      ∃ a', handleMcp PyLib.ascii echoGateway "echo" (.ok (McpStdio.callRequest 1))
          (.at 1 (fun _ => hangUpWorld) fun _ => .failed "") =
          (.ok ⟨200, rpcError (-32000) "[Errno 32] Broken pipe" (requestId (McpStdio.callRequest 1))⟩,
            echoGateway.setAt 0 a') ∧
        a'.backend.restartCount = McpStdio.echoAdapter.backend.restartCount + 1 ∧ a'.processAlive = true :=
  ⟨rfl, by simp [hangUpWorld], @handleMcp_hungup_child PyLib.ascii McpStdio.echoAdapter echoGateway
    (.at 1 (fun _ => hangUpWorld) fun _ => .failed "") "echo" (by decide) 0 "echo" rfl rfl rfl "server" [] rfl rfl
    (List.mem_singleton_self _) (by simp [hangUpWorld, Env.at]) (McpStdio.callRequest 1) (.str "tools/call") rfl rfl⟩

/-- Two requests to `echo`. -/
def twoExits : List (Json × Env) := [(McpStdio.callRequest 1, exitEnv 1), (McpStdio.callRequest 2, exitEnv 2)]

theorem run_exiting_child_echo :
    (∀ r ∈ twoExits, (r.2.world "echo").spawned = true ∧ ChildEvent.exit ∈ (r.2.world "echo").onInit ∧
      ∃ m, pyGet r.1 "method" .null = .ok m ∧ m.isStr "tools/list" = false) ∧
      ∃ a', (echoGateway.run PyLib.ascii (twoExits.map fun r => .direct "echo" (.ok r.1) r.2)).get "echo" =
          some (0, "echo", a') ∧
        a'.backend.restartCount = McpStdio.echoAdapter.backend.restartCount + 2 * twoExits.length ∧
        a'.processAlive = false := by
  have hreqs : ∀ r ∈ twoExits, (r.2.world "echo").spawned = true ∧ ChildEvent.exit ∈ (r.2.world "echo").onInit ∧
      ∃ m, pyGet r.1 "method" .null = .ok m ∧ m.isStr "tools/list" = false := by
    intro r hr
    simp only [twoExits, List.mem_cons, List.mem_singleton, List.not_mem_nil, or_false] at hr
    rcases hr with rfl | rfl <;> exact ⟨rfl, List.mem_singleton_self _, _, rfl, rfl⟩
  exact ⟨hreqs, @run_exiting_child PyLib.ascii McpStdio.echoAdapter "echo" (by decide) "server" [] twoExits hreqs
    echoGateway 0 "echo" rfl rfl rfl rfl⟩

end McpRespawn
