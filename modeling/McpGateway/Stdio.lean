import McpGateway.Inner

/-! # The stdio transport: one live child, and whose reply is whose

    Facts about the child processes of an adapter.

    * `oneChild_reachable`: in every reachable state every live child is the
      one held in `process`, so at most one is alive.  A step either is
      inner (it only lets children die and keeps `process`), or is a spawn,
      which happens only when the held child is dead, hence when no child is
      alive at all; stop kills the held child before dropping it.
    * `stdio_reply_misattributed`: the adapter returns whatever line is next
      on the child's stdout.  A reply that arrives after its request timed
      out is returned to the next request, and a notification written before
      the `initialize` reply shifts the handshake by one line, so the
      `initialize` reply is cached as the tool list.
    * `start_raises_unclosed_quote`: `command_list` runs outside the `try`
      of `_start_stdio`, so a command `shlex.split` rejects makes `start()`
      (and `send_request()` on a stopped backend) raise.

    With the held child the only live one, `stop()` leaves none alive
    (`stop_quiet`): an HTTP adapter never holds a process, and a stdio one
    kills the child it holds. -/

namespace McpStdio

open McpJson McpConfig McpBackend McpInner

/-! ## Live children -/

/-- Every live child is the one held in `process`. -/
def OneChild (a : Adapter) : Prop := ∀ pid, Alive a pid → a.backend.process = some pid

/-- A fresh adapter has no child at all. -/
theorem oneChild_init (config : BackendConfig) (t₀ : ℚ) : OneChild (Adapter.init config t₀) :=
  fun pid hp => by simp [Alive, Adapter.init] at hp

theorem oneChild_of_inner {a a' : Adapter} (h : Inner a a') (ha : OneChild a) : OneChild a' :=
  fun pid hp => h.process.trans (ha pid (h.alive hp))

/-- With a single live child at most, a dead held child means none is alive. -/
theorem not_alive_of_not_processAlive {a : Adapter} (ha : OneChild a)
    (hp : ¬a.processAlive = true) (q : Nat) : ¬Alive a q := by
  intro hq
  unfold Adapter.processAlive at hp
  rw [ha q hq] at hp
  exact hp hq

theorem alive_spawn {a : Adapter} {now : ℚ} {q : Nat} (hq : Alive (a.spawn now) q) :
    Alive a q ∨ q = a.children.length := by
  unfold Alive Adapter.spawn at hq
  simp only [Adapter.setBackend, List.getElem?_append] at hq
  split at hq
  · exact .inl hq
  · rename_i hlt
    by_cases he : q - a.children.length = 0
    · right; omega
    · obtain ⟨k, hk⟩ := Nat.exists_eq_succ_of_ne_zero he
      simp [hk] at hq

theorem alive_kill {a : Adapter} {pid q : Nat}
    (hq : Alive (a.updateChild pid (Child.apply · .exit)) q) : Alive a q ∧ q ≠ pid := by
  unfold Alive Adapter.updateChild at hq
  rw [List.getElem?_modify] at hq
  cases hc : a.children[q]? with
  | none => simp [hc] at hq
  | some c =>
      by_cases hpq : pid = q
      · simp [hc, hpq, Child.apply] at hq
      · simp only [hc, hpq, Option.map_eq_map, Option.map_some', Option.any_some, if_false] at hq
        exact ⟨by simp [Alive, hc, hq], fun h => hpq h.symm⟩

theorem oneChild_spawn {a : Adapter} (ha : OneChild a) {now : ℚ} (hp : a.processAlive = false) :
    OneChild (a.spawn now) := fun q hq => by
  rcases alive_spawn hq with h | h
  · exact absurd h (not_alive_of_not_processAlive ha (by simp [hp]) q)
  · exact congrArg some h.symm

theorem oneChild_stop {a : Adapter} (ha : OneChild a) : OneChild (stop a) := by
  unfold stop
  split
  · exact oneChild_of_inner (.record a rfl rfl rfl rfl) ha
  · split
    · rename_i pid hpid
      intro q hq
      obtain ⟨hq, hne⟩ := alive_kill hq
      exact absurd (Option.some.inj ((ha q hq).symm.trans hpid)) hne
    · exact ha

/-- Whatever moves an adapter makes, every live child stays the held one. -/
theorem oneChild_of_moves {a a' : Adapter} (h : Moves a a') (ha : OneChild a) : OneChild a' := by
  induction h with
  | inner h => exact oneChild_of_inner h ha
  | trans _ _ ih₁ ih₂ => exact ih₂ (ih₁ ha)
  | spawn a now hp => exact oneChild_spawn ha hp
  | stop a => exact oneChild_stop ha
  | stamp | post | settle => exact ha

/-- **ONE CHILD**: from a fresh adapter, whatever starts, stops, requests,
    replies and child exits happen, every live child is the one held in
    `process`; in particular at most one child is alive. -/
theorem oneChild_reachable {py : PyLib} {config : BackendConfig} {t₀ : ℚ} {a : Adapter}
    (h : Reachable py (Adapter.init config t₀) a) :
    (∀ pid, Alive a pid → a.backend.process = some pid) ∧
      ∀ p q, Alive a p → Alive a q → p = q := by
  have hinv : OneChild a := oneChild_of_moves (moves_of_reachable h) (oneChild_init config t₀)
  exact ⟨hinv, fun p q hp hq => Option.some.inj ((hinv p hp).symm.trans (hinv q hq))⟩

/-! ## Stopping leaves no child -/

/-- An HTTP adapter holds no process: only a stdio backend spawns. -/
def HttpNoProcess (a : Adapter) : Prop := a.isHttp = true → a.backend.process = none

theorem stop_process_http {a : Adapter} (hh : a.isHttp = true) :
    (stop a).backend.process = a.backend.process := by
  simp [stop, hh, Adapter.setBackend]

theorem httpNoProcess_of_moves {a a' : Adapter} (h : Moves a a') (ha : HttpNoProcess a) :
    HttpNoProcess a' := by
  induction h with
  | inner h =>
      intro hh
      rw [h.process]
      exact ha (by rwa [Adapter.isHttp, ← h.config])
  | trans _ _ ih₁ ih₂ => exact ih₂ (ih₁ ha)
  | spawn a now _ hs => intro hh; exact absurd (hs.symm.trans hh) Bool.false_ne_true
  | stop a =>
      intro hh
      rw [Adapter.isHttp, stop_config] at hh
      rw [stop_process_http hh]
      exact ha hh
  | stamp | post | settle => exact ha

/-- `stop()` leaves no process held, when an HTTP adapter held none. -/
theorem stop_process_none {a : Adapter} (hh : HttpNoProcess a) : (stop a).backend.process = none := by
  unfold stop
  split
  · exact hh ‹_›
  · split
    · rfl
    · assumption

/-- After `stop()` an adapter that holds no process when it is HTTP, and
    whose live children are all held, is not running and has no live
    child. -/
theorem stop_quiet {a : Adapter} (ha : OneChild a) (hh : HttpNoProcess a) :
    (stop a).isRunning = false ∧ ∀ pid, ¬Alive (stop a) pid := by
  have hp := stop_process_none hh
  refine ⟨?_, fun pid hpid => by simpa [hp] using oneChild_stop ha pid hpid⟩
  unfold Adapter.isRunning
  split
  · next hs =>
      rw [Adapter.isHttp, stop_config] at hs
      simp [stop, Adapter.isHttp, hs, Adapter.setBackend]
  · simp [Adapter.processAlive, hp]

/-! ## Whose reply is whose -/

/-- A fresh adapter for the stdio backend `echo`. -/
def echoAdapter : Adapter := Adapter.init (BackendConfig.ofCommand "echo" "server") 0

/-- A `tools/call` request with id `k`. -/
def callRequest (k : Int) : Json :=
  .obj [("jsonrpc", .str "2.0"), ("method", .str "tools/call"), ("id", .int k)]

/-- The backend's reply to the request with id `k`. -/
def replyTo (k : Int) : Json := rpcResult (.obj []) (.int k)

/-- A world where `Popen` succeeds and nothing else happens. -/
def quietWorld : World := ⟨true, [], [], [], .failed "", .failed "", .failed "", 0, by decide⟩

/-- The child answers `initialize` and `tools/list` at once. -/
def promptWorld : World :=
  { quietWorld with
    onInit := [.write (.json (replyTo 0))]
    onTools := [.write (.json (rpcResult (.obj [("tools", .arr [])]) (.int 1)))] }

/-- The child sends a notification before its `initialize` reply and answers
    `tools/list` only later. -/
def noticeFirstWorld : World :=
  { quietWorld with
    onInit := [.write (.json (.obj [("jsonrpc", .str "2.0"), ("method", .str "notifications/message")])),
      .write (.json (replyTo 0))] }

/-- A stdio backend that answers every request once, with its id, in order:
    the reply to request 2 comes after that request timed out, and before
    request 3 is sent. -/
def lateReplyRun : List Op :=
  [.start 0 promptWorld, .send 1 (callRequest 2) quietWorld, .child 0 (.write (.json (replyTo 2))),
    .send 2 (callRequest 3) quietWorld]

/-- Request 3 is answered with the reply to request 2; and a notification
    ahead of the `initialize` reply makes the `initialize` reply the cached
    tool list. -/
theorem stdio_reply_misattributed :
    (run PyLib.ascii echoAdapter lateReplyRun).2.getLast?
        = some (.answered (callRequest 3) (.ok (replyTo 2))) ∧
      (run PyLib.ascii echoAdapter [.start 0 noticeFirstWorld]).1.backend.toolsCache
        = some (replyTo 0) :=
  ⟨rfl, rfl⟩

theorem oneChild_reachable_restarted :
    Reachable PyLib.ascii echoAdapter
        (run PyLib.ascii echoAdapter (lateReplyRun ++ [.stop, .start 3 promptWorld])).1 ∧
      ((∀ pid, Alive (run PyLib.ascii echoAdapter (lateReplyRun ++ [.stop, .start 3 promptWorld])).1 pid →
          (run PyLib.ascii echoAdapter (lateReplyRun ++ [.stop, .start 3 promptWorld])).1.backend.process
            = some pid) ∧
        ∀ p q, Alive (run PyLib.ascii echoAdapter (lateReplyRun ++ [.stop, .start 3 promptWorld])).1 p →
          Alive (run PyLib.ascii echoAdapter (lateReplyRun ++ [.stop, .start 3 promptWorld])).1 q → p = q) :=
  ⟨run_reachable _ _ _ _ .init, oneChild_reachable (run_reachable _ _ _ _ .init)⟩

/-! ## Commands `shlex` rejects -/

/-- `start()` raises on a fresh stdio backend whose command has an unclosed
    quote, and so does `send_request()`. -/
theorem start_raises_unclosed_quote :
    (start PyLib.ascii (Adapter.init (BackendConfig.ofCommand "broken" "npx \"@scope/server") 0) 0
        quietWorld).1 = .error ⟨.valueError, "No closing quotation"⟩ ∧
      (sendRequest PyLib.ascii (Adapter.init (BackendConfig.ofCommand "broken" "npx \"@scope/server") 0)
        0 (callRequest 1) quietWorld).1 = .done (.error ⟨.valueError, "No closing quotation"⟩) :=
  ⟨rfl, rfl⟩

end McpStdio
