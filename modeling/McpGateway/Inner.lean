import McpGateway.Backend

/-! # What the steps of an adapter can do

    The operations of `MCPBackend` are built from a few inner steps: a child
    acts or a line is read from it, a field of the record is set, a
    `tools/list` reply arrives.  `Inner a a'` says that `a'` comes from `a` by
    such steps.  None of them brings a child to life or touches `process`,
    `last_used`, the configuration or the POSTs in flight, and the cache
    changes only with a received reply.  `Moves` adds what the operations do
    themselves: spawn, stop, stamp `last_used`, post, and take a POST off
    when its reply arrives.

    The composite functions (`fetchToolsStdio`, `mcpHandshakeStdio`,
    `initHttpSession`, `completeHttpRequest`) are shown `Inner` once, here,
    and every step a `Moves` (`moves_step`); each invariant of the later
    modules reads what it needs off these two relations by one induction. -/

namespace McpInner

open McpJson McpConfig McpBackend

/-- The child `pid` exists and `poll()` returns `None`. -/
def Alive (a : Adapter) (pid : Nat) : Prop := (a.children[pid]?).any (·.alive) = true

/-- `a'` comes from `a` by inner steps. -/
inductive Inner : Adapter → Adapter → Prop where
  | refl (a : Adapter) : Inner a a
  | trans {a b c : Adapter} : Inner a b → Inner b c → Inner a c
  | child (a : Adapter) (pid : Nat) {f : Child → Child}
      (hf : ∀ c, (f c).alive = true → c.alive = true) : Inner a (a.updateChild pid f)
  | record (a : Adapter) {f : MCPBackend → MCPBackend}
      (hp : (f a.backend).process = a.backend.process)
      (hc : (f a.backend).toolsCache = a.backend.toolsCache)
      (hl : (f a.backend).lastUsed = a.backend.lastUsed)
      (hg : (f a.backend).config = a.backend.config) : Inner a (a.setBackend f)
  | tools (a : Adapter) (v : Json) : Inner a (a.receiveTools v)

theorem receiveTools_backend (a : Adapter) (v : Json) :
    (a.receiveTools v).backend = a.backend ∨
      (a.receiveTools v).backend = { a.backend with toolsCache := some v } := by
  unfold Adapter.receiveTools
  split
  · exact .inr rfl
  · exact .inl rfl

theorem receiveTools_toolsCache (a : Adapter) (v : Json) :
    (a.receiveTools v).backend.toolsCache = if hasResult v then some v else a.backend.toolsCache := by
  unfold Adapter.receiveTools; split <;> rfl

@[simp] theorem receiveTools_toolsLog (a : Adapter) (v : Json) :
    (a.receiveTools v).toolsLog = a.toolsLog ++ [v] := by
  unfold Adapter.receiveTools; split <;> rfl

@[simp] theorem receiveTools_children (a : Adapter) (v : Json) :
    (a.receiveTools v).children = a.children := by
  unfold Adapter.receiveTools; split <;> rfl

@[simp] theorem receiveTools_inflight (a : Adapter) (v : Json) :
    (a.receiveTools v).inflight = a.inflight := by
  unfold Adapter.receiveTools; split <;> rfl

/-! ## What `Inner` keeps -/

namespace Inner

variable {a a' : Adapter}

theorem process (h : Inner a a') : a'.backend.process = a.backend.process := by
  induction h with
  | refl => rfl
  | trans _ _ ih₁ ih₂ => exact ih₂.trans ih₁
  | child => rfl
  | record _ hp => exact hp
  | tools a v => rcases receiveTools_backend a v with hb | hb <;> rw [hb]

theorem lastUsed (h : Inner a a') : a'.backend.lastUsed = a.backend.lastUsed := by
  induction h with
  | refl => rfl
  | trans _ _ ih₁ ih₂ => exact ih₂.trans ih₁
  | child => rfl
  | record _ _ _ hl => exact hl
  | tools a v => rcases receiveTools_backend a v with hb | hb <;> rw [hb]

theorem config (h : Inner a a') : a'.backend.config = a.backend.config := by
  induction h with
  | refl => rfl
  | trans _ _ ih₁ ih₂ => exact ih₂.trans ih₁
  | child => rfl
  | record _ _ _ _ hg => exact hg
  | tools a v => rcases receiveTools_backend a v with hb | hb <;> rw [hb]

theorem inflight (h : Inner a a') : a'.inflight = a.inflight := by
  induction h with
  | refl => rfl
  | trans _ _ ih₁ ih₂ => exact ih₂.trans ih₁
  | child => rfl
  | record => rfl
  | tools => exact receiveTools_inflight _ _

theorem alive (h : Inner a a') {pid : Nat} (hp : Alive a' pid) : Alive a pid := by
  induction h with
  | refl => exact hp
  | trans _ _ ih₁ ih₂ => exact ih₁ (ih₂ hp)
  | record => exact hp
  | tools a v => simpa [Alive] using hp
  | child a q hf =>
      simp only [Alive, Adapter.updateChild, List.getElem?_modify] at hp ⊢
      cases hc : a.children[pid]? with
      | none => simp [hc] at hp
      | some c =>
          simp only [hc, Option.map_eq_map, Option.map_some', Option.any_some] at hp ⊢
          split at hp
          · exact hf c hp
          · exact hp

end Inner

/-! ## The composite functions are inner -/

theorem Child.apply_alive (c : Child) (ev : ChildEvent) (h : (c.apply ev).alive = true) :
    c.alive = true := by
  cases ev with
  | write l => simp only [Child.apply] at h; split at h <;> exact h
  | closeStdin | closeStdout => exact h
  | exit => simp [Child.apply] at h

theorem Child.foldl_alive (evs : List ChildEvent) :
    ∀ c : Child, (evs.foldl Child.apply c).alive = true → c.alive = true := by
  induction evs with
  | nil => exact fun _ h => h
  | cons ev evs ih => exact fun c h => Child.apply_alive c ev (ih _ h)

theorem inner_childDoes (a : Adapter) (pid : Nat) (evs : List ChildEvent) :
    Inner a (a.childDoes pid evs) :=
  .child a pid (Child.foldl_alive evs)

theorem inner_writeLine {a a' : Adapter} {pid : Nat} {v : Json}
    (h : a.writeLine pid v = .ok a') : Inner a a' := by
  unfold Adapter.writeLine at h
  split at h
  · cases h; exact .child a pid fun _ hc => hc
  · cases h

theorem inner_readLine (a : Adapter) (pid : Nat) : Inner a (a.readLine pid).2 := by
  unfold Adapter.readLine
  split
  · exact .child a pid fun _ hc => hc
  · exact .refl a

/-- The child acts, then one line is read. -/
theorem inner_exchange {a a' : Adapter} {pid : Nat} {evs : List ChildEvent} {o : Option Line}
    (h : (a.childDoes pid evs).readLine pid = (o, a')) : Inner a a' := by
  have hs := (inner_childDoes a pid evs).trans (inner_readLine _ pid)
  rwa [h] at hs

theorem inner_fetchToolsStdio (a : Adapter) (pid : Nat) (evs : List ChildEvent) :
    Inner a (fetchToolsStdio a pid evs) := by
  unfold fetchToolsStdio
  split
  · exact .refl a
  · rename_i a₁ h₁
    split
    · rename_i v a₂ h₂
      exact (inner_writeLine h₁).trans ((inner_exchange h₂).trans (.tools a₂ v))
    · rename_i a₂ _ h₂
      exact (inner_writeLine h₁).trans (inner_exchange h₂)

theorem inner_mcpHandshakeStdio (a : Adapter) (pid : Nat) (w : World) :
    Inner a (mcpHandshakeStdio a pid w) := by
  unfold mcpHandshakeStdio
  split
  · exact .refl a
  · rename_i a₁ h₁
    split
    · rename_i a₂ h₂
      exact (inner_writeLine h₁).trans ((inner_exchange h₂).trans
        ((Inner.record a₂ rfl rfl rfl rfl).trans (inner_fetchToolsStdio _ pid w.onTools)))
    · rename_i a₂ h₂
      exact (inner_writeLine h₁).trans (inner_exchange h₂)

theorem inner_refreshSession (a : Adapter) (headers : List (String × String)) :
    Inner a (a.refreshSession headers) := by
  unfold Adapter.refreshSession
  split
  · exact .record a rfl rfl rfl rfl
  · exact .refl a

theorem inner_fetchToolsHttp (a : Adapter) (r : HttpReply) : Inner a (fetchToolsHttp a r) := by
  unfold fetchToolsHttp
  split
  · exact .tools a _
  · exact .refl a

theorem inner_sseInitialize (a : Adapter) (w : World) : Inner a (sseInitialize a w).2 := by
  unfold sseInitialize
  split <;> dsimp only
  · exact (inner_fetchToolsHttp _ _).trans (Inner.record _ rfl rfl rfl rfl)
  · exact .refl a

theorem inner_initSseSession (py : PyLib) (a : Adapter) (w : World) :
    Inner a (initSseSession py a w).2 := by
  unfold initSseSession
  dsimp only
  repeat' split
  all_goals first
    | exact .refl a
    | exact inner_sseInitialize a w
    | exact (Inner.record _ rfl rfl rfl rfl).trans (inner_sseInitialize _ w)

theorem inner_initStreamableHttp (a : Adapter) (w : World) :
    Inner a (initStreamableHttp a w).2 := by
  unfold initStreamableHttp
  dsimp only
  split <;> dsimp only
  · exact (inner_refreshSession _ _).trans ((inner_fetchToolsHttp _ _).trans
      (Inner.record _ rfl rfl rfl rfl))
  · exact Inner.record _ rfl rfl rfl rfl

theorem inner_initHttpSession (py : PyLib) (a : Adapter) (w : World) :
    Inner a (initHttpSession py a w).2 := by
  unfold initHttpSession
  split
  · exact inner_initSseSession py a w
  · exact inner_initStreamableHttp a w

/-- `start()` on an HTTP adapter is inner. -/
theorem inner_start_http (py : PyLib) {a : Adapter} (hh : a.isHttp = true) (now : ℚ) (w : World) :
    Inner a (start py a now w).2 := by
  unfold start
  rw [if_pos hh]
  split
  · exact .refl a
  · exact inner_initHttpSession py a w

theorem inner_completeHttpRequest (py : PyLib) (a : Adapter) (d : Dispatch) (r : HttpReply) :
    Inner a (completeHttpRequest py a d r).2 := by
  rw [completeHttpRequest_state]
  cases r with
  | failed _ => exact .refl a
  | response _ headers _ _ _ => exact inner_refreshSession a headers

/-! ## What a step can do -/

/-- `a'` comes from `a` by inner steps and by the operations' own moves: a
    spawn, which happens only for a stdio backend whose held child is not
    alive, a `stop()`, stamping `last_used`, putting a POST in flight, and
    taking the `i`-th POST off when its reply arrives. -/
inductive Moves : Adapter → Adapter → Prop where
  | inner {a a' : Adapter} : Inner a a' → Moves a a'
  | trans {a b c : Adapter} : Moves a b → Moves b c → Moves a c
  | spawn (a : Adapter) (now : ℚ) (hp : a.processAlive = false) (hs : a.isHttp = false) :
      Moves a (a.spawn now)
  | stop (a : Adapter) : Moves a (stop a)
  | stamp (a : Adapter) (now : ℚ) : Moves a (a.setBackend fun b => { b with lastUsed := now })
  | post (a : Adapter) (d : Dispatch) : Moves a { a with inflight := a.inflight ++ [d] }
  | settle (a : Adapter) (i : Nat) : Moves a { a with inflight := a.inflight.eraseIdx i }

theorem moves_startStdio {a : Adapter} (hs : a.isHttp = false) (now : ℚ) (w : World) :
    Moves a (startStdio a now w).2 := by
  unfold startStdio
  split
  · exact .inner (.refl a)
  · rename_i hp
    split
    · exact .inner (.refl a)
    · exact .inner (.refl a)
    · exact .inner (.refl a)
    · split
      · exact (Moves.spawn a now (by simpa using hp) hs).trans (.inner (inner_mcpHandshakeStdio _ _ w))
      · exact .inner (.refl a)

theorem moves_start (py : PyLib) (a : Adapter) (now : ℚ) (w : World) : Moves a (start py a now w).2 := by
  by_cases hh : a.isHttp
  · exact .inner (inner_start_http py hh now w)
  · unfold start
    rw [if_neg hh]
    exact moves_startStdio (by simpa using hh) now w

/-- Starting only when a flag says the adapter is not ready yet. -/
theorem moves_startIf (py : PyLib) (c : Bool) (a : Adapter) (now : ℚ) (w : World) :
    Moves a (if c then (Except.ok true, a) else start py a now w).2 := by
  split
  · exact .inner (.refl a)
  · exact moves_start py a now w

/-- Past its start, `_send_stdio_request` only writes to and reads from the
    held child. -/
theorem inner_sendStdioRequest (py : PyLib) (a : Adapter) (now : ℚ) (req : Json) (w : World) :
    Inner (if a.isRunning then (Except.ok true, a) else start py a (now + w.spawnDelay) w).2
      (sendStdioRequest py a now req w).2 := by
  unfold sendStdioRequest
  rcases (if a.isRunning then (Except.ok true, a) else start py a (now + w.spawnDelay) w) with ⟨started, a₁⟩
  simp only
  repeat' split
  all_goals first
    | exact .refl a₁
    | exact inner_writeLine ‹_›
    | exact (inner_writeLine ‹_›).trans (inner_exchange ‹_›)

theorem moves_sendStdioRequest (py : PyLib) (a : Adapter) (now : ℚ) (req : Json) (w : World) :
    Moves a (sendStdioRequest py a now req w).2 :=
  (moves_startIf py _ a (now + w.spawnDelay) w).trans (.inner (inner_sendStdioRequest py a now req w))

/-- Past its start, `_send_http_request` at most puts its POST in flight. -/
theorem sendHttpRequest_state (py : PyLib) (a : Adapter) (now : ℚ) (req : Json) (w : World) :
    let a₁ := (if a.backend.initialized then (Except.ok true, a) else start py a (now + w.spawnDelay) w).2
    (sendHttpRequest py a now req w).2 = a₁ ∨
      ∃ d, (sendHttpRequest py a now req w).2 = { a₁ with inflight := a₁.inflight ++ [d] } := by
  unfold sendHttpRequest
  rcases (if a.backend.initialized then (Except.ok true, a) else start py a (now + w.spawnDelay) w) with ⟨started, a₁⟩
  simp only
  split
  · exact .inl rfl
  · exact .inr ⟨_, rfl⟩

theorem moves_sendHttpRequest (py : PyLib) (a : Adapter) (now : ℚ) (req : Json) (w : World) :
    Moves a (sendHttpRequest py a now req w).2 := by
  have h₀ := moves_startIf py a.backend.initialized a (now + w.spawnDelay) w
  rcases sendHttpRequest_state py a now req w with h | ⟨d, h⟩ <;> rw [h]
  · exact h₀
  · exact h₀.trans (.post _ d)

theorem moves_sendRequest (py : PyLib) (a : Adapter) (now : ℚ) (req : Json) (w : World) :
    Moves a (sendRequest py a now req w).2 := by
  have h₀ := Moves.stamp a now
  simp only [sendRequest]
  repeat' split
  all_goals first
    | exact h₀
    | exact h₀.trans (moves_sendHttpRequest py _ now req w)
    | exact h₀.trans (moves_sendStdioRequest py _ now req w)

theorem step_send (py : PyLib) (a : Adapter) (now : ℚ) (req : Json) (w : World) :
    (step py a (.send now req w)).1 = (sendRequest py a now req w).2 := by
  simp only [step]
  split <;> simp_all

/-- **WHAT A STEP CAN DO**: every step is a `Moves`. -/
theorem moves_step (py : PyLib) (a : Adapter) (op : Op) : Moves a (step py a op).1 := by
  cases op with
  | start now w => exact moves_start py a now w
  | stop => exact .stop a
  | send now req w => rw [step_send]; exact moves_sendRequest py a now req w
  | reply i r =>
      simp only [step]
      split
      · exact (Moves.settle a i).trans (.inner (inner_completeHttpRequest py _ _ r))
      · exact .inner (.refl a)
  | child pid ev => exact .inner (inner_childDoes a pid [ev])

/-- No move changes the configuration. -/
theorem Moves.config {a a' : Adapter} (h : Moves a a') : a'.backend.config = a.backend.config := by
  induction h with
  | inner h => exact h.config
  | trans _ _ ih₁ ih₂ => exact ih₂.trans ih₁
  | stop a => exact stop_config a
  | spawn | stamp | post | settle => rfl

theorem moves_of_reachable {py : PyLib} {a₀ a : Adapter} (h : Reachable py a₀ a) : Moves a₀ a := by
  induction h with
  | init => exact .inner (.refl a₀)
  | step op _ ih => exact ih.trans (moves_step py _ op)

end McpInner
