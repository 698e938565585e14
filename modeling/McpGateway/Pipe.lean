import McpGateway.Stdio

/-! # The stdio pipe with a prompt child

    `_send_stdio_request` pairs a request with whatever line comes next on
    the child's stdout, with no look at its `id` (`stdio_reply_misattributed`
    runs a late reply and a notification that break the pairing).  The
    pairing is right exactly when no line is left over: if the child writes
    at most one line for each read the adapter makes, and nothing on its own
    but an exit, the held child's stdout is empty between operations
    (`heldDrained_run`), and each request is answered with the line its
    child wrote for it.

    * `prompt_reply_attributed`: in every run from a fresh stdio adapter in
      which the child is prompt, a request to the running backend is
      answered with the line its child writes for it. -/

namespace McpPipe

open McpJson McpConfig McpBackend McpInner McpStdio

/-! ## Prompt children -/

/-- A `ChildEvent` that writes a line. -/
def ChildEvent.isWrite : ChildEvent → Bool
  | .write _ => true
  | _ => false

/-- What a prompt child does during one read: it writes at most one line,
    and closes its pipes only by exiting. -/
def PromptEvents (evs : List ChildEvent) : Prop :=
  evs.countP ChildEvent.isWrite ≤ 1 ∧ ∀ ev ∈ evs, ev.closesPipe = false

instance (evs : List ChildEvent) : Decidable (PromptEvents evs) := inferInstanceAs (Decidable (_ ∧ _))

/-- The child is prompt during each read an operation makes: the
    handshake's two and a request's one. -/
def Prompt (w : World) : Prop :=
  PromptEvents w.onInit ∧ PromptEvents w.onTools ∧ PromptEvents w.onReply

/-- An operation of a run with a prompt child: on its own, a child can only
    exit. -/
def PromptOp : Op → Prop
  | .start _ w => Prompt w
  | .send _ _ w => Prompt w
  | .child _ ev => ev = .exit
  | .stop => True
  | .reply _ _ => True

/-- The held child has no unread line, and its pipes are open while it
    runs. -/
def HeldDrained (a : Adapter) : Prop :=
  ∀ pid c, a.backend.process = some pid → a.children[pid]? = some c → c.stdout = [] ∧ c.OpenWhileAlive

theorem Child.foldl_stdout_length (evs : List ChildEvent) (c : Child) :
    (evs.foldl Child.apply c).stdout.length ≤ c.stdout.length + evs.countP ChildEvent.isWrite := by
  induction evs generalizing c with
  | nil => simp
  | cons ev evs ih =>
      refine (ih (c.apply ev)).trans ?_
      cases ev with
      | write l =>
          simp only [Child.apply, List.countP_cons, ChildEvent.isWrite, if_true]
          split
          · simp only [List.length_append, List.length_singleton]
            omega
          · omega
      | closeStdin | closeStdout | exit => simp [Child.apply, ChildEvent.isWrite]

/-- Events that close no pipe on their own keep the pipes open while the
    child runs. -/
theorem Child.apply_open {ev : ChildEvent} (hev : ev.closesPipe = false) {c : Child}
    (hc : c.OpenWhileAlive) : (c.apply ev).OpenWhileAlive := by
  cases ev with
  | write l => simp only [Child.apply]; split <;> exact hc
  | closeStdin | closeStdout => cases hev
  | exit => intro h; cases h

theorem Child.foldl_open {evs : List ChildEvent} (hevs : ∀ ev ∈ evs, ev.closesPipe = false) :
    ∀ c : Child, c.OpenWhileAlive → (evs.foldl Child.apply c).OpenWhileAlive := by
  induction evs with
  | nil => exact fun _ h => h
  | cons ev evs ih =>
      exact fun c h => ih (fun e he => hevs e (List.mem_cons_of_mem _ he)) _
        (Child.apply_open (hevs ev (List.mem_cons_self _ _)) h)

/-! ## What each operation does to the held child's stdout -/

section Drained

variable {a : Adapter}

/-- An HTTP adapter holds no child, so nothing is left to read. -/
theorem heldDrained_of_http (hh : HttpNoProcess a) (h : a.isHttp = true) : HeldDrained a :=
  fun pid _ hp => by rw [hh h] at hp; cases hp

theorem heldDrained_setBackend (hd : HeldDrained a) {f : MCPBackend → MCPBackend}
    (hf : (f a.backend).process = a.backend.process) : HeldDrained (a.setBackend f) :=
  fun pid c hp => hd pid c (hf ▸ hp)

theorem heldDrained_updateChild (hd : HeldDrained a) (pid : Nat) {f : Child → Child}
    (hf : ∀ c, c.stdout = [] ∧ c.OpenWhileAlive → (f c).stdout = [] ∧ (f c).OpenWhileAlive) :
    HeldDrained (a.updateChild pid f) := by
  intro q c hp hc
  obtain ⟨c₀, hq, rfl⟩ := Adapter.getElem?_updateChild_eq_some.1 hc
  split
  · exact hf c₀ (hd q c₀ hp hq)
  · exact hd q c₀ hp hq

theorem heldDrained_receiveTools (hd : HeldDrained a) (v : Json) : HeldDrained (a.receiveTools v) :=
  fun pid c hp hc => hd pid c ((Inner.tools a v).process ▸ hp) (by rwa [receiveTools_children] at hc)

theorem heldDrained_writeLine (hd : HeldDrained a) {pid : Nat} {v : Json} {a' : Adapter}
    (h : a.writeLine pid v = .ok a') : HeldDrained a' := by
  unfold Adapter.writeLine at h
  split at h
  · cases h
    exact heldDrained_updateChild hd pid fun _ h => h
  · cases h

/-- **ONE READ**: the held child writes at most one line, and the adapter
    reads one: nothing is left over. -/
theorem heldDrained_exchange (hd : HeldDrained a) {pid : Nat} (hp : a.backend.process = some pid)
    {evs : List ChildEvent} (hw : PromptEvents evs) {o : Option Line} {a' : Adapter}
    (hr : (a.childDoes pid evs).readLine pid = (o, a')) : HeldDrained a' := by
  have hmid : ∀ c, (a.childDoes pid evs).children[pid]? = some c →
      c.stdout.length ≤ 1 ∧ c.OpenWhileAlive := by
    intro c hc
    obtain ⟨c₀, hq, rfl⟩ := Adapter.getElem?_updateChild_eq_some.1 hc
    obtain ⟨h₀, hopen⟩ := hd pid c₀ hp hq
    have h := Child.foldl_stdout_length evs c₀
    rw [h₀, List.length_nil, Nat.zero_add] at h
    rw [if_pos rfl]
    exact ⟨h.trans hw.1, Child.foldl_open hw.2 c₀ hopen⟩
  have hp' : a'.backend.process = some pid := (inner_exchange hr).process.trans hp
  intro q c hq hc
  cases Option.some.inj (hq.symm.trans hp')
  unfold Adapter.readLine at hr
  split at hr
  · next al si so sin l ls hl =>
      cases hr
      obtain ⟨c₀, hq, rfl⟩ := Adapter.getElem?_updateChild_eq_some.1 hc
      cases hl.symm.trans hq
      obtain ⟨h1, hopen⟩ := hmid _ hl
      simp only [List.length_cons] at h1
      rw [if_pos rfl]
      exact ⟨by simp [List.length_eq_zero.1 (by omega : ls.length = 0)], hopen⟩
  · next hn =>
      cases hr
      obtain ⟨al, si, so, sin, sout⟩ := c
      cases sout with
      | nil => exact ⟨rfl, (hmid _ hc).2⟩
      | cons l ls => exact absurd hc (hn al si so sin l ls)

theorem heldDrained_fetchToolsStdio (hd : HeldDrained a) {pid : Nat} (hp : a.backend.process = some pid)
    {evs : List ChildEvent} (hw : PromptEvents evs) :
    HeldDrained (fetchToolsStdio a pid evs) := by
  unfold fetchToolsStdio
  split
  · exact hd
  · next a₁ h₁ =>
      have hd₁ := heldDrained_writeLine hd h₁
      have hp₁ : a₁.backend.process = some pid := (inner_writeLine h₁).process.trans hp
      split
      · next hr => exact heldDrained_receiveTools (heldDrained_exchange hd₁ hp₁ hw hr) _
      · next hr => exact heldDrained_exchange hd₁ hp₁ hw hr

theorem heldDrained_mcpHandshakeStdio (hd : HeldDrained a) {pid : Nat} (hp : a.backend.process = some pid)
    {w : World} (hw : Prompt w) : HeldDrained (mcpHandshakeStdio a pid w) := by
  unfold mcpHandshakeStdio
  split
  · exact hd
  · next a₁ h₁ =>
      have hd₁ := heldDrained_writeLine hd h₁
      have hp₁ : a₁.backend.process = some pid := (inner_writeLine h₁).process.trans hp
      split
      · next a₂ hr =>
          have hp₂ : a₂.backend.process = some pid := (inner_exchange hr).process.trans hp₁
          exact heldDrained_fetchToolsStdio
            (@heldDrained_setBackend _ (heldDrained_exchange hd₁ hp₁ hw.1 hr)
              (fun b => { b with initialized := true }) rfl) hp₂ hw.2.1
      · next hr => exact heldDrained_exchange hd₁ hp₁ hw.1 hr

/-- A fresh child has written nothing. -/
theorem heldDrained_spawn (now : ℚ) : HeldDrained (a.spawn now) := by
  intro pid c hp hc
  cases Option.some.inj hp
  simp only [Adapter.spawn, Adapter.setBackend, List.getElem?_append_right (Nat.le_refl _),
    Nat.sub_self, List.getElem?_cons_zero, Option.some.injEq] at hc
  rw [← hc]
  exact ⟨rfl, fun _ => ⟨rfl, rfl⟩⟩

theorem heldDrained_startStdio (hd : HeldDrained a) (now : ℚ) {w : World} (hw : Prompt w) :
    HeldDrained (startStdio a now w).2 := by
  unfold startStdio
  repeat' split
  all_goals first
    | exact hd
    | exact heldDrained_mcpHandshakeStdio (heldDrained_spawn now) rfl hw

theorem heldDrained_start (py : PyLib) (hd : HeldDrained a) (hh : HttpNoProcess a) (now : ℚ) {w : World}
    (hw : Prompt w) : HeldDrained (start py a now w).2 := by
  by_cases hs : a.isHttp
  · have hm := moves_start py a now w
    refine heldDrained_of_http (httpNoProcess_of_moves hm hh) ?_
    rwa [Adapter.isHttp, hm.config]
  · unfold start
    rw [if_neg hs]
    exact heldDrained_startStdio hd now hw

theorem heldDrained_sendStdioRequest (py : PyLib) (hd : HeldDrained a) (hh : HttpNoProcess a) (now : ℚ)
    (req : Json) {w : World} (hw : Prompt w) : HeldDrained (sendStdioRequest py a now req w).2 := by
  have hd₀ : HeldDrained (if a.isRunning then (Except.ok true, a) else start py a (now + w.spawnDelay) w).2 := by
    split
    · exact hd
    · exact heldDrained_start py hd hh _ hw
  unfold sendStdioRequest
  rcases hr : (if a.isRunning then (Except.ok true, a) else start py a (now + w.spawnDelay) w) with ⟨started, a₁⟩
  rw [hr] at hd₀
  simp only
  repeat' split
  all_goals first
    | exact hd₀
    | exact heldDrained_writeLine hd₀ ‹_›
    | exact heldDrained_exchange (heldDrained_writeLine hd₀ ‹_›)
        ((inner_writeLine ‹_›).process.trans ‹_›) hw.2.2 ‹_›

end Drained

/-- **PROMPT RUNS**: from an adapter whose held child has nothing unread,
    every operation of a prompt run leaves it so. -/
theorem heldDrained_step (py : PyLib) {a : Adapter} (hd : HeldDrained a) (hh : HttpNoProcess a)
    {op : Op} (hop : PromptOp op) : HeldDrained (step py a op).1 := by
  have hm := moves_step py a op
  by_cases hs : a.isHttp
  · exact heldDrained_of_http (httpNoProcess_of_moves hm hh) (by rwa [Adapter.isHttp, hm.config])
  cases op with
  | start now w => exact heldDrained_start py hd hh now hop
  | stop =>
      show HeldDrained (stop a)
      intro pid c hp
      rw [stop_process_none hh] at hp
      cases hp
  | send now req w =>
      rw [step_send]
      have hs₁ : (a.setBackend fun b => { b with lastUsed := now }).isHttp = false := by simpa using hs
      have hd₁ := @heldDrained_setBackend a hd (fun b => { b with lastUsed := now }) rfl
      simp only [sendRequest]
      repeat' split
      all_goals first
        | exact hd₁
        | exact absurd ‹_› (by rw [hs₁]; exact Bool.false_ne_true)
        | exact heldDrained_sendStdioRequest py hd₁ (fun h => hh h) now req hop
  | reply i r =>
      simp only [step]
      split
      · rw [completeHttpRequest_state]
        split
        · exact hd
        · unfold Adapter.refreshSession
          split
          · exact fun pid c hp hc => hd pid c hp hc
          · exact hd
      · exact hd
  | child pid ev =>
      cases hop
      exact heldDrained_updateChild hd pid fun c h => ⟨h.1, fun ha => by simp [Child.apply] at ha⟩

theorem heldDrained_run (py : PyLib) :
    ∀ (ops : List Op) {a : Adapter}, HeldDrained a → HttpNoProcess a → (∀ op ∈ ops, PromptOp op) →
      HeldDrained (run py a ops).1 ∧ HttpNoProcess (run py a ops).1
  | [], _, hd, hh, _ => ⟨hd, hh⟩
  | op :: ops, a, hd, hh, hops =>
      heldDrained_run py ops (heldDrained_step py hd hh (hops op (List.mem_cons_self _ _)))
        (httpNoProcess_of_moves (moves_step py a op) hh)
        fun op' h => hops op' (List.mem_cons_of_mem _ h)

/-! ## The reply goes to its request -/

/-- With nothing unread, a request to the running stdio backend is answered
    with the line its child writes for it. -/
theorem sendStdioRequest_answers (py : PyLib) {a : Adapter} (hd : HeldDrained a)
    (hs : a.isHttp = false) (hr : a.isRunning = true) (now : ℚ) {req : Json}
    (hn : isNotification req = false) {w : World} {v : Json} (hw : w.onReply = [.write (.json v)]) :
    (sendStdioRequest py a now req w).1 = .ok v := by
  have hpa : a.processAlive = true := by simpa [Adapter.isRunning, hs] using hr
  unfold Adapter.processAlive at hpa
  split at hpa
  · next pid hp =>
      cases hc : a.children[pid]? with
      | none => simp [hc] at hpa
      | some c =>
          have halive : c.alive = true := by simpa [hc] using hpa
          obtain ⟨hout, hopen⟩ := hd pid c hp hc
          obtain ⟨hin, hso⟩ := hopen halive
          obtain ⟨alive, stdinOpen, stdoutOpen, stdin, stdout⟩ := c
          simp only at halive hout hin hso
          subst halive hout hin hso
          simp [sendStdioRequest, hr, hp, Adapter.writeLine, hc, hn, hw, Adapter.childDoes,
            Adapter.updateChild, Adapter.readLine, List.getElem?_modify, Child.apply]
  · cases hpa

/-- **PROMPT CHILD**: in every run from a fresh stdio adapter whose child
    writes at most one line for each read and nothing on its own, a request
    to the running backend is answered with the line its child writes for
    it. -/
theorem prompt_reply_attributed (py : PyLib) {config : BackendConfig} {t₀ : ℚ} {ops : List Op}
    (hops : ∀ op ∈ ops, PromptOp op) (hs : config.httpUrl = none)
    (hr : (run py (Adapter.init config t₀) ops).1.isRunning = true) (now : ℚ) {req : Json}
    (hn : isNotification req = false) {w : World} {v : Json} (hw : w.onReply = [.write (.json v)]) :
    (sendStdioRequest py (run py (Adapter.init config t₀) ops).1 now req w).1 = .ok v := by
  have hinit : HeldDrained (Adapter.init config t₀) := fun _ _ hp => by cases hp
  obtain ⟨hd, -⟩ := heldDrained_run py ops hinit (fun _ => rfl) hops
  have hcfg := (moves_of_reachable (run_reachable py (Adapter.init config t₀) ops _ .init)).config
  refine sendStdioRequest_answers py hd ?_ hr now hn hw
  rw [Adapter.isHttp, hcfg]
  simp [Adapter.init, hs]

/-- The child answers the next request with the reply to request 2. -/
def replyWorld : World := { quietWorld with onReply := [.write (.json (replyTo 2))] }

theorem prompt_reply_attributed_echo :
    (∀ op ∈ [Op.start 0 promptWorld], PromptOp op) ∧
      (BackendConfig.ofCommand "echo" "server").httpUrl = none ∧
      (run PyLib.ascii echoAdapter [.start 0 promptWorld]).1.isRunning = true ∧
      isNotification (callRequest 2) = false ∧ replyWorld.onReply = [.write (.json (replyTo 2))] ∧
      (sendStdioRequest PyLib.ascii (run PyLib.ascii echoAdapter [.start 0 promptWorld]).1 1
        (callRequest 2) replyWorld).1 = .ok (replyTo 2) :=
  have hops : ∀ op ∈ [Op.start 0 promptWorld], PromptOp op := fun op h => by
    rw [List.mem_singleton.1 h]
    exact ⟨by decide, by decide, by decide⟩
  ⟨hops, rfl, rfl, rfl, rfl, @prompt_reply_attributed PyLib.ascii (BackendConfig.ofCommand "echo" "server") 0
    _ hops rfl rfl 1 (callRequest 2) rfl replyWorld (replyTo 2) rfl⟩

end McpPipe
