import McpGateway.Gateway
import McpGateway.Cache

/-! # `gateway_search_tools`: the first matches, and the backends it starts

    `_call_search_tools` starts each backend in registration order, scans
    its cached tools, and appends a match before it compares
    `len(matches) >= limit`.

    * `searchBackends_spec`: with a limit `n ≥ 1`, when every backend starts
      without raising and caches tools whose names and descriptions are
      strings, the loop returns the first `n` of all the matches in
      registration order, and has started exactly the shortest prefix of
      the backends whose matches reach `n` (all of them when there are
      fewer).
    * `search_limit_zero`: with `limit = 0` the loop still starts the first
      backend and returns its first match. -/

namespace McpSearch

open McpJson McpConfig McpBackend McpServer McpStdio McpCache

/-! ## What a scan finds -/

/-- The name and description of a tool entry that is a dict whose `name`
    and `description`, where present, are strings. -/
def toolStrings : Json → Option (String × String)
  | .obj kvs =>
      match (find? kvs "name").getD (.str ""), (find? kvs "description").getD (.str "") with
      | .str n, .str d => some (n, d)
      | _, _ => none
  | _ => none

/-- The match the tool `n` with description `d` on `server` yields, when
    `q` occurs in its lowered name or description. -/
def hitOf (py : PyLib) (q server n d : String) : Option Json :=
  if contains (py.lower n) q || contains (py.lower d) q then
    some (.obj [("server", .str server), ("tool", .str n), ("description", .str (String.mk (d.data.take 200)))])
  else none

/-- All the matches among `tools`, in order. -/
def hits (py : PyLib) (q server : String) (tools : List Json) : List Json :=
  tools.filterMap fun t => (toolStrings t).bind fun nd => hitOf py q server nd.1 nd.2

theorem pyGet_of_toolStrings {t : Json} {n d : String} (h : toolStrings t = some (n, d)) :
    pyGet t "name" (.str "") = .ok (.str n) ∧ pyGet t "description" (.str "") = .ok (.str d) := by
  unfold toolStrings at h
  split at h
  · rename_i kvs
    split at h
    · rename_i n' d' hn hd
      cases h
      exact ⟨by simp [pyGet, hn], by simp [pyGet, hd]⟩
    · cases h
  · cases h

theorem matchesQuery_str (py : PyLib) (q n d : String) :
    matchesQuery py q (.str n) (.str d) = .ok (contains (py.lower n) q || contains (py.lower d) q) := by
  simp only [matchesQuery, pyLower, bind, Except.bind, pure, Except.pure]
  cases contains (py.lower n) q <;> rfl

/-- One tool of the scan: its match, if any, is appended. -/
theorem scanTools_cons {py : PyLib} {q : String} {limit : Json} {name : String} {t : Json}
    {n d : String} (h : toolStrings t = some (n, d)) (ts ms : List Json) :
    scanTools py q limit name (t :: ts) ms = (do
      let ms := ms ++ (hitOf py q name n d).toList
      if ← pyGe ms.length limit then pure ms else scanTools py q limit name ts ms) := by
  obtain ⟨hn, hd⟩ := pyGet_of_toolStrings h
  simp only [scanTools, hn, hd, matchesQuery_str, hitOf, bind, Except.bind, pySlice, pure, Except.pure]
  split <;> simp only [Option.toList, List.append_nil]

theorem hits_cons {py : PyLib} {q server : String} {t : Json} {n d : String}
    (h : toolStrings t = some (n, d)) (ts : List Json) :
    hits py q server (t :: ts) = (hitOf py q server n d).toList ++ hits py q server ts := by
  cases hh : hitOf py q server n d <;> simp [hits, h, hh]

theorem pyGe_int (m n : Nat) : pyGe m (.int n) = .ok (decide (n ≤ m)) := by
  simp [pyGe]

/-- With a limit `n` not yet reached, a scan of well-formed tools appends
    their matches up to `n` in all. -/
theorem scanTools_spec (py : PyLib) (q name : String) (n : Nat) :
    ∀ (tools ms : List Json), (∀ t ∈ tools, toolStrings t ≠ none) → ms.length < n →
      scanTools py q (.int n) name tools ms = .ok ((ms ++ hits py q name tools).take n) := by
  intro tools
  induction tools with
  | nil =>
      intro ms _ hms
      simp [scanTools, hits, List.take_of_length_le hms.le]
  | cons t ts ih =>
      intro ms hwf hms
      obtain ⟨⟨nm, d⟩, h⟩ := Option.ne_none_iff_exists'.mp (hwf t (List.mem_cons_self t ts))
      have hlen : (hitOf py q name nm d).toList.length ≤ 1 := by
        cases hitOf py q name nm d <;> simp
      rw [scanTools_cons h, hits_cons h, ← List.append_assoc]
      simp only [bind, Except.bind, pyGe_int]
      by_cases hge : n ≤ (ms ++ (hitOf py q name nm d).toList).length
      · simp only [hge, decide_True, if_true, pure, Except.pure]
        rw [List.take_left' (by simp at hge ⊢; omega)]
      · simp only [hge, decide_False]
        exact ih _ (fun t' ht => hwf t' (List.mem_cons_of_mem t ht)) (by omega)

/-! ## What the search loop does -/

/-- The entry after `await backend.start()`. -/
def startedEntry (py : PyLib) (env : Env) (e : String × Adapter) : String × Adapter :=
  (e.1, (start py e.2 (env.startAt e.1) (env.world e.1)).2)

/-- The matches a backend's cached tools yield once it is started. -/
def backendHits (py : PyLib) (q : String) (env : Env) (e : String × Adapter) : List Json :=
  match (startedEntry py env e).2.getCachedTools with
  | .ok tools => hits py q e.1 tools
  | .error _ => []

/-- The backends with the first `k` of them started. -/
def startedPrefix (py : PyLib) (env : Env) (k : Nat) (bs : List (String × Adapter)) :
    List (String × Adapter) :=
  (bs.take k).map (startedEntry py env) ++ bs.drop k

/-- How many backends, from the first, it takes for their matches to reach
    `need`; all of them when they never do. -/
def cut (need : Nat) : List (List Json) → Nat
  | [] => 0
  | h :: hs => if need ≤ h.length then 1 else cut (need - h.length) hs + 1

/-- The backend starts without raising, and caches tools whose names and
    descriptions are strings. -/
def SearchOk (py : PyLib) (env : Env) (e : String × Adapter) : Prop :=
  (∃ b, (start py e.2 (env.startAt e.1) (env.world e.1)).1 = .ok b) ∧
    ∃ tools, (startedEntry py env e).2.getCachedTools = .ok tools ∧ ∀ t ∈ tools, toolStrings t ≠ none

/-- **FIRST MATCHES**: with a limit `n` not yet reached, the loop returns the
    first `n` matches over all backends in order, and the backends it has
    started are exactly the shortest prefix whose matches reach `n`. -/
theorem searchBackends_spec (py : PyLib) (q : String) (env : Env) (n : Nat) :
    ∀ (bs : List (String × Adapter)) (ms : List Json), (∀ e ∈ bs, SearchOk py env e) →
      ms.length < n →
      searchBackends py q (.int n) env bs ms =
        (.ok ((ms ++ (bs.map (backendHits py q env)).flatten).take n),
          startedPrefix py env (cut (n - ms.length) (bs.map (backendHits py q env))) bs) := by
  intro bs
  induction bs with
  | nil =>
      intro ms _ hms
      simp [searchBackends, cut, startedPrefix, List.take_of_length_le hms.le]
  | cons e rest ih =>
      intro ms hok hms
      obtain ⟨name, a⟩ := e
      obtain ⟨⟨b, hb⟩, tools, htools, hwf⟩ := hok (name, a) (List.mem_cons_self _ _)
      have hhits : backendHits py q env (name, a) = hits py q name tools := by
        simp only [backendHits, htools]
      simp only [startedEntry] at htools
      simp only [searchBackends, hb, htools, bind, Except.bind, scanTools_spec py q name n tools ms hwf hms,
        pyGe_int, pure, Except.pure, List.map_cons, hhits, cut, List.flatten_cons]
      by_cases hge : n ≤ (ms ++ hits py q name tools).length
      · have hcut : n - ms.length ≤ (hits py q name tools).length := by simp at hge; omega
        have hlen : ((ms ++ hits py q name tools).take n).length = n := by simp; omega
        simp only [hlen, le_refl, decide_True, hcut, if_true, startedPrefix, List.take_succ_cons, List.take_zero,
          List.map_cons, List.map_nil, List.drop_succ_cons, List.drop_zero, startedEntry,
          ← List.append_assoc, List.take_append_of_le_length hge]
        rfl
      · have hcut : ¬n - ms.length ≤ (hits py q name tools).length := by simp at hge; omega
        have hlt : ((ms ++ hits py q name tools).take n).length < n := by simp; omega
        have htake : (ms ++ hits py q name tools).take n = ms ++ hits py q name tools :=
          List.take_of_length_le (by omega)
        simp only [hcut, if_false, htake, Nat.not_le.mpr (htake ▸ hlt), decide_False]
        rw [ih _ (fun e he => hok e (List.mem_cons_of_mem _ he)) (htake ▸ hlt)]
        simp only [startedPrefix, List.append_assoc, List.length_append, Nat.sub_sub, List.take_succ_cons,
          List.map_cons, List.drop_succ_cons, startedEntry, List.cons_append]

/-- `_call_search_tools` with a query and a limit `n ≥ 1`: the first `n`
    matches, and the gateway with the shortest prefix of its backends
    started. -/
theorem callSearchTools_spec {py : PyLib} {g : Gateway} {arguments : Json} {q : String} {n : Nat}
    (hq : pyGet arguments "query" (.str "") = .ok (.str q)) (hq₀ : py.lower q ≠ "")
    (hn : pyGet arguments "limit" (.int 10) = .ok (.int n)) (hpos : 0 < n) (id : Json) (env : Env)
    (hok : ∀ e ∈ g.backends, SearchOk py env e) :
    callSearchTools py g arguments id env =
      (.ok (textResult (py.dumps (.obj [("query", .str (py.lower q)),
          ("matches", .arr ((g.backends.map (backendHits py (py.lower q) env)).flatten.take n)),
          ("total", .int ((g.backends.map (backendHits py (py.lower q) env)).flatten.take n).length)])) id),
        { g with
          backends := startedPrefix py env (cut n (g.backends.map (backendHits py (py.lower q) env)))
            g.backends }) := by
  simp only [callSearchTools, hq, hn, pyLower, bind, Except.bind, pure, Except.pure, hq₀, if_false,
    searchBackends_spec py (py.lower q) env n g.backends [] hok hpos, List.nil_append, List.length_nil,
    Nat.sub_zero]
  rfl

/-- A gateway with two stdio backends, `alpha` and `beta`, created at 0. -/
def pairGateway : Gateway :=
  ⟨true, [("alpha", Adapter.init (BackendConfig.ofCommand "alpha" "server") 0),
    ("beta", Adapter.init (BackendConfig.ofCommand "beta" "server") 0)]⟩

/-- A request at time 1 whose backends all offer `echoTool`. -/
def toolsEnv : Env := .at 1 (fun _ => toolsWorld) fun _ => .failed ""

/-- The match `echoTool` yields on `server`. -/
def echoMatch (server : String) : Json :=
  .obj [("server", .str server), ("tool", .str "echo"), ("description", .str "Echo the input")]

theorem callSearchTools_spec_pair :
    (∀ e ∈ pairGateway.backends, SearchOk PyLib.ascii toolsEnv e) ∧
      callSearchTools PyLib.ascii pairGateway (.obj [("query", .str "Echo"), ("limit", .int 1)]) (.int 7)
          toolsEnv =
        (.ok (textResult (PyLib.ascii.dumps (.obj [("query", .str (PyLib.ascii.lower "Echo")),
            ("matches", .arr ((pairGateway.backends.map
              (backendHits PyLib.ascii (PyLib.ascii.lower "Echo") toolsEnv)).flatten.take 1)),
            ("total", .int ((pairGateway.backends.map
              (backendHits PyLib.ascii (PyLib.ascii.lower "Echo") toolsEnv)).flatten.take 1).length)])) (.int 7)),
          { pairGateway with
            backends := startedPrefix PyLib.ascii toolsEnv (cut 1 (pairGateway.backends.map
              (backendHits PyLib.ascii (PyLib.ascii.lower "Echo") toolsEnv))) pairGateway.backends }) := by
  have hok : ∀ e ∈ pairGateway.backends, SearchOk PyLib.ascii toolsEnv e := by
    intro e he
    simp only [pairGateway, List.mem_cons, List.mem_singleton, List.not_mem_nil, or_false] at he
    rcases he with rfl | rfl <;>
      exact ⟨⟨true, rfl⟩, [echoTool], rfl, fun t ht => by
        simp only [List.mem_singleton] at ht; subst ht; simp [toolStrings, echoTool, find?]⟩
  exact ⟨hok, @callSearchTools_spec PyLib.ascii pairGateway (.obj [("query", .str "Echo"), ("limit", .int 1)])
    "Echo" 1 rfl (by decide) rfl (by decide) (.int 7) toolsEnv hok⟩

/-- With `limit = 0` the search still starts `alpha` and returns its match;
    `beta` is left alone. -/
theorem search_limit_zero :
    (callSearchTools PyLib.ascii pairGateway (.obj [("query", .str "echo"), ("limit", .int 0)]) (.int 7)
        toolsEnv).1 =
      .ok (textResult (PyLib.ascii.dumps (.obj [("query", .str "echo"), ("matches", .arr [echoMatch "alpha"]),
        ("total", .int 1)])) (.int 7)) ∧
      ((callSearchTools PyLib.ascii pairGateway (.obj [("query", .str "echo"), ("limit", .int 0)]) (.int 7)
        toolsEnv).2.backends.map fun e => e.2.backend.restartCount) = [1, 0] :=
  ⟨rfl, rfl⟩

end McpSearch
