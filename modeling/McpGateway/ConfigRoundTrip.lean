import McpGateway.Config

/-! # Re-parsing a loaded configuration

    `from_dict` runs the field validators, and they expand environment
    references; `model_dump` writes the expanded strings back out.  Parsing the
    dump again therefore runs `expand_env_vars` a second time over `command`,
    `http_url`, `cwd` and the `env` and `headers` values, and keeps every other
    field.

    * `fromDict_modelDump`: for every accepted `d`, `from_dict(c.model_dump())`
      succeeds and is `c` with those fields expanded once more
      (`GatewayConfig.reexpand`).
    * `reexpand_eq_self_iff`: that is `c` exactly when each of those strings is
      a fixed point of `expand_env_vars` (`BackendConfig.Stable`).

    The first rests on two facts: each coercion takes a dumped value back to
    itself (the `coerce*_dump` lemmas), and `from_dict` names every backend by
    its key (`fromDict_names`), so the `name` written into the dump is the one
    `from_dict` would write anyway. -/

namespace McpConfig

open McpJson

variable {py : PyLib} {E : Environ}

/-! ## Peeling `Except` computations -/

theorem bind_eq_ok {ε α β : Type} {x : Except ε α} {f : α → Except ε β} {r : β} :
    x >>= f = .ok r ↔ ∃ a, x = .ok a ∧ f a = .ok r := by
  cases x <;> simp [bind, Except.bind]

@[simp] theorem ok_bind {ε α β : Type} (a : α) (f : α → Except ε β) :
    (Except.ok a >>= f) = f a := rfl

/-! ## A second expansion -/

/-- The backend with `expand_env_vars` applied once more to the fields its
    validators expand. -/
def BackendConfig.reexpand (E : Environ) (b : BackendConfig) : BackendConfig :=
  { b with
    command := b.command.map (expandEnvVars E)
    httpUrl := b.httpUrl.map (expandEnvVars E)
    env := b.env.map fun kv => (kv.1, expandEnvVars E kv.2)
    headers := b.headers.map fun kv => (kv.1, expandEnvVars E kv.2)
    cwd := b.cwd.map (expandEnvVars E)
    has_transport := by simpa using b.has_transport }

/-- Every backend expanded once more. -/
def GatewayConfig.reexpand (E : Environ) (c : GatewayConfig) : GatewayConfig :=
  { c with backends := c.backends.map fun kb => (kb.1, kb.2.reexpand E) }

/-- Each expanded string of the backend is left alone by `expand_env_vars`. -/
structure BackendConfig.Stable (E : Environ) (b : BackendConfig) : Prop where
  command : ∀ s ∈ b.command, expandEnvVars E s = s
  httpUrl : ∀ s ∈ b.httpUrl, expandEnvVars E s = s
  env : ∀ kv ∈ b.env, expandEnvVars E kv.2 = kv.2
  headers : ∀ kv ∈ b.headers, expandEnvVars E kv.2 = kv.2
  cwd : ∀ s ∈ b.cwd, expandEnvVars E s = s

/-! ## Coercing a dumped value gives it back -/

@[simp] theorem coerceLogLevel_dump (l : LogLevel) : coerceLogLevel (.str l.text) = .ok l := by
  cases l <;> rfl

@[simp] theorem expandEnv_dump (o : Option String) :
    expandEnv E (some (dumpOpt o)) = .ok (o.map (expandEnvVars E)) := by
  cases o <;> rfl

@[simp] theorem expandDictValues_dump (m : List (String × String)) :
    expandDictValues py E (some (dumpMap m)) = .ok (m.map fun kv => (kv.1, expandEnvVars E kv.2)) := by
  simp [expandDictValues, dumpMap, pyStr]

/-- Validating a dumped backend under its own name expands it once more. -/
theorem BackendConfig.validate_modelDump (b : BackendConfig) :
    BackendConfig.validate py E (setField b.modelDump "name" (.str b.name)) = .ok (b.reexpand E) := by
  simp only [BackendConfig.validate, requiredField, fieldOr, coerceStr, coerceFloat, coerceBool,
    BackendConfig.modelDump, setField, find?, String.reduceEq, ↓reduceIte, expandEnv_dump,
    expandDictValues_dump, ok_bind, dif_pos b.idle_nonneg]
  exact dif_pos (b.reexpand E).has_transport

/-- A backend built by validation is named by the input's `name` field. -/
theorem BackendConfig.validate_name {d : List (String × Json)} {b : BackendConfig}
    (h : BackendConfig.validate py E d = .ok b) : find? d "name" = some (.str b.name) := by
  simp only [BackendConfig.validate, bind_eq_ok] at h
  obtain ⟨name, hn, _, _, _, _, _, _, _, _, _, _, _, _, _, _, _, _, h⟩ := h
  split at h
  · split at h
    · cases h
      unfold requiredField at hn
      split at hn
      · rename_i v hv
        cases v <;> simp_all [coerceStr]
      · cases hn
    · cases h
  · cases h

/-- `from_dict`'s loop names every backend by its key. -/
theorem validateBackends_names {entries : List (String × Json)} {bs : List (String × BackendConfig)}
    (h : validateBackends py E entries = .ok bs) : ∀ kb ∈ bs, kb.2.name = kb.1 := by
  induction entries generalizing bs with
  | nil => cases h; simp
  | cons e rest ih =>
      obtain ⟨k, v⟩ := e
      cases v with
      | obj kvs =>
          simp only [validateBackends, bind_eq_ok] at h
          obtain ⟨b, hb, bs', hbs, h⟩ := h
          cases h
          have hname := BackendConfig.validate_name hb
          rw [find?_setField_self] at hname
          rintro kb (_ | ⟨_, hkb⟩)
          · exact (Json.str.inj (Option.some.inj hname)).symm
          · exact ih hbs kb hkb
      | _ => exact ih h

theorem GatewayConfig.validate_backends {s : List (String × Json)}
    {bs : List (String × BackendConfig)} {c : GatewayConfig}
    (h : GatewayConfig.validate py s bs = .ok c) : c.backends = bs := by
  simp only [GatewayConfig.validate, bind_eq_ok] at h
  obtain ⟨_, _, _, _, _, _, _, _, _, _, _, _, h⟩ := h
  repeat' split at h
  all_goals cases h
  rfl

/-- Every configuration `from_dict` returns names each backend by its key. -/
theorem fromDict_names {d : List (String × Json)} {c : GatewayConfig}
    (h : fromDict py E d = .ok c) : ∀ kb ∈ c.backends, kb.2.name = kb.1 := by
  simp only [fromDict, bind_eq_ok] at h
  obtain ⟨_, _, bs, hbs, hc⟩ := h
  rw [GatewayConfig.validate_backends hc]
  exact validateBackends_names hbs

/-! ## The dump parsed again -/

theorem validateBackends_modelDump (bs : List (String × BackendConfig))
    (h : ∀ kb ∈ bs, kb.2.name = kb.1) :
    validateBackends py E (bs.map fun kb => (kb.1, .obj kb.2.modelDump))
      = .ok (bs.map fun kb => (kb.1, kb.2.reexpand E)) := by
  induction bs with
  | nil => rfl
  | cons kb rest ih =>
      obtain ⟨k, b⟩ := kb
      have hk : b.name = k := h (k, b) (List.mem_cons_self _ _)
      subst hk
      simp only [List.map_cons, validateBackends, BackendConfig.validate_modelDump,
        ih (fun kb hkb => h kb (List.mem_cons_of_mem _ hkb))]
      rfl

theorem backendsRaw_modelDump (c : GatewayConfig) :
    backendsRaw c.modelDump = .obj (c.backends.map fun kb => (kb.1, .obj kb.2.modelDump)) := by
  cases hb : c.backends <;> simp [backendsRaw, GatewayConfig.modelDump, find?, truthy, hb,
    Option.filter]

theorem GatewayConfig.validate_modelDump (c : GatewayConfig) (bs : List (String × BackendConfig)) :
    GatewayConfig.validate py
      (c.modelDump.filter fun kv => kv.1 ≠ "backends" && kv.1 ≠ "servers") bs
      = .ok { c with backends := bs } := by
  simp [GatewayConfig.validate, GatewayConfig.modelDump, find?, fieldOr, coerceStr, coerceInt,
    coerceBool, coerceFloat, bind, Except.bind, pure, Except.pure, c.port_range, c.health_ge,
    c.request_ge]

/-- **RE-PARSE**: parsing the dump of a loaded configuration expands its
    environment-expanded fields once more and keeps everything else. -/
theorem fromDict_modelDump {d : List (String × Json)} {c : GatewayConfig}
    (h : fromDict py E d = .ok c) : fromDict py E c.modelDump = .ok (c.reexpand E) := by
  simp only [fromDict, backendsRaw_modelDump, items, ok_bind, validateBackends_modelDump c.backends
    (fromDict_names h)]
  exact GatewayConfig.validate_modelDump c _

/-! ## When the second expansion changes nothing -/

theorem map_eq_self_iff {α : Type} {f : α → α} {l : List α} : l.map f = l ↔ ∀ a ∈ l, f a = a := by
  induction l with
  | nil => simp
  | cons a l ih => simp [ih]

theorem option_map_eq_self_iff {α : Type} {f : α → α} {o : Option α} :
    o.map f = o ↔ ∀ a ∈ o, f a = a := by
  cases o <;> simp

theorem BackendConfig.reexpand_eq_self_iff (b : BackendConfig) : b.reexpand E = b ↔ b.Stable E := by
  constructor
  · intro h
    have hc := congrArg BackendConfig.command h
    have hu := congrArg BackendConfig.httpUrl h
    have he := congrArg BackendConfig.env h
    have hh := congrArg BackendConfig.headers h
    have hw := congrArg BackendConfig.cwd h
    simp only [BackendConfig.reexpand, option_map_eq_self_iff, map_eq_self_iff] at hc hu he hh hw
    exact ⟨hc, hu, fun kv hkv => congrArg Prod.snd (he kv hkv),
      fun kv hkv => congrArg Prod.snd (hh kv hkv), hw⟩
  · rintro ⟨hc, hu, he, hh, hw⟩
    obtain ⟨n, de, c, u, en, hd, w, t, flag, ht, hi⟩ := b
    simp only [BackendConfig.reexpand, BackendConfig.mk.injEq, option_map_eq_self_iff,
      map_eq_self_iff, true_and, and_true]
    exact ⟨hc, hu, fun kv hkv => Prod.ext rfl (he kv hkv), fun kv hkv => Prod.ext rfl (hh kv hkv), hw⟩

theorem GatewayConfig.reexpand_eq_self_iff (c : GatewayConfig) :
    c.reexpand E = c ↔ ∀ kb ∈ c.backends, kb.2.Stable E := by
  obtain ⟨h, p, m, bs, l, hc, r, hp, hh, hr⟩ := c
  simp only [GatewayConfig.reexpand, GatewayConfig.mk.injEq, map_eq_self_iff, true_and, and_true]
  refine forall_congr' fun kb => imp_congr_right fun _ => ?_
  rw [← BackendConfig.reexpand_eq_self_iff]
  constructor
  · intro hkb; exact congrArg Prod.snd hkb
  · intro hkb; exact Prod.ext rfl hkb

/-- **RE-PARSE, EXACTLY**: re-parsing a loaded configuration succeeds, expands
    the environment-expanded fields once more, and gives the configuration back
    exactly when all of them are fixed points of `expand_env_vars`. -/
theorem fromDict_modelDump_iff_stable {d : List (String × Json)} {c : GatewayConfig}
    (h : fromDict py E d = .ok c) :
    fromDict py E c.modelDump = .ok (c.reexpand E) ∧
      (fromDict py E c.modelDump = .ok c ↔ ∀ kb ∈ c.backends, kb.2.Stable E) := by
  have hr := fromDict_modelDump h
  refine ⟨hr, ?_⟩
  rw [hr, ← GatewayConfig.reexpand_eq_self_iff]
  exact ⟨Except.ok.inj, fun he => by rw [he]⟩

/-- An environment where `A` expands to a reference to `B`. -/
def chainedEnv : Environ := fun k => if k = "A" then some "$B" else if k = "B" then some "x" else none

/-- One stdio backend whose command is `${A}`. -/
def chainedData : List (String × Json) :=
  [("backends", .obj [("b", .obj [("command", .str "${A}")])])]

theorem fromDict_modelDump_iff_stable_chained :
    ∃ c, fromDict PyLib.ascii chainedEnv chainedData = .ok c ∧
      (fromDict PyLib.ascii chainedEnv c.modelDump = .ok (c.reexpand chainedEnv) ∧
        (fromDict PyLib.ascii chainedEnv c.modelDump = .ok c ↔
          ∀ kb ∈ c.backends, kb.2.Stable chainedEnv)) :=
  ⟨_, rfl, @fromDict_modelDump_iff_stable PyLib.ascii chainedEnv chainedData _ rfl⟩

/-- Loading `${A}` stores `$B`; re-parsing the dump expands it to `x`. -/
theorem fromDict_modelDump_changes_command :
    ∃ c, fromDict PyLib.ascii chainedEnv chainedData = .ok c ∧
      fromDict PyLib.ascii chainedEnv c.modelDump ≠ .ok c := by
  refine ⟨_, rfl, fun h => ?_⟩
  have hcmd := congrArg (fun r : Except PyExc GatewayConfig => match r with
    | .ok c => c.backends.map fun kb : String × BackendConfig => kb.2.command
    | .error _ => []) h
  exact absurd hcmd (by decide)

end McpConfig
