import Mathlib.Data.List.Forall2
import McpGateway.ConfigRoundTrip

/-! # `merge_configs`

    `merge_configs(base, override)` dumps `base` whole and `override` with
    `exclude_unset=True`, updates the dumped backends of `base` key by key with
    those of `override` and then the other fields with the ones `override`
    set, and loads the result again with `GatewayConfig.from_dict`.

    `exclude_unset` reads an instance's `model_fields_set`, so the override is
    a `GatewayModel`: a configuration with the fields its constructor was
    given, and the same for each of its backends.  pydantic leaves every field
    a constructor was not given at its default.

    * `dictUpdate_filter`: updating a dict with those entries of a dict of the
      same keys that pass a test takes those entries and keeps the others.
    * `BackendModel.validate_dumpUnset`: a backend dumped with `exclude_unset`
      validates as if dumped whole, since validation puts back the defaults
      the dump left out.
    * `mergeConfigs_eq_mergedConfig`: `merge_configs` takes each gateway-level
      field from `override` when it set the field and from `base` otherwise,
      and the backends of `base` updated key by key with those of `override`,
      each renamed to its key and with `expand_env_vars` applied once more. -/

namespace McpConfig

open McpJson

variable {py : PyLib} {E : Environ}

/-! ## Instances and `exclude_unset` -/

/-- What `model_dump()` writes for each `BackendConfig` field left at its
    default; `name` has none. -/
def backendDefaults : List (String × Json) :=
  [("description", .str ""), ("command", .null), ("http_url", .null), ("env", .obj []),
    ("headers", .obj []), ("cwd", .null), ("idle_timeout", .float 300), ("enabled", .bool true)]

/-- What `model_dump()` writes for each `GatewayConfig` field left at its
    default. -/
def gatewayDefaults : List (String × Json) :=
  [("host", .str "127.0.0.1"), ("port", .int 39400), ("enable_meta_mcp", .bool true),
    ("backends", .obj []), ("log_level", .str "INFO"), ("health_check_interval", .float 30),
    ("request_timeout", .float 30)]

/-- A `BackendConfig` instance: the validated fields and `model_fields_set`,
    the fields its constructor was given.  Every other field holds its
    default. -/
structure BackendModel where
  config : BackendConfig
  fieldsSet : List String
  unset_default : ∀ kv ∈ config.modelDump, kv.1 ∉ fieldsSet → find? backendDefaults kv.1 = some kv.2

/-- A `GatewayConfig` instance with `model_fields_set`; its backends are
    instances too. -/
structure GatewayModel where
  config : GatewayConfig
  fieldsSet : List String
  backendModels : List (String × BackendModel)
  backends_eq : config.backends = backendModels.map fun kb => (kb.1, kb.2.config)
  unset_default : ∀ kv ∈ config.modelDump, kv.1 ∉ fieldsSet → find? gatewayDefaults kv.1 = some kv.2

/-- `BackendConfig.model_dump(exclude_unset=True)`. -/
def BackendModel.dumpUnset (b : BackendModel) : List (String × Json) :=
  b.config.modelDump.filter fun kv => kv.1 ∈ b.fieldsSet

/-- `GatewayConfig.model_dump(exclude_unset=True)`: the fields set, each
    backend dumped the same way. -/
def GatewayModel.dumpUnset (g : GatewayModel) : List (String × Json) :=
  (setField g.config.modelDump "backends"
      (.obj (g.backendModels.map fun kb => (kb.1, .obj kb.2.dumpUnset)))).filter
    fun kv => kv.1 ∈ g.fieldsSet

/-- `create_default_config()`: `GatewayConfig()`, no field set. -/
def createDefaultConfig : GatewayModel where
  config := ⟨"127.0.0.1", 39400, true, [], .INFO, 30, 30, by decide, by decide, by decide⟩
  fieldsSet := []
  backendModels := []
  backends_eq := rfl
  unset_default := by
    intro kv hkv _
    simp only [GatewayConfig.modelDump, List.map_nil, List.mem_cons, List.mem_nil_iff, or_false] at hkv
    rcases hkv with rfl | rfl | rfl | rfl | rfl | rfl | rfl <;> rfl

/-! ## `merge_configs` -/

/-- `d.update(other)`: `d[k] = v` for each item of `other`, in order. -/
def dictUpdate (d other : List (String × Json)) : List (String × Json) :=
  other.foldl (fun d kv => setField d kv.1 kv.2) d

/-- `merge_configs(base, override)`.  Both dumps hold their `backends` as
    dicts, so `base_dict["backends"].update(...)` always applies. -/
def mergeConfigs (py : PyLib) (E : Environ) (base : GatewayConfig) (override : GatewayModel) :
    Except PyExc GatewayConfig :=
  let baseDict := base.modelDump
  let overrideDict := override.dumpUnset
  match find? overrideDict "backends", find? baseDict "backends" with
  | some (.obj ob), some (.obj bb) =>
      fromDict py E (dictUpdate (setField baseDict "backends" (.obj (dictUpdate bb ob)))
        (overrideDict.filter fun kv => kv.1 ≠ "backends"))
  | _, _ => fromDict py E (dictUpdate baseDict overrideDict)

/-! ## What `merge_configs` returns -/

/-- `d` with the first entry of key `kv.1` replaced by `kv`, or `kv`
    appended. -/
def setKey {α : Type} : List (String × α) → String × α → List (String × α)
  | [], kv => [kv]
  | e :: d, kv => if e.1 = kv.1 then kv :: d else e :: setKey d kv

/-- `base` updated key by key with `over`. -/
def updateKeys {α : Type} (base over : List (String × α)) : List (String × α) :=
  over.foldl setKey base

/-- The configuration `merge_configs(base, override)` returns: each
    gateway-level field from `override` when it set the field, from `base`
    otherwise; as backends, those of `base` updated key by key with those of
    `override`, each named by its key and with `expand_env_vars` applied once
    more. -/
def mergedConfig (E : Environ) (base : GatewayConfig) (o : GatewayModel) : GatewayConfig where
  host := if "host" ∈ o.fieldsSet then o.config.host else base.host
  port := if "port" ∈ o.fieldsSet then o.config.port else base.port
  enableMetaMcp := if "enable_meta_mcp" ∈ o.fieldsSet then o.config.enableMetaMcp else base.enableMetaMcp
  backends := (updateKeys base.backends o.config.backends).map fun kb =>
    (kb.1, BackendConfig.reexpand E { kb.2 with name := kb.1 })
  logLevel := if "log_level" ∈ o.fieldsSet then o.config.logLevel else base.logLevel
  healthCheckInterval :=
    if "health_check_interval" ∈ o.fieldsSet then o.config.healthCheckInterval else base.healthCheckInterval
  requestTimeout := if "request_timeout" ∈ o.fieldsSet then o.config.requestTimeout else base.requestTimeout
  port_range := by split; exacts [o.config.port_range, base.port_range]
  health_ge := by split; exacts [o.config.health_ge, base.health_ge]
  request_ge := by split; exacts [o.config.request_ge, base.request_ge]

/-! ## Dicts -/

theorem find?_append (d D : List (String × Json)) (key : String) :
    find? (d ++ D) key = (find? d key).or (find? D key) := by
  induction d with
  | nil => rfl
  | cons kv d ih =>
      obtain ⟨k, v⟩ := kv
      by_cases h : k = key <;> simp [find?, h, ih]

theorem find?_eq_none_iff (l : List (String × Json)) (key : String) :
    find? l key = none ↔ key ∉ l.map Prod.fst := by
  induction l with
  | nil => simp [find?]
  | cons kv l ih =>
      obtain ⟨k, v⟩ := kv
      by_cases h : k = key
      · simp [find?, h]
      · simp only [find?, h, if_false, ih, List.map_cons, List.mem_cons, not_or, iff_and_self]
        exact fun _ e => h e.symm

theorem mem_of_find? {l : List (String × Json)} {key : String} {v : Json} (h : find? l key = some v) :
    (key, v) ∈ l := by
  induction l with
  | nil => cases h
  | cons kv l ih =>
      obtain ⟨k, w⟩ := kv
      unfold find? at h
      split at h
      · cases h; subst ‹k = key›; exact List.mem_cons_self _ _
      · exact List.mem_cons_of_mem _ (ih h)

theorem find?_cons_congr {k key : String} {v : Json} {l₁ l₂ : List (String × Json)}
    (h : k ≠ key → find? l₁ key = find? l₂ key) : find? ((k, v) :: l₁) key = find? ((k, v) :: l₂) key := by
  by_cases hk : k = key <;> simp [find?, hk, h]

theorem find?_filter_mem (l : List (String × Json)) (S : List String) (key : String) :
    find? (l.filter fun kv => kv.1 ∈ S) key = if key ∈ S then find? l key else none := by
  induction l with
  | nil => simp [find?]
  | cons kv l ih =>
      obtain ⟨k, v⟩ := kv
      by_cases hk : k = key
      · subst hk
        by_cases hS : k ∈ S <;> simp [find?, hS, ih]
      · rw [List.filter_cons]
        split <;> simp [find?, hk, ih]

/-- Updating a dict at keys it lacks leaves its first entry in front. -/
theorem dictUpdate_cons {x : String × Json} {d : List (String × Json)} :
    ∀ {other : List (String × Json)}, (∀ kv ∈ other, kv.1 ≠ x.1) →
      dictUpdate (x :: d) other = x :: dictUpdate d other
  | [], _ => rfl
  | kv :: other, h => by
      obtain ⟨k, v⟩ := x
      have hk : k ≠ kv.1 := fun e => h kv (List.mem_cons_self _ _) e.symm
      show dictUpdate (setField ((k, v) :: d) kv.1 kv.2) other = _
      rw [setField, if_neg hk]
      exact dictUpdate_cons fun kv' hkv' => h kv' (List.mem_cons_of_mem _ hkv')

/-- **UPDATE BY A FILTERED DICT**: updating a dict with those entries of a
    dict of the same keys that pass `p` takes, key by key, the entry of the
    second dict when it passes and keeps the first's otherwise. -/
theorem dictUpdate_filter (p : String × Json → Bool) :
    ∀ {d₁ d₂ : List (String × Json)}, d₁.map Prod.fst = d₂.map Prod.fst → (d₂.map Prod.fst).Nodup →
      dictUpdate d₁ (d₂.filter p) = List.zipWith (fun a b => if p b then b else a) d₁ d₂
  | [], [], _, _ => rfl
  | [], _ :: _, hk, _ => by cases hk
  | _ :: _, [], hk, _ => by cases hk
  | (ak, av) :: d₁, (bk, bv) :: d₂, hk, hn => by
      simp only [List.map_cons, List.cons.injEq] at hk
      obtain ⟨rfl, hk⟩ := hk
      rw [List.map_cons, List.nodup_cons] at hn
      have hn1 : ak ∉ d₂.map Prod.fst := hn.1
      have hb : ∀ kv ∈ d₂.filter p, kv.1 ≠ ak := fun kv hkv e =>
        hn1 (e ▸ List.mem_map_of_mem Prod.fst (List.mem_of_mem_filter hkv))
      rw [List.filter_cons, List.zipWith_cons_cons]
      split
      · next hp =>
          show dictUpdate (setField ((ak, av) :: d₁) ak bv) (d₂.filter p) = _
          rw [setField, if_pos rfl, dictUpdate_cons hb, dictUpdate_filter p hk hn.2]
      · next hp =>
          rw [dictUpdate_cons hb, dictUpdate_filter p hk hn.2]

/-! ## A backend dumped with `exclude_unset` -/

/-- Validation reads a backend entry only through `find?`. -/
theorem BackendConfig.validate_congr {d₁ d₂ : List (String × Json)} (h : ∀ key, find? d₁ key = find? d₂ key) :
    BackendConfig.validate py E d₁ = BackendConfig.validate py E d₂ := by
  simp only [BackendConfig.validate, requiredField, fieldOr, h]

theorem fieldOr_append_defaults {α : Type} (d : List (String × Json)) (key : String) (dflt : α)
    (coerce : Json → Except PyExc α) {v : Json} (hv : find? backendDefaults key = some v)
    (hc : coerce v = .ok dflt) : fieldOr (d ++ backendDefaults) key dflt coerce = fieldOr d key dflt coerce := by
  unfold fieldOr
  rw [find?_append, hv]
  cases find? d key <;> simp [hc]

theorem expandEnv_append_defaults (d : List (String × Json)) (key : String)
    (hv : find? backendDefaults key = some .null) :
    expandEnv E (find? (d ++ backendDefaults) key) = expandEnv E (find? d key) := by
  rw [find?_append, hv]
  cases find? d key <;> rfl

theorem expandDictValues_append_defaults (d : List (String × Json)) (key : String)
    (hv : find? backendDefaults key = some (.obj [])) :
    expandDictValues py E (find? (d ++ backendDefaults) key) = expandDictValues py E (find? d key) := by
  rw [find?_append, hv]
  cases find? d key <;> rfl

/-- Validation takes an absent field as its default. -/
theorem BackendConfig.validate_append_defaults (d : List (String × Json)) :
    BackendConfig.validate py E (d ++ backendDefaults) = BackendConfig.validate py E d := by
  unfold BackendConfig.validate requiredField
  rw [find?_append d backendDefaults "name", show find? backendDefaults "name" = none from rfl,
    Option.or_none, fieldOr_append_defaults d "description" "" _ rfl rfl,
    expandEnv_append_defaults d "command" rfl, expandEnv_append_defaults d "http_url" rfl,
    expandDictValues_append_defaults d "env" rfl, expandDictValues_append_defaults d "headers" rfl,
    expandEnv_append_defaults d "cwd" rfl, fieldOr_append_defaults d "idle_timeout" 300 _ rfl rfl,
    fieldOr_append_defaults d "enabled" true _ rfl rfl]

/-- A dump filtered by `kv.1 ∈ S`, with `D` after it, reads as the whole dump,
    when `D` holds every entry left out and no key the dump lacks. -/
theorem find?_filter_append {l D : List (String × Json)} {S : List String}
    (hl : ∀ kv ∈ l, kv.1 ∉ S → find? D kv.1 = some kv.2) (hD : D.map Prod.fst = l.map Prod.fst)
    (key : String) : find? (l.filter (fun kv => kv.1 ∈ S) ++ D) key = find? l key := by
  rw [find?_append, find?_filter_mem]
  cases h : find? l key with
  | none =>
      have hD' : find? D key = none := by rw [find?_eq_none_iff, hD]; exact (find?_eq_none_iff _ _).1 h
      split <;> simp [hD']
  | some v =>
      split
      · rfl
      · exact hl _ (mem_of_find? h) ‹_›

theorem BackendModel.name_mem (b : BackendModel) : "name" ∈ b.fieldsSet := by
  by_contra h
  exact absurd (b.unset_default ("name", .str b.config.name) (List.mem_cons_self _ _) h)
    (by simp [backendDefaults, find?])

theorem BackendModel.find?_dumpUnset (b : BackendModel) (k key : String) :
    find? (setField b.dumpUnset "name" (.str k) ++ backendDefaults) key =
      find? (setField b.config.modelDump "name" (.str k)) key := by
  have hrest := fun kv hkv => b.unset_default kv (List.mem_cons_of_mem _ hkv)
  rw [BackendModel.dumpUnset, BackendConfig.modelDump, List.filter_cons_of_pos (by simpa using b.name_mem)]
  simp only [setField, if_true, List.cons_append]
  exact find?_cons_congr fun _ => find?_filter_append hrest rfl key

/-- **EXCLUDE_UNSET IS HARMLESS**: a backend instance dumped with
    `exclude_unset` and named `k` validates to the backend named `k`, with
    `expand_env_vars` applied once more: validation puts back every default
    the dump left out. -/
theorem BackendModel.validate_dumpUnset (b : BackendModel) (k : String) :
    BackendConfig.validate py E (setField b.dumpUnset "name" (.str k)) =
      .ok (BackendConfig.reexpand E { b.config with name := k }) := by
  rw [← BackendConfig.validate_append_defaults, BackendConfig.validate_congr (b.find?_dumpUnset k)]
  exact BackendConfig.validate_modelDump { b.config with name := k }

/-! ## The backends, key by key -/

/-- A dumped backend entry and the backend `from_dict` makes of it. -/
def Validates (py : PyLib) (E : Environ) (e : String × Json) (kb : String × BackendConfig) : Prop :=
  e.1 = kb.1 ∧ ∃ kvs, e.2 = .obj kvs ∧ BackendConfig.validate py E (setField kvs "name" (.str e.1)) = .ok kb.2

theorem validateBackends_of_forall₂ {es : List (String × Json)} {bs : List (String × BackendConfig)}
    (h : List.Forall₂ (Validates py E) es bs) : validateBackends py E es = .ok bs := by
  induction h with
  | nil => rfl
  | @cons e kb _ _ he _ ih =>
      obtain ⟨k, v⟩ := e
      obtain ⟨k', b⟩ := kb
      obtain ⟨hk, kvs, hkvs, hv⟩ := he
      dsimp only at hk hkvs hv
      subst hk hkvs
      simp only [validateBackends, hv, ih, ok_bind]
      rfl

/-- `d[k] = v` on the dumps is `setKey` on the backends. -/
theorem forall₂_setField {d₁ : List (String × Json)} {d₂ : List (String × BackendConfig)}
    (h : List.Forall₂ (Validates py E) d₁ d₂) {e₁ : String × Json} {e₂ : String × BackendConfig}
    (he : Validates py E e₁ e₂) : List.Forall₂ (Validates py E) (setField d₁ e₁.1 e₁.2) (setKey d₂ e₂) := by
  induction h with
  | nil => exact .cons he .nil
  | @cons a b d₁ d₂ hab _ ih =>
      obtain ⟨ak, av⟩ := a
      have hk : ak = b.1 := hab.1
      simp only [setField, setKey]
      by_cases hc : ak = e₁.1
      · rw [if_pos hc, if_pos (hk.symm.trans (hc.trans he.1))]
        exact .cons (hc ▸ he) ‹_›
      · rw [if_neg hc, if_neg fun e => hc (hk.trans (e.trans he.1.symm))]
        exact .cons hab ih

/-- `dict.update` on the dumps is `updateKeys` on the backends. -/
theorem forall₂_dictUpdate {d₁ u₁ : List (String × Json)} {d₂ u₂ : List (String × BackendConfig)}
    (h : List.Forall₂ (Validates py E) d₁ d₂) (hu : List.Forall₂ (Validates py E) u₁ u₂) :
    List.Forall₂ (Validates py E) (dictUpdate d₁ u₁) (updateKeys d₂ u₂) := by
  induction hu generalizing d₁ d₂ with
  | nil => exact h
  | cons he _ ih => exact ih (forall₂_setField h he)

theorem setKey_map {α β : Type} (g : String × α → String × β) (hg : ∀ kv, (g kv).1 = kv.1)
    (d : List (String × α)) (kv : String × α) : setKey (d.map g) (g kv) = (setKey d kv).map g := by
  induction d with
  | nil => rfl
  | cons e d ih =>
      simp only [List.map_cons, setKey, hg]
      split <;> simp [ih]

theorem updateKeys_map {α β : Type} (g : String × α → String × β) (hg : ∀ kv, (g kv).1 = kv.1)
    (d u : List (String × α)) : updateKeys (d.map g) (u.map g) = (updateKeys d u).map g := by
  induction u generalizing d with
  | nil => rfl
  | cons kv u ih =>
      simp only [updateKeys, List.map_cons, List.foldl_cons] at ih ⊢
      rw [setKey_map g hg, ih]

/-! ## The merged configuration -/

theorem ite_entry {α : Type} (c : Prop) [Decidable c] (k : String) (f : α → Json) (x y : α) :
    (if c then (k, f x) else (k, f y)) = (k, f (if c then x else y)) := by
  split <;> rfl

/-- The dict `merge_configs` loads is the dump of `mergedConfig`, but for
    its `backends`. -/
theorem dictUpdate_dumps (E : Environ) (base : GatewayConfig) (o : GatewayModel) (X : Json) :
    dictUpdate (setField base.modelDump "backends" X) (o.dumpUnset.filter fun kv => kv.1 ≠ "backends") =
      setField (mergedConfig E base o).modelDump "backends" X := by
  rw [GatewayModel.dumpUnset, List.filter_filter, dictUpdate_filter _ ?hk ?hn]
  case hk => rfl
  case hn => simp [GatewayConfig.modelDump, setField]
  simp only [GatewayConfig.modelDump, setField, mergedConfig, String.reduceEq, ↓reduceIte,
    List.zipWith_cons_cons, List.zipWith_nil_left, decide_not, decide_True, decide_False,
    Bool.not_true, Bool.not_false, Bool.true_and, Bool.false_and, Bool.false_eq_true,
    decide_eq_true_eq, ite_entry, apply_ite LogLevel.text]

/-- Loading a gateway dump whose `backends` validate to `bs` gives the
    configuration with `bs`. -/
theorem fromDict_setField_backends (c : GatewayConfig) {es : List (String × Json)}
    {bs : List (String × BackendConfig)} (h : validateBackends py E es = .ok bs) :
    fromDict py E (setField c.modelDump "backends" (.obj es)) = .ok { c with backends := bs } := by
  have hraw : backendsRaw (setField c.modelDump "backends" (.obj es)) = .obj es := by
    cases es <;> simp [backendsRaw, GatewayConfig.modelDump, setField, find?, truthy, Option.filter]
  have hset : ((setField c.modelDump "backends" (.obj es)).filter
      fun kv => kv.1 ≠ "backends" && kv.1 ≠ "servers") =
      c.modelDump.filter fun kv => kv.1 ≠ "backends" && kv.1 ≠ "servers" := by
    simp [GatewayConfig.modelDump, setField]
  simp only [fromDict, hraw, items, h, ok_bind, hset]
  exact GatewayConfig.validate_modelDump c bs

/-- An instance that did not set `backends` holds none. -/
theorem GatewayModel.backendModels_nil (o : GatewayModel) (h : "backends" ∉ o.fieldsSet) :
    o.backendModels = [] := by
  have hd := o.unset_default ("backends", .obj (o.config.backends.map fun kb => (kb.1, .obj kb.2.modelDump)))
    (List.mem_cons_of_mem _ (List.mem_cons_of_mem _ (List.mem_cons_of_mem _ (List.mem_cons_self _ _)))) h
  have hm := (Json.obj.inj (Option.some.inj hd)).symm
  rw [List.map_eq_nil_iff, o.backends_eq, List.map_eq_nil_iff] at hm
  exact hm

/-- Both branches of `merge_configs` load the same dict: without
    `backends` in the override's dump, the override holds no backends. -/
theorem mergeConfigs_eq_fromDict (base : GatewayConfig) (o : GatewayModel) :
    mergeConfigs py E base o = fromDict py E (dictUpdate
      (setField base.modelDump "backends" (.obj (dictUpdate (base.backends.map fun kb => (kb.1, .obj kb.2.modelDump))
        (o.backendModels.map fun kb => (kb.1, .obj kb.2.dumpUnset)))))
      (o.dumpUnset.filter fun kv => kv.1 ≠ "backends")) := by
  have hb : find? o.dumpUnset "backends" = if "backends" ∈ o.fieldsSet
      then some (.obj (o.backendModels.map fun kb => (kb.1, .obj kb.2.dumpUnset))) else none := by
    rw [GatewayModel.dumpUnset, find?_filter_mem, find?_setField_self]
  unfold mergeConfigs
  dsimp only
  by_cases hS : "backends" ∈ o.fieldsSet
  · rw [hb, if_pos hS]
    rfl
  · rw [hb, if_neg hS]
    have hf : (o.dumpUnset.filter fun kv => kv.1 ≠ "backends") = o.dumpUnset :=
      List.filter_eq_self.2 fun kv hkv => by
        have hkS := (List.mem_filter.1 hkv).2
        simp only [decide_eq_true_eq] at hkS ⊢
        exact fun h => hS (h ▸ hkS)
    rw [hf, o.backendModels_nil hS]
    rfl

/-- **MERGE**: `merge_configs(base, override)` succeeds and returns, for
    each gateway-level field, the value `override` set and otherwise that of
    `base`; its backends are those of `base` updated key by key with those of
    `override`, each renamed to its key and with `expand_env_vars` applied once
    more to its command, URL, working directory and `env` and `headers`
    values. -/
theorem mergeConfigs_eq_mergedConfig (py : PyLib) (E : Environ) (base : GatewayConfig) (o : GatewayModel) :
    mergeConfigs py E base o = .ok (mergedConfig E base o) := by
  let g : String × BackendConfig → String × BackendConfig :=
    fun kb => (kb.1, BackendConfig.reexpand E { kb.2 with name := kb.1 })
  have hbase : List.Forall₂ (Validates py E) (base.backends.map fun kb => (kb.1, .obj kb.2.modelDump))
      (base.backends.map g) := by
    rw [List.forall₂_map_left_iff, List.forall₂_map_right_iff]
    exact List.forall₂_same.2 fun kb _ =>
      ⟨rfl, _, rfl, BackendConfig.validate_modelDump { kb.2 with name := kb.1 }⟩
  have hover : List.Forall₂ (Validates py E) (o.backendModels.map fun kb => (kb.1, .obj kb.2.dumpUnset))
      (o.config.backends.map g) := by
    rw [o.backends_eq, List.map_map, List.forall₂_map_left_iff, List.forall₂_map_right_iff]
    exact List.forall₂_same.2 fun kb _ => ⟨rfl, _, rfl, kb.2.validate_dumpUnset kb.1⟩
  have hv := validateBackends_of_forall₂ (forall₂_dictUpdate hbase hover)
  rw [updateKeys_map g (fun _ => rfl)] at hv
  rw [mergeConfigs_eq_fromDict, dictUpdate_dumps E]
  exact fromDict_setField_backends _ hv

/-- Merging `GatewayConfig()` into a configuration loaded from
    `command: ${A}`, with `A=$B` and `B=x`, turns the backend's command from
    `$B` into `x`. -/
theorem mergeConfigs_changes_backend :
    ∃ base m, fromDict PyLib.ascii chainedEnv chainedData = .ok base ∧
      mergeConfigs PyLib.ascii chainedEnv base createDefaultConfig = .ok m ∧
      m.backends.map (·.2.command) ≠ base.backends.map (·.2.command) :=
  ⟨_, _, rfl, rfl, by decide⟩

end McpConfig
