import McpGateway.Merge

/-! # The configuration `main` runs with

    `main` loads the configuration file with `GatewayConfig.from_yaml`, or
    takes `GatewayConfig()` when no file is given, and then applies
    `--port`, `--host`, `--log-level` and `--no-meta-mcp` with
    `model_copy(update=...)`.  pydantic does not validate such an update, so
    the bounds of `GatewayConfig` hold of the result only as far as the
    options respect them; `--log-level` is limited to the four levels by
    `argparse`, while `--port` takes any integer.

    * `mainConfig_valid_iff`: the configuration `main` runs with satisfies
      every bound of `GatewayConfig` exactly when the `--port` given, if any,
      lies in 1..65535. -/

namespace McpCli

open McpJson McpConfig

/-- `GatewayConfig.from_yaml(path)`: a missing file raises
    `FileNotFoundError`; otherwise what `yaml.safe_load` returns goes to
    `from_dict`, whose first step is `data.items()`, so an empty file
    (`None`) raises `AttributeError`. -/
def fromYaml (py : PyLib) (E : Environ) (path : String) (file : Option Json) : Except PyExc GatewayConfig :=
  match file with
  | none => .error ⟨.oSError, "Config file not found: " ++ path⟩
  | some raw => do fromDict py E (← items raw)

/-- The options of `parse_args()` that `main` reads for the configuration;
    `--log-level` is one of the four `choices`. -/
structure Args where
  config : Option String
  port : Option Int
  host : Option String
  logLevel : Option LogLevel
  noMetaMcp : Bool

/-- A `GatewayConfig` as `model_copy(update=...)` leaves it: its fields,
    with nothing checked. -/
structure Settings where
  host : String
  port : Int
  enableMetaMcp : Bool
  backends : List (String × BackendConfig)
  logLevel : LogLevel
  healthCheckInterval : ℚ
  requestTimeout : ℚ

/-- The fields of a validated configuration. -/
def settingsOf (c : GatewayConfig) : Settings :=
  ⟨c.host, c.port, c.enableMetaMcp, c.backends, c.logLevel, c.healthCheckInterval, c.requestTimeout⟩

/-- The bounds the `Field` constraints of `GatewayConfig` impose. -/
def Settings.Valid (s : Settings) : Prop :=
  (1 ≤ s.port ∧ s.port ≤ 65535) ∧ 1 ≤ s.healthCheckInterval ∧ 1 ≤ s.requestTimeout

instance (s : Settings) : Decidable s.Valid := inferInstanceAs (Decidable (_ ∧ _ ∧ _))

/-- The `model_copy(update=...)` calls of `main`, for each option given. -/
def overrides (args : Args) (s : Settings) : Settings :=
  let s := match args.port with
    | some p => { s with port := p }
    | none => s
  let s := match args.host with
    | some h => { s with host := h }
    | none => s
  let s := match args.logLevel with
    | some l => { s with logLevel := l }
    | none => s
  if args.noMetaMcp then { s with enableMetaMcp := false } else s

/-- The configuration `main` builds the gateway from, given the files that
    exist (what `yaml.safe_load` reads from each); `none` when the file named
    by `--config` does not exist and `main` returns 1. -/
def mainConfig (py : PyLib) (E : Environ) (args : Args) (files : String → Option Json) :
    Except PyExc (Option Settings) :=
  match args.config with
  | some path =>
      match files path with
      | none => .ok none
      | some raw => (fun c => some (overrides args (settingsOf c))) <$> fromYaml py E path (some raw)
  | none => .ok (some (overrides args (settingsOf createDefaultConfig.config)))

/-- Each option given replaces its field; nothing else changes. -/
theorem overrides_eq (args : Args) (s : Settings) :
    overrides args s =
      { s with
        port := args.port.getD s.port, host := args.host.getD s.host,
        logLevel := args.logLevel.getD s.logLevel, enableMetaMcp := s.enableMetaMcp && !args.noMetaMcp } := by
  rcases args with ⟨_, _ | _, _ | _, _ | _, _ | _⟩ <;> simp [overrides]

theorem settingsOf_valid (c : GatewayConfig) : (settingsOf c).Valid := ⟨c.port_range, c.health_ge, c.request_ge⟩

theorem overrides_valid_iff (args : Args) (c : GatewayConfig) :
    (overrides args (settingsOf c)).Valid ↔ ∀ p ∈ args.port, 1 ≤ p ∧ p ≤ 65535 := by
  have hc := settingsOf_valid c
  rw [overrides_eq]
  cases args.port with
  | none => exact iff_of_true hc fun _ h => nomatch h
  | some p => exact ⟨fun h _ hp => Option.some.inj hp ▸ h.1, fun h => ⟨h p rfl, hc.2⟩⟩

/-- **OVERRIDES ARE NOT VALIDATED**: whatever the configuration file holds,
    the configuration `main` runs with satisfies every bound of
    `GatewayConfig` exactly when the `--port` given, if any, lies in
    1..65535; `--port 0` or `--port 70000` reaches the server unchecked. -/
theorem mainConfig_valid_iff {py : PyLib} {E : Environ} {args : Args} {files : String → Option Json}
    {s : Settings} (h : mainConfig py E args files = .ok (some s)) :
    s.Valid ↔ ∀ p ∈ args.port, 1 ≤ p ∧ p ≤ 65535 := by
  unfold mainConfig at h
  split at h
  · split at h
    · cases h
    · cases hc : fromYaml py E _ (some _) with
      | error e => rw [hc] at h; cases h
      | ok c =>
          rw [hc] at h
          cases h
          exact overrides_valid_iff args c
  · cases h
    exact overrides_valid_iff args _

/-- `mcp-gateway --port 0` with no configuration file. -/
def portZero : Args := ⟨none, some 0, none, none, false⟩

theorem mainConfig_port_zero :
    mainConfig PyLib.ascii (fun _ => none) portZero (fun _ => none) =
        .ok (some (overrides portZero (settingsOf createDefaultConfig.config))) ∧
      ¬(overrides portZero (settingsOf createDefaultConfig.config)).Valid :=
  ⟨rfl, fun hv => absurd ((@mainConfig_valid_iff PyLib.ascii (fun _ => none) portZero (fun _ => none) _ rfl).1
    hv 0 rfl) (by decide)⟩

end McpCli
