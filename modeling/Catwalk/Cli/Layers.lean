import Catwalk.Cli.EnvFile
import Catwalk.Cli.Settings

/-! Where a setting comes from: flags over the shell's environment over the
settings file, and what the server that `start` spawns makes of it. -/

namespace Catwalk.Cli

/-- The options of `_serve_parser`. -/
structure Flags where
  envFile : Option Text := none
  host : Option Text := none
  port : Option Int := none
  mock : Bool := false
  endpoint : Option Text := none
  accessKey : Option Text := none
  secretKey : Option Text := none
  dataEndpoints : Option Text := none
  autoEndpoints : Bool := false
  vmsAddress : Option Text := none
  vmsUser : Option Text := none
  vmsPassword : Option Text := none

/-- The files a command finds, and what `expanduser` makes of a path. -/
structure Disk where
  isFile : Text → Option Text
  expanduser : Environ → Text → Text

/-- How a command ends before it has a configuration. -/
inductive Exit
  | envFileNotFound (path : Text)
  | malformed (line : Malformed)
  | config (failure : Failure)

def stateDir (disk : Disk) (environ : Environ) : Text :=
  disk.expanduser environ ((env environ "CATWALK_STATE_DIR").getD "~/.catwalk".toList)

/-- `env_file` -/
def defaultEnvFile (disk : Disk) (environ : Environ) : Text :=
  stateDir disk environ ++ "/catwalk.env".toList

namespace Environ

def set (environ : Environ) (key value : Text) : Environ :=
  Function.update environ key (some value)

/-- `os.environ.setdefault` -/
def setDefault (environ : Environ) (entry : Text × Text) : Environ :=
  if (environ entry.1).isSome then environ else environ.set entry.1 entry.2

def setDefaults (environ : Environ) (entries : OrderedDict Text Text) : Environ :=
  entries.entries.foldl setDefault environ

/-- One round of the loop over `overrides`. -/
def override (environ : Environ) (entry : String × Option Text) : Environ :=
  match entry.2 with
  | none => environ
  | some value => environ.set entry.1.toList value

end Environ

/-- An empty `--env-file` is none. -/
def Named (explicit : Option Text) : Prop :=
  ∃ path, explicit = some path ∧ path ≠ []

instance Named.decidable : (explicit : Option Text) → Decidable (Named explicit)
  | none => .isFalse (by simp [Named])
  | some path => decidable_of_iff (path ≠ []) (by simp [Named])

def envFilePath (disk : Disk) (environ : Environ) (explicit : Option Text) : Text :=
  if Named explicit then disk.expanduser environ (explicit.getD [])
  else defaultEnvFile disk environ

/-- `_apply_env_file` -/
def applyEnvFile (disk : Disk) (environ : Environ) (explicit : Option Text) :
    Except Exit (Environ × Option Text) :=
  let path := envFilePath disk environ explicit
  match disk.isFile path with
  | none =>
      if Named explicit then .error (.envFileNotFound path)
      else .ok (environ, none)
  | some text => do
      let entries ← (loadEnvFile path text).mapError .malformed
      .ok (environ.setDefaults entries, some path)

def overrides (flags : Flags) : List (String × Option Text) :=
  [("CATWALK_HOST", flags.host),
    ("CATWALK_PORT", flags.port.map fun port => (toString port).toList),
    ("CATWALK_MOCK", if flags.mock then some ['1'] else none),
    ("VASTDB_ENDPOINT", flags.endpoint),
    ("VASTDB_ACCESS_KEY", flags.accessKey),
    ("VASTDB_SECRET_KEY", flags.secretKey),
    ("VASTDB_DATA_ENDPOINTS", flags.dataEndpoints),
    ("CATWALK_AUTO_ENDPOINTS", if flags.autoEndpoints then some ['1'] else none),
    ("VMS_ADDRESS", flags.vmsAddress),
    ("VMS_USER", flags.vmsUser),
    ("VMS_PASSWORD", flags.vmsPassword)]

def applyFlagOverrides (environ : Environ) (flags : Flags) : Environ :=
  (overrides flags).foldl .override environ

/-- How `cmd_run` and `cmd_start` come to their configuration; the environment
is what the process goes on with and what a child of it inherits. -/
def configure (python : Python) (disk : Disk) (environ : Environ) (flags : Flags) :
    Except Exit (Environ × Config) := do
  let (environ, _) ← applyEnvFile disk environ flags.envFile
  let environ := applyFlagOverrides environ flags
  let cfg ← (loadConfig python environ).mapError .config
  .ok (environ, cfg)

/-- `python -m catwalk run`, spawned with the environment of its parent. -/
def spawned (python : Python) (disk : Disk) (environ : Environ) :
    Except Exit (Environ × Config) :=
  configure python disk environ {}

/-! Layers. -/

theorem lookup_cons_fst {Key Value : Type} [DecidableEq Key]
    (entry : Key × Value) (rest : List (Key × Value)) :
    (entry :: rest).lookup entry.1 = some entry.2 := by
  obtain ⟨name, value⟩ := entry
  rw [List.lookup_cons, beq_self_eq_true]

theorem lookup_cons_of_ne {Key Value : Type} [DecidableEq Key] {key : Key}
    {entry : Key × Value} (differs : key ≠ entry.1) (rest : List (Key × Value)) :
    (entry :: rest).lookup key = rest.lookup key := by
  obtain ⟨name, value⟩ := entry
  rw [List.lookup_cons, beq_eq_false_iff_ne.mpr differs]

namespace Environ

@[simp] theorem set_self (environ : Environ) (key value : Text) :
    environ.set key value key = some value := by
  simp [set]

theorem set_of_ne (environ : Environ) {changed key : Text} (differ : key ≠ changed)
    (value : Text) : environ.set changed value key = environ key := by
  simp [set, differ]

theorem setDefault_apply (environ : Environ) (entry : Text × Text) (key : Text) :
    environ.setDefault entry key =
      (environ key).or (if key = entry.1 then some entry.2 else none) := by
  unfold setDefault
  rcases eq_or_ne key entry.1 with rfl | differs
  · cases found : environ entry.1 with
    | none => simp
    | some value => exact found
  · rw [if_neg differs, Option.or_none]
    split
    · rfl
    · exact set_of_ne environ differs entry.2

theorem setDefaults_apply (environ : Environ) (entries : OrderedDict Text Text)
    (key : Text) :
    environ.setDefaults entries key = (environ key).or (entries.get? key) := by
  unfold setDefaults OrderedDict.get?
  induction entries.entries generalizing environ with
  | nil => simp
  | cons entry rest ih =>
      rw [List.foldl_cons, ih, setDefault_apply, Option.or_assoc]
      rcases eq_or_ne key entry.1 with rfl | differs
      · rw [if_pos rfl, lookup_cons_fst, Option.some_or, Option.or_some]
      · rw [if_neg differs, Option.none_or, lookup_cons_of_ne differs]

/-- Where all keys are set, a file changes nothing. -/
theorem setDefaults_eq_self {environ : Environ} {entries : OrderedDict Text Text}
    (all : ∀ key value, entries.get? key = some value → (environ key).isSome) :
    environ.setDefaults entries = environ := by
  funext key
  rw [setDefaults_apply]
  cases found : environ key with
  | some value => rfl
  | none =>
      cases stored : entries.get? key with
      | none => rfl
      | some value => simpa [found] using all key value stored

theorem override_apply (environ : Environ) (entry : String × Option Text)
    (name : String) :
    environ.override entry name.toList =
      if name = entry.1 then entry.2.or (environ name.toList)
      else environ name.toList := by
  obtain ⟨changed, value⟩ := entry
  cases value with
  | none => simp [override]
  | some value =>
      rcases eq_or_ne name changed with rfl | differs
      · simp [override]
      · rw [if_neg differs]
        exact set_of_ne environ (fun same => differs (String.toList_inj.mp same)) value

theorem foldl_override (entries : List (String × Option Text)) (environ : Environ)
    (nodup : (entries.map Prod.fst).Nodup) (name : String) :
    entries.foldl override environ name.toList =
      (entries.lookup name).join.or (environ name.toList) := by
  induction entries generalizing environ with
  | nil => rfl
  | cons entry rest ih =>
      obtain ⟨absent, nodup⟩ := List.nodup_cons.mp nodup
      rw [List.foldl_cons, ih _ nodup, override_apply]
      rcases eq_or_ne name entry.1 with rfl | differs
      · have nothing : rest.lookup entry.1 = none := by
          rw [List.lookup_eq_none_iff]
          intro other member
          rw [bne_iff_ne]
          rintro same
          exact absent (same ▸ List.mem_map_of_mem member)
        rw [lookup_cons_fst]
        simp [nothing]
      · rw [if_neg differs, lookup_cons_of_ne differs]

end Environ

theorem overrides_nodup (flags : Flags) : ((overrides flags).map Prod.fst).Nodup := by
  simp [overrides]

theorem applyFlagOverrides_apply (environ : Environ) (flags : Flags) (name : String) :
    applyFlagOverrides environ flags name.toList =
      ((overrides flags).lookup name).join.or (environ name.toList) :=
  Environ.foldl_override _ environ (overrides_nodup flags) name

/-- A flag leaves no setting unset that was set. -/
theorem isSome_foldl_override (entries : List (String × Option Text))
    {environ : Environ} {key : Text} (isSet : (environ key).isSome) :
    (entries.foldl Environ.override environ key).isSome := by
  induction entries generalizing environ with
  | nil => exact isSet
  | cons entry rest ih =>
      apply ih
      have applied := environ.override_apply entry (String.ofList key)
      rw [String.toList_ofList] at applied
      rw [applied]
      split
      · cases entry.2 with
        | none => exact isSet
        | some value => rfl
      · exact isSet

/-- What a settings file holds for a command, if there is one. -/
def FileEntries (disk : Disk) (path : Text) (entries : OrderedDict Text Text) : Prop :=
  match disk.isFile path with
  | none => entries = .empty
  | some text => loadEnvFile path text = .ok entries

theorem mapError_eq_ok {First Second Value : Type} {wrap : First → Second}
    {result : Except First Value} {value : Value} :
    result.mapError wrap = .ok value ↔ result = .ok value := by
  cases result <;> simp [Except.mapError]

theorem applyEnvFile_eq_ok {disk : Disk} {environ after : Environ}
    {explicit loaded : Option Text}
    (applied : applyEnvFile disk environ explicit = .ok (after, loaded)) :
    ∃ entries, FileEntries disk (envFilePath disk environ explicit) entries ∧
      after = environ.setDefaults entries := by
  unfold applyEnvFile at applied
  unfold FileEntries
  dsimp only at applied
  cases found : disk.isFile (envFilePath disk environ explicit) with
  | none =>
      rw [found] at applied
      dsimp only at applied
      split at applied
      · cases applied
      · cases applied
        exact ⟨.empty, rfl, rfl⟩
  | some text =>
      rw [found] at applied
      obtain ⟨entries, read, same⟩ := bind_eq_ok.mp applied
      cases same
      exact ⟨entries, mapError_eq_ok.mp read, rfl⟩

theorem applyEnvFile_default {disk : Disk} {environ : Environ}
    {entries : OrderedDict Text Text}
    (holds : FileEntries disk (defaultEnvFile disk environ) entries) :
    ∃ loaded, applyEnvFile disk environ none =
      .ok (environ.setDefaults entries, loaded) := by
  have unnamed : ¬ Named none := by simp [Named]
  have path : envFilePath disk environ none = defaultEnvFile disk environ :=
    if_neg unnamed
  unfold FileEntries at holds
  unfold applyEnvFile
  dsimp only
  rw [path]
  cases found : disk.isFile (defaultEnvFile disk environ) with
  | none =>
      rw [found] at holds
      rw [show entries = .empty from holds]
      exact ⟨none, if_neg unnamed⟩
  | some text =>
      rw [found] at holds
      exact ⟨_, bind_eq_ok.mpr ⟨entries, mapError_eq_ok.mpr holds, rfl⟩⟩

theorem configure_eq_ok {python : Python} {disk : Disk} {environ after : Environ}
    {flags : Flags} {cfg : Config} :
    configure python disk environ flags = .ok (after, cfg) ↔
      ∃ between loaded,
        applyEnvFile disk environ flags.envFile = .ok (between, loaded) ∧
        after = applyFlagOverrides between flags ∧
        loadConfig python after = .ok cfg := by
  unfold configure
  rw [bind_eq_ok]
  constructor
  · rintro ⟨⟨between, loaded⟩, applied, rest⟩
    obtain ⟨found, read, same⟩ := bind_eq_ok.mp rest
    cases same
    exact ⟨between, loaded, applied, rfl, mapError_eq_ok.mp read⟩
  · rintro ⟨between, loaded, applied, rfl, read⟩
    exact ⟨(between, loaded), applied,
      bind_eq_ok.mpr ⟨cfg, mapError_eq_ok.mpr read, rfl⟩⟩

/-- A setting is the flag's, else the shell's, else the file's.  The server that is
spawned keeps every one of them, and without `--env-file` it has the very
configuration that was validated before. -/
theorem configure_layers (python : Python) (disk : Disk) (environ after : Environ)
    (flags : Flags) (cfg : Config)
    (configured : configure python disk environ flags = .ok (after, cfg)) :
    cfg.Valid python ∧
    (∃ entries, FileEntries disk (envFilePath disk environ flags.envFile) entries ∧
      ∀ name : String, after name.toList = ((overrides flags).lookup name).join.or
        ((environ name.toList).or (entries.get? name.toList))) ∧
    (∀ served cfg', spawned python disk after = .ok (served, cfg') →
      ∀ key value, after key = some value → served key = some value) ∧
    (¬ Named flags.envFile →
      stateDir disk after = stateDir disk environ →
      spawned python disk after = .ok (after, cfg)) := by
  obtain ⟨between, loaded, applied, same, read⟩ := configure_eq_ok.mp configured
  obtain ⟨entries, holds, rfl⟩ := applyEnvFile_eq_ok applied
  have unflagged : ∀ other, applyFlagOverrides other {} = other := fun _ => rfl
  refine ⟨(loadConfig_eq_ok.mp read).2, ⟨entries, holds, ?_⟩, ?_, ?_⟩
  · intro name
    rw [same, applyFlagOverrides_apply, Environ.setDefaults_apply]
  · intro served cfg' spawns key value isSet
    obtain ⟨next, _, applied', same', _⟩ := configure_eq_ok.mp spawns
    obtain ⟨others, _, rfl⟩ := applyEnvFile_eq_ok applied'
    rw [same', unflagged, Environ.setDefaults_apply, isSet]
    rfl
  · intro implicit stays
    have again : FileEntries disk (defaultEnvFile disk after) entries := by
      rw [defaultEnvFile, stays, ← defaultEnvFile]
      rwa [envFilePath, if_neg implicit] at holds
    have set : after.setDefaults entries = after := by
      apply Environ.setDefaults_eq_self
      intro key value stored
      rw [same]
      apply isSome_foldl_override
      rw [Environ.setDefaults_apply, stored]
      cases environ key <;> rfl
    obtain ⟨path, applied'⟩ := applyEnvFile_default again
    rw [set] at applied'
    exact configure_eq_ok.mpr ⟨after, path, applied', (unflagged after).symm, read⟩

def stateFile : Text := "/state/catwalk.env".toList

def oneFile : Disk where
  isFile path :=
    if path = stateFile then some "CATWALK_PORT=9000\nCATWALK_MOCK=1\n".toList else none
  expanduser _ path :=
    if path = "~/.catwalk".toList then "/state".toList else path

def shell : Environ := Environ.set (fun _ => none) "CATWALK_PORT".toList "8081".toList

def hostFlag : Flags where
  host := some "::1".toList

def fileEntries : OrderedDict Text Text where
  entries := [("CATWALK_PORT".toList, "9000".toList), ("CATWALK_MOCK".toList, "1".toList)]
  nodup := by decide

set_option maxRecDepth 10000 in
theorem read_three_layers :
    readConfig plainPython
        (applyFlagOverrides (shell.setDefaults fileEntries) hostFlag) =
      .ok { host := "::1".toList, port := 8081, mock := true } := rfl

/-- The host of the flag, the port of the shell, the mode of the file. -/
theorem configure_three_layers :
    ∃ after cfg, cfg.host = "::1".toList ∧ cfg.port = 8081 ∧ cfg.mock = true ∧
      configure plainPython oneFile shell hostFlag = .ok (after, cfg) ∧
      spawned plainPython oneFile after = .ok (after, cfg) := by
  have path : defaultEnvFile oneFile shell = stateFile := by decide
  have holds : FileEntries oneFile (defaultEnvFile oneFile shell) fileEntries := by
    rw [path]
    rfl
  obtain ⟨loaded, applied⟩ := applyEnvFile_default holds
  have valid : Config.Valid plainPython
      { host := "::1".toList, port := 8081, mock := true } :=
    ⟨by constructor <;> decide, nofun, nofun⟩
  have configured := configure_eq_ok.mpr ⟨_, loaded,
    (applied : applyEnvFile oneFile shell hostFlag.envFile = _), rfl,
    loadConfig_eq_ok.mpr ⟨read_three_layers, valid⟩⟩
  refine ⟨_, _, rfl, rfl, rfl, configured, ?_⟩
  refine (configure_layers plainPython oneFile shell _ hostFlag _ configured).2.2.2 ?_ ?_
  · simp [Named, hostFlag]
  · decide

end Catwalk.Cli
