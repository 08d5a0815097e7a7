import Catwalk.Api.Rollup
import Catwalk.Data.Numeral
import Catwalk.Data.Strings
import Catwalk.Listing.Page

/-! `config.py`: the settings that a server reads from its environment, and what
`validate` makes sure of. -/

namespace Catwalk.Cli

/-- `os.environ` -/
abbrev Environ := Text → Option Text

/-- A `float`. -/
inductive Number
  | finite (value : Rat)
  | inf
  | negInf
  | nan
  deriving DecidableEq

/-- What `urlparse` returns; its port may be no number. -/
structure Url where
  scheme : Text
  hostname : Option Text
  port : Except String (Option Nat)

/-- The casts and texts of Python that a setting goes through. -/
structure Python where
  int : Text → Option Int
  float : Text → Option Number
  urlparse : Text → Except String Url
  reprText : Text → String
  reprFloat : Number → String

/-- `sys.exit` in `_env_num`, or a `ValueError`. -/
inductive Failure
  | notNumber (name : String) (value : Text)
  | valueError (message : String)

/-- `_env` without a default: an empty value is none. -/
def env (environ : Environ) (name : String) : Option Text :=
  (environ name.toList).filter (· ≠ [])

def envNum {Value : Type} (environ : Environ) (name : String)
    (cast : Text → Option Value) (default : Value) : Except Failure Value :=
  match env environ name with
  | none => .ok default
  | some text =>
      match cast text with
      | some value => .ok value
      | none => .error (.notNumber name text)

/-- `strip().lower()`; no letter beyond ASCII becomes one of these words. -/
def isTrue (value : Text) : Bool :=
  ["1", "true", "yes", "on"].contains (String.ofList ((strip value).map Char.toLower))

def envBool (environ : Environ) (name : String) : Bool :=
  isTrue ((environ name.toList).getD [])

def envBoolDefault (environ : Environ) (name : String) (default : Bool) : Bool :=
  if strip ((environ name.toList).getD []) = [] then default
  else envBool environ name

/-- `[e.strip() for e in value.split(",") if e.strip()]` -/
def commaList (value : Text) : List Text :=
  ((value.splitOn ',').map strip).filter (· ≠ [])

/-- `VMS_ADDRESS` as a host and maybe a port. -/
def vmsHost (python : Python) (value : Option Text) :
    Except Failure (Option Text) :=
  match value with
  | none | some [] => .ok value
  | some value =>
      let address := (strip value).rdropWhile (· == '/')
      if ¬ "://".toList <:+: address then
        .ok (some address |>.filter (· ≠ []))
      else do
        let parsed ← (python.urlparse address).mapError .valueError
        let host := parsed.hostname.getD []
        let host := if ':' ∈ host then '[' :: host ++ [']'] else host
        let port ← parsed.port.mapError .valueError
        let host := match port with
          | none | some 0 => host
          | some port => host ++ ':' :: (toString port).toList
        .ok (some host |>.filter (· ≠ []))

structure Config where
  endpoint : Option Text := none
  accessKey : Option Text := none
  secretKey : Option Text := none
  dataEndpoints : Option (List Text) := none
  autoEndpoints : Bool := false
  vmsAddress : Option Text := none
  vmsUser : Option Text := none
  vmsPassword : Option Text := none
  host : Text := "0.0.0.0".toList
  port : Int := 8080
  pageDefault : Int := 20
  pageMax : Int := 100
  cacheTtl : Number := .finite 900
  listingCap : Int := 500000
  numSplits : Int := 64
  cacheMaxBytes : Int := 2 * 1024 ^ 3
  mock : Bool := false
  allowRoot : Bool := false
  rollupSyncTimeout : Number := .finite 5
  rollupWorkers : Int := 2
  rollupThreads : Int := 8
  rollupQueueMax : Int := 16
  rollupCacheMaxBytes : Int := 256 * 1024 ^ 2
  rollupMaxGroups : Int := 10000
  rollupMaxDepth : Int := 8
  rollupResponseChildren : Int := 500
  queryThreads : Int := 8
  queryConcurrency : Int := 24
  queryTimeout : Number := .finite 60
  snapshotPin : Bool := true
  snapshotPoll : Number := .finite 60
  snapshotPrefix : Text := "big_catalog".toList
  prefetchChildren : Int := 8
  warmPaths : Option (List Text) := none
  warmDepth : Int := 2
  warmThreads : Int := 4
  warmMaxDirs : Int := 500
  warmInterval : Number := .finite 0
  deriving DecidableEq

/-! `validate` -/

/-- The error of an integer outside of its bounds. -/
def integer (name : String) (value minimum : Int) (maximum : Option Int) :
    List String :=
  if value < minimum ∨ maximum.any (· < value) then
    let bound := match maximum with
      | some maximum => s!"{minimum}..{maximum}"
      | none => s!">= {minimum}"
    [s!"{name} must be {bound} (got {value})"]
  else []

/-- Finite, and positive or at least not negative. -/
def Number.Within (allowZero : Bool) : Number → Prop
  | .finite value => 0 ≤ value ∧ (value = 0 → allowZero = true)
  | .inf | .negInf | .nan => False

instance Number.Within.decidable (allowZero : Bool) (value : Number) :
    Decidable (value.Within allowZero) := by
  cases value <;> unfold Within <;> infer_instance

def number (python : Python) (name : String) (value : Number) (allowZero : Bool) :
    List String :=
  if ¬ value.Within allowZero then
    let op := if allowZero then ">=" else ">"
    let got := python.reprFloat value
    [s!"{name} must be finite and {op} 0 (got {got})"]
  else []

/-- An http(s) URL with a hostname. -/
def Url.Names (url : Url) : Prop :=
  (url.scheme = "http".toList ∨ url.scheme = "https".toList) ∧
    (url.hostname.filter (· ≠ [])).isSome

instance (url : Url) : Decidable url.Names := by
  unfold Url.Names
  infer_instance

def endpoint (python : Python) (name : String) (value : Option Text) :
    Except Failure (List String) :=
  match value with
  | none | some [] => .ok []
  | some value => do
      let parsed ← (python.urlparse value).mapError .valueError
      if ¬ parsed.Names then
        let got := python.reprText value
        .ok [s!"{name} must be an http(s) URL with a hostname (got {got})"]
      else .ok []

namespace Config

def numericErrors (python : Python) (cfg : Config) : List String :=
  integer "CATWALK_PORT" cfg.port 0 (some 65535) ++
  integer "CATWALK_PAGE_DEFAULT" cfg.pageDefault 20 none ++
  integer "CATWALK_PAGE_MAX" cfg.pageMax 20 none ++
  (if cfg.pageMax < cfg.pageDefault then
    ["CATWALK_PAGE_DEFAULT must not exceed CATWALK_PAGE_MAX"] else []) ++
  number python "CATWALK_CACHE_TTL" cfg.cacheTtl false ++
  integer "CATWALK_LISTING_CAP" cfg.listingCap 1 none ++
  integer "CATWALK_NUM_SPLITS" cfg.numSplits 1 none ++
  integer "CATWALK_CACHE_MAX_BYTES" cfg.cacheMaxBytes 1 none ++
  number python "CATWALK_ROLLUP_SYNC_TIMEOUT" cfg.rollupSyncTimeout true ++
  integer "CATWALK_ROLLUP_WORKERS" cfg.rollupWorkers 1 (some 64) ++
  integer "CATWALK_ROLLUP_THREADS" cfg.rollupThreads 1 (some 64) ++
  integer "CATWALK_ROLLUP_QUEUE_MAX" cfg.rollupQueueMax 0 none ++
  integer "CATWALK_ROLLUP_CACHE_MAX_BYTES" cfg.rollupCacheMaxBytes 1 none ++
  integer "CATWALK_ROLLUP_MAX_GROUPS" cfg.rollupMaxGroups 1 none ++
  integer "CATWALK_ROLLUP_MAX_DEPTH" cfg.rollupMaxDepth 1 (some 64) ++
  integer "CATWALK_ROLLUP_RESPONSE_CHILDREN" cfg.rollupResponseChildren 1 none ++
  (if cfg.rollupMaxGroups < cfg.rollupResponseChildren then
    ["CATWALK_ROLLUP_RESPONSE_CHILDREN must not exceed " ++
      "CATWALK_ROLLUP_MAX_GROUPS"] else []) ++
  integer "CATWALK_QUERY_THREADS" cfg.queryThreads 1 (some 128) ++
  integer "CATWALK_QUERY_CONCURRENCY" cfg.queryConcurrency 0 (some 256) ++
  number python "CATWALK_QUERY_TIMEOUT" cfg.queryTimeout true ++
  number python "CATWALK_SNAPSHOT_POLL" cfg.snapshotPoll false ++
  integer "CATWALK_PREFETCH_CHILDREN" cfg.prefetchChildren 0 none ++
  integer "CATWALK_WARM_DEPTH" cfg.warmDepth 0 none ++
  integer "CATWALK_WARM_THREADS" cfg.warmThreads 1 (some 64) ++
  integer "CATWALK_WARM_MAX_DIRS" cfg.warmMaxDirs 1 none ++
  number python "CATWALK_WARM_INTERVAL" cfg.warmInterval true

def dataEndpointErrors (python : Python) (values : List Text) :
    Except Failure (List String) := do
  let errors ← values.zipIdx.mapM fun (value, i) =>
    Cli.endpoint python s!"VASTDB_DATA_ENDPOINTS[{i}]" (some value)
  .ok errors.flatten

def errors (python : Python) (cfg : Config) : Except Failure (List String) := do
  let single ← Cli.endpoint python "VASTDB_ENDPOINT" cfg.endpoint
  let listed ← dataEndpointErrors python (cfg.dataEndpoints.getD [])
  .ok (cfg.numericErrors python ++ single ++ listed)

def validate (python : Python) (cfg : Config) : Except Failure Config := do
  let errors ← cfg.errors python
  if errors ≠ [] then
    .error (.valueError ("invalid Catwalk configuration:\n  - " ++
      "\n  - ".intercalate errors))
  else .ok cfg

end Config

/-- The settings as the environment gives them. -/
def readConfig (python : Python) (environ : Environ) : Except Failure Config := do
  let vmsAddress ← vmsHost python (env environ "VMS_ADDRESS")
  let port ← envNum environ "CATWALK_PORT" python.int 8080
  let pageDefault ← envNum environ "CATWALK_PAGE_DEFAULT" python.int 20
  let pageMax ← envNum environ "CATWALK_PAGE_MAX" python.int 100
  let cacheTtl ← envNum environ "CATWALK_CACHE_TTL" python.float (.finite 900)
  let listingCap ← envNum environ "CATWALK_LISTING_CAP" python.int 500000
  let numSplits ← envNum environ "CATWALK_NUM_SPLITS" python.int 64
  let cacheMaxBytes ←
    envNum environ "CATWALK_CACHE_MAX_BYTES" python.int (2 * 1024 ^ 3)
  let rollupSyncTimeout ←
    envNum environ "CATWALK_ROLLUP_SYNC_TIMEOUT" python.float (.finite 5)
  let rollupWorkers ← envNum environ "CATWALK_ROLLUP_WORKERS" python.int 2
  let rollupThreads ← envNum environ "CATWALK_ROLLUP_THREADS" python.int 8
  let rollupQueueMax ← envNum environ "CATWALK_ROLLUP_QUEUE_MAX" python.int 16
  let rollupCacheMaxBytes ←
    envNum environ "CATWALK_ROLLUP_CACHE_MAX_BYTES" python.int (256 * 1024 ^ 2)
  let rollupMaxGroups ←
    envNum environ "CATWALK_ROLLUP_MAX_GROUPS" python.int 10000
  let rollupMaxDepth ← envNum environ "CATWALK_ROLLUP_MAX_DEPTH" python.int 8
  let rollupResponseChildren ←
    envNum environ "CATWALK_ROLLUP_RESPONSE_CHILDREN" python.int 500
  let queryThreads ← envNum environ "CATWALK_QUERY_THREADS" python.int 8
  let queryConcurrency ← envNum environ "CATWALK_QUERY_CONCURRENCY" python.int 24
  let queryTimeout ←
    envNum environ "CATWALK_QUERY_TIMEOUT" python.float (.finite 60)
  let snapshotPoll ←
    envNum environ "CATWALK_SNAPSHOT_POLL" python.float (.finite 60)
  let prefetchChildren ← envNum environ "CATWALK_PREFETCH_CHILDREN" python.int 8
  let warmDepth ← envNum environ "CATWALK_WARM_DEPTH" python.int 2
  let warmThreads ← envNum environ "CATWALK_WARM_THREADS" python.int 4
  let warmMaxDirs ← envNum environ "CATWALK_WARM_MAX_DIRS" python.int 500
  let warmInterval ←
    envNum environ "CATWALK_WARM_INTERVAL" python.float (.finite 0)
  .ok {
    endpoint := env environ "VASTDB_ENDPOINT"
    accessKey := env environ "VASTDB_ACCESS_KEY"
    secretKey := env environ "VASTDB_SECRET_KEY"
    dataEndpoints := (env environ "VASTDB_DATA_ENDPOINTS").map commaList
    autoEndpoints := envBool environ "CATWALK_AUTO_ENDPOINTS"
    vmsAddress
    vmsUser := env environ "VMS_USER"
    vmsPassword := env environ "VMS_PASSWORD"
    host := (env environ "CATWALK_HOST").getD "0.0.0.0".toList
    port, pageDefault, pageMax, cacheTtl, listingCap, numSplits, cacheMaxBytes
    mock := envBool environ "CATWALK_MOCK"
    allowRoot := envBool environ "CATWALK_ALLOW_ROOT"
    rollupSyncTimeout, rollupWorkers, rollupThreads, rollupQueueMax
    rollupCacheMaxBytes, rollupMaxGroups, rollupMaxDepth, rollupResponseChildren
    queryThreads, queryConcurrency, queryTimeout
    snapshotPin := envBoolDefault environ "CATWALK_SNAPSHOT_PIN" true
    snapshotPoll
    snapshotPrefix :=
      (env environ "CATWALK_SNAPSHOT_PREFIX").getD "big_catalog".toList
    prefetchChildren
    warmPaths := (env environ "CATWALK_WARM_PATHS").map commaList
    warmDepth, warmThreads, warmMaxDirs, warmInterval }

def loadConfig (python : Python) (environ : Environ) : Except Failure Config := do
  let cfg ← readConfig python environ
  cfg.validate python

/-! What a validated configuration is. -/

theorem integer_eq_nil {name : String} {value minimum : Int} {maximum : Option Int} :
    integer name value minimum maximum = [] ↔
      minimum ≤ value ∧ ∀ bound, maximum = some bound → value ≤ bound := by
  unfold integer
  cases maximum with
  | none => simp
  | some bound => simp

theorem number_eq_nil {python : Python} {name : String} {value : Number}
    {allowZero : Bool} :
    number python name value allowZero = [] ↔ value.Within allowZero := by
  unfold number
  split <;> simp_all

/-- The URL is one that can be dialled. -/
def Dials (python : Python) (value : Text) : Prop :=
  ∃ parsed, python.urlparse value = .ok parsed ∧ parsed.Names

theorem endpoint_eq_nil {python : Python} {name : String} {value : Option Text} :
    endpoint python name value = .ok [] ↔
      ∀ text, value = some text → text ≠ [] → Dials python text := by
  match value with
  | none => simp [endpoint]
  | some [] => simp [endpoint]
  | some (char :: rest) =>
      simp only [endpoint]
      cases parsed : python.urlparse (char :: rest) with
      | error message =>
          simp only [Except.mapError, bind, Except.bind, Dials]
          simp [parsed]
      | ok url =>
          simp only [Except.mapError, bind, Except.bind, Dials]
          split <;> simp_all

namespace Config

/-- The bounds of the settings that are numbers. -/
@[mk_iff] structure Bounded (cfg : Config) : Prop where
  port : 0 ≤ cfg.port ∧ cfg.port ≤ 65535
  pageDefault : 20 ≤ cfg.pageDefault
  pageMax : 20 ≤ cfg.pageMax
  pages : cfg.pageDefault ≤ cfg.pageMax
  cacheTtl : cfg.cacheTtl.Within false
  listingCap : 1 ≤ cfg.listingCap
  numSplits : 1 ≤ cfg.numSplits
  cacheMaxBytes : 1 ≤ cfg.cacheMaxBytes
  rollupSyncTimeout : cfg.rollupSyncTimeout.Within true
  rollupWorkers : 1 ≤ cfg.rollupWorkers ∧ cfg.rollupWorkers ≤ 64
  rollupThreads : 1 ≤ cfg.rollupThreads ∧ cfg.rollupThreads ≤ 64
  rollupQueueMax : 0 ≤ cfg.rollupQueueMax
  rollupCacheMaxBytes : 1 ≤ cfg.rollupCacheMaxBytes
  rollupMaxGroups : 1 ≤ cfg.rollupMaxGroups
  rollupMaxDepth : 1 ≤ cfg.rollupMaxDepth ∧ cfg.rollupMaxDepth ≤ 64
  rollupResponseChildren : 1 ≤ cfg.rollupResponseChildren
  response : cfg.rollupResponseChildren ≤ cfg.rollupMaxGroups
  queryThreads : 1 ≤ cfg.queryThreads ∧ cfg.queryThreads ≤ 128
  queryConcurrency : 0 ≤ cfg.queryConcurrency ∧ cfg.queryConcurrency ≤ 256
  queryTimeout : cfg.queryTimeout.Within true
  snapshotPoll : cfg.snapshotPoll.Within false
  prefetchChildren : 0 ≤ cfg.prefetchChildren
  warmDepth : 0 ≤ cfg.warmDepth
  warmThreads : 1 ≤ cfg.warmThreads ∧ cfg.warmThreads ≤ 64
  warmMaxDirs : 1 ≤ cfg.warmMaxDirs
  warmInterval : cfg.warmInterval.Within true

structure Valid (python : Python) (cfg : Config) : Prop where
  bounded : cfg.Bounded
  endpoint : ∀ text, cfg.endpoint = some text → text ≠ [] → Dials python text
  dataEndpoints : ∀ text ∈ cfg.dataEndpoints.getD [], text ≠ [] → Dials python text

theorem numericErrors_eq_nil {python : Python} {cfg : Config} :
    cfg.numericErrors python = [] ↔ cfg.Bounded := by
  rw [bounded_iff]
  unfold numericErrors
  simp only [List.append_eq_nil_iff, integer_eq_nil, number_eq_nil,
    Option.some.injEq, forall_eq', reduceCtorEq, false_imp_iff, implies_true, and_true,
    ite_eq_right_iff, List.cons_ne_nil, imp_false, not_lt, and_assoc]

theorem mapM_flatten_eq_nil {Item : Type} {check : Item → Except Failure (List String)}
    {items : List Item} :
    (items.mapM check >>= fun errors => .ok errors.flatten) = .ok [] ↔
      ∀ item ∈ items, check item = .ok [] := by
  induction items with
  | nil =>
      simp only [List.not_mem_nil, false_imp_iff, implies_true, iff_true]
      rfl
  | cons item rest ih =>
      rw [List.forall_mem_cons, ← ih, List.mapM_cons]
      simp only [bind_assoc, bind_eq_ok]
      constructor
      · rintro ⟨first, checked, others, checks, _, ⟨⟩, same⟩
        obtain ⟨rfl, none_later⟩ := List.append_eq_nil_iff.mp (Except.ok.inj same)
        exact ⟨checked, others, checks, congrArg Except.ok none_later⟩
      · rintro ⟨checked, others, checks, same⟩
        exact ⟨[], checked, others, checks, _, rfl, same⟩

theorem dataEndpointErrors_eq_nil {python : Python} {values : List Text} :
    dataEndpointErrors python values = .ok [] ↔
      ∀ text ∈ values, text ≠ [] → Dials python text := by
  have each : ∀ numbered : Text × Nat,
      Cli.endpoint python s!"VASTDB_DATA_ENDPOINTS[{numbered.2}]" (some numbered.1) =
          .ok [] ↔ (numbered.1 ≠ [] → Dials python numbered.1) := by
    intro numbered
    rw [endpoint_eq_nil]
    simp
  refine (@mapM_flatten_eq_nil _ (fun numbered : Text × Nat => Cli.endpoint python
    s!"VASTDB_DATA_ENDPOINTS[{numbered.2}]" (some numbered.1)) values.zipIdx).trans ?_
  simp only [each]
  constructor
  · intro all text member
    obtain ⟨i, inside, rfl⟩ := List.getElem_of_mem member
    exact all (values[i], i) (List.mk_mem_zipIdx_iff_getElem?.mpr
      (List.getElem?_eq_getElem inside))
  · intro all numbered member
    exact all numbered.1 (List.fst_mem_of_mem_zipIdx member)

theorem validate_eq_ok {python : Python} {cfg after : Config} :
    cfg.validate python = .ok after ↔ after = cfg ∧ cfg.Valid python := by
  unfold validate
  rw [bind_eq_ok]
  constructor
  · rintro ⟨found, checked, passed⟩
    split at passed
    case isTrue => cases passed
    case isFalse none_found =>
      cases passed
      rw [not_not] at none_found
      subst none_found
      obtain ⟨single, checked_single, checked⟩ := bind_eq_ok.mp checked
      obtain ⟨listed, checked_listed, same⟩ := bind_eq_ok.mp checked
      obtain ⟨front, rfl⟩ := List.append_eq_nil_iff.mp (Except.ok.inj same)
      obtain ⟨numeric, rfl⟩ := List.append_eq_nil_iff.mp front
      exact ⟨rfl, numericErrors_eq_nil.mp numeric, endpoint_eq_nil.mp checked_single,
        dataEndpointErrors_eq_nil.mp checked_listed⟩
  · rintro ⟨rfl, valid⟩
    refine ⟨[], ?_, if_neg (not_not.mpr rfl)⟩
    refine bind_eq_ok.mpr ⟨[], endpoint_eq_nil.mpr valid.endpoint, ?_⟩
    refine bind_eq_ok.mpr ⟨[], dataEndpointErrors_eq_nil.mpr valid.dataEndpoints, ?_⟩
    rw [numericErrors_eq_nil.mpr valid.bounded]
    rfl

theorem valid_default (python : Python) : Valid python {} where
  bounded := by constructor <;> decide
  endpoint := nofun
  dataEndpoints := nofun

/-! The parameters the services take from it. -/

def page (cfg : Config) : PageConfig where
  pageDefault := cfg.pageDefault.toNat
  pageMax := cfg.pageMax.toNat

def api (cfg : Config) (retention : Int) : Api.Config where
  jobs :=
    { maxWorkers := cfg.rollupWorkers.toNat
      maxQueue := cfg.rollupQueueMax.toNat
      retention }
  rollup :=
    { rollupThreads := cfg.rollupThreads.toNat
      rollupMaxGroups := cfg.rollupMaxGroups.toNat
      rollupMaxDepth := cfg.rollupMaxDepth.toNat
      allowRoot := cfg.allowRoot }
  rollupResponseChildren := cfg.rollupResponseChildren.toNat

/-- The limits that the services keep, and what they rely on and never check
themselves. -/
structure Serves (cfg : Config) (retention : Int) : Prop where
  pageSize : ∀ requested,
    20 ≤ clampPageSize cfg.page requested ∧
      (clampPageSize cfg.page requested : Int) ≤ cfg.pageMax
  requested : ∀ size : Int, 20 ≤ size → size ≤ cfg.pageMax →
    (clampPageSize cfg.page (some size) : Int) = size
  unasked : (clampPageSize cfg.page none : Int) = cfg.pageDefault
  entries : ∀ sorting call (entry : Entry) request,
    (entry.page sorting call cfg.page request).1.entries.length ≤
      clampPageSize cfg.page request.pageSize
  admits : ∀ (start : Jobs.State Api.JobKey RollupResult) key,
    Jobs.Initial (cfg.api retention).jobs start →
      (start.submit (cfg.api retention).jobs key false).1 =
        .returned start.nextJob start.nextWatcher
  threads : (cfg.api retention).rollup.rollupThreads ≠ 0
  groups : (cfg.api retention).rollup.rollupMaxGroups ≠ 0
  children : ∀ result, (Api.publicResult (cfg.api retention) result none).result.children =
    result.children.take cfg.rollupResponseChildren.toNat
  limited : ∀ result limit, limit ≠ 0 →
    (Api.publicResult (cfg.api retention) result (some limit)).result.children =
      result.children.take (min limit cfg.rollupMaxGroups.toNat)
  oneLevel : ∀ path, (normalizePrefix path = ['/'] → cfg.allowRoot = true) →
    RollupService.Permitted (cfg.api retention).rollup path 1
  cacheBytes : ∀ (Key Value : Type) (ttl : Int) (nbytes : Nat),
    (TTLCache.new ttl cfg.cacheMaxBytes.toNat : TTLCache Key Value).Fits nbytes ↔
      (nbytes : Int) ≤ cfg.cacheMaxBytes
  rollupCacheBytes : ∀ (Key Value : Type) (ttl : Int) (nbytes : Nat),
    (TTLCache.new ttl cfg.rollupCacheMaxBytes.toNat : TTLCache Key Value).Fits nbytes ↔
      (nbytes : Int) ≤ cfg.rollupCacheMaxBytes
  cacheTtl : ∃ seconds, cfg.cacheTtl = .finite seconds ∧ 0 < seconds

/-- A bound of at least one byte is in force. -/
theorem fits_new {Key Value : Type} {bound : Int} (positive : 1 ≤ bound)
    (ttl : Int) (nbytes : Nat) :
    (TTLCache.new ttl bound.toNat : TTLCache Key Value).Fits nbytes ↔
      (nbytes : Int) ≤ bound := by
  simp only [TTLCache.Fits, TTLCache.new]
  omega

/-- A manager just created has a slot. -/
theorem admits_initial {Key Result : Type} [DecidableEq Key] {cfg : Jobs.Config}
    {start : Jobs.State Key Result} (workers : 1 ≤ cfg.maxWorkers)
    (initial : Jobs.Initial cfg start) (key : Key) :
    (start.submit cfg key false).1 = .returned start.nextJob start.nextWatcher := by
  have outcome := Jobs.State.submitted cfg start key false
  have slots := initial.slots
  generalize (start.submit cfg key false).1 = result at outcome
  generalize (start.submit cfg key false).2 = after at outcome
  cases outcome with
  | closed closing => exact absurd initial.closer closing
  | joined _ mapped =>
      rw [initial.byKey] at mapped
      cases mapped
  | queueFull _ full => omega
  | created => rfl

theorem positive_of_within {value : Number} (within : value.Within false) :
    ∃ seconds, value = .finite seconds ∧ 0 < seconds := by
  cases value with
  | finite seconds =>
      refine ⟨seconds, rfl, lt_of_le_of_ne within.1 ?_⟩
      rintro rfl
      exact absurd (within.2 rfl) (by decide)
  | inf | negInf | nan => exact within.elim

theorem Bounded.serves {cfg : Config} (bounded : cfg.Bounded) (retention : Int) :
    cfg.Serves retention := by
  obtain ⟨_, pageDefault, pageMax, pages, cacheTtl, _, _, cacheMaxBytes, _, workers,
    threads, _, rollupCacheMaxBytes, groups, depth, responseChildren, response, _⟩ := bounded
  constructor
  case pageSize =>
    intro requested
    simp only [clampPageSize, page]
    omega
  case requested =>
    intro size low high
    simp only [clampPageSize, page, Option.getD_some]
    omega
  case unasked =>
    simp only [clampPageSize, page, Option.getD_none]
    omega
  case entries =>
    intro sorting call entry request
    simp only [Entry.page, List.length_map]
    exact List.length_take_le _ _
  case admits =>
    intro start key initial
    refine admits_initial ?_ initial key
    dsimp only [api]
    omega
  case threads =>
    dsimp only [api]
    omega
  case groups =>
    dsimp only [api]
    omega
  case children =>
    intro result
    have smaller : cfg.rollupResponseChildren.toNat ≤ cfg.rollupMaxGroups.toNat := by omega
    simp only [Api.publicResult, api, min_eq_left smaller]
  case limited =>
    intro result limit positive
    simp only [Api.publicResult, api]
  case oneLevel =>
    intro path root
    refine ⟨le_rfl, ?_, root⟩
    dsimp only [api]
    omega
  case cacheBytes => exact fun Key Value => fits_new cacheMaxBytes
  case rollupCacheBytes => exact fun Key Value => fits_new rollupCacheMaxBytes
  case cacheTtl => exact positive_of_within cacheTtl

end Config

theorem loadConfig_eq_ok {python : Python} {environ : Environ} {cfg : Config} :
    loadConfig python environ = .ok cfg ↔
      readConfig python environ = .ok cfg ∧ cfg.Valid python := by
  unfold loadConfig
  rw [bind_eq_ok]
  constructor
  · rintro ⟨found, read, validated⟩
    obtain ⟨rfl, valid⟩ := Config.validate_eq_ok.mp validated
    exact ⟨read, valid⟩
  · rintro ⟨read, valid⟩
    exact ⟨cfg, read, Config.validate_eq_ok.mpr ⟨rfl, valid⟩⟩

theorem loadConfig_unset (python : Python) :
    loadConfig python (fun _ => none) = .ok {} :=
  loadConfig_eq_ok.mpr ⟨rfl, Config.valid_default python⟩

/-- Casts that read plain decimal digits. -/
def plainPython : Python where
  int text := (Numeral.readDigits 10 0 true text).map Int.ofNat
  float text := (Numeral.readDigits 10 0 true text).map fun value => .finite value
  urlparse text := .ok ⟨"http".toList, some text, .ok none⟩
  reprText := String.ofList
  reprFloat _ := "0.0"

end Catwalk.Cli
