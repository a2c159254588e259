import IntakeApi.Endpoint
import IntakeApi.External
import IntakeApi.Library.Bindings
import IntakeApi.Library.SocketAddr
import IntakeApi.RequestPolicy

/-! The configuration of the service: which settings make one, what each of them becomes, and
that the defaults of the command line are those of the code. -/
namespace IntakeApi

open Net (SocketAddr)
open Web (Url Rules)

structure Config (Number : Type) where
  bindAddress : SocketAddr
  primaryDatabaseUrl : String
  supabaseDatabaseUrl : String
  supabaseUrl : Url
  supabaseServiceRoleKey : String
  turnstileSecretKey : String
  turnstileAction : String
  sharedAuthBaseUrl : String
  sharedAuthServiceCredential : String
  sharedAuthAudience : String
  corsOrigins : String
  requestPolicy : RequestPolicy Number

def checkTurnstileAction (action : String) : Except ConfigError Unit :=
  if 64 < byteLength action || action.isEmpty || !action.toList.all isKeyChar then
    .error (.invalid "TURNSTILE_ACTION")
  else .ok ()

def bindAddress (lookup : Lookup) : Except ConfigError SocketAddr :=
  let host := (optional lookup "HOST").getD "0.0.0.0"
  let port := (optional lookup "PORT").getD "8080"
  okOr (SocketAddr.parse (host ++ ":" ++ port)) (.invalid "HOST or PORT")

def Config.fromLookup (rules : Rules) (decimals : Decimals) (lookup : Lookup) :
    Except ConfigError (Config decimals.Number) := do
  let bindAddress ← IntakeApi.bindAddress lookup
  let supabaseUrl ← parseHttpsUrl rules lookup "SUPABASE_URL"
  let sharedAuthBaseUrl ← required lookup "SHARED_AUTH_BASE_URL"
  validateAuthUrl rules sharedAuthBaseUrl
  let turnstileAction := (optional lookup "TURNSTILE_ACTION").getD "intake"
  checkTurnstileAction turnstileAction
  let requestPolicy ← (RequestPolicy.fromLookup decimals lookup).mapError ConfigError.requestPolicy
  let primaryDatabaseUrl ← required lookup "DATABASE_URL"
  let supabaseDatabaseUrl ← required lookup "SUPABASE_DATABASE_URL"
  let supabaseServiceRoleKey ← required lookup "SUPABASE_SERVICE_ROLE_KEY"
  let turnstileSecretKey ← required lookup "TURNSTILE_SECRET_KEY"
  let sharedAuthServiceCredential ← required lookup "SHARED_AUTH_SERVICE_CREDENTIAL"
  let sharedAuthAudience ← required lookup "SHARED_AUTH_AUDIENCE"
  let corsOrigins ← required lookup "CORS_ORIGINS"
  return { bindAddress, primaryDatabaseUrl, supabaseDatabaseUrl, supabaseUrl, supabaseServiceRoleKey,
           turnstileSecretKey, turnstileAction, sharedAuthBaseUrl, sharedAuthServiceCredential,
           sharedAuthAudience, corsOrigins, requestPolicy }

def requiredNames : List String :=
  ["SUPABASE_URL", "SHARED_AUTH_BASE_URL", "DATABASE_URL", "SUPABASE_DATABASE_URL", "SUPABASE_SERVICE_ROLE_KEY",
    "TURNSTILE_SECRET_KEY", "SHARED_AUTH_SERVICE_CREDENTIAL", "SHARED_AUTH_AUDIENCE", "CORS_ORIGINS"]

structure IsStorageUrl (rules : Rules) (value : String) (url : Url) : Prop where
  parsed : rules.parse value = some url
  scheme : url.scheme = "https"
  host : ∃ host, url.host = some host
  query : url.query = none

/-- A URL that Shared Auth may have: encrypted, or within reach without leaving the machine or
the cluster. -/
structure IsAuthUrl (rules : Rules) (value : String) : Prop where
  parsed : ∃ url host, rules.parse value = some url ∧ url.host = some host ∧ url.query = none ∧
    (url.scheme = "https" ∨ url.scheme = "http" ∧ IsLocal host)

structure IsAction (action : String) : Prop where
  short : byteLength action ≤ 64
  nonempty : action ≠ ""
  chars : ∀ c ∈ action.toList, isKeyChar c = true

structure Configures (rules : Rules) (decimals : Decimals) (lookup : Lookup) (config : Config decimals.Number) :
    Prop where
  address : SocketAddr.parse ((optional lookup "HOST").getD "0.0.0.0" ++ ":" ++
    (optional lookup "PORT").getD "8080") = some config.bindAddress
  storage : ∃ value, optional lookup "SUPABASE_URL" = some value ∧ IsStorageUrl rules value config.supabaseUrl
  auth : optional lookup "SHARED_AUTH_BASE_URL" = some config.sharedAuthBaseUrl ∧
    IsAuthUrl rules config.sharedAuthBaseUrl
  action : (optional lookup "TURNSTILE_ACTION").getD "intake" = config.turnstileAction ∧
    IsAction config.turnstileAction
  policy : Describes decimals lookup config.requestPolicy
  primary : optional lookup "DATABASE_URL" = some config.primaryDatabaseUrl
  supabase : optional lookup "SUPABASE_DATABASE_URL" = some config.supabaseDatabaseUrl
  serviceRole : optional lookup "SUPABASE_SERVICE_ROLE_KEY" = some config.supabaseServiceRoleKey
  turnstile : optional lookup "TURNSTILE_SECRET_KEY" = some config.turnstileSecretKey
  credential : optional lookup "SHARED_AUTH_SERVICE_CREDENTIAL" = some config.sharedAuthServiceCredential
  audience : optional lookup "SHARED_AUTH_AUDIENCE" = some config.sharedAuthAudience
  cors : optional lookup "CORS_ORIGINS" = some config.corsOrigins

structure SafeConfig (rules : Rules) (decimals : Decimals) (lookup : Lookup) : Prop where
  address : ∃ address, SocketAddr.parse ((optional lookup "HOST").getD "0.0.0.0" ++ ":" ++
    (optional lookup "PORT").getD "8080") = some address
  storage : ∀ value, optional lookup "SUPABASE_URL" = some value → ∃ url, IsStorageUrl rules value url
  auth : ∀ value, optional lookup "SHARED_AUTH_BASE_URL" = some value → IsAuthUrl rules value
  action : ∀ action, optional lookup "TURNSTILE_ACTION" = some action → IsAction action
  policy : SafePolicy decimals lookup
  present : ∀ name ∈ requiredNames, ∃ value, optional lookup name = some value

section Checks

variable {rules : Rules} {lookup : Lookup} {name value : String}

theorem required_ok : required lookup name = .ok value ↔ optional lookup name = some value := okOr_ok

theorem required_error {error : ConfigError} (failed : required lookup name = .error error) :
    error = .missing name ∧ optional lookup name = none := by
  unfold required okOr at failed
  split at failed
  · cases failed
  · next absent => cases failed; exact ⟨rfl,absent⟩

theorem checkTurnstileAction_ok : checkTurnstileAction value = .ok () ↔ IsAction value := by
  unfold checkTurnstileAction
  constructor
  · intro checked
    split at checked
    · cases checked
    · next fine =>
      simp only [Bool.or_eq_true, not_or, decide_eq_true_eq, Bool.not_eq_true', Bool.not_eq_true,
        Bool.not_eq_false, String.isEmpty_eq_false_iff, List.all_eq_true, not_lt] at fine
      exact ⟨fine.1.1,fine.1.2,fine.2⟩
  · rintro ⟨short,nonempty,chars⟩
    have every : value.toList.all isKeyChar = true := List.all_eq_true.mpr chars
    rw [if_neg]
    simp [every, nonempty, short]

theorem parseHttpsUrl_iff {url : Url} : parseHttpsUrl rules lookup name = .ok url ↔
    ∃ value, optional lookup name = some value ∧ IsStorageUrl rules value url := by
  constructor
  · intro parsed
    obtain ⟨-,scheme,host,query⟩ := parseHttpsUrl_ok parsed
    unfold parseHttpsUrl at parsed
    cases found : optional lookup name with
    | none => simp [required, okOr, found, Except.bind] at parsed
    | some value =>
      rw [required_ok.mpr found] at parsed
      dsimp only [Except.bind] at parsed
      split at parsed
      · cases parsed
      · next read =>
        split at parsed
        · cases parsed
        · cases parsed
          exact ⟨value,rfl,read,scheme,host,query⟩
  · rintro ⟨value,found,parsed,scheme,⟨host,named⟩,query⟩
    simp [parseHttpsUrl, required_ok.mpr found, Except.bind, parsed, scheme, named, query]

theorem validateAuthUrl_iff : validateAuthUrl rules value = .ok () ↔ IsAuthUrl rules value := by
  constructor
  · intro validated
    obtain ⟨url,host,parsed,named,scheme⟩ := validateAuthUrl_ok validated
    refine ⟨url,host,parsed,named,?_,scheme⟩
    unfold validateAuthUrl at validated
    rw [parsed] at validated
    dsimp only at validated
    split at validated
    · cases validated
    · next checked =>
      simp only [Bool.or_eq_true, not_or, Bool.not_eq_true, Option.isSome_eq_false_iff,
        Option.isNone_iff_eq_none] at checked
      exact checked.1.2
  · rintro ⟨url,host,parsed,named,query,scheme⟩
    have near : (url.scheme = "https" || (url.scheme = "http" &&
        (host = "localhost" || host = "127.0.0.1" || isInCluster host))) = true := by
      simp only [Bool.or_eq_true, Bool.and_eq_true, decide_eq_true_eq, isInCluster_iff, or_assoc]
      exact scheme
    simp only [validateAuthUrl, parsed, named, query, Option.getD_some, near]
    rfl

theorem bindAddress_written {ip : Net.Ipv4Addr} {port : Fin 65536} (written : (optional lookup "HOST").getD "0.0.0.0" ++
    ":" ++ (optional lookup "PORT").getD "8080" = String.ofList (ip.text port)) :
    bindAddress lookup = .ok (.v4 ip port) := by
  rw [bindAddress, written, SocketAddr.parse_text]
  rfl

example : bindAddress (fun _ => none) = .ok (.v4 ⟨0,0,0,0⟩ 8080) := bindAddress_written (by decide +kernel)

/-- An address is decimal: the name of a host is refused. -/
theorem bindAddress_named {host : String} (given : optional lookup "HOST" = some host) {c : Char}
    (letter : host.toList.head? = some c) (named : c ≠ '[' ∧ Net.isDigit 10 c = false) :
    bindAddress lookup = .error (.invalid "HOST or PORT") := by
  have refused : SocketAddr.parse ((optional lookup "HOST").getD "0.0.0.0" ++ ":" ++
      (optional lookup "PORT").getD "8080") = none := by
    rw [given, Option.getD_some]
    refine Option.eq_none_iff_forall_ne_some.mpr fun address parsed => ?_
    obtain ⟨first,head,shape⟩ := SocketAddr.parse_head parsed
    have same : first = c := by
      rw [String.toList_append, String.toList_append, List.append_assoc, List.head?_append, letter,
        Option.some_or] at head
      exact (Option.some.inj head).symm
    rw [same] at shape
    rcases shape with bracket | digit
    · exact named.1 bracket
    · rw [named.2] at digit
      cases digit
  rw [bindAddress, refused]
  rfl

end Checks

section Config

variable {rules : Rules} {decimals : Decimals} {lookup : Lookup} {config : Config decimals.Number}

theorem mapError_ok {α ε ε' : Type} {x : Except ε α} {f : ε → ε'} {a : α} :
    x.mapError f = .ok a ↔ x = .ok a := by
  cases x <;> simp [Except.mapError]

theorem fromLookup_configures : Config.fromLookup rules decimals lookup = .ok config ↔
    Configures rules decimals lookup config := by
  unfold Config.fromLookup
  simp only [bind_ok_iff, bindAddress, okOr_ok, parseHttpsUrl_iff, required_ok, mapError_ok, fromLookup_iff, pure,
    Except.pure, Except.ok.injEq]
  constructor
  · rintro ⟨address,bound,url,storage,base,named,_,validated,_,checked,policy,described,primary,first,supabase,
      second,role,third,turnstile,fourth,credential,fifth,audience,sixth,cors,seventh,rfl⟩
    exact
      { address := bound
        storage := storage
        auth := ⟨named,validateAuthUrl_iff.mp validated⟩
        action := ⟨rfl,checkTurnstileAction_ok.mp checked⟩
        policy := described
        primary := first
        supabase := second
        serviceRole := third
        turnstile := fourth
        credential := fifth
        audience := sixth
        cors := seventh }
  · rintro ⟨address,storage,⟨named,safe⟩,⟨action,checked⟩,policy,primary,supabase,serviceRole,turnstile,credential,
      audience,cors⟩
    refine ⟨_,address,_,storage,_,named,(),validateAuthUrl_iff.mpr safe,(),?_,_,policy,_,primary,_,supabase,_,
      serviceRole,_,turnstile,_,credential,_,audience,_,cors,?_⟩
    · rw [action]
      exact checkTurnstileAction_ok.mpr checked
    · rw [action]

theorem default_action : IsAction "intake" := checkTurnstileAction_ok.mp (by decide)

theorem Configures.safe (configures : Configures rules decimals lookup config) :
    SafeConfig rules decimals lookup where
  address := ⟨_,configures.address⟩
  storage value given := by
    obtain ⟨value',given',url⟩ := configures.storage
    cases given.symm.trans given'
    exact ⟨_,url⟩
  auth value given := by
    cases given.symm.trans configures.auth.1
    exact configures.auth.2
  action action given := by
    obtain ⟨same,checked⟩ := configures.action
    rw [given, Option.getD_some] at same
    exact same ▸ checked
  policy := configures.policy.safe
  present := by
    simp only [requiredNames, List.forall_mem_cons]
    obtain ⟨value,given,-⟩ := configures.storage
    exact ⟨⟨value,given⟩,⟨_,configures.auth.1⟩,⟨_,configures.primary⟩,⟨_,configures.supabase⟩,
      ⟨_,configures.serviceRole⟩,⟨_,configures.turnstile⟩,⟨_,configures.credential⟩,⟨_,configures.audience⟩,
      ⟨_,configures.cors⟩,fun _ none => absurd none List.not_mem_nil⟩

theorem SafeConfig.configures (safe : SafeConfig rules decimals lookup) :
    ∃ config, Configures rules decimals lookup config := by
  have present := safe.present
  simp only [requiredNames, List.forall_mem_cons] at present
  obtain ⟨⟨supabaseUrl,storage⟩,⟨base,auth⟩,⟨database,primary⟩,⟨mirror,supabase⟩,⟨role,serviceRole⟩,
    ⟨secret,turnstile⟩,⟨service,credential⟩,⟨audience,audienced⟩,⟨origins,cors⟩,-⟩ := present
  obtain ⟨address,bound⟩ := safe.address
  obtain ⟨url,parsed⟩ := safe.storage _ storage
  obtain ⟨policy,described⟩ := safe.policy.describes
  have action : IsAction ((optional lookup "TURNSTILE_ACTION").getD "intake") := by
    cases given : optional lookup "TURNSTILE_ACTION" with
    | none => exact default_action
    | some action => exact safe.action action given
  exact ⟨⟨address,database,mirror,url,role,secret,_,base,service,audience,origins,policy⟩,
    { address := bound
      storage := ⟨supabaseUrl,storage,parsed⟩
      auth := ⟨auth,safe.auth base auth⟩
      action := ⟨rfl,action⟩
      policy := described
      primary := primary
      supabase := supabase
      serviceRole := serviceRole
      turnstile := turnstile
      credential := credential
      audience := audienced
      cors := cors }⟩

def ConfigError.Tells (rules : Rules) (decimals : Decimals) (lookup : Lookup) : ConfigError → Prop
  | .missing name => name ∈ requiredNames ∧ optional lookup name = none
  | .invalid name =>
    (name = "HOST or PORT" ∧ SocketAddr.parse ((optional lookup "HOST").getD "0.0.0.0" ++ ":" ++
      (optional lookup "PORT").getD "8080") = none) ∨
    (name = "SUPABASE_URL" ∧ ∃ value, optional lookup name = some value ∧ ∀ url, ¬IsStorageUrl rules value url) ∨
    (name = "SHARED_AUTH_BASE_URL" ∧ ∃ value, optional lookup name = some value ∧ ¬IsAuthUrl rules value) ∨
    (name = "TURNSTILE_ACTION" ∧ ∃ action, optional lookup name = some action ∧ ¬IsAction action)
  | .requestPolicy error => error.Tells decimals lookup

theorem required_tells {name : String} {error : ConfigError} (listed : name ∈ requiredNames)
    (failed : required lookup name = .error error) : error.Tells rules decimals lookup := by
  obtain ⟨rfl,absent⟩ := required_error failed
  exact ⟨listed,absent⟩

theorem parseHttpsUrl_tells {error : ConfigError} (failed : parseHttpsUrl rules lookup "SUPABASE_URL" = .error error) :
    error.Tells rules decimals lookup := by
  have none_fits (url : Url) : parseHttpsUrl rules lookup "SUPABASE_URL" ≠ .ok url := by
    rw [failed]
    exact nofun
  cases given : optional lookup "SUPABASE_URL" with
  | none =>
    have same : parseHttpsUrl rules lookup "SUPABASE_URL" = .error (.missing "SUPABASE_URL") := by
      simp [parseHttpsUrl, required, okOr, given, Except.bind]
    cases failed.symm.trans same
    exact ⟨by decide,given⟩
  | some value =>
    have unfit (url : Url) : ¬IsStorageUrl rules value url :=
      fun fits => none_fits url (parseHttpsUrl_iff.mpr ⟨value,given,fits⟩)
    have same : error = .invalid "SUPABASE_URL" := by
      rw [parseHttpsUrl, required_ok.mpr given] at failed
      dsimp only [Except.bind] at failed
      split at failed
      · cases failed; rfl
      · split at failed <;> cases failed; rfl
    subst same
    exact .inr (.inl ⟨rfl,value,given,unfit⟩)

theorem validateAuthUrl_tells {value : String} {error : ConfigError}
    (given : optional lookup "SHARED_AUTH_BASE_URL" = some value)
    (failed : validateAuthUrl rules value = .error error) : error.Tells rules decimals lookup := by
  have unsafe_url : ¬IsAuthUrl rules value := by
    intro safe
    rw [validateAuthUrl_iff.mpr safe] at failed
    cases failed
  have same : error = .invalid "SHARED_AUTH_BASE_URL" := by
    unfold validateAuthUrl at failed
    split at failed
    · cases failed; rfl
    · dsimp only at failed
      split at failed <;> cases failed; rfl
  subst same
  exact .inr (.inr (.inl ⟨rfl,value,given,unsafe_url⟩))

theorem checkTurnstileAction_tells {error : ConfigError}
    (failed : checkTurnstileAction ((optional lookup "TURNSTILE_ACTION").getD "intake") = .error error) :
    error.Tells rules decimals lookup := by
  have same : error = .invalid "TURNSTILE_ACTION" := by
    unfold checkTurnstileAction at failed
    split at failed <;> cases failed; rfl
  subst same
  refine .inr (.inr (.inr ⟨rfl,?_⟩))
  cases given : optional lookup "TURNSTILE_ACTION" with
  | none =>
    rw [given, Option.getD_none, checkTurnstileAction_ok.mpr default_action] at failed
    cases failed
  | some action =>
    refine ⟨action,rfl,fun fine => ?_⟩
    rw [given, Option.getD_some, checkTurnstileAction_ok.mpr fine] at failed
    cases failed

/-- A refusal names what is absent or unfit. -/
theorem fromLookup_tells {error : ConfigError} (failed : Config.fromLookup rules decimals lookup = .error error) :
    error.Tells rules decimals lookup := by
  unfold Config.fromLookup at failed
  rcases bind_error_iff.mp failed with failed | ⟨address,_,failed⟩
  · simp only [bindAddress, okOr] at failed
    split at failed
    · cases failed
    · next refused => cases failed; exact .inl ⟨rfl,refused⟩
  rcases bind_error_iff.mp failed with failed | ⟨url,_,failed⟩
  · exact parseHttpsUrl_tells failed
  rcases bind_error_iff.mp failed with failed | ⟨base,given,failed⟩
  · exact required_tells (by decide) failed
  rcases bind_error_iff.mp failed with failed | ⟨_,_,failed⟩
  · exact validateAuthUrl_tells (required_ok.mp given) failed
  rcases bind_error_iff.mp failed with failed | ⟨_,_,failed⟩
  · exact checkTurnstileAction_tells failed
  rcases bind_error_iff.mp failed with failed | ⟨policy,_,failed⟩
  · cases described : RequestPolicy.fromLookup decimals lookup with
    | ok policy => rw [described] at failed; cases failed
    | error refusal =>
      rw [described] at failed
      cases failed
      exact policy_tells described
  iterate 7
    rcases bind_error_iff.mp failed with failed | ⟨_,_,failed⟩
    · exact required_tells (by decide) failed
  cases failed

end Config

/-- Settings are accepted exactly where they are safe, each field is then its own setting, and a
refusal tells of a setting that is absent or unfit. -/
theorem configuration_exact (rules : Rules) (decimals : Decimals) (lookup : Lookup) :
    ((∃ config, Config.fromLookup rules decimals lookup = .ok config) ↔ SafeConfig rules decimals lookup) ∧
    (∀ config, Config.fromLookup rules decimals lookup = .ok config →
      Configures rules decimals lookup config) ∧
    ∀ error, Config.fromLookup rules decimals lookup = .error error → error.Tells rules decimals lookup := by
  refine ⟨⟨?_,?_⟩,fun config => fromLookup_configures.mp,fun error => fromLookup_tells⟩
  · rintro ⟨config,accepted⟩
    exact (fromLookup_configures.mp accepted).safe
  · intro safe
    obtain ⟨config,configures⟩ := safe.configures
    exact ⟨config,fromLookup_configures.mpr configures⟩

/-- The defaults of `.cli-flags.toml`, by environment name. -/
def contractDefaults : List (String × String) :=
  [("CLI_HELP_REQUESTED","false"), ("CLI_VERSION_REQUESTED","false"), ("HOST","0.0.0.0"), ("PORT","8080"),
    ("CORS_ORIGINS",""), ("RUST_LOG","error"), ("APP_ENV","development"), ("ORES_MIDDLEWARE_TLS_MODE","disabled"),
    ("ORES_MIDDLEWARE_TRUSTED_PROXY_CIDRS",""), ("ORES_MIDDLEWARE_TIMEOUT_MS","10000"),
    ("ORES_MIDDLEWARE_MAX_BODY_BYTES","262144"), ("ORES_MIDDLEWARE_RATE_LIMIT_CAPACITY","60"),
    ("ORES_MIDDLEWARE_RATE_LIMIT_REFILL_PER_SECOND","1")]

/-- The settings with every absent one that has a default at it. -/
def withDefaults (lookup : Lookup) : Lookup :=
  fun name => (lookup name).or (Bindings.lastOf contractDefaults name)

section Defaults

variable {lookup : Lookup} {name default : String}

/-- A default only stands where nothing is given. -/
theorem optional_withDefaults : optional (withDefaults lookup) name =
    if lookup name = none then ((Bindings.lastOf contractDefaults name).map trim).filter fun value => !value.isEmpty
    else optional lookup name := by
  unfold optional withDefaults
  cases lookup name <;> rfl

theorem getD_withDefaults (listed : Bindings.lastOf contractDefaults name = some default)
    (whole : trim default = default ∧ default ≠ "") :
    (optional (withDefaults lookup) name).getD default = (optional lookup name).getD default := by
  rw [optional_withDefaults]
  split
  · next absent => simp [listed, whole, optional, absent, Option.filter_some]
  · rfl

theorem parseNumber_withDefaults {α : Type} {parse : String → Option α} {value : α}
    (listed : Bindings.lastOf contractDefaults name = some default)
    (whole : trim default = default ∧ default ≠ "") (reads : parse default = some value) :
    parseNumber parse (optional (withDefaults lookup) name) value = parseNumber parse (optional lookup name) value := by
  rw [optional_withDefaults]
  split
  · next absent => simp [listed, whole, optional, absent, parseNumber, reads, Option.filter_some]
  · rfl

/-- A blank default is none. -/
theorem blank_withDefaults (blank : ∀ default, Bindings.lastOf contractDefaults name = some default →
    trim default = "") : optional (withDefaults lookup) name = optional lookup name := by
  rw [optional_withDefaults]
  split
  · next absent =>
    cases listed : Bindings.lastOf contractDefaults name with
    | none => simp [optional, absent]
    | some default => simp [optional, absent, blank default listed, Option.filter_some]
  · rfl

theorem policy_withDefaults {decimals : Decimals} (one : decimals.parse "1" = some decimals.one) :
    RequestPolicy.fromLookup decimals (withDefaults lookup) = RequestPolicy.fromLookup decimals lookup := by
  unfold RequestPolicy.fromLookup
  rw [@getD_withDefaults lookup "APP_ENV" "development" (by decide) (by decide),
    @getD_withDefaults lookup "ORES_MIDDLEWARE_TLS_MODE" "disabled" (by decide) (by decide),
    @blank_withDefaults lookup "ORES_MIDDLEWARE_TRUSTED_PROXY_CIDRS" (by decide),
    @parseNumber_withDefaults lookup "ORES_MIDDLEWARE_TIMEOUT_MS" "10000" _ _ _ (by decide) (by decide) (by decide),
    @parseNumber_withDefaults lookup "ORES_MIDDLEWARE_MAX_BODY_BYTES" "262144" _ _ _ (by decide) (by decide)
      (by decide),
    @parseNumber_withDefaults lookup "ORES_MIDDLEWARE_RATE_LIMIT_CAPACITY" "60" _ _ _ (by decide) (by decide)
      (by decide),
    @parseNumber_withDefaults lookup "ORES_MIDDLEWARE_RATE_LIMIT_REFILL_PER_SECOND" "1" _ _ _ (by decide) (by decide)
      one,
    @blank_withDefaults lookup "ORES_MIDDLEWARE_RATE_LIMIT_HMAC_SECRET" (by decide)]

/-- The defaults that the command line fills in are those that the code falls back to: filling
them in changes neither the configuration, nor a refusal, nor the log filter. -/
theorem contract_defaults_agree (rules : Rules) {decimals : Decimals} (one : decimals.parse "1" = some decimals.one)
    (lookup : Lookup) : Config.fromLookup rules decimals (withDefaults lookup) =
        Config.fromLookup rules decimals lookup ∧
      (withDefaults lookup "RUST_LOG").getD "error" = (lookup "RUST_LOG").getD "error" := by
  have plain : ∀ name ∈ "TURNSTILE_ACTION" :: requiredNames,
      optional (withDefaults lookup) name = optional lookup name := by
    intro name member
    refine blank_withDefaults fun default listed => ?_
    have blanks : ∀ name ∈ "TURNSTILE_ACTION" :: requiredNames, ∀ default ∈ Bindings.lastOf contractDefaults name,
        trim default = "" := by decide
    exact blanks name member default listed
  have needed {name : String} (listed : name ∈ requiredNames) :
      required (withDefaults lookup) name = required lookup name := by
    rw [required, plain name (List.mem_cons_of_mem _ listed), required]
  have address : bindAddress (withDefaults lookup) = bindAddress lookup := by
    unfold bindAddress
    rw [@getD_withDefaults lookup "HOST" "0.0.0.0" (by decide) (by decide),
      @getD_withDefaults lookup "PORT" "8080" (by decide) (by decide)]
  have storage : parseHttpsUrl rules (withDefaults lookup) "SUPABASE_URL" =
      parseHttpsUrl rules lookup "SUPABASE_URL" := by
    rw [parseHttpsUrl, needed (by decide), parseHttpsUrl]
  refine ⟨?_,?_⟩
  · unfold Config.fromLookup
    rw [address, storage, needed (by decide), needed (by decide), needed (by decide), needed (by decide),
      needed (by decide), needed (by decide), needed (by decide), needed (by decide),
      plain "TURNSTILE_ACTION" List.mem_cons_self, policy_withDefaults one]
  · have listed : Bindings.lastOf contractDefaults "RUST_LOG" = some "error" := by decide
    rw [withDefaults, listed]
    cases lookup "RUST_LOG" <;> rfl

end Defaults

namespace Sample

def deployment : List (String × String) :=
  [("DATABASE_URL","postgres://primary"), ("SUPABASE_DATABASE_URL","postgres://supabase"),
    ("SUPABASE_URL"," https://example.supabase.co "), ("SUPABASE_SERVICE_ROLE_KEY","role"),
    ("TURNSTILE_SECRET_KEY","secret"), ("SHARED_AUTH_BASE_URL","http://shared-auth.auth.svc"),
    ("SHARED_AUTH_SERVICE_CREDENTIAL","credential"), ("SHARED_AUTH_AUDIENCE","hhm-api"),
    ("CORS_ORIGINS","https://hhaus.org"), ("APP_ENV","test"), ("PORT","31337"), ("HOST"," ")]

/-- A blank host is the default one. -/
theorem deployment_configures : ∃ config, Config.fromLookup rules decimals (Bindings.lastOf deployment) = .ok config ∧
    config.bindAddress = .v4 ⟨0,0,0,0⟩ 31337 ∧ config.turnstileAction = "intake" := by
  have computed : (Config.fromLookup rules decimals (Bindings.lastOf deployment)).toOption.map
      (fun config => (config.bindAddress,config.turnstileAction)) = some (.v4 ⟨0,0,0,0⟩ 31337,"intake") := by
    decide +kernel
  cases accepted : Config.fromLookup rules decimals (Bindings.lastOf deployment) with
  | error => rw [accepted] at computed; cases computed
  | ok config =>
    rw [accepted] at computed
    injection computed with same
    injection same with address action
    exact ⟨config,rfl,address,action⟩

end Sample

theorem contract_defaults_agree_sample :
    ∃ config, Config.fromLookup Sample.rules Sample.decimals (withDefaults (Bindings.lastOf Sample.deployment)) =
      .ok config ∧ config.bindAddress = .v4 ⟨0,0,0,0⟩ 31337 := by
  obtain ⟨config,accepted,address,-⟩ := Sample.deployment_configures
  exact ⟨config,(contract_defaults_agree Sample.rules rfl (Bindings.lastOf Sample.deployment)).1.trans accepted,
    address⟩

end IntakeApi
