import IntakeApi.Authentication
import IntakeApi.Cors
import IntakeApi.Flags
import IntakeApi.Library.History

/-! The start of the service, as a program of its effects: what it does in which order, and when
it serves. Clients, databases, the listener and the server are whoever answers its calls. -/
namespace IntakeApi

open Interaction
open Bindings (lastOf)
open Net (SocketAddr)
open Web (Url Rules)

structure ClientPolicy where
  userAgent : String
  followsRedirects : Bool
  timeoutSeconds : Nat
  connectTimeoutSeconds : Option Nat
  deriving DecidableEq

def apiClient : ClientPolicy := ⟨"hhm-api/0.1",false,15,none⟩
def authClient : ClientPolicy := ⟨"hhm-api-shared-auth-adapter/0.1",false,5,some 2⟩

/-- What `Authenticator::from_config` keeps. -/
structure AuthAdapter where
  endpoint : Url
  serviceCredential : String
  audience : String

/-- `AppState`, as it is configured; `D` is a connected database. -/
structure Services (D : Type) where
  primary : D
  supabase : D
  auth : AuthAdapter
  turnstileSecret : String
  turnstileAction : String
  projectUrl : Url
  serviceRoleKey : String

structure App (D S : Type) where
  state : Services D
  cors : CorsLayer
  lifecycle : S

inductive StartCall (D S : Type) where
  | print (output : String)
  | initTracing (filter : String)
  | buildClient (policy : ClientPolicy)
  | connect (databaseUrl : String)
  | bind (address : SocketAddr)
  | localAddr
  | serve (app : App D S)

abbrev StartCall.Answer {D S : Type} : StartCall D S → Type
  | .print _ => Unit
  | .initTracing _ => Unit
  | .connect _ => Except Unit D
  | .buildClient _ | .bind _ | .localAddr | .serve _ => Except Unit Unit

inductive StartError where
  | flags (text : String)
  | filter
  | config (error : ConfigError)
  | client
  | database
  | auth (error : AuthBuildError)
  | policy (text : String)
  | cors (error : CorsError)
  | listener
  | server

abbrev Startup (D S : Type) := Program (StartCall D S) StartCall.Answer StartError

/-- `?` on a value that is known. -/
def orStop {D S ε α : Type} (failure : ε → StartError) (value : Except ε α) : Startup D S α :=
  .done (value.mapError failure)

def isAudienceChar (c : Char) : Bool := isAlphanumeric c || c == '-' || c == '_' || c == ':' || c == '.'

def checkCredential (credential : String) : Except AuthBuildError Unit :=
  if credential.isEmpty || maxCredentialBytes < byteLength credential || credential.toList.any isWhitespace then
    .error .invalidServiceCredential
  else .ok ()

def checkAudience (audience : String) : Except AuthBuildError Unit :=
  if audience.isEmpty || 128 < byteLength audience || !audience.toList.all isAudienceChar then
    .error .invalidAudience
  else .ok ()

/-- `flags::var`, which is only reached with settings that are resolved. -/
def var (resolved : Except String Lookup) : Lookup := fun name =>
  match resolved with
  | .ok values => values name
  | .error _ => none

section Main

variable {D : Type} (rules : Rules) (decimals : Decimals) (httpRules : HttpRules)
variable (middleware : Middleware decimals.Number) (isFilter : String → Bool)

def Authenticator.fromConfig {S : Type} (config : Config decimals.Number) : Startup D S AuthAdapter := do
  orStop .auth (checkCredential config.sharedAuthServiceCredential)
  orStop .auth (checkAudience config.sharedAuthAudience)
  let endpoint ← orStop .auth (introspectionEndpoint rules config.sharedAuthBaseUrl)
  let built ← .ask (.buildClient authClient)
  orStop (fun _ => .auth .transport) built
  return ⟨endpoint,config.sharedAuthServiceCredential,config.sharedAuthAudience⟩

def Services.fromConfig {S : Type} (config : Config decimals.Number) : Startup D S (Services D) := do
  let built ← .ask (.buildClient apiClient)
  orStop (fun _ => .client) built
  let connected ← .ask (.connect config.primaryDatabaseUrl)
  let primary ← orStop (fun _ => .database) connected
  let connected ← .ask (.connect config.supabaseDatabaseUrl)
  let supabase ← orStop (fun _ => .database) connected
  let auth ← Authenticator.fromConfig rules decimals config
  return { primary, supabase, auth
           turnstileSecret := config.turnstileSecretKey
           turnstileAction := config.turnstileAction
           projectUrl := config.supabaseUrl
           serviceRoleKey := config.supabaseServiceRoleKey }

def Startup.serve (config : Config decimals.Number) : Startup D middleware.Stack Unit := do
  let state ← Services.fromConfig rules decimals config
  let lifecycle ← orStop .policy (stackFromPolicy middleware config.requestPolicy)
  let cors ← orStop .cors (corsLayer httpRules config.corsOrigins)
  let bound ← .ask (.bind config.bindAddress)
  orStop (fun _ => .listener) bound
  let address ← .ask .localAddr
  orStop (fun _ => .listener) address
  let served ← .ask (.serve ⟨state,cors,lifecycle⟩)
  orStop (fun _ => .server) served

/-- `isFilter` says what `EnvFilter::try_new` takes. -/
def Startup.main (resolved : Except String Lookup) (help : HelpMetadata) : Startup D middleware.Stack Unit := do
  match ← orStop .flags (processControl resolved help) with
  | some output => .ask (StartCall.print output)
  | none =>
    let filter := (var resolved "RUST_LOG").getD "error"
    orStop id (if isFilter filter then .ok () else .error .filter)
    let _ ← .ask (StartCall.initTracing filter)
    let config ← orStop .config (Config.fromLookup rules decimals (var resolved))
    Startup.serve rules decimals httpRules middleware config

end Main

structure IsCredential (credential : String) : Prop where
  nonempty : credential ≠ ""
  short : byteLength credential ≤ maxCredentialBytes
  solid : ∀ c ∈ credential.toList, isWhitespace c = false

structure IsAudience (audience : String) : Prop where
  nonempty : audience ≠ ""
  short : byteLength audience ≤ 128
  chars : ∀ c ∈ audience.toList, isAudienceChar c = true

theorem checkCredential_ok {credential : String} : checkCredential credential = .ok () ↔ IsCredential credential := by
  unfold checkCredential
  constructor
  · intro checked
    split at checked
    · cases checked
    · next fine =>
      simp only [Bool.or_eq_true, not_or, decide_eq_true_eq, Bool.not_eq_true, String.isEmpty_eq_false_iff,
        List.any_eq_false, not_lt] at fine
      exact ⟨fine.1.1,fine.1.2,fine.2⟩
  · rintro ⟨nonempty,short,solid⟩
    have none_blank : credential.toList.any isWhitespace = false := List.any_eq_false.mpr (by simpa using solid)
    rw [if_neg]
    simp [none_blank, nonempty, short]

theorem checkAudience_ok {audience : String} : checkAudience audience = .ok () ↔ IsAudience audience := by
  unfold checkAudience
  constructor
  · intro checked
    split at checked
    · cases checked
    · next fine =>
      simp only [Bool.or_eq_true, not_or, decide_eq_true_eq, Bool.not_eq_true', Bool.not_eq_true, Bool.not_eq_false,
        String.isEmpty_eq_false_iff, List.all_eq_true, not_lt] at fine
      exact ⟨fine.1.1,fine.1.2,fine.2⟩
  · rintro ⟨nonempty,short,chars⟩
    have every : audience.toList.all isAudienceChar = true := List.all_eq_true.mpr chars
    rw [if_neg]
    simp [every, nonempty, short]

section Order

variable {D : Type} (rules : Rules) (decimals : Decimals) (httpRules : HttpRules)
variable (middleware : Middleware decimals.Number) (isFilter : String → Bool)
variable (resolved : Except String Lookup) (help : HelpMetadata)

def rustLog : String := (var resolved "RUST_LOG").getD "error"

/-- The application is made of its settings, each of which passes its check. -/
structure Assembles (config : Config decimals.Number) (app : App D middleware.Stack) : Prop where
  control : processControl resolved help = .ok none
  filter : isFilter (rustLog resolved) = true
  configures : Configures rules decimals (var resolved) config
  credential : IsCredential config.sharedAuthServiceCredential
  audience : IsAudience config.sharedAuthAudience
  endpoint : introspectionEndpoint rules config.sharedAuthBaseUrl = .ok app.state.auth.endpoint
  services : app.state =
    { primary := app.state.primary
      supabase := app.state.supabase
      auth := ⟨app.state.auth.endpoint,config.sharedAuthServiceCredential,config.sharedAuthAudience⟩
      turnstileSecret := config.turnstileSecretKey
      turnstileAction := config.turnstileAction
      projectUrl := config.supabaseUrl
      serviceRoleKey := config.supabaseServiceRoleKey }
  cors : corsLayer httpRules config.corsOrigins = .ok app.cors
  lifecycle : stackFromPolicy middleware config.requestPolicy = .ok app.lifecycle

/-- What has been done when the service serves, newest first. -/
def prepared {N S : Type} (filter : String) (config : Config N) (state : Services D) :
    List (Exchange (StartCall D S) StartCall.Answer) :=
  [⟨.localAddr,.ok ()⟩, ⟨.bind config.bindAddress,.ok ()⟩, ⟨.buildClient authClient,.ok ()⟩,
    ⟨.connect config.supabaseDatabaseUrl,.ok state.supabase⟩,
    ⟨.connect config.primaryDatabaseUrl,.ok state.primary⟩, ⟨.buildClient apiClient,.ok ()⟩,
    ⟨.initTracing filter,()⟩]

def MayStart (history : List (Exchange (StartCall D middleware.Stack) StartCall.Answer)) :
    StartCall D middleware.Stack → Prop
  | .print output => history = [] ∧ processControl resolved help = .ok (some output)
  | .initTracing filter => history = [] ∧ processControl resolved help = .ok none ∧ filter = rustLog resolved ∧
    isFilter filter = true
  | .buildClient policy => ∃ config, Configures rules decimals (var resolved) config ∧
    ((policy = apiClient ∧ history = [⟨.initTracing (rustLog resolved),()⟩]) ∨
      policy = authClient ∧ IsCredential config.sharedAuthServiceCredential ∧ IsAudience config.sharedAuthAudience ∧
        ∃ state, history = (prepared (rustLog resolved) config state).drop 3)
  | .connect url => ∃ config, Configures rules decimals (var resolved) config ∧
    ((url = config.primaryDatabaseUrl ∧
        history = [⟨.buildClient apiClient,.ok ()⟩, ⟨.initTracing (rustLog resolved),()⟩]) ∨
      url = config.supabaseDatabaseUrl ∧ ∃ primary, history = [⟨.connect config.primaryDatabaseUrl,.ok primary⟩,
        ⟨.buildClient apiClient,.ok ()⟩, ⟨.initTracing (rustLog resolved),()⟩])
  | .bind address => ∃ config app, Assembles rules decimals httpRules middleware isFilter resolved help config app ∧
    address = config.bindAddress ∧ history = (prepared (rustLog resolved) config app.state).drop 2
  | .localAddr => ∃ config app, Assembles rules decimals httpRules middleware isFilter resolved help config app ∧
    history = (prepared (rustLog resolved) config app.state).drop 1
  | .serve app => ∃ config, Assembles rules decimals httpRules middleware isFilter resolved help config app ∧
    history = prepared (rustLog resolved) config app.state

def Unserved {S : Type} (history : List (Exchange (StartCall D S) StartCall.Answer)) : Prop :=
  ∀ app, ⟨.serve app,.ok ()⟩ ∉ history

/-- A start that succeeds has printed what was asked for, or has served. -/
def StartEnds (history : List (Exchange (StartCall D middleware.Stack) StartCall.Answer)) :
    Except StartError Unit → Prop
  | .error _ => Unserved history
  | .ok _ => (∃ output, processControl resolved help = .ok (some output) ∧ history = [⟨.print output,()⟩]) ∨
    ∃ config app, Assembles rules decimals httpRules middleware isFilter resolved help config app ∧
      history = ⟨.serve app,.ok ()⟩ :: prepared (rustLog resolved) config app.state

theorem orStop_bind {D S ε α β : Type} {failure : ε → StartError} {value : Except ε α} {next : α → Startup D S β}
    {asks : List (Exchange (StartCall D S) StartCall.Answer) → StartCall D S → Prop}
    {ends : List (Exchange (StartCall D S) StartCall.Answer) → Except StartError β → Prop}
    {history : List (Exchange (StartCall D S) StartCall.Answer)} (stops : ∀ error, ends history (.error error))
    (continues : ∀ a, value = .ok a → (next a).Obeys asks ends history) :
    (orStop failure value >>= next).Obeys asks ends history := by
  cases value with
  | error error => exact stops (failure error)
  | ok a => exact continues a rfl

variable {rules decimals httpRules middleware isFilter resolved help}
variable {config : Config decimals.Number}

theorem authenticator_obeys (configures : Configures rules decimals (var resolved) config) {primary supabase : D}
    {history : List (Exchange (StartCall D middleware.Stack) StartCall.Answer)}
    (before : history = [⟨.connect config.supabaseDatabaseUrl,.ok supabase⟩,
      ⟨.connect config.primaryDatabaseUrl,.ok primary⟩, ⟨.buildClient apiClient,.ok ()⟩,
      ⟨.initTracing (rustLog resolved),()⟩]) :
    (Authenticator.fromConfig rules decimals config).Obeys
      (MayStart rules decimals httpRules middleware isFilter resolved help) (fun later result =>
        match result with
        | .ok auth => later = ⟨.buildClient authClient,.ok ()⟩ :: history ∧
          IsCredential config.sharedAuthServiceCredential ∧ IsAudience config.sharedAuthAudience ∧
          introspectionEndpoint rules config.sharedAuthBaseUrl = .ok auth.endpoint ∧
          auth = ⟨auth.endpoint,config.sharedAuthServiceCredential,config.sharedAuthAudience⟩
        | .error _ => Unserved later) history := by
  have unserved : Unserved history := by simp [Unserved, before]
  unfold Authenticator.fromConfig
  refine orStop_bind (fun _ => unserved) fun _ credential => ?_
  refine orStop_bind (fun _ => unserved) fun _ audience => ?_
  refine orStop_bind (fun _ => unserved) fun endpoint parsed => ?_
  have solid := checkCredential_ok.mp credential
  have named := checkAudience_ok.mp audience
  refine ⟨⟨config,configures,.inr ⟨rfl,solid,named,⟨primary,supabase,⟨endpoint,"",""⟩,"","",config.supabaseUrl,""⟩,
    before⟩⟩,fun built => ?_⟩
  refine orStop_bind (fun _ => by simpa [Unserved] using unserved) fun _ succeeded => ?_
  subst succeeded
  exact ⟨rfl,solid,named,parsed,rfl⟩

theorem services_obeys (configures : Configures rules decimals (var resolved) config) :
    (Services.fromConfig rules decimals config).Obeys
      (@MayStart D rules decimals httpRules middleware isFilter resolved help) (fun later result =>
        match result with
        | .ok state => later = (prepared (rustLog resolved) config state).drop 2 ∧
          IsCredential config.sharedAuthServiceCredential ∧ IsAudience config.sharedAuthAudience ∧
          introspectionEndpoint rules config.sharedAuthBaseUrl = .ok state.auth.endpoint ∧
          state =
            { primary := state.primary
              supabase := state.supabase
              auth := ⟨state.auth.endpoint,config.sharedAuthServiceCredential,config.sharedAuthAudience⟩
              turnstileSecret := config.turnstileSecretKey
              turnstileAction := config.turnstileAction
              projectUrl := config.supabaseUrl
              serviceRoleKey := config.supabaseServiceRoleKey }
        | .error _ => Unserved later) [⟨.initTracing (rustLog resolved),()⟩] := by
  unfold Services.fromConfig
  refine ⟨⟨config,configures,.inl ⟨rfl,rfl⟩⟩,fun built => ?_⟩
  refine orStop_bind (fun _ => by simp [Unserved]) fun _ succeeded => ?_
  subst succeeded
  refine ⟨⟨config,configures,.inl ⟨rfl,rfl⟩⟩,fun connected => ?_⟩
  refine orStop_bind (fun _ => by simp [Unserved]) fun primary succeeded => ?_
  subst succeeded
  refine ⟨⟨config,configures,.inr ⟨rfl,primary,rfl⟩⟩,fun connected => ?_⟩
  refine orStop_bind (fun _ => by simp [Unserved]) fun supabase succeeded => ?_
  subst succeeded
  refine (authenticator_obeys configures rfl).bind ?_ fun _ _ unserved => unserved
  rintro later auth ⟨rfl,credential,audience,endpoint,whole⟩
  exact ⟨rfl,credential,audience,endpoint,by rw [whole]⟩

/-- Nothing is done unless everything that comes before it was done and succeeded. -/
theorem main_obeys (rules : Rules) (decimals : Decimals) (httpRules : HttpRules)
    (middleware : Middleware decimals.Number) (isFilter : String → Bool) (resolved : Except String Lookup)
    (help : HelpMetadata) : (Startup.main rules decimals httpRules middleware isFilter resolved help).Obeys
      (@MayStart D rules decimals httpRules middleware isFilter resolved help)
      (StartEnds rules decimals httpRules middleware isFilter resolved help) [] := by
  unfold Startup.main
  refine orStop_bind (fun _ _ => List.not_mem_nil) fun output controlled => ?_
  cases output with
  | some output => exact ⟨⟨rfl,controlled⟩,fun _ => .inl ⟨output,controlled,rfl⟩⟩
  | none =>
  refine orStop_bind (fun _ _ => List.not_mem_nil) fun _ filtered => ?_
  have filter : isFilter (rustLog resolved) = true := by
    by_contra other
    rw [rustLog] at other
    rw [if_neg other] at filtered
    cases filtered
  refine ⟨⟨rfl,controlled,rfl,filter⟩,fun _ => ?_⟩
  refine orStop_bind (fun _ => by simp [StartEnds, Unserved]) fun config configured => ?_
  have configures := fromLookup_configures.mp configured
  refine (services_obeys configures).bind ?_ fun _ _ unserved => unserved
  rintro later state ⟨rfl,credential,audience,endpoint,whole⟩
  refine orStop_bind (fun _ => by simp [StartEnds, Unserved, prepared]) fun lifecycle built => ?_
  refine orStop_bind (fun _ => by simp [StartEnds, Unserved, prepared]) fun cors listed => ?_
  have assembles : Assembles rules decimals httpRules middleware isFilter resolved help config ⟨state,cors,lifecycle⟩ :=
    ⟨controlled,filter,configures,credential,audience,endpoint,whole,listed,built⟩
  refine ⟨⟨config,_,assembles,rfl,rfl⟩,fun bound => ?_⟩
  refine orStop_bind (fun _ => by simp [StartEnds, Unserved, prepared]) fun _ succeeded => ?_
  subst succeeded
  refine ⟨⟨config,_,assembles,rfl⟩,fun address => ?_⟩
  refine orStop_bind (fun _ => by simp [StartEnds, Unserved, prepared]) fun _ succeeded => ?_
  subst succeeded
  refine ⟨⟨config,assembles,rfl⟩,fun served => ?_⟩
  cases served with
  | error =>
    have unserved : Unserved (⟨.serve ⟨state,cors,lifecycle⟩,.error ()⟩ :: prepared (rustLog resolved) config state) := by
      simp [Unserved, prepared]
    exact unserved
  | ok => exact .inr ⟨config,_,assembles,rfl⟩

theorem orStop_ok {S ε α β : Type} {failure : ε → StartError} {value : Except ε α} {a : α} (known : value = .ok a)
    (next : α → Startup D S β) : orStop failure value >>= next = next a := by
  rw [known]
  rfl

/-- Where the application can be assembled and nothing fails, it is served. -/
theorem Assembles.serves {app : App D middleware.Stack}
    (assembles : Assembles rules decimals httpRules middleware isFilter resolved help config app)
    {answer : (call : StartCall D middleware.Stack) → call.Answer}
    (agrees : ∀ exchange ∈ ⟨.serve app,.ok ()⟩ :: prepared (rustLog resolved) config app.state,
      answer exchange.1 = exchange.2) :
    (Startup.main rules decimals httpRules middleware isFilter resolved help).follow answer [] =
      (⟨.serve app,.ok ()⟩ :: prepared (rustLog resolved) config app.state,.ok ()) := by
  obtain ⟨state,cors,lifecycle⟩ := app
  obtain ⟨controlled,filter,configures,credential,audience,endpoint,whole,listed,built⟩ := assembles
  simp only [prepared, List.forall_mem_cons] at agrees
  obtain ⟨served,addressed,bound,authed,second,first,client,traced,-⟩ := agrees
  have filtered : (if isFilter (rustLog resolved) then .ok () else .error .filter : Except StartError Unit) = .ok () :=
    if_pos filter
  have serving : (Startup.serve rules decimals httpRules middleware config).follow answer
      [⟨.initTracing (rustLog resolved),()⟩] =
      (⟨.serve ⟨state,cors,lifecycle⟩,.ok ()⟩ :: prepared (rustLog resolved) config state,.ok ()) := by
    simp only [Startup.serve, Services.fromConfig, Authenticator.fromConfig, Program.ask_bind, Program.bind_call,
      Program.follow, client, orStop_ok rfl, first, second, orStop_ok (checkCredential_ok.mpr credential),
      orStop_ok (checkAudience_ok.mpr audience), orStop_ok endpoint, authed, Program.pure_done, Program.bind_ok,
      ← whole, orStop_ok built, orStop_ok listed, bound, addressed, served]
    rfl
  unfold Startup.main
  rw [orStop_ok controlled]
  dsimp only
  rw [← rustLog, orStop_ok filtered, Program.ask_bind, Program.follow,
    orStop_ok (fromLookup_configures.mpr configures)]
  exact serving

end Order

namespace Sample

end Sample

end IntakeApi
