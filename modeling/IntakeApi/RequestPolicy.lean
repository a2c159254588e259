import IntakeApi.Settings

/-! The request policy that the settings describe, and the middleware that is built from it.
Decimal numbers and the middleware itself are parameters. -/
namespace IntakeApi

inductive RuntimeEnvironment where
  | development
  | test
  | staging
  | production
  deriving DecidableEq, Repr

inductive TlsMode where
  | disabled
  | inProcess
  | trustedProxy
  deriving DecidableEq, Repr

def TlsMode.asContractValue : TlsMode → String
  | .disabled => "disabled"
  | .inProcess => "in-process"
  | .trustedProxy => "trusted-proxy"

inductive RequestPolicyError where
  | invalidEnvironment
  | invalidTlsMode
  | productionTlsDisabled
  | missingTrustedProxy
  | invalidTimeout
  | invalidBodyLimit
  | invalidRateLimitCapacity
  | invalidRateLimitRefill
  | missingRateLimitSecret
  deriving DecidableEq, Repr

/-- `f64`, with its `from_str` and its number one. -/
structure Decimals where
  Number : Type
  parse : String → Option Number
  isFinite : Number → Bool
  isPositive : Number → Bool
  one : Number
  one_finite : isFinite one = true
  one_positive : isPositive one = true

structure RequestPolicy (Number : Type) where
  environment : RuntimeEnvironment
  tlsMode : TlsMode
  trustedProxyCidrs : List String
  timeoutMs : Nat
  maxBodyBytes : Nat
  rateLimitCapacity : Nat
  rateLimitRefillPerSecond : Number
  rateLimitHmacSecret : Option String

def parseEnvironment (text : String) : Option RuntimeEnvironment :=
  match text with
  | "development" | "dev" | "local" => some .development
  | "test" | "testing" => some .test
  | "staging" | "stage" => some .staging
  | "production" | "prod" => some .production
  | _ => none

def parseTlsMode (text : String) : Option TlsMode :=
  match text with
  | "disabled" => some .disabled
  | "in-process" | "in_process" => some .inProcess
  | "trusted-proxy" | "trusted_proxy" => some .trustedProxy
  | _ => none

def refuseIf (refused : Bool) (error : RequestPolicyError) : Except RequestPolicyError Unit :=
  if refused then .error error else .ok ()

def RequestPolicy.fromLookup (decimals : Decimals) (lookup : Lookup) :
    Except RequestPolicyError (RequestPolicy decimals.Number) := do
  let environment ← okOr
    (parseEnvironment (toAsciiLowercase ((optional lookup "APP_ENV").getD "development"))) .invalidEnvironment
  let tlsMode ← okOr
    (parseTlsMode (toAsciiLowercase ((optional lookup "ORES_MIDDLEWARE_TLS_MODE").getD "disabled")))
    .invalidTlsMode
  refuseIf (environment = .production && tlsMode = .disabled) .productionTlsDisabled
  let trustedProxyCidrs :=
    ((optional lookup "ORES_MIDDLEWARE_TRUSTED_PROXY_CIDRS").map splitCsv).getD []
  refuseIf (tlsMode = .trustedProxy && trustedProxyCidrs.isEmpty) .missingTrustedProxy
  let timeoutMs ← okOr
    ((parseNumber (parseUnsigned 64) (optional lookup "ORES_MIDDLEWARE_TIMEOUT_MS") 10000).filter
      fun value => 0 < value) .invalidTimeout
  let maxBodyBytes ← okOr
    ((parseNumber (parseUnsigned 64) (optional lookup "ORES_MIDDLEWARE_MAX_BODY_BYTES") (256 * 1024)).filter
      fun value => 0 < value && value ≤ 2 * 1024 * 1024) .invalidBodyLimit
  let rateLimitCapacity ← okOr
    ((parseNumber (parseUnsigned 32) (optional lookup "ORES_MIDDLEWARE_RATE_LIMIT_CAPACITY") 60).filter
      fun value => 0 < value) .invalidRateLimitCapacity
  let rateLimitRefillPerSecond ← okOr
    ((parseNumber decimals.parse (optional lookup "ORES_MIDDLEWARE_RATE_LIMIT_REFILL_PER_SECOND")
      decimals.one).filter fun value => decimals.isFinite value && decimals.isPositive value)
    .invalidRateLimitRefill
  let rateLimitHmacSecret := optional lookup "ORES_MIDDLEWARE_RATE_LIMIT_HMAC_SECRET"
  refuseIf (environment = .production && rateLimitHmacSecret.isNone) .missingRateLimitSecret
  return { environment, tlsMode, trustedProxyCidrs, timeoutMs, maxBodyBytes, rateLimitCapacity,
           rateLimitRefillPerSecond, rateLimitHmacSecret }

inductive RateLimitSignal where
  | ip
  | route
  | method
  deriving DecidableEq, Repr

inductive RateLimitFailureMode where
  | failClosed
  | localOnly
  deriving DecidableEq, Repr

inductive RateLimitKeyDerivationMode where
  | externalHmacSha256
  | ephemeralHmacSha256
  deriving DecidableEq, Repr

structure TlsSettings where
  mode : String
  requireHttps : Bool
  strictForwardedHeaders : Bool
  trustedProxyCidrs : List String

structure RateLimitSettings (Number : Type) where
  capacity : Nat
  refillPerSecond : Number
  keyBy : List RateLimitSignal
  failureMode : RateLimitFailureMode
  keyDerivation : RateLimitKeyDerivationMode

structure TelemetrySettings where
  enabled : Bool
  serviceName : String
  propagators : List String

/-- What the middleware is configured with; `rest` is what this code leaves as it is. -/
structure MiddlewareConfig (Number Rest : Type) where
  environment : RuntimeEnvironment
  timeoutMs : Nat
  maxBodyBytes : Nat
  tls : TlsSettings
  rateLimit : RateLimitSettings Number
  oresOtel : TelemetrySettings
  rest : Rest

structure ConfigIssue where
  path : String
  code : String

/-- The middleware that is used: its defaults, its own check of a configuration, and the
installation of a key. -/
structure Middleware (Number : Type) where
  Rest : Type
  Stack : Type
  defaultConfig : String → MiddlewareConfig Number Rest
  new : MiddlewareConfig Number Rest → Except (List ConfigIssue) Stack
  withRateLimitHmacKey : Stack → List UInt8 → Except Unit Stack

section Stack

variable {Number : Type} (middleware : Middleware Number) (policy : RequestPolicy Number)

/-- The configuration that `stack_from_policy` hands to the middleware. -/
def policyConfig : MiddlewareConfig Number middleware.Rest :=
  let config := middleware.defaultConfig "hhm-api"
  { config with
    environment := policy.environment
    timeoutMs := policy.timeoutMs
    maxBodyBytes := policy.maxBodyBytes
    tls :=
      { config.tls with
        mode := policy.tlsMode.asContractValue
        requireHttps := policy.tlsMode ≠ .disabled
        strictForwardedHeaders := true
        trustedProxyCidrs := policy.trustedProxyCidrs }
    rateLimit :=
      { config.rateLimit with
        capacity := policy.rateLimitCapacity
        refillPerSecond := policy.rateLimitRefillPerSecond
        keyBy := [.ip,.route,.method]
        failureMode := if policy.environment = .production then .failClosed else .localOnly
        keyDerivation :=
          if policy.environment = .production then .externalHmacSha256 else .ephemeralHmacSha256 }
    oresOtel :=
      { config.oresOtel with
        enabled := true
        serviceName := "hhm-api"
        propagators := ["tracecontext","baggage"] } }

def stackFromPolicy : Except String middleware.Stack :=
  match middleware.new (policyConfig middleware policy) with
  | .error issues =>
    .error ("request middleware policy is invalid: " ++
      ", ".intercalate (issues.map fun issue => issue.path ++ ":" ++ issue.code))
  | .ok stack =>
    match policy.rateLimitHmacSecret with
    | some secret =>
      match middleware.withRateLimitHmacKey stack (asBytes secret) with
      | .ok stack => .ok stack
      | .error _ => .error "request rate-limit key is invalid"
    | none => .ok stack

end Stack

/-- The spellings of a setting with a few values, in lower case. -/
def environmentWords : List (String × RuntimeEnvironment) :=
  [("development",.development),("dev",.development),("local",.development),("test",.test),
    ("testing",.test),("staging",.staging),("stage",.staging),("production",.production),
    ("prod",.production)]

def tlsModeWords : List (String × TlsMode) :=
  [("disabled",.disabled),("in-process",.inProcess),("in_process",.inProcess),
    ("trusted-proxy",.trustedProxy),("trusted_proxy",.trustedProxy)]

/-- The setting spells a value in any case, or is absent and the value is its default. -/
def Selects {α : Type} (lookup : Lookup) (name : String) (words : List (String × α)) (default value : α) : Prop :=
  (optional lookup name = none ∧ value = default) ∨
    ∃ text, optional lookup name = some text ∧ (toAsciiLowercase text,value) ∈ words

/-- The setting is absent or parses to an admissible number. -/
def Measures {α : Type} (lookup : Lookup) (name : String) (parse : String → Option α) (admissible : α → Prop) :
    Prop :=
  ∀ text, optional lookup name = some text → ∃ value, parse text = some value ∧ admissible value

/-- The setting is there and spells no value. -/
def Misspells {α : Type} (lookup : Lookup) (name : String) (words : List (String × α)) : Prop :=
  ∃ text, optional lookup name = some text ∧ ∀ value, (toAsciiLowercase text,value) ∉ words

/-- The setting is there and parses to no admissible number. -/
def Mismeasures {α : Type} (lookup : Lookup) (name : String) (parse : String → Option α) (admissible : α → Prop) :
    Prop :=
  ∃ text, optional lookup name = some text ∧ ∀ value, parse text = some value → ¬admissible value

structure SafePolicy (decimals : Decimals) (lookup : Lookup) : Prop where
  environment : ∃ value, Selects lookup "APP_ENV" environmentWords .development value
  tlsMode : ∃ value, Selects lookup "ORES_MIDDLEWARE_TLS_MODE" tlsModeWords .disabled value
  timeout : Measures lookup "ORES_MIDDLEWARE_TIMEOUT_MS" (parseUnsigned 64) fun n => 0 < n
  bodyLimit : Measures lookup "ORES_MIDDLEWARE_MAX_BODY_BYTES" (parseUnsigned 64) fun n =>
    1 ≤ n ∧ n ≤ 2 * 1024 * 1024
  capacity : Measures lookup "ORES_MIDDLEWARE_RATE_LIMIT_CAPACITY" (parseUnsigned 32) fun n => 0 < n
  refill : Measures lookup "ORES_MIDDLEWARE_RATE_LIMIT_REFILL_PER_SECOND" decimals.parse fun x =>
    decimals.isFinite x = true ∧ decimals.isPositive x = true
  production : Selects lookup "APP_ENV" environmentWords .development .production →
    ¬Selects lookup "ORES_MIDDLEWARE_TLS_MODE" tlsModeWords .disabled .disabled ∧
      ∃ secret, optional lookup "ORES_MIDDLEWARE_RATE_LIMIT_HMAC_SECRET" = some secret
  trustedProxy : Selects lookup "ORES_MIDDLEWARE_TLS_MODE" tlsModeWords .disabled .trustedProxy →
    ∃ raw item, lookup "ORES_MIDDLEWARE_TRUSTED_PROXY_CIDRS" = some raw ∧ item ∈ splitCsv raw

def RequestPolicyError.Tells (decimals : Decimals) (lookup : Lookup) : RequestPolicyError → Prop
  | .invalidEnvironment => Misspells lookup "APP_ENV" environmentWords
  | .invalidTlsMode => Misspells lookup "ORES_MIDDLEWARE_TLS_MODE" tlsModeWords
  | .productionTlsDisabled =>
    Selects lookup "APP_ENV" environmentWords .development .production ∧
      Selects lookup "ORES_MIDDLEWARE_TLS_MODE" tlsModeWords .disabled .disabled
  | .missingTrustedProxy =>
    Selects lookup "ORES_MIDDLEWARE_TLS_MODE" tlsModeWords .disabled .trustedProxy ∧
      ∀ raw, lookup "ORES_MIDDLEWARE_TRUSTED_PROXY_CIDRS" = some raw → splitCsv raw = []
  | .invalidTimeout => Mismeasures lookup "ORES_MIDDLEWARE_TIMEOUT_MS" (parseUnsigned 64) fun n => 0 < n
  | .invalidBodyLimit => Mismeasures lookup "ORES_MIDDLEWARE_MAX_BODY_BYTES" (parseUnsigned 64) fun n =>
      1 ≤ n ∧ n ≤ 2 * 1024 * 1024
  | .invalidRateLimitCapacity =>
    Mismeasures lookup "ORES_MIDDLEWARE_RATE_LIMIT_CAPACITY" (parseUnsigned 32) fun n => 0 < n
  | .invalidRateLimitRefill =>
    Mismeasures lookup "ORES_MIDDLEWARE_RATE_LIMIT_REFILL_PER_SECOND" decimals.parse fun x =>
      decimals.isFinite x = true ∧ decimals.isPositive x = true
  | .missingRateLimitSecret =>
    Selects lookup "APP_ENV" environmentWords .development .production ∧
      optional lookup "ORES_MIDDLEWARE_RATE_LIMIT_HMAC_SECRET" = none

section Settings

variable {lookup : Lookup} {name : String}

theorem parseEnvironment_iff {text : String} {value : RuntimeEnvironment} :
    parseEnvironment text = some value ↔ (text,value) ∈ environmentWords := by
  constructor
  · intro parsed
    unfold parseEnvironment at parsed
    split at parsed <;> first | cases parsed; decide | cases parsed
  · intro listed
    have words : ∀ word ∈ environmentWords, parseEnvironment word.1 = some word.2 := by decide
    exact words _ listed

theorem parseTlsMode_iff {text : String} {value : TlsMode} :
    parseTlsMode text = some value ↔ (text,value) ∈ tlsModeWords := by
  constructor
  · intro parsed
    unfold parseTlsMode at parsed
    split at parsed <;> first | cases parsed; decide | cases parsed
  · intro listed
    have words : ∀ word ∈ tlsModeWords, parseTlsMode word.1 = some word.2 := by decide
    exact words _ listed

/-- A setting with a few values, its default and the word for it. -/
theorem selects_iff {α : Type} {words : List (String × α)} {parse : String → Option α} {default value : α}
    {word : String} (parses : ∀ text value, parse text = some value ↔ (text,value) ∈ words)
    (named : parse (toAsciiLowercase word) = some default) :
    parse (toAsciiLowercase ((optional lookup name).getD word)) = some value ↔
      Selects lookup name words default value := by
  cases found : optional lookup name with
  | none => simp [Selects, found, named, eq_comm]
  | some text => simp [Selects, found, parses]

theorem measures_iff {α : Type} {parse : String → Option α} (default : α) (admissible : α → Bool)
    (fits : admissible default = true) :
    (∃ value, (parseNumber parse (optional lookup name) default).filter admissible = some value) ↔
      Measures lookup name parse fun value => admissible value = true := by
  cases found : optional lookup name with
  | none => simp [Measures, found, parseNumber, fits]
  | some text => simp [Measures, found, parseNumber]

theorem misspells_of_none {α : Type} {words : List (String × α)} {parse : String → Option α} {default : α}
    {word : String} (parses : ∀ text value, parse text = some value ↔ (text,value) ∈ words)
    (named : parse (toAsciiLowercase word) = some default)
    (failed : parse (toAsciiLowercase ((optional lookup name).getD word)) = none) : Misspells lookup name words := by
  cases found : optional lookup name with
  | none =>
    rw [found, Option.getD_none, named] at failed
    cases failed
  | some text =>
    rw [found, Option.getD_some] at failed
    refine ⟨text,found,fun value listed => ?_⟩
    rw [(parses _ value).mpr listed] at failed
    cases failed

theorem mismeasures_of_none {α : Type} {parse : String → Option α} {default : α} {admissible : α → Bool}
    (fits : admissible default = true)
    (failed : (parseNumber parse (optional lookup name) default).filter admissible = none) :
    Mismeasures lookup name parse fun value => admissible value = true := by
  cases found : optional lookup name with
  | none => simp [found, parseNumber, fits] at failed
  | some text =>
    refine ⟨text,found,fun value parsed admitted => ?_⟩
    simp [found, parseNumber, parsed, admitted] at failed

/-- The items of the trusted proxies, as the setting lists them. -/
theorem trustedProxy_items : ((optional lookup name).map splitCsv).getD [] =
    ((lookup name).map splitCsv).getD [] := by
  cases found : lookup name with
  | none => simp [optional, found]
  | some raw =>
    cases given : optional lookup name with
    | some text =>
      obtain ⟨raw',found',rfl,-⟩ := optional_some.mp given
      obtain rfl := Option.some.inj (found.symm.trans found')
      rw [Option.map_some, Option.map_some, Option.getD_some, Option.getD_some, splitCsv_trim]
    | none =>
      have blank : trim raw = "" := by
        simpa [optional, found, Option.filter_some] using given
      have empty : splitCsv "" = [] := by decide
      rw [Option.map_none, Option.map_some, Option.getD_none, Option.getD_some, ← splitCsv_trim, blank, empty]

end Settings

section Lookup

variable {decimals : Decimals} {lookup : Lookup} {policy : RequestPolicy decimals.Number}

/-- The policy that settings describe: each field is what its setting parses to, and the settings
agree with each other. -/
structure Describes (decimals : Decimals) (lookup : Lookup) (policy : RequestPolicy decimals.Number) :
    Prop where
  environment : parseEnvironment (toAsciiLowercase ((optional lookup "APP_ENV").getD "development")) =
    some policy.environment
  tlsMode : parseTlsMode (toAsciiLowercase
    ((optional lookup "ORES_MIDDLEWARE_TLS_MODE").getD "disabled")) = some policy.tlsMode
  encrypted : ¬(policy.environment = .production ∧ policy.tlsMode = .disabled)
  cidrs : policy.trustedProxyCidrs = ((lookup "ORES_MIDDLEWARE_TRUSTED_PROXY_CIDRS").map splitCsv).getD []
  proxied : policy.tlsMode = .trustedProxy → policy.trustedProxyCidrs ≠ []
  timeout : (parseNumber (parseUnsigned 64) (optional lookup "ORES_MIDDLEWARE_TIMEOUT_MS") 10000).filter
    (fun value => 0 < value) = some policy.timeoutMs
  bodyLimit : (parseNumber (parseUnsigned 64) (optional lookup "ORES_MIDDLEWARE_MAX_BODY_BYTES")
    (256 * 1024)).filter (fun value => 0 < value && value ≤ 2 * 1024 * 1024) = some policy.maxBodyBytes
  capacity : (parseNumber (parseUnsigned 32) (optional lookup "ORES_MIDDLEWARE_RATE_LIMIT_CAPACITY")
    60).filter (fun value => 0 < value) = some policy.rateLimitCapacity
  refill : (parseNumber decimals.parse (optional lookup "ORES_MIDDLEWARE_RATE_LIMIT_REFILL_PER_SECOND")
    decimals.one).filter (fun value => decimals.isFinite value && decimals.isPositive value) =
      some policy.rateLimitRefillPerSecond
  secret : policy.rateLimitHmacSecret = optional lookup "ORES_MIDDLEWARE_RATE_LIMIT_HMAC_SECRET"
  keyed : policy.environment = .production → policy.rateLimitHmacSecret ≠ none

theorem bind_ok_iff {α β ε : Type} {x : Except ε α} {f : α → Except ε β} {b : β} :
    (x >>= f) = .ok b ↔ ∃ a, x = .ok a ∧ f a = .ok b := by
  cases x with
  | error => simp [bind, Except.bind]
  | ok => simp [bind, Except.bind]

theorem bind_error_iff {α β ε : Type} {x : Except ε α} {f : α → Except ε β} {error : ε} :
    (x >>= f) = .error error ↔ x = .error error ∨ ∃ a, x = .ok a ∧ f a = .error error := by
  cases x with
  | error => simp [bind, Except.bind]
  | ok => simp [bind, Except.bind]

theorem okOr_error {α ε : Type} {value : Option α} {refusal error : ε} :
    okOr value refusal = .error error ↔ value = none ∧ refusal = error := by
  cases value <;> simp [okOr]

theorem refuseIf_error {refused : Bool} {refusal error : RequestPolicyError} :
    refuseIf refused refusal = .error error ↔ refused = true ∧ refusal = error := by
  cases refused <;> simp [refuseIf]

theorem okOr_ok {α ε : Type} {value : Option α} {error : ε} {a : α} :
    okOr value error = .ok a ↔ value = some a := by
  cases value <;> simp [okOr]

theorem refuseIf_ok {refused : Bool} {error : RequestPolicyError} :
    (∃ a, refuseIf refused error = .ok a ∧ p) ↔ refused = false ∧ p := by
  cases refused <;> simp [refuseIf]

theorem fromLookup_iff : RequestPolicy.fromLookup decimals lookup = .ok policy ↔
    Describes decimals lookup policy := by
  unfold RequestPolicy.fromLookup
  simp only [bind_ok_iff, okOr_ok, refuseIf_ok, trustedProxy_items, pure, Except.pure, Except.ok.injEq]
  constructor
  · rintro ⟨environment,named,tlsMode,chosen,encrypted,proxied,timeout,first,limit,second,capacity,third,refill,
      fourth,keyed,rfl⟩
    simp only [Bool.and_eq_false_iff, decide_eq_false_iff_not, List.isEmpty_eq_false_iff,
      Option.isNone_eq_false_iff, Option.isSome_iff_ne_none] at encrypted proxied keyed
    exact
      { environment := named
        tlsMode := chosen
        encrypted := fun both => encrypted.elim (· both.1) (· both.2)
        cidrs := rfl
        proxied := fun trusted => proxied.resolve_left (· trusted)
        timeout := first
        bodyLimit := second
        capacity := third
        refill := fourth
        secret := rfl
        keyed := fun production => keyed.resolve_left (· production) }
  · intro described
    obtain ⟨environment,tlsMode,cidrs,timeout,limit,capacity,refill,secret⟩ := policy
    obtain ⟨named,chosen,encrypted,rfl,proxied,first,second,third,fourth,rfl,keyed⟩ := described
    refine ⟨_,named,_,chosen,?_,?_,_,first,_,second,_,third,_,fourth,?_,rfl⟩
    · simpa only [Bool.and_eq_false_iff, decide_eq_false_iff_not, not_and_or] using encrypted
    · simpa only [Bool.and_eq_false_iff, decide_eq_false_iff_not, List.isEmpty_eq_false_iff,
        imp_iff_not_or] using proxied
    · simpa only [Bool.and_eq_false_iff, decide_eq_false_iff_not, Option.isNone_eq_false_iff,
        Option.isSome_iff_ne_none, imp_iff_not_or] using keyed

theorem selects_environment {value : RuntimeEnvironment} :
    parseEnvironment (toAsciiLowercase ((optional lookup "APP_ENV").getD "development")) = some value ↔
      Selects lookup "APP_ENV" environmentWords .development value :=
  selects_iff (fun _ _ => parseEnvironment_iff) (by decide)

theorem selects_tlsMode {value : TlsMode} :
    parseTlsMode (toAsciiLowercase ((optional lookup "ORES_MIDDLEWARE_TLS_MODE").getD "disabled")) =
        some value ↔
      Selects lookup "ORES_MIDDLEWARE_TLS_MODE" tlsModeWords .disabled value :=
  selects_iff (fun _ _ => parseTlsMode_iff) (by decide)

/-- A refusal names the setting that is unfit, or those that do not go together. -/
theorem policy_tells {error : RequestPolicyError}
    (failed : RequestPolicy.fromLookup decimals lookup = .error error) : error.Tells decimals lookup := by
  unfold RequestPolicy.fromLookup at failed
  simp only [bind_error_iff, okOr_error, okOr_ok, refuseIf_error, trustedProxy_items] at failed
  rcases failed with ⟨unspelled,rfl⟩ | ⟨environment,named,failed⟩
  · have named : parseEnvironment (toAsciiLowercase "development") = some .development := by decide
    exact misspells_of_none (fun _ _ => parseEnvironment_iff) named unspelled
  rcases failed with ⟨unspelled,rfl⟩ | ⟨tlsMode,chosen,failed⟩
  · have chosen : parseTlsMode (toAsciiLowercase "disabled") = some .disabled := by decide
    exact misspells_of_none (fun _ _ => parseTlsMode_iff) chosen unspelled
  rcases failed with ⟨both,rfl⟩ | ⟨_,-,failed⟩
  · simp only [Bool.and_eq_true, decide_eq_true_eq] at both
    obtain ⟨rfl,rfl⟩ := both
    exact ⟨selects_environment.mp named,selects_tlsMode.mp chosen⟩
  rcases failed with ⟨both,rfl⟩ | ⟨_,-,failed⟩
  · simp only [Bool.and_eq_true, decide_eq_true_eq, List.isEmpty_iff] at both
    obtain ⟨rfl,unlisted⟩ := both
    refine ⟨selects_tlsMode.mp chosen,fun raw found => ?_⟩
    rwa [found, Option.map_some, Option.getD_some] at unlisted
  rcases failed with ⟨unmeasured,rfl⟩ | ⟨_,-,failed⟩
  · have mismeasured := mismeasures_of_none (by decide) unmeasured
    simp only [decide_eq_true_eq] at mismeasured
    exact mismeasured
  rcases failed with ⟨unmeasured,rfl⟩ | ⟨_,-,failed⟩
  · have mismeasured := mismeasures_of_none (by decide) unmeasured
    simp only [Bool.and_eq_true, decide_eq_true_eq] at mismeasured
    exact mismeasured
  rcases failed with ⟨unmeasured,rfl⟩ | ⟨_,-,failed⟩
  · have mismeasured := mismeasures_of_none (by decide) unmeasured
    simp only [decide_eq_true_eq] at mismeasured
    exact mismeasured
  rcases failed with ⟨unmeasured,rfl⟩ | ⟨_,-,failed⟩
  · have fits : (decimals.isFinite decimals.one && decimals.isPositive decimals.one) = true := by
      rw [decimals.one_finite, decimals.one_positive, Bool.and_true]
    have mismeasured := @mismeasures_of_none lookup _ _ decimals.parse decimals.one
      (fun x => decimals.isFinite x && decimals.isPositive x) fits unmeasured
    simp only [Bool.and_eq_true] at mismeasured
    exact mismeasured
  rcases failed with ⟨both,rfl⟩ | ⟨_,-,failed⟩
  · simp only [Bool.and_eq_true, decide_eq_true_eq, Option.isNone_iff_eq_none] at both
    obtain ⟨rfl,absent⟩ := both
    exact ⟨selects_environment.mp named,absent⟩
  · cases failed

theorem measures_timeout : (∃ value, (parseNumber (parseUnsigned 64)
      (optional lookup "ORES_MIDDLEWARE_TIMEOUT_MS") 10000).filter (fun value => 0 < value) = some value) ↔
    Measures lookup "ORES_MIDDLEWARE_TIMEOUT_MS" (parseUnsigned 64) fun n => 0 < n := by
  simpa only [decide_eq_true_eq] using measures_iff 10000 (fun value => decide (0 < value)) (by decide)

theorem measures_bodyLimit : (∃ value, (parseNumber (parseUnsigned 64)
      (optional lookup "ORES_MIDDLEWARE_MAX_BODY_BYTES") (256 * 1024)).filter
        (fun value => 0 < value && value ≤ 2 * 1024 * 1024) = some value) ↔
    Measures lookup "ORES_MIDDLEWARE_MAX_BODY_BYTES" (parseUnsigned 64) fun n =>
      1 ≤ n ∧ n ≤ 2 * 1024 * 1024 := by
  have measured := @measures_iff lookup "ORES_MIDDLEWARE_MAX_BODY_BYTES" _ (parseUnsigned 64) (256 * 1024)
    (fun value => decide (0 < value) && decide (value ≤ 2 * 1024 * 1024)) (by decide)
  simp only [Bool.and_eq_true, decide_eq_true_eq] at measured
  exact measured

theorem measures_capacity : (∃ value, (parseNumber (parseUnsigned 32)
      (optional lookup "ORES_MIDDLEWARE_RATE_LIMIT_CAPACITY") 60).filter (fun value => 0 < value) = some value) ↔
    Measures lookup "ORES_MIDDLEWARE_RATE_LIMIT_CAPACITY" (parseUnsigned 32) fun n => 0 < n := by
  simpa only [decide_eq_true_eq] using measures_iff 60 (fun value => decide (0 < value)) (by decide)

theorem measures_refill : (∃ value, (parseNumber decimals.parse
      (optional lookup "ORES_MIDDLEWARE_RATE_LIMIT_REFILL_PER_SECOND") decimals.one).filter
        (fun value => decimals.isFinite value && decimals.isPositive value) = some value) ↔
    Measures lookup "ORES_MIDDLEWARE_RATE_LIMIT_REFILL_PER_SECOND" decimals.parse fun x =>
      decimals.isFinite x = true ∧ decimals.isPositive x = true := by
  have fits : (decimals.isFinite decimals.one && decimals.isPositive decimals.one) = true := by
    rw [decimals.one_finite, decimals.one_positive, Bool.and_true]
  simpa only [Bool.and_eq_true] using
    measures_iff decimals.one (fun x => decimals.isFinite x && decimals.isPositive x) fits

theorem Describes.safe (described : Describes decimals lookup policy) : SafePolicy decimals lookup where
  environment := ⟨_,selects_environment.mp described.environment⟩
  tlsMode := ⟨_,selects_tlsMode.mp described.tlsMode⟩
  timeout := measures_timeout.mp ⟨_,described.timeout⟩
  bodyLimit := measures_bodyLimit.mp ⟨_,described.bodyLimit⟩
  capacity := measures_capacity.mp ⟨_,described.capacity⟩
  refill := measures_refill.mp ⟨_,described.refill⟩
  production selected := by
    have same := Option.some.inj (described.environment.symm.trans (selects_environment.mpr selected))
    refine ⟨fun disabled => described.encrypted ⟨same,?_⟩,?_⟩
    · exact Option.some.inj (described.tlsMode.symm.trans (selects_tlsMode.mpr disabled))
    · exact Option.ne_none_iff_exists'.mp (described.secret ▸ described.keyed same)
  trustedProxy selected := by
    have same := Option.some.inj (described.tlsMode.symm.trans (selects_tlsMode.mpr selected))
    have listed := described.proxied same
    rw [described.cidrs] at listed
    cases found : lookup "ORES_MIDDLEWARE_TRUSTED_PROXY_CIDRS" with
    | none => exact absurd (by rw [found]; rfl) listed
    | some raw =>
      rw [found, Option.map_some, Option.getD_some] at listed
      obtain ⟨item,member⟩ := List.exists_mem_of_ne_nil _ listed
      exact ⟨raw,item,rfl,member⟩

theorem SafePolicy.describes (safe : SafePolicy decimals lookup) :
    ∃ policy, Describes decimals lookup policy := by
  obtain ⟨environment,named⟩ := safe.environment
  obtain ⟨tlsMode,chosen⟩ := safe.tlsMode
  obtain ⟨timeout,first⟩ := measures_timeout.mpr safe.timeout
  obtain ⟨limit,second⟩ := measures_bodyLimit.mpr safe.bodyLimit
  obtain ⟨capacity,third⟩ := measures_capacity.mpr safe.capacity
  obtain ⟨refill,fourth⟩ := measures_refill.mpr safe.refill
  refine ⟨⟨environment,tlsMode,((lookup "ORES_MIDDLEWARE_TRUSTED_PROXY_CIDRS").map splitCsv).getD [],timeout,
      limit,capacity,refill,optional lookup "ORES_MIDDLEWARE_RATE_LIMIT_HMAC_SECRET"⟩,
    selects_environment.mpr named,selects_tlsMode.mpr chosen,?_,rfl,?_,first,second,third,fourth,rfl,?_⟩
  · rintro ⟨production,disabled⟩
    dsimp only at production disabled
    subst production disabled
    exact (safe.production named).1 chosen
  · intro trusted
    dsimp only at trusted
    subst trusted
    obtain ⟨raw,item,found,member⟩ := safe.trustedProxy chosen
    simp only [found, Option.map_some, Option.getD_some]
    exact List.ne_nil_of_mem member
  · intro production
    dsimp only at production
    subst production
    obtain ⟨secret,given⟩ := (safe.production named).2
    exact Option.ne_none_iff_exists'.mpr ⟨secret,given⟩

end Lookup

/-- The stack is the middleware under the policy's configuration, with the key installed if there is one. -/
theorem stackFromPolicy_ok {Number : Type} {middleware : Middleware Number} {policy : RequestPolicy Number}
    {stack : middleware.Stack} : stackFromPolicy middleware policy = .ok stack ↔
      ∃ plain, middleware.new (policyConfig middleware policy) = .ok plain ∧
        ((policy.rateLimitHmacSecret = none ∧ stack = plain) ∨
          ∃ secret, policy.rateLimitHmacSecret = some secret ∧
            middleware.withRateLimitHmacKey plain (asBytes secret) = .ok stack) := by
  unfold stackFromPolicy
  cases middleware.new (policyConfig middleware policy) with
  | error issues => simp
  | ok plain =>
    cases policy.rateLimitHmacSecret with
    | none => simp [eq_comm]
    | some secret =>
      dsimp only
      cases installed : middleware.withRateLimitHmacKey plain (asBytes secret) <;> simp [installed]

/-- A policy is accepted exactly where its settings are safe, and the middleware is then handed a
configuration that requires encryption unless it is disabled, trusts the listed peers only and
fails closed in production. The stack is what the middleware makes of it, with the key installed if
there is one, as there is in production. -/
theorem request_policy_safe (decimals : Decimals) (lookup : Lookup) :
    ((∃ policy, RequestPolicy.fromLookup decimals lookup = .ok policy) ↔ SafePolicy decimals lookup) ∧
    ∀ policy, RequestPolicy.fromLookup decimals lookup = .ok policy →
      ∀ middleware : Middleware decimals.Number,
        ((policyConfig middleware policy).tls.requireHttps = true ↔
          ¬Selects lookup "ORES_MIDDLEWARE_TLS_MODE" tlsModeWords .disabled .disabled) ∧
        (policyConfig middleware policy).tls.strictForwardedHeaders = true ∧
        (policyConfig middleware policy).tls.trustedProxyCidrs =
          ((lookup "ORES_MIDDLEWARE_TRUSTED_PROXY_CIDRS").map splitCsv).getD [] ∧
        (Selects lookup "APP_ENV" environmentWords .development .production →
          (policyConfig middleware policy).rateLimit.failureMode = .failClosed ∧
          (policyConfig middleware policy).rateLimit.keyDerivation = .externalHmacSha256 ∧
          ∃ secret, optional lookup "ORES_MIDDLEWARE_RATE_LIMIT_HMAC_SECRET" = some secret) ∧
        ∀ stack, stackFromPolicy middleware policy = .ok stack ↔
          ∃ plain, middleware.new (policyConfig middleware policy) = .ok plain ∧
            ((optional lookup "ORES_MIDDLEWARE_RATE_LIMIT_HMAC_SECRET" = none ∧ stack = plain) ∨
              ∃ secret, optional lookup "ORES_MIDDLEWARE_RATE_LIMIT_HMAC_SECRET" = some secret ∧
                middleware.withRateLimitHmacKey plain (asBytes secret) = .ok stack) := by
  refine ⟨⟨?_,?_⟩,?_⟩
  · rintro ⟨policy,accepted⟩
    exact (fromLookup_iff.mp accepted).safe
  · intro safe
    obtain ⟨policy,described⟩ := safe.describes
    exact ⟨policy,fromLookup_iff.mpr described⟩
  · intro policy accepted middleware
    have described := fromLookup_iff.mp accepted
    refine ⟨?_,rfl,described.cidrs,?_,fun stack => ?_⟩
    · rw [← selects_tlsMode, described.tlsMode, Option.some_inj]
      exact decide_eq_true_iff
    · intro selected
      have same := Option.some.inj (described.environment.symm.trans (selects_environment.mpr selected))
      exact ⟨if_pos same,if_pos same,(described.safe.production selected).2⟩
    · rw [stackFromPolicy_ok, described.secret]

namespace Sample

/-- Whole numbers. -/
def decimals : Decimals where
  Number := Nat
  parse := parseUnsigned 64
  isFinite _ := true
  isPositive n := 0 < n
  one := 1
  one_finite := rfl
  one_positive := rfl

/-- It keeps the configuration, and the keys that are installed. -/
def middleware : Middleware Nat where
  Rest := Unit
  Stack := MiddlewareConfig Nat Unit × List (List UInt8)
  defaultConfig name := ⟨.development,0,0,⟨"",false,false,[]⟩,⟨0,0,[],.localOnly,.ephemeralHmacSha256⟩,⟨false,name,[]⟩,()⟩
  new config := .ok (config,[])
  withRateLimitHmacKey stack key := .ok (stack.1,stack.2 ++ [key])

def production : Lookup := fun name =>
  if name = "APP_ENV" then some " Prod "
  else if name = "ORES_MIDDLEWARE_TLS_MODE" then some "trusted_proxy"
  else if name = "ORES_MIDDLEWARE_TRUSTED_PROXY_CIDRS" then some "10.0.0.0/8, ,192.168.0.0/16"
  else if name = "ORES_MIDDLEWARE_RATE_LIMIT_HMAC_SECRET" then some "pepper"
  else none

end Sample

theorem request_policy_safe_production :
    ∃ policy stack, RequestPolicy.fromLookup Sample.decimals Sample.production = .ok policy ∧
      stackFromPolicy Sample.middleware policy = .ok stack ∧ stack.2 = [asBytes "pepper"] ∧
      stack.1.tls.requireHttps = true ∧ stack.1.tls.trustedProxyCidrs = ["10.0.0.0/8", "192.168.0.0/16"] ∧
      stack.1.rateLimit.failureMode = .failClosed := by
  obtain ⟨-,built⟩ := request_policy_safe Sample.decimals Sample.production
  cases accepted : RequestPolicy.fromLookup Sample.decimals Sample.production with
  | error refusal =>
    have fine : (RequestPolicy.fromLookup Sample.decimals Sample.production).isOk = true := by decide +kernel
    rw [accepted] at fine
    cases fine
  | ok policy =>
    obtain ⟨https,-,cidrs,closed,stack⟩ := built policy accepted Sample.middleware
    have selected : Selects Sample.production "APP_ENV" environmentWords .development .production :=
      .inr ⟨"Prod",by decide +kernel,by decide +kernel⟩
    have encrypted : ¬Selects Sample.production "ORES_MIDDLEWARE_TLS_MODE" tlsModeWords .disabled .disabled := by
      rintro (⟨absent,-⟩ | ⟨text,given,listed⟩)
      · exact absurd absent (by decide +kernel)
      · have spelled : optional Sample.production "ORES_MIDDLEWARE_TLS_MODE" = some "trusted_proxy" := by decide +kernel
        cases spelled.symm.trans given
        exact absurd listed (by decide +kernel)
    have secret : optional Sample.production "ORES_MIDDLEWARE_RATE_LIMIT_HMAC_SECRET" = some "pepper" := by
      decide +kernel
    have items : ((Sample.production "ORES_MIDDLEWARE_TRUSTED_PROXY_CIDRS").map splitCsv).getD [] =
        ["10.0.0.0/8", "192.168.0.0/16"] := by decide +kernel
    refine ⟨policy,_,rfl,(stack _).mpr ⟨_,rfl,.inr ⟨"pepper",secret,rfl⟩⟩,rfl,https.mpr encrypted,?_,
      (closed selected).1⟩
    exact cidrs.trans items

end IntakeApi
