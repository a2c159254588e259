import IntakeApi.RequestPolicy
import IntakeApi.Library.Url

/-! The URLs of the configuration: where the storage service is, and to which endpoint of Shared
Auth the service credential is posted. -/
namespace IntakeApi

open Web (Url Rules)

inductive ConfigError where
  | missing (name : String)
  | invalid (name : String)
  | requestPolicy (error : RequestPolicyError)
  deriving DecidableEq

inductive AuthBuildError where
  | invalidBaseUrl
  | invalidServiceCredential
  | invalidAudience
  | transport
  deriving DecidableEq

def required (lookup : Lookup) (name : String) : Except ConfigError String :=
  okOr (optional lookup name) (.missing name)

/-- `str::eq_ignore_ascii_case`. -/
def eqIgnoreAsciiCase (s t : String) : Bool := toAsciiLowercase s == toAsciiLowercase t

def labels (host : String) : List String := (split '.' host).map String.ofList

def isInCluster (host : String) : Bool :=
  (labels host).getLast?.any (eqIgnoreAsciiCase · "svc") ||
    match (labels host).drop ((labels host).length - 3) with
    | [a,b,c] => eqIgnoreAsciiCase a "svc" && eqIgnoreAsciiCase b "cluster" && eqIgnoreAsciiCase c "local"
    | _ => false

section Urls

variable (rules : Rules)

def parseHttpsUrl (lookup : Lookup) (name : String) : Except ConfigError Url :=
  (required lookup name).bind fun value =>
    match rules.parse value with
    | none => .error (.invalid name)
    | some url =>
      if url.scheme ≠ "https" || url.host.isNone || url.query.isSome then .error (.invalid name)
      else .ok url

def validateAuthUrl (value : String) : Except ConfigError Unit :=
  match rules.parse value with
  | none => .error (.invalid "SHARED_AUTH_BASE_URL")
  | some url =>
    let host := url.host.getD ""
    let isLocal := host = "localhost" || host = "127.0.0.1" || isInCluster host
    if url.host.isNone || url.query.isSome || !(url.scheme = "https" || (url.scheme = "http" && isLocal)) then
      .error (.invalid "SHARED_AUTH_BASE_URL")
    else .ok ()

def introspectionEndpoint (raw : String) : Except AuthBuildError Url :=
  match rules.parse raw with
  | none => .error .invalidBaseUrl
  | some url =>
    if url.username ≠ "" || url.password.isSome || url.query.isSome || url.fragment.isSome then
      .error .invalidBaseUrl
    else if url.cannotBeABase then .error .invalidBaseUrl
    else .ok { url with
      path := Url.extend (Url.popIfEmpty url.path) ["auth".toList, "introspect".toList] }

end Urls

/-- A name of the cluster, label by label. -/
def InCluster (host : String) : Prop :=
  (∃ before last, labels host = before ++ [last] ∧ toAsciiLowercase last = "svc") ∨
    ∃ before a b c, labels host = before ++ [a,b,c] ∧ toAsciiLowercase a = "svc" ∧
      toAsciiLowercase b = "cluster" ∧ toAsciiLowercase c = "local"

def IsLocal (host : String) : Prop := host = "localhost" ∨ host = "127.0.0.1" ∨ InCluster host

section Labels

theorem eqIgnoreAsciiCase_iff {s word : String} (lower : toAsciiLowercase word = word) :
    eqIgnoreAsciiCase s word = true ↔ toAsciiLowercase s = word := by
  rw [eqIgnoreAsciiCase, beq_iff_eq, lower]

theorem drop_eq_three {α : Type} {items : List α} {a b c : α} :
    items.drop (items.length - 3) = [a,b,c] ↔ ∃ before, items = before ++ [a,b,c] := by
  constructor
  · intro dropped
    exact ⟨items.take (items.length - 3),by rw [← dropped, List.take_append_drop]⟩
  · rintro ⟨before,rfl⟩
    exact List.drop_left' (by simp)

theorem isInCluster_iff {host : String} : isInCluster host = true ↔ InCluster host := by
  rw [isInCluster, InCluster, Bool.or_eq_true]
  refine or_congr ?_ ?_
  · rw [Option.any_eq_true]
    constructor
    · rintro ⟨last,found,svc⟩
      obtain ⟨before,whole⟩ := List.getLast?_eq_some_iff.mp found
      exact ⟨before,last,whole,(eqIgnoreAsciiCase_iff (by decide)).mp svc⟩
    · rintro ⟨before,last,whole,svc⟩
      exact ⟨last,List.getLast?_eq_some_iff.mpr ⟨before,whole⟩,(eqIgnoreAsciiCase_iff (by decide)).mpr svc⟩
  · constructor
    · intro three
      split at three
      · next a b c dropped =>
        obtain ⟨before,whole⟩ := drop_eq_three.mp dropped
        simp only [Bool.and_eq_true] at three
        exact ⟨before,a,b,c,whole,(eqIgnoreAsciiCase_iff (by decide)).mp three.1.1,
          (eqIgnoreAsciiCase_iff (by decide)).mp three.1.2,(eqIgnoreAsciiCase_iff (by decide)).mp three.2⟩
      · cases three
    · rintro ⟨before,a,b,c,whole,svc,cluster,isLocal⟩
      rw [drop_eq_three.mpr ⟨before,whole⟩]
      simp only [Bool.and_eq_true]
      exact ⟨⟨(eqIgnoreAsciiCase_iff (by decide)).mpr svc,(eqIgnoreAsciiCase_iff (by decide)).mpr cluster⟩,
        (eqIgnoreAsciiCase_iff (by decide)).mpr isLocal⟩

example : isInCluster "evilsvc" = false := by decide
example : isInCluster "a.svc.evil.com" = false := by decide
example : isInCluster "x.notcluster.local" = false := by decide

end Labels

section Endpoint

variable {rules : Rules}

theorem parseHttpsUrl_ok {lookup : Lookup} {name : String} {url : Url}
    (parsed : parseHttpsUrl rules lookup name = .ok url) :
    (∃ value, rules.parse value = some url) ∧ url.scheme = "https" ∧ (∃ host, url.host = some host) ∧
      url.query = none := by
  unfold parseHttpsUrl required okOr at parsed
  cases found : optional lookup name with
  | none => rw [found] at parsed; cases parsed
  | some value =>
    simp only [found, Except.bind] at parsed
    split at parsed
    · cases parsed
    next read =>
    split at parsed
    · cases parsed
    next checked =>
    cases parsed
    simp only [Bool.or_eq_true, not_or, decide_eq_true_eq, not_not, Option.isNone_iff_eq_none,
      Option.isSome_iff_ne_none] at checked
    exact ⟨⟨value,read⟩,checked.1.1,Option.ne_none_iff_exists'.mp checked.1.2,checked.2⟩

theorem validateAuthUrl_ok {value : String} (validated : validateAuthUrl rules value = .ok ()) :
    ∃ base host, rules.parse value = some base ∧ base.host = some host ∧
      (base.scheme = "https" ∨ base.scheme = "http" ∧ IsLocal host) := by
  unfold validateAuthUrl at validated
  split at validated
  · cases validated
  next base parsed =>
  dsimp only at validated
  split at validated
  · cases validated
  next checked =>
  simp only [Bool.or_eq_true, Bool.not_eq_true', not_or, Bool.not_eq_false, Bool.and_eq_true,
    decide_eq_true_eq, Option.isNone_iff_eq_none] at checked
  obtain ⟨⟨present,-⟩,scheme⟩ := checked
  obtain ⟨host,named⟩ := Option.ne_none_iff_exists'.mp present
  rw [named, Option.getD_some, isInCluster_iff, or_assoc] at scheme
  exact ⟨base,host,parsed,named,scheme⟩

theorem introspectionEndpoint_eq_ok {value : String} {endpoint : Url} :
    introspectionEndpoint rules value = .ok endpoint ↔
      ∃ base, rules.parse value = some base ∧ base.username = "" ∧ base.password = none ∧ base.query = none ∧
        base.fragment = none ∧ base.cannotBeABase = false ∧
        endpoint = { base with
          path := Url.extend (Url.popIfEmpty base.path) ["auth".toList, "introspect".toList] } := by
  constructor
  · intro built
    unfold introspectionEndpoint at built
    split at built
    · cases built
    next base parsed =>
    split at built
    · cases built
    next bare =>
    split at built
    · cases built
    next whole =>
    simp only [Bool.or_eq_true, not_or, decide_eq_true_eq, not_not, Bool.not_eq_true,
      Option.isSome_eq_false_iff, Option.isNone_iff_eq_none] at bare
    obtain ⟨⟨⟨username,password⟩,query⟩,fragment⟩ := bare
    exact ⟨base,parsed,username,password,query,fragment,by simpa using whole,(Except.ok.inj built).symm⟩
  · rintro ⟨base,parsed,username,password,query,fragment,whole,rfl⟩
    simp [introspectionEndpoint, parsed, username, password, query, fragment, whole]

/-- The mounted path is kept, and nothing is put between its segments. -/
theorem segments_extended (path : List (List Char)) :
    (Url.extend (Url.popIfEmpty path) ["auth".toList, "introspect".toList]).filter (· ≠ []) =
      path.filter (· ≠ []) ++ ["auth".toList, "introspect".toList] := by
  rw [Url.filter_extend, Url.filter_popIfEmpty]
  rfl

end Endpoint

/-- The service credential is posted to the authority of the base URL, below its path, and without
TLS only to a local host or one of the cluster. -/
theorem credential_endpoint {rules : Rules} {value : String} {endpoint : Url}
    (validated : validateAuthUrl rules value = .ok ())
    (built : introspectionEndpoint rules value = .ok endpoint) :
    ∃ base, rules.parse value = some base ∧ endpoint.scheme = base.scheme ∧ endpoint.host = base.host ∧
      endpoint.port = base.port ∧ endpoint.username = "" ∧ endpoint.password = none ∧ endpoint.query = none ∧
      endpoint.fragment = none ∧
      endpoint.path.filter (· ≠ []) = base.path.filter (· ≠ []) ++ ["auth".toList, "introspect".toList] ∧
      (endpoint.scheme = "https" ∨
        endpoint.scheme = "http" ∧ ∃ host, endpoint.host = some host ∧ IsLocal host) ∧
      ((∀ c ∈ (Web.clean value.toList).getLast?, Web.isSlash c = false) → ∀ slashed : String,
        Web.clean slashed.toList = Web.clean value.toList ++ ['/'] →
        introspectionEndpoint rules slashed = .ok endpoint) := by
  obtain ⟨base,host,parsed,named,scheme⟩ := validateAuthUrl_ok validated
  obtain ⟨same,again,username,password,query,fragment,whole,rfl⟩ := introspectionEndpoint_eq_ok.mp built
  cases Option.some.inj (parsed.symm.trans again)
  refine ⟨base,parsed,rfl,rfl,rfl,username,password,query,fragment,segments_extended base.path,?_,?_⟩
  · exact scheme.imp_right fun plain => ⟨plain.1,host,named,plain.2⟩
  · intro bare slashed added
    have special : Web.isSpecial base.scheme = true := by
      rcases scheme with scheme | ⟨scheme,-⟩ <;> rw [scheme] <;> decide
    obtain ⟨path,reparsed,popped⟩ := Web.parse_slash parsed special query fragment bare added
    refine introspectionEndpoint_eq_ok.mpr ⟨_,reparsed,username,password,query,fragment,whole,?_⟩
    dsimp only
    rw [popped]

namespace Sample

/-- Names in lower case denote themselves. -/
def rules : Rules where
  host text := if text.all fun c => c.isLower || c == '-' || c == '.' then some (String.ofList text) else none
  escapeUserinfo c := [c]
  escapePath c := [c]
  escapeQuery c := [c]
  escapeFragment c := [c]
  other _ _ := none
  host_letters text letters _ := if_pos <| List.all_eq_true.mpr fun c member => by
    rcases letters c member with lower | rfl
    · rw [lower]; rfl
    · rfl
  escapePath_plain _ _ := rfl
  escapePath_ne_nil c := List.cons_ne_nil c []
  escapePath_dot c dot := (List.mem_singleton.mp dot).symm
  other_scheme _ _ _ found := nomatch found

end Sample

/-- A service of the cluster may be reached without TLS, below a path. -/
theorem credential_endpoint_cluster : ∃ endpoint,
    introspectionEndpoint Sample.rules "http://shared-auth.auth.svc/mounted" = .ok endpoint ∧
    introspectionEndpoint Sample.rules "http://shared-auth.auth.svc/mounted/" = .ok endpoint ∧
    endpoint.host = some "shared-auth.auth.svc" := by
  have kept : ∀ c ∈ "http://shared-auth.auth.svc/mounted".toList.getLast?, Web.isStripped c = false := by
    rintro c last
    cases last
    decide
  have bare : ∀ c ∈ (Web.clean "http://shared-auth.auth.svc/mounted".toList).getLast?, Web.isSlash c = false := by
    rintro c last
    cases last
    decide
  have added := Web.clean_slash (by decide) kept
  obtain ⟨base,-,-,-,-,-,-,-,-,-,-,slashed⟩ :=
    @credential_endpoint Sample.rules "http://shared-auth.auth.svc/mounted" _ rfl rfl
  exact ⟨_,rfl,slashed bare "http://shared-auth.auth.svc/mounted/" added,rfl⟩

end IntakeApi
