import IntakeApi.Admission
import IntakeApi.Library.Chunks

/-! Shared Auth, and how the headers of a request become what its handler knows of the caller.
The answers of Shared Auth, its JSON and the URL parser are parameters. -/
namespace IntakeApi

def maxCredentialBytes : Nat := 16 * 1024
def maxResponseBytes : Nat := 1024 * 1024

/-- The headers in their order, with names in lower case. -/
abbrev HeaderMap := List (String × List UInt8)

def HeaderMap.get (headers : HeaderMap) (name : String) : Option (List UInt8) :=
  (headers.find? fun header => header.1 = name).map Prod.snd

structure Introspection where
  active : Bool
  sub : Option String
  aud : Option String
  scope : Option String

def Introspection.hasScope (introspection : Introspection) (required : String) : Bool :=
  introspection.active &&
    introspection.scope.any fun scope => (splitAsciiWhitespace scope).any (· = required)

structure IntrospectionResponse where
  status : Nat
  contentLength : Option Nat
  chunks : List (Except Unit (List UInt8))

/-- `introspect` is what Shared Auth answers to a token, if it can be reached, and `decode`
reads the JSON of its body. -/
structure Authenticator where
  audience : String
  introspect : String → Except Unit IntrospectionResponse
  decode : List UInt8 → Option Introspection

/-- The loop over the body, with the bytes it holds. -/
def readResponse (body : List UInt8) : List (Except Unit (List UInt8)) → Chunks.Reading AuthError UInt8
  | [] => ⟨none,body,0⟩
  | .error _ :: _ => ⟨some .unavailable,body,1⟩
  | .ok chunk :: rest =>
    if 2 ^ 64 ≤ body.length + chunk.length then ⟨some .invalid,body,1⟩
    else if maxResponseBytes < body.length + chunk.length then ⟨some .invalid,body,1⟩
    else (readResponse (body ++ chunk) rest).after

def boundedResponse (chunks : List (Except Unit (List UInt8))) : Except AuthError (List UInt8) :=
  (readResponse [] chunks).result

def authorizeIntrospection (introspection : Introspection) (audience : String) : Except AuthError Unit :=
  if !introspection.active || introspection.aud ≠ some audience then .error .invalid
  else if !introspection.hasScope "hhm:intake:write" then .error .forbidden
  else .ok ()

def bearerToken (headers : HeaderMap) : Except AuthError (Option String) :=
  match headers.get "authorization" with
  | none => .ok none
  | some raw => match toStr raw with
    | none => .error .invalid
    | some raw => match splitOnce ' ' raw with
      | none => .error .invalid
      | some (scheme,token) =>
        if toAsciiLowercase scheme ≠ toAsciiLowercase "bearer" || token.isEmpty ||
            maxCredentialBytes < byteLength token || token.toList.any isWhitespace then .error .invalid
        else .ok (some token)

namespace Authenticator

variable (auth : Authenticator)

/-- `verify` from the response to a token up to its decoded body. -/
def readIntrospection (response : IntrospectionResponse) : Except AuthError Introspection :=
  if 500 ≤ response.status && response.status < 600 then .error .unavailable
  else if response.status = 401 || !isSuccess response.status then .error .invalid
  else if response.contentLength.any (maxResponseBytes < ·) then .error .invalid
  else (boundedResponse response.chunks).bind fun bytes =>
    match auth.decode bytes with
    | none => .error .invalid
    | some introspection => .ok introspection

def verify (token : String) : Except AuthError VerifiedSubject :=
  match auth.introspect token with
  | .error _ => .error .unavailable
  | .ok response => (auth.readIntrospection response).bind fun introspection =>
    (authorizeIntrospection introspection auth.audience).bind fun _ =>
      match introspection.sub with
      | none => .error .invalid
      | some sub =>
        if sub.isEmpty then .error .invalid
        else (VerifiedSubject.fromVerifiedClaim sub).mapError fun _ => .invalid

def optionalSubject (headers : HeaderMap) : Except AuthError (Option VerifiedSubject) :=
  match bearerToken headers with
  | .error error => .error error
  | .ok none => .ok none
  | .ok (some token) => (auth.verify token).map some

def requiredSubject (headers : HeaderMap) : Except AuthError VerifiedSubject :=
  match bearerToken headers with
  | .error error => .error error
  | .ok none => .error .missing
  | .ok (some token) => auth.verify token

end Authenticator

structure AppState where
  auth : Authenticator
  turnstile : TurnstileVerifier
  parseUrl : String → Option Origin

namespace AppState

variable (state : AppState) (headers : HeaderMap)

def admission : Admission where
  bearer := state.auth.optionalSubject headers
  turnstile := state.turnstile.verify
  idempotencyKey := (headers.get "idempotency-key").bind toStr
  origin := ((headers.get "origin").bind toStr).bind state.parseUrl

/-- A required subject is an optional one that is there. -/
theorem admission_requiredSubject :
    (state.admission headers).requiredSubject = (state.auth.requiredSubject headers).mapError .ofAuth := by
  simp only [Admission.requiredSubject, admission, Authenticator.optionalSubject, Authenticator.requiredSubject]
  cases bearerToken headers with
  | error => rfl
  | ok token =>
    cases token with
    | none => rfl
    | some token =>
      dsimp only
      cases state.auth.verify token <;> rfl

end AppState

theorem readResponse_eq (body : List UInt8) (chunks : List (Except Unit (List UInt8))) :
    readResponse body chunks = Chunks.read maxResponseBytes .unavailable .invalid body chunks := by
  induction chunks generalizing body with
  | nil => rfl
  | cons chunk rest ih =>
    cases chunk with
    | error => rfl
    | ok chunk =>
      simp only [readResponse, Chunks.read, ih]
      by_cases huge : 2 ^ 64 ≤ body.length + chunk.length
      · rw [if_pos huge, if_pos (Nat.lt_of_lt_of_le (by decide) huge)]
      · rw [if_neg huge]

theorem boundedResponse_eq (chunks : List (Except Unit (List UInt8))) :
    boundedResponse chunks = Chunks.gather maxResponseBytes .unavailable .invalid [] chunks := by
  rw [boundedResponse, readResponse_eq, Chunks.gather]

/-- The first `Authorization` header carries the token. -/
structure HeaderMap.Bears (headers : HeaderMap) (token : String) : Prop where
  header : ∃ raw text scheme, headers.get "authorization" = some raw ∧ toStr raw = some text ∧
    text.toList = scheme.toList ++ ' ' :: token.toList ∧ (∀ c ∈ scheme.toList, c ≠ ' ') ∧
    toAsciiLowercase scheme = "bearer"
  length : 1 ≤ byteLength token ∧ byteLength token ≤ 16384
  unbroken : ∀ c ∈ token.toList, isWhitespace c = false

/-- Shared Auth called the token active, for the audience and with the scope of the intake, and
as the subject's. -/
structure Authenticator.Vouches (auth : Authenticator) (token : String) (subject : VerifiedSubject) :
    Prop where
  answered : ∃ response introspection scope sub, auth.introspect token = .ok response ∧
    (200 ≤ response.status ∧ response.status < 300) ∧
    (Chunks.whole response.chunks).length ≤ 1024 * 1024 ∧
    auth.decode (Chunks.whole response.chunks) = some introspection ∧ introspection.active = true ∧
    introspection.aud = some auth.audience ∧ introspection.scope = some scope ∧
    "hhm:intake:write" ∈ splitAsciiWhitespace scope ∧ introspection.sub = some sub ∧
    VerifiedSubject.fromVerifiedClaim sub = .ok subject

theorem bearerToken_none {headers : HeaderMap} (missing : bearerToken headers = .ok none) :
    headers.get "authorization" = none := by
  unfold bearerToken at missing
  split at missing
  · next absent => exact absent
  · split at missing
    · cases missing
    · split at missing
      · cases missing
      · split at missing <;> cases missing

theorem bearerToken_some {headers : HeaderMap} {token : String} (found : bearerToken headers = .ok (some token)) :
    headers.Bears token := by
  unfold bearerToken at found
  split at found
  · cases found
  next raw present =>
  split at found
  · cases found
  next text readable =>
  split at found
  · cases found
  next scheme rest parts =>
  split at found
  · cases found
  next formed =>
  cases found
  simp only [ne_eq, Bool.or_eq_true, decide_eq_true_eq, List.any_eq_true, not_or, not_not, not_exists, not_and,
    Bool.not_eq_true, Nat.not_lt, String.isEmpty_eq_false_iff] at formed
  obtain ⟨⟨⟨bearer,nonempty⟩,short⟩,unbroken⟩ := formed
  obtain ⟨joined,first⟩ := splitOnce_some parts
  have some_byte : 1 ≤ byteLength token :=
    Nat.pos_of_ne_zero fun zero => nonempty (String.utf8ByteSize_eq_zero_iff.mp zero)
  exact ⟨⟨raw,text,scheme,present,readable,joined,first,bearer⟩,⟨some_byte,short⟩,unbroken⟩

theorem authorizeIntrospection_ok {introspection : Introspection} {audience : String}
    (authorized : authorizeIntrospection introspection audience = .ok ()) :
    introspection.active = true ∧ introspection.aud = some audience ∧
      ∃ scope, introspection.scope = some scope ∧ "hhm:intake:write" ∈ splitAsciiWhitespace scope := by
  unfold authorizeIntrospection at authorized
  split at authorized
  · cases authorized
  next named =>
  split at authorized
  · cases authorized
  next granted =>
  simp only [Bool.or_eq_true, Bool.not_eq_true', decide_eq_true_eq, not_or, not_not,
    Bool.not_eq_false] at named
  simp only [Introspection.hasScope, Bool.not_eq_true', Bool.not_eq_false, Bool.and_eq_true, Option.any_eq_true,
    List.any_eq_true, decide_eq_true_eq] at granted
  obtain ⟨-,scope,present,item,member,rfl⟩ := granted
  exact ⟨named.1,named.2,scope,present,member⟩

namespace Authenticator

variable {auth : Authenticator}

theorem readIntrospection_ok {response : IntrospectionResponse} {introspection : Introspection}
    (read : auth.readIntrospection response = .ok introspection) :
    (200 ≤ response.status ∧ response.status < 300) ∧
      (Chunks.whole response.chunks).length ≤ 1024 * 1024 ∧
      auth.decode (Chunks.whole response.chunks) = some introspection := by
  unfold readIntrospection at read
  split at read
  · cases read
  split at read
  · cases read
  next success =>
  split at read
  · cases read
  simp only [isSuccess, Bool.or_eq_true, decide_eq_true_eq, Bool.not_eq_true', not_or, Bool.not_eq_false,
    Bool.and_eq_true] at success
  cases gathered : boundedResponse response.chunks with
  | error error => rw [gathered] at read; cases read
  | ok bytes =>
    rw [gathered] at read
    rw [boundedResponse_eq] at gathered
    obtain ⟨rfl,bound⟩ := Chunks.gather_ok (Nat.zero_le _) gathered
    refine ⟨success.2,bound,?_⟩
    simp only [Except.bind, List.nil_append] at read
    split at read
    · cases read
    · next decoded => cases read; exact decoded

theorem verify_ok {token : String} {subject : VerifiedSubject} (verified : auth.verify token = .ok subject) :
    auth.Vouches token subject := by
  unfold verify at verified
  split at verified
  · cases verified
  next response answered =>
  cases read : auth.readIntrospection response with
  | error => rw [read] at verified; cases verified
  | ok introspection =>
    cases authorized : authorizeIntrospection introspection auth.audience with
    | error => simp [read, authorized, Except.bind] at verified
    | ok =>
      simp only [read, authorized, Except.bind] at verified
      split at verified
      · cases verified
      next sub named =>
      split at verified
      · cases verified
      obtain ⟨success,small,decoded⟩ := readIntrospection_ok read
      obtain ⟨active,audience,scope,granted,member⟩ := authorizeIntrospection_ok authorized
      refine ⟨response,introspection,scope,sub,answered,success,small,decoded,active,audience,granted,member,
        named,?_⟩
      cases claimed : VerifiedSubject.fromVerifiedClaim sub with
      | error => rw [claimed] at verified; cases verified
      | ok made => rw [claimed] at verified; cases verified; rfl

/-- A caller is only ever taken to be who Shared Auth says it is, or nobody where there is no
header. -/
theorem optionalSubject_ok {headers : HeaderMap} {subject : Option VerifiedSubject}
    (settled : auth.optionalSubject headers = .ok subject) :
    (subject = none ∧ headers.get "authorization" = none) ∨
      ∃ verified token, subject = some verified ∧ headers.Bears token ∧ auth.Vouches token verified := by
  unfold optionalSubject at settled
  split at settled
  · cases settled
  · next missing => cases settled; exact .inl ⟨rfl,bearerToken_none missing⟩
  · next token found =>
    cases verified : auth.verify token with
    | error => rw [verified] at settled; cases settled
    | ok made =>
      rw [verified] at settled
      cases settled
      exact .inr ⟨made,token,rfl,bearerToken_some found,verify_ok verified⟩

end Authenticator
end IntakeApi
