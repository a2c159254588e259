import IntakeApi.External

/-! Error responses, and what a handler settles about a request before its first
call to a store: who is asking, under which key, from which host. -/
namespace IntakeApi

inductive AuthError where
  | missing
  | invalid
  | forbidden
  | unavailable
  deriving DecidableEq, Repr

structure ApiErrorBody where
  code : String
  message : String
  retryable : Bool
  submissionId : Option Uuid
  deriving DecidableEq

structure ApiFailure where
  status : Nat
  body : ApiErrorBody
  deriving DecidableEq

namespace ApiFailure

def new (status : Nat) (code message : String) (retryable : Bool) (submissionId : Option Uuid) :
    ApiFailure :=
  ⟨status,code,message,retryable,submissionId⟩

def invalid : ApiFailure :=
  new 422 "invalid_request" "The request did not satisfy the intake contract." false none

def conflict : ApiFailure :=
  new 409 "intake_conflict" "The intake resource conflicts with its verified state." false none

def mirrorUnavailable (id : Uuid) : ApiFailure :=
  new 503 "dual_persistence_incomplete" "The submission is retained for retry but is not yet accepted."
    true (some id)

def ofAuth : AuthError → ApiFailure
  | .missing | .invalid =>
    new 401 "authentication_required" "A valid Shared Auth session is required." false none
  | .forbidden =>
    new 403 "authorization_denied"
      "The authenticated subject is not allowed to perform this action." false none
  | .unavailable =>
    new 503 "authentication_unavailable" "Shared Auth could not make an authorization decision."
      true none

def ofData : DataError → ApiFailure
  | .validation | .invalidContext _ => invalid
  | .idempotencyConflict | .intakeObjectUnavailable => conflict
  | .unauthenticated => ofAuth .missing
  | .database | .decode | .invariant =>
    new 503 "persistence_unavailable" "The intake service could not complete persistence." true none

def ofExternal : ExternalError → ApiFailure
  | .rejected => invalid
  | .objectMismatch => conflict
  | .unavailable | .invalidResponse =>
    new 503 "external_verification_unavailable"
      "An external verification step could not be completed." true none

end ApiFailure

/-- An `Origin` header as the URL parser reads it. -/
structure Origin where
  scheme : String
  host : Option String
  path : String
  query : Option String
  fragment : Option String

/-- What a request brings besides its body: what Shared Auth makes of its bearer,
if it has one, what Turnstile answers to a proof, and the headers that could be
read as text and, for the origin, parsed. -/
structure Admission where
  bearer : Except AuthError (Option VerifiedSubject)
  turnstile : String → Except ExternalError Unit
  idempotencyKey : Option String
  origin : Option Origin

namespace Admission

variable (admission : Admission)

def authenticateOrVerifyPublic (proof : Option String) : Except ApiFailure (Option VerifiedSubject) :=
  match admission.bearer with
  | .error error => .error (.ofAuth error)
  | .ok (some subject) => .ok (some subject)
  | .ok none =>
    match proof with
    | none => .error .invalid
    | some token => ((admission.turnstile token).mapError .ofExternal).map fun _ => none

def requiredSubject : Except ApiFailure VerifiedSubject :=
  match admission.bearer with
  | .error error => .error (.ofAuth error)
  | .ok none => .error (.ofAuth .missing)
  | .ok (some subject) => .ok subject

def checkedKey : Except ApiFailure String :=
  match admission.idempotencyKey with
  | none => .error .invalid
  | some value =>
    if !(16 ≤ byteLength value && byteLength value ≤ 128) || value.toList.any isWhitespace ||
        value.toList.any isControl then .error .invalid
    else .ok value

def isIntakeHost (host : String) : Bool :=
  ["hhaus.org", "www.hhaus.org", "user.hhaus.org", "medellin.hhaus.org"].contains host

def sourceHost : Except ApiFailure String :=
  match admission.origin with
  | none => .error .invalid
  | some url =>
    if url.scheme ≠ "https" || url.path ≠ "/" || url.query.isSome || url.fragment.isSome then
      .error .invalid
    else match url.host with
      | none => .error .invalid
      | some host => if isIntakeHost host then .ok host else .error .invalid

/-- `canonicalId` is the fresh UUID of the request. -/
def submissionContext (canonicalId : Uuid) (subject : Option VerifiedSubject) (payloadSha256 : String) :
    Except ApiFailure SubmissionContext :=
  admission.checkedKey.bind fun key => admission.sourceHost.bind fun host =>
    (SubmissionContext.new canonicalId subject key payloadSha256 host).mapError .ofData

/-- Everything a create request settles before it turns to the stores. -/
structure Settled (canonicalId : Uuid) (subject : Option VerifiedSubject) (payloadSha256 : String)
    (context : SubmissionContext) : Prop where
  id : context.canonicalId = canonicalId
  subject : context.subject = subject
  key : admission.idempotencyKey = some context.idempotencyKey
  digest : context.payloadSha256 = payloadSha256

theorem checkedKey_ok {admission : Admission} {key : String} (checked : admission.checkedKey = .ok key) :
    admission.idempotencyKey = some key := by
  unfold checkedKey at checked
  split at checked
  · cases checked
  · next value named =>
    split at checked
    · cases checked
    · cases checked; exact named

theorem sourceHost_error {admission : Admission} {failure : ApiFailure}
    (failed : admission.sourceHost = .error failure) : failure = .invalid := by
  unfold sourceHost at failed
  split at failed
  · cases failed; rfl
  split at failed
  · cases failed; rfl
  split at failed
  · cases failed; rfl
  split at failed
  · cases failed
  · cases failed; rfl

theorem submissionContext_ok {admission : Admission} {canonicalId : Uuid}
    {subject : Option VerifiedSubject} {digest : String} {context : SubmissionContext}
    (settled : admission.submissionContext canonicalId subject digest = .ok context) :
    admission.Settled canonicalId subject digest context := by
  unfold submissionContext at settled
  cases checked : admission.checkedKey with
  | error => rw [checked] at settled; cases settled
  | ok key =>
    cases origin : admission.sourceHost with
    | error => rw [checked, origin] at settled; cases settled
    | ok host =>
      rw [checked, origin] at settled
      cases built : SubmissionContext.new canonicalId subject key digest host with
      | error => simp [Except.bind, built, Except.mapError] at settled
      | ok made =>
        simp only [Except.bind, built, Except.mapError, Except.ok.injEq] at settled
        subst settled
        obtain ⟨id,owner,keyed,payload,_⟩ := SubmissionContext.new_ok built
        exact ⟨id,owner,by rw [keyed]; exact checkedKey_ok checked,payload⟩

end Admission
end IntakeApi
