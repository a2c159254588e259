import IntakeApi.Contract

/-! What a request is persisted under: a verified subject, an idempotency key, the
payload digest and the source host, each checked when it is built. -/
namespace IntakeApi

inductive DataError where
  | validation
  | invalidContext (field : String)
  | idempotencyConflict
  | intakeObjectUnavailable
  | unauthenticated
  | database
  | decode
  | invariant
  deriving DecidableEq, Repr

def isSubject (value : String) : Bool :=
  !(value.isEmpty || byteLength value > 255 || trim value != value || value.toList.any isControl)

structure VerifiedSubject where
  value : String
  valid : isSubject value = true
  deriving DecidableEq

def VerifiedSubject.fromVerifiedClaim (value : String) : Except DataError VerifiedSubject :=
  if valid : isSubject value = true then .ok ⟨value,valid⟩ else .error (.invalidContext "subject")

def isIdempotencyKey (key : String) : Bool :=
  (16 ≤ byteLength key && byteLength key ≤ 128) &&
    key.toList.all fun c => isAlphanumeric c || c == '-' || c == '_' || c == ':' || c == '.'

def isSourceHost (host : String) : Bool :=
  ["hhaus.org", "www.hhaus.org", "user.hhaus.org", "medellin.hhaus.org", "localhost",
    "127.0.0.1"].contains host

structure SubmissionContext where
  canonicalId : Uuid
  subject : Option VerifiedSubject
  idempotencyKey : String
  payloadSha256 : String
  sourceHost : String
  key_valid : isIdempotencyKey idempotencyKey = true
  digest_valid : isDigest payloadSha256 = true
  host_valid : isSourceHost sourceHost = true

namespace SubmissionContext

/-- `canonicalId` is the UUID that `Uuid::new_v4` draws here. -/
def new (canonicalId : Uuid) (subject : Option VerifiedSubject) (idempotencyKey payloadSha256 : String)
    (sourceHost : String) : Except DataError SubmissionContext :=
  let sourceHost := toAsciiLowercase sourceHost
  if key : isIdempotencyKey idempotencyKey = true then
    if digest : isDigest payloadSha256 = true then
      if host : isSourceHost sourceHost = true then
        .ok ⟨canonicalId,subject,idempotencyKey,payloadSha256,sourceHost,key,digest,host⟩
      else .error (.invalidContext "source_host")
    else .error (.invalidContext "payload_sha256")
  else .error (.invalidContext "idempotency_key")

def withCanonicalId (context : SubmissionContext) (canonicalId : Uuid) : SubmissionContext :=
  { context with canonicalId }

def subjectColumn (context : SubmissionContext) : Option String :=
  context.subject.map VerifiedSubject.value

def requireSubject (context : SubmissionContext) : Except DataError String :=
  match context.subject with
  | some subject => .ok subject.value
  | none => .error .unauthenticated

variable (context : SubmissionContext) (id : Uuid)

@[simp] theorem withCanonicalId_canonicalId : (context.withCanonicalId id).canonicalId = id := rfl
@[simp] theorem withCanonicalId_subject : (context.withCanonicalId id).subject = context.subject := rfl
@[simp] theorem withCanonicalId_idempotencyKey :
    (context.withCanonicalId id).idempotencyKey = context.idempotencyKey := rfl
@[simp] theorem withCanonicalId_payloadSha256 :
    (context.withCanonicalId id).payloadSha256 = context.payloadSha256 := rfl
@[simp] theorem withCanonicalId_sourceHost :
    (context.withCanonicalId id).sourceHost = context.sourceHost := rfl
@[simp] theorem withCanonicalId_subjectColumn :
    (context.withCanonicalId id).subjectColumn = context.subjectColumn := rfl

/-- An accepted context carries exactly what it was built from. -/
theorem new_ok {canonicalId : Uuid} {subject : Option VerifiedSubject}
    {idempotencyKey payloadSha256 sourceHost : String} {context : SubmissionContext}
    (accepted : new canonicalId subject idempotencyKey payloadSha256 sourceHost = .ok context) :
    context.canonicalId = canonicalId ∧ context.subject = subject ∧
      context.idempotencyKey = idempotencyKey ∧ context.payloadSha256 = payloadSha256 ∧
      context.sourceHost = toAsciiLowercase sourceHost := by
  simp only [new] at accepted
  split at accepted
  · split at accepted
    · split at accepted
      · cases accepted; exact ⟨rfl,rfl,rfl,rfl,rfl⟩
      · cases accepted
    · cases accepted
  · cases accepted

end SubmissionContext
end IntakeApi
