import IntakeApi.Admission
import IntakeApi.Library.History

/-! The handlers, as programs that call the two stores and the object storage. The
continuation after each call is what the handler does with its answer. -/
namespace IntakeApi

open Interaction

inductive Connection where
  | primary
  | supabase
  deriving DecidableEq, Repr

/-- The methods of `WriteContext`. -/
inductive Command where
  | store (target : PersistenceTarget) (kind : StoredSubmissionKind) (context : SubmissionContext)
      (body : Create kind)
  | markMirrored (kind : StoredSubmissionKind) (id : Uuid) (payloadSha256 : String)
  | recordMirrorFailure (kind : StoredSubmissionKind) (id : Uuid) (errorCode : String)
  | pendingUpload (uploadId : Uuid) (subject : Option VerifiedSubject)
  | verifyUpload (uploadId : Uuid) (subject : Option VerifiedSubject) (observedSha256 : String)

abbrev Command.Output : Command → Type
  | .store _ kind _ _ => Stored kind
  | .markMirrored .. => Unit
  | .recordMirrorFailure .. => Unit
  | .pendingUpload .. => PendingUpload
  | .verifyUpload .. => Unit

/-- `now` is the API's clock when the command is called. -/
def Command.transaction (contract : Contract) (now : Timestamp) : (command : Command) → Tx command.Output
  | .store target kind context body => IntakeApi.store contract target context now kind body
  | .markMirrored kind id digest => IntakeApi.markMirrored kind id digest
  | .recordMirrorFailure kind id errorCode => IntakeApi.recordMirrorFailure kind id errorCode
  | .pendingUpload id subject => IntakeApi.pendingUpload id subject
  | .verifyUpload id subject digest => IntakeApi.verifyUpload id subject digest

inductive Call where
  | persist (connection : Connection) (command : Command)
  | createSignedUploadUrl (objectKey : String)
  | verifyObject (expected : PendingUpload)

abbrev Call.Answer : Call → Type
  | .persist _ command => Except DataError command.Output
  | .createSignedUploadUrl _ => Except ExternalError String
  | .verifyObject _ => Except ExternalError Unit

abbrev Handler := Program Call Call.Answer ApiFailure

def persist (connection : Connection) (command : Command) :
    Handler (Except DataError command.Output) :=
  .ask (Call.persist connection command)

/-- `.map_err(…)?`. -/
def attempt (failure : ε → ApiFailure) (answer : Except ε α) : Handler α :=
  .done (answer.mapError failure)

/-- The kinds a `SubmissionReceipt` names. -/
inductive SubmissionKind where
  | preInterest
  | application
  | referral
  deriving DecidableEq, Repr

inductive PersistenceReceipt where
  | stored
  deriving DecidableEq, Repr

structure SubmissionReceipt where
  submissionId : Uuid
  kind : SubmissionKind
  acceptedAt : Timestamp
  primaryPersistence : PersistenceReceipt
  supabasePersistence : PersistenceReceipt
  deriving DecidableEq

structure UploadIntentReceipt where
  uploadId : Uuid
  kind : UploadKind
  uploadUrl : String
  expiresAt : Timestamp
  maximumBytes : Nat
  allowedContentTypes : List String
  deriving DecidableEq

inductive UploadCompletionStatus where
  | verified
  deriving DecidableEq, Repr

structure UploadCompletionReceipt where
  uploadId : Uuid
  status : UploadCompletionStatus
  deriving DecidableEq

/-- A successful response. The first two are sent with 201, the last with 200. -/
inductive Receipt where
  | submission (receipt : SubmissionReceipt)
  | uploadIntent (receipt : UploadIntentReceipt)
  | uploadCompletion (receipt : UploadCompletionReceipt)
  deriving DecidableEq

def SubmissionKind.stored : SubmissionKind → StoredSubmissionKind
  | .preInterest => .preInterest
  | .application => .application
  | .referral => .referral

/-- What a 201 acknowledges. -/
def Receipt.created : Receipt → Option (StoredSubmissionKind × Uuid)
  | .submission receipt => some (receipt.kind.stored,receipt.submissionId)
  | .uploadIntent receipt => some (.upload,receipt.uploadId)
  | .uploadCompletion _ => none

def allowedContentTypes : UploadKind → List String
  | .resume => ["application/pdf",
      "application/vnd.openxmlformats-officedocument.wordprocessingml.document"]
  | .photoId => ["application/pdf","image/jpeg","image/png","image/heic"]

/-- An outage here is only logged. -/
def recordFailure (kind : StoredSubmissionKind) (id : Uuid) : Handler Unit := do
  let _ ← persist .primary (.recordMirrorFailure kind id "supabase_unavailable")
  return ()

def isMirrored (primary : Stored kind) : Except DataError (Stored kind) → Bool
  | .ok stored => stored.id = primary.id
  | .error _ => false

/-- The two legs every create handler begins with. -/
def storeBoth (kind : StoredSubmissionKind) (context : SubmissionContext) (body : Create kind) :
    Handler (Stored kind) := do
  let stored ← persist .primary (.store .primary kind context body)
  let primary ← attempt .ofData stored
  let mirrorContext := context.withCanonicalId primary.id
  let mirrored ← persist .supabase (.store .supabaseMirror kind mirrorContext body)
  if isMirrored primary mirrored then return primary
  recordFailure kind primary.id
  .fail (.mirrorUnavailable primary.id)

def acknowledge (kind : StoredSubmissionKind) (id : Uuid) (context : SubmissionContext) :
    Handler Unit := do
  let marked ← persist .primary (.markMirrored kind id context.payloadSha256)
  attempt (fun _ => .mirrorUnavailable id) marked

def finishSubmission (kind : SubmissionKind) (context : SubmissionContext)
    (primary : StoredSubmission) : Handler Receipt := do
  acknowledge kind.stored primary.id context
  return .submission ⟨primary.id,kind,primary.acceptedAt,.stored,.stored⟩

def finishUploadIntent (context : SubmissionContext) (input : UploadIntentCreate)
    (primary : StoredUpload) : Handler Receipt := do
  acknowledge .upload primary.id context
  let signed ← .ask (Call.createSignedUploadUrl primary.objectKey)
  let uploadUrl ← attempt .ofExternal signed
  return .uploadIntent ⟨primary.id,input.kind,uploadUrl,primary.expiresAt,maxUploadBytes,
    allowedContentTypes input.kind⟩

def sameUploadIdentity (primary mirror : PendingUpload) : Bool :=
  primary.id = mirror.id && primary.objectKey = mirror.objectKey &&
    primary.expectedSha256 = mirror.expectedSha256 && primary.contentType = mirror.contentType &&
    primary.sizeBytes = mirror.sizeBytes

/-- `complete_upload` from its first call on. -/
def completeAdmitted (uploadId : Uuid) (subject : Option VerifiedSubject) (body : UploadCompleteCreate) :
    Handler Receipt := do
  let found ← persist .primary (.pendingUpload uploadId subject)
  let primaryUpload ← attempt .ofData found
  .require (body.sha256 = primaryUpload.expectedSha256) .conflict
  let found ← persist .supabase (.pendingUpload uploadId subject)
  let mirrorUpload ← attempt .ofData found
  .require (sameUploadIdentity primaryUpload mirrorUpload) .conflict
  let matching ← .ask (Call.verifyObject primaryUpload)
  attempt .ofExternal matching
  let verified ← persist .supabase (.verifyUpload uploadId subject body.sha256)
  attempt .ofData verified
  let verified ← persist .primary (.verifyUpload uploadId subject body.sha256)
  attempt .ofData verified
  return .uploadCompletion ⟨uploadId,.verified⟩

section Handlers

variable (contract : Contract) (admission : Admission) (canonicalId : Uuid)

def createPreInterest (body : Create .preInterest) : Handler Receipt := do
  .require (contract.validate body) .invalid
  let subject ← .done (admission.authenticateOrVerifyPublic body.turnstileToken)
  let context ← .done (admission.submissionContext canonicalId subject (contract.canonicalDigest body.input))
  let primary ← storeBoth .preInterest context body
  finishSubmission .preInterest context primary

def createUploadIntent (body : Create .upload) : Handler Receipt := do
  .require (contract.validate body) .invalid
  let subject ← .done (admission.authenticateOrVerifyPublic body.turnstileToken)
  let context ← .done (admission.submissionContext canonicalId subject (contract.canonicalDigest body.input))
  let primary ← storeBoth .upload context body
  finishUploadIntent context body.input primary

def createApplication (body : Create .application) : Handler Receipt := do
  .require (contract.validate body) .invalid
  let subject ← .done (admission.authenticateOrVerifyPublic body.turnstileToken)
  let context ← .done (admission.submissionContext canonicalId subject (contract.canonicalDigest body.input))
  let primary ← storeBoth .application context body
  finishSubmission .application context primary

def createReferral (body : Create .referral) : Handler Receipt := do
  .require (contract.validate body) .invalid
  let subject ← .done admission.requiredSubject
  let context ← .done
    (admission.submissionContext canonicalId (some subject) (contract.canonicalDigest body.input))
  let primary ← storeBoth .referral context body
  finishSubmission .referral context primary

def completeUpload (uploadId : Uuid) (body : UploadCompleteCreate) : Handler Receipt := do
  .require (contract.validateComplete body) .invalid
  let subject ← .done (admission.authenticateOrVerifyPublic body.turnstileToken)
  completeAdmitted uploadId subject body

end Handlers

inductive Request where
  | create (kind : StoredSubmissionKind) (body : Create kind)
  | complete (uploadId : Uuid) (body : UploadCompleteCreate)

/-- A request as it arrives, with the UUID that is drawn for it. -/
structure Arrival where
  admission : Admission
  canonicalId : Uuid
  request : Request

def handle (contract : Contract) (arrival : Arrival) : Handler Receipt :=
  match arrival.request with
  | .create .preInterest body =>
    createPreInterest contract arrival.admission arrival.canonicalId body
  | .create .upload body =>
    createUploadIntent contract arrival.admission arrival.canonicalId body
  | .create .application body =>
    createApplication contract arrival.admission arrival.canonicalId body
  | .create .referral body => createReferral contract arrival.admission arrival.canonicalId body
  | .complete uploadId body => completeUpload contract arrival.admission uploadId body

end IntakeApi
