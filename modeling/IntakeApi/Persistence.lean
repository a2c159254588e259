import IntakeApi.Statements

/-! `WriteContext`: the named persistence commands, each a transaction of SQL
statements. Checks a command makes before it begins stand before its `begin`. -/
namespace IntakeApi

open Interaction Transaction

abbrev Tx := Program Statement Statement.Answer DataError

def sql (statement : Statement) : Tx statement.Answer := .ask statement

inductive PersistenceTarget where
  | primary
  | supabaseMirror
  deriving DecidableEq, Repr

namespace PersistenceTarget

def mirrorStatus : PersistenceTarget → MirrorStatus
  | .primary => .pending
  | .supabaseMirror => .mirrored

def createsOutbox : PersistenceTarget → Bool
  | .primary => true
  | .supabaseMirror => false

end PersistenceTarget

structure StoredSubmission where
  id : Uuid
  acceptedAt : Timestamp
  replayed : Bool
  deriving DecidableEq, Repr

structure StoredUpload where
  id : Uuid
  objectKey : String
  expiresAt : Timestamp
  replayed : Bool
  deriving DecidableEq, Repr

structure PendingUpload where
  id : Uuid
  objectKey : String
  expectedSha256 : String
  contentType : String
  sizeBytes : Nat
  expiresAt : Timestamp
  deriving DecidableEq, Repr

abbrev Stored : StoredSubmissionKind → Type
  | .preInterest => StoredSubmission
  | .upload => StoredUpload
  | .application => StoredSubmission
  | .referral => StoredSubmission

def Stored.id : {kind : StoredSubmissionKind} → Stored kind → Uuid
  | .preInterest, stored => StoredSubmission.id stored
  | .upload, stored => StoredUpload.id stored
  | .application, stored => StoredSubmission.id stored
  | .referral, stored => StoredSubmission.id stored

def uploadLifetimeHours : Nat := 2

def uploadKind : UploadKind → String
  | .resume => "resume"
  | .photoId => "photo_id"

/-- `Uuid`'s `Display`: 32 lower-case hexadecimal digits, hyphenated 8-4-4-4-12. -/
def uuidChars (id : Uuid) : List Char :=
  let digits := (List.range 32).map fun i => hexDigit (UInt8.ofNat (id.toNat / 16 ^ (31 - i) % 16))
  digits.take 8 ++ '-' :: (digits.drop 8).take 4 ++ '-' :: (digits.drop 12).take 4 ++
    '-' :: (digits.drop 16).take 4 ++ '-' :: digits.drop 20

/-- `intake/{kind}/{id}/{first 16 digits of the content digest}`. -/
def uploadObjectKey (kind : UploadKind) (id : Uuid) (sha256 : String) : String :=
  String.ofList ("intake/".toList ++ (uploadKind kind).toList ++ '/' :: uuidChars id ++
    '/' :: sha256.toList.take 16)

/-- The payload columns of a body: its free text is trimmed as it is bound. -/
def storedInput : {kind : StoredSubmissionKind} → Input kind → Input kind
  | .preInterest, input => { input with
      email := trim input.email
      linkedinUrl := trim input.linkedinUrl
      entrepreneurshipIdea := trim input.entrepreneurshipIdea }
  | .upload, input => input
  | .application, input => { input with
      email := trim input.email
      linkedinUrl := trim input.linkedinUrl
      legalName := trim input.legalName
      nationality := trim input.nationality
      phone := trim input.phone
      currentCity := trim input.currentCity
      entrepreneurshipIdea := trim input.entrepreneurshipIdea
      communityContribution := trim input.communityContribution }
  | .referral, input => { input with
      refereeName := trim input.refereeName
      refereeEmail := trim input.refereeEmail
      refereeLinkedinUrl := trim input.refereeLinkedinUrl
      relationship := trim input.relationship
      rationale := trim input.rationale }

section Columns

variable (target : PersistenceTarget) (context : SubmissionContext)

def preInterestValues (input : PreInterestCreate) : Values .preInterest where
  id := context.canonicalId
  idempotencyKey := context.idempotencyKey
  payloadSha256 := context.payloadSha256
  subject := context.subjectColumn
  payload := storedInput input
  state := ⟨context.sourceHost,target.mirrorStatus⟩

def uploadValues (now : Timestamp) (input : UploadIntentCreate) : Values .upload where
  id := context.canonicalId
  idempotencyKey := context.idempotencyKey
  payloadSha256 := context.payloadSha256
  subject := context.subjectColumn
  payload := storedInput input
  state := ⟨uploadObjectKey input.kind context.canonicalId input.sha256,.pending,
    now + hours uploadLifetimeHours,none,none⟩

def applicationValues (input : ApplicationCreate) : Values .application where
  id := context.canonicalId
  idempotencyKey := context.idempotencyKey
  payloadSha256 := context.payloadSha256
  subject := context.subjectColumn
  payload := storedInput input
  state := ⟨target.mirrorStatus⟩

def referralValues (subject : String) (input : ReferralCreate) : Values .referral where
  id := context.canonicalId
  idempotencyKey := context.idempotencyKey
  payloadSha256 := context.payloadSha256
  subject := some subject
  payload := storedInput input
  state := ⟨target.mirrorStatus⟩

end Columns

def requireSamePayload (row : Row kind) (expected : String) : Tx Unit :=
  .require (row.payloadSha256 = expected) .idempotencyConflict

def storedFromRow (row : Row kind) (replayed : Bool) : StoredSubmission :=
  ⟨row.id,row.createdAt,replayed⟩

/-- `INSERT … ON CONFLICT (idempotency_key) DO NOTHING`, or the row that holds the
key: the shape `insert_or_replay` and `store_upload_intent` share. -/
def insertOrReplayRow (context : SubmissionContext) (values : Values kind) : Tx (Row kind × Bool) := do
  match ← sql (.insert kind values) with
  | some row => return (row,false)
  | none =>
    match ← sql (.selectByKey kind context.idempotencyKey) with
    | none => .fail .invariant
    | some row =>
      requireSamePayload row context.payloadSha256
      return (row,true)

def insertOrReplay (context : SubmissionContext) (values : Values kind) : Tx StoredSubmission := do
  let (row,replayed) ← insertOrReplayRow context values
  return storedFromRow row replayed

def maybeInsertOutbox (target : PersistenceTarget) (kind : StoredSubmissionKind)
    (stored : StoredSubmission) (context : SubmissionContext) : Tx Unit :=
  if !target.createsOutbox || stored.replayed then return ()
  else sql (.insertOutbox kind stored.id context.payloadSha256)

def requireVerifiedUploads (context : SubmissionContext) (input : ApplicationCreate) : Tx Unit := do
  let matching ← sql
    (.countVerifiedUploads context.subjectColumn input.resumeUploadId input.photoIdUploadId)
  .require (matching = 2) .intakeObjectUnavailable

section Commands

variable (contract : Contract) (target : PersistenceTarget) (context : SubmissionContext)

def storePreInterest (body : Create .preInterest) : Tx StoredSubmission := do
  .require (contract.validate body) .validation
  sql .begin
  let stored ← insertOrReplay context (preInterestValues target context body.input)
  maybeInsertOutbox target .preInterest stored context
  return stored

/-- `now` is `Utc::now()`; the row read back decides the key and the expiry. -/
def storeUploadIntent (now : Timestamp) (body : Create .upload) : Tx StoredUpload := do
  .require (contract.validate body) .validation
  sql .begin
  .require (body.input.sizeBytes < 2 ^ 63) .invariant
  let (row,replayed) ← insertOrReplayRow context (uploadValues context now body.input)
  maybeInsertOutbox target .upload ⟨row.id,row.state.expiresAt,replayed⟩ context
  return ⟨row.id,row.state.objectKey,row.state.expiresAt,replayed⟩

def storeApplication (body : Create .application) : Tx StoredSubmission := do
  .require (contract.validate body) .validation
  .require (body.input.preferredRoomOccupancy < 2 ^ 15) .invariant
  sql .begin
  requireVerifiedUploads context body.input
  let stored ← insertOrReplay context (applicationValues target context body.input)
  maybeInsertOutbox target .application stored context
  return stored

def storeReferral (body : Create .referral) : Tx StoredSubmission := do
  .require (contract.validate body) .validation
  let subject ← Program.done context.requireSubject
  sql .begin
  let stored ← insertOrReplay context (referralValues target context subject body.input)
  maybeInsertOutbox target .referral stored context
  return stored

def store (now : Timestamp) : (kind : StoredSubmissionKind) → Create kind → Tx (Stored kind)
  | .preInterest, body => storePreInterest contract target context body
  | .upload, body => storeUploadIntent contract target context now body
  | .application, body => storeApplication contract target context body
  | .referral, body => storeReferral contract target context body

end Commands

def pendingUpload (uploadId : Uuid) (subject : Option VerifiedSubject) : Tx PendingUpload := do
  match ← sql (.selectPendingUpload uploadId (subject.map VerifiedSubject.value)) with
  | none => .fail .intakeObjectUnavailable
  | some row => return ⟨row.id,row.state.objectKey,row.payload.sha256,row.payload.contentType,
      row.payload.sizeBytes,row.state.expiresAt⟩

def verifyUpload (uploadId : Uuid) (subject : Option VerifiedSubject) (observedSha256 : String) :
    Tx Unit := do
  .require (isDigest observedSha256) (.invalidContext "observed_sha256")
  let affected ← sql
    (.verifyUpload uploadId (subject.map VerifiedSubject.value) observedSha256)
  .require (affected = 1) .intakeObjectUnavailable

def markMirrored (kind : StoredSubmissionKind) (id : Uuid) (payloadSha256 : String) : Tx Unit := do
  sql .begin
  if kind ≠ .upload then
    let affected ← sql (.markRow kind id payloadSha256)
    .require (affected = 1) .invariant
  let affected ← sql (.markOutbox kind id payloadSha256)
  .require (affected = 1) .invariant

def isErrorCode (errorCode : String) : Bool :=
  !(errorCode.isEmpty || byteLength errorCode > 64) &&
    errorCode.toList.all fun c => ('a' ≤ c && c ≤ 'z') || ('0' ≤ c && c ≤ '9') || c == '_'

def recordMirrorFailure (kind : StoredSubmissionKind) (id : Uuid) (errorCode : String) : Tx Unit := do
  .require (isErrorCode errorCode) (.invalidContext "mirror_error_code")
  sql .begin
  if kind ≠ .upload then
    let affected ← sql (.failRow kind id)
    .require (affected = 1) .invariant
  let affected ← sql (.failOutbox kind id errorCode)
  .require (affected = 1) .invariant

end IntakeApi
