import IntakeApi.Context
import IntakeApi.Library.Table
import Mathlib.Logic.Function.Basic

/-! The four canonical tables and the outbox, one copy in each database. Schema
constraints the API relies on are part of the tables: primary keys, and a unique
idempotency key in each canonical table. -/
namespace IntakeApi

open Relational

inductive MirrorStatus where
  | pending
  | mirrored
  | retryableFailure
  | terminalFailure
  deriving DecidableEq, Repr

/-- The statuses the SQL names. No statement of the API writes `rejected`, the
one status it leaves out of its `IN` lists. -/
inductive UploadStatus where
  | pending
  | uploaded
  | verified
  | rejected
  deriving DecidableEq, Repr

structure SubmissionState where
  mirrorStatus : MirrorStatus
  deriving DecidableEq

structure HostedState where
  sourceHost : String
  mirrorStatus : MirrorStatus
  deriving DecidableEq

structure UploadState where
  objectKey : String
  status : UploadStatus
  expiresAt : Timestamp
  uploadedAt : Option Timestamp
  verifiedAt : Option Timestamp
  deriving DecidableEq

/-- The columns of a canonical table that its payload does not determine. -/
abbrev RowState : StoredSubmissionKind → Type
  | .preInterest => HostedState
  | .upload => UploadState
  | .application => SubmissionState
  | .referral => SubmissionState

/-- What an `INSERT` provides. The payload columns hold the body with its free text
trimmed; `subject` is `applicant_subject` or `referrer_subject`. -/
structure Values (kind : StoredSubmissionKind) where
  id : Uuid
  idempotencyKey : String
  payloadSha256 : String
  subject : Option String
  payload : Input kind
  state : RowState kind

/-- A row, with the creation time the schema supplies. -/
structure Row (kind : StoredSubmissionKind) extends Values kind where
  createdAt : Timestamp

structure OutboxItem where
  submissionKind : StoredSubmissionKind
  submissionId : Uuid
  payloadSha256 : String
  mirrorStatus : MirrorStatus
  attempts : Nat
  nextAttemptAt : Timestamp
  lastErrorCode : Option String
  deriving DecidableEq

instance : Keyed (Row kind) Uuid String := ⟨fun row => row.id, fun row => row.idempotencyKey⟩

instance : Keyed OutboxItem (StoredSubmissionKind × Uuid) (StoredSubmissionKind × Uuid) :=
  ⟨fun item => (item.submissionKind,item.submissionId), fun item => (item.submissionKind,item.submissionId)⟩

@[simp] theorem row_keyed_id (row : Row kind) : Keyed.id row = row.id := rfl
@[simp] theorem row_keyed_key (row : Row kind) : Keyed.key row = row.idempotencyKey := rfl
@[simp] theorem item_keyed_id (item : OutboxItem) :
    Keyed.id item = (item.submissionKind,item.submissionId) := rfl
@[simp] theorem item_keyed_key (item : OutboxItem) :
    Keyed.key item = (item.submissionKind,item.submissionId) := rfl

/-- `hhm_intake_uploads` has no mirror status. -/
def Row.mirrorStatus : {kind : StoredSubmissionKind} → Row kind → Option MirrorStatus
  | .preInterest, row => some row.state.mirrorStatus
  | .upload, _ => none
  | .application, row => some row.state.mirrorStatus
  | .referral, row => some row.state.mirrorStatus

/-- Only `hhm_pre_interests` records the host. -/
def Row.sourceHost : {kind : StoredSubmissionKind} → Row kind → Option String
  | .preInterest, row => some row.state.sourceHost
  | .upload, _ => none
  | .application, _ => none
  | .referral, _ => none

def RowState.setMirrorStatus (status : MirrorStatus) :
    {kind : StoredSubmissionKind} → RowState kind → RowState kind
  | .preInterest, state => { state with mirrorStatus := status }
  | .upload, state => state
  | .application, _ => ⟨status⟩
  | .referral, _ => ⟨status⟩

def Row.setMirrorStatus (status : MirrorStatus) (row : Row kind) : Row kind :=
  { row with state := RowState.setMirrorStatus status row.state }

def UploadStatus.claimable : UploadStatus → Bool
  | .pending | .uploaded | .verified => true
  | .rejected => false

/-- A verified upload has both its times. -/
def UploadState.Stamped (state : UploadState) : Prop :=
  state.status = .verified → state.uploadedAt.isSome = true ∧ state.verifiedAt.isSome = true

/-- The columns of a state that later statements may not change freely. -/
def RowState.Continues : {kind : StoredSubmissionKind} → RowState kind → RowState kind → Prop
  | .preInterest, old, new => new.sourceHost = old.sourceHost
  | .upload, old, new =>
    new.objectKey = old.objectKey ∧ new.expiresAt = old.expiresAt ∧
    (old.status = .verified → new.status = .verified) ∧
    (old.status.claimable = true → new.status.claimable = true) ∧
    (∀ time, old.uploadedAt = some time → new.uploadedAt = some time) ∧
    (∀ time, old.verifiedAt = some time → new.verifiedAt = some time) ∧
    (UploadState.Stamped old → UploadState.Stamped new)
  | .application, _, _ => True
  | .referral, _, _ => True

/-- A later version of a row: the columns written at insertion stay, an upload
stays claimable and verified and keeps the times recorded for it. -/
structure Row.Continues (old new : Row kind) : Prop where
  id : new.id = old.id
  idempotencyKey : new.idempotencyKey = old.idempotencyKey
  payloadSha256 : new.payloadSha256 = old.payloadSha256
  subject : new.subject = old.subject
  payload : new.payload = old.payload
  createdAt : new.createdAt = old.createdAt
  state : RowState.Continues old.state new.state

theorem RowState.continues_refl (state : RowState kind) : RowState.Continues state state := by
  cases kind <;> simp [RowState.Continues]

theorem RowState.continues_trans {a b c : RowState kind} (first : RowState.Continues a b)
    (second : RowState.Continues b c) : RowState.Continues a c := by
  cases kind with
  | preInterest => exact Eq.trans second first
  | upload =>
    obtain ⟨key,expiry,status,claimable,uploaded,verified,stamped⟩ := first
    obtain ⟨key',expiry',status',claimable',uploaded',verified',stamped'⟩ := second
    exact ⟨key'.trans key,expiry'.trans expiry,fun h => status' (status h),fun h => claimable' (claimable h),
      fun time h => uploaded' time (uploaded time h),fun time h => verified' time (verified time h),
      fun h => stamped' (stamped h)⟩
  | application => trivial
  | referral => trivial

@[simp] theorem Row.continues_refl (row : Row kind) : row.Continues row :=
  ⟨rfl,rfl,rfl,rfl,rfl,rfl,RowState.continues_refl _⟩

theorem Row.continues_trans (a b c : Row kind) (first : a.Continues b) (second : b.Continues c) :
    a.Continues c where
  id := second.id.trans first.id
  idempotencyKey := second.idempotencyKey.trans first.idempotencyKey
  payloadSha256 := second.payloadSha256.trans first.payloadSha256
  subject := second.subject.trans first.subject
  payload := second.payload.trans first.payload
  createdAt := second.createdAt.trans first.createdAt
  state := RowState.continues_trans first.state second.state

theorem Row.Continues.trans {a b c : Row kind} (first : a.Continues b) (second : b.Continues c) :
    a.Continues c := Row.continues_trans a b c first second

theorem Row.Continues.sourceHost {old new : Row kind} (continues : old.Continues new) :
    new.sourceHost = old.sourceHost := by
  cases kind with
  | preInterest => exact congrArg some continues.state
  | upload => rfl
  | application => rfl
  | referral => rfl

theorem Row.setMirrorStatus_continues (status : MirrorStatus) (row : Row kind) :
    row.Continues (row.setMirrorStatus status) := by
  refine ⟨rfl,rfl,rfl,rfl,rfl,rfl,?_⟩
  cases kind <;> simp [Row.setMirrorStatus, RowState.setMirrorStatus, RowState.Continues]

theorem Row.setMirrorStatus_mirrorStatus (status : MirrorStatus) (row : Row kind)
    (kept : kind ≠ .upload) : (row.setMirrorStatus status).mirrorStatus = some status := by
  cases kind with
  | upload => contradiction
  | _ => rfl

structure Database where
  table : (kind : StoredSubmissionKind) → Table (Row kind)
  outbox : Table OutboxItem

namespace Database

def empty : Database := ⟨fun _ => .empty,.empty⟩

def setTable (db : Database) (kind : StoredSubmissionKind) (table : Table (Row kind)) : Database :=
  { db with table := Function.update db.table kind table }

@[simp] theorem setTable_same (db : Database) (kind : StoredSubmissionKind) (table : Table (Row kind)) :
    (db.setTable kind table).table kind = table := by simp [setTable]

@[simp] theorem setTable_other (db : Database) {kind other : StoredSubmissionKind}
    (table : Table (Row kind)) (distinct : other ≠ kind) :
    (db.setTable kind table).table other = db.table other := by simp [setTable, distinct]

@[simp] theorem setTable_outbox (db : Database) (kind : StoredSubmissionKind)
    (table : Table (Row kind)) : (db.setTable kind table).outbox = db.outbox := rfl

/-- Rows are never deleted, and continue as `Row.Continues` allows. -/
def Retains (old new : Database) : Prop :=
  ∀ kind, Table.Retains Row.Continues (old.table kind) (new.table kind)

theorem retains_refl (db : Database) : db.Retains db :=
  fun _ => Table.Retains.refl Row.continues_refl _

theorem retains_trans (a b c : Database) (first : a.Retains b) (second : b.Retains c) : a.Retains c :=
  fun kind => (first kind).trans Row.continues_trans (second kind)

theorem retains_setTable {db : Database} {kind : StoredSubmissionKind} {table : Table (Row kind)}
    (kept : Table.Retains Row.Continues (db.table kind) table) : db.Retains (db.setTable kind table) := by
  intro other
  by_cases same : other = kind
  · subst same; rwa [setTable_same]
  · rw [setTable_other db table same]; exact Table.Retains.refl Row.continues_refl _

end Database
end IntakeApi
