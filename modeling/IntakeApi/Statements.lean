import IntakeApi.Schema
import IntakeApi.Library.Transaction

/-! The SQL statements of the persistence module. `exec now` is their meaning in a
transaction that began at `now`, which is also when the schema's default
timestamps are taken. -/
namespace IntakeApi

open Relational

inductive Statement where
  | begin
  | insert (kind : StoredSubmissionKind) (values : Values kind)
  | selectByKey (kind : StoredSubmissionKind) (key : String)
  | insertOutbox (kind : StoredSubmissionKind) (id : Uuid) (digest : String)
  | markRow (kind : StoredSubmissionKind) (id : Uuid) (digest : String)
  | markOutbox (kind : StoredSubmissionKind) (id : Uuid) (digest : String)
  | failRow (kind : StoredSubmissionKind) (id : Uuid)
  | failOutbox (kind : StoredSubmissionKind) (id : Uuid) (errorCode : String)
  | countVerifiedUploads (subject : Option String) (resume photoId : Uuid)
  | selectPendingUpload (id : Uuid) (subject : Option String)
  | verifyUpload (id : Uuid) (subject : Option String) (digest : String)

/-- `RETURNING` and `SELECT` answer with a row, `UPDATE` with the rows affected. -/
abbrev Statement.Answer : Statement → Type
  | .begin => Unit
  | .insert kind _ => Option (Row kind)
  | .selectByKey kind _ => Option (Row kind)
  | .insertOutbox .. => Unit
  | .markRow .. => Nat
  | .markOutbox .. => Nat
  | .failRow .. => Nat
  | .failOutbox .. => Nat
  | .countVerifiedUploads .. => Nat
  | .selectPendingUpload .. => Option (Row .upload)
  | .verifyUpload .. => Nat

/-- A new outbox item, with the defaults of the schema. -/
def OutboxItem.new (now : Timestamp) (kind : StoredSubmissionKind) (id : Uuid) (digest : String) :
    OutboxItem :=
  ⟨kind,id,digest,.pending,0,now,none⟩

def OutboxItem.mirrored (item : OutboxItem) : OutboxItem :=
  { item with mirrorStatus := .mirrored, lastErrorCode := none }

/-- Every right-hand side reads the old `attempts`. -/
def OutboxItem.failed (now : Timestamp) (errorCode : String) (item : OutboxItem) : OutboxItem :=
  { item with
    attempts := item.attempts + 1
    mirrorStatus := if 99 ≤ item.attempts then .terminalFailure else .retryableFailure
    nextAttemptAt := now + seconds (min 3600 (1 <<< min item.attempts 11))
    lastErrorCode := some errorCode }

def Row.verified (now : Timestamp) (row : Row .upload) : Row .upload :=
  { row with
    state := { row.state with
      status := .verified
      uploadedAt := row.state.uploadedAt.or (some now)
      verifiedAt := row.state.verifiedAt.or (some now) } }

/-- The conditions that `pending_upload` and `verify_upload` put on a row. -/
def Row.isPending (now : Timestamp) (id : Uuid) (subject : Option String) (row : Row .upload) : Bool :=
  row.id = id && row.subject = subject && now < row.state.expiresAt && row.state.status.claimable

def Row.isVerifiedUpload (now : Timestamp) (subject : Option String) (resume photoId : Uuid)
    (row : Row .upload) : Bool :=
  row.subject = subject && row.state.status = .verified && now < row.state.expiresAt &&
    ((row.id = resume && row.payload.kind = .resume) ||
      (row.id = photoId && row.payload.kind = .photoId))

def Row.matches (id : Uuid) (digest : String) (row : Row kind) : Bool :=
  row.id = id && row.payloadSha256 = digest

def OutboxItem.matches (kind : StoredSubmissionKind) (id : Uuid) (digest : String)
    (item : OutboxItem) : Bool :=
  item.submissionKind = kind && item.submissionId = id && item.payloadSha256 = digest

def OutboxItem.retries (kind : StoredSubmissionKind) (id : Uuid) (item : OutboxItem) : Bool :=
  item.submissionKind = kind && item.submissionId = id && item.attempts < 100

namespace Database

def markRow (db : Database) (kind : StoredSubmissionKind) (id : Uuid) (digest : String) : Database :=
  db.setTable kind ((db.table kind).update (Row.matches id digest) (Row.setMirrorStatus .mirrored)
    (fun _ => rfl) (fun _ => rfl))

def markOutbox (db : Database) (kind : StoredSubmissionKind) (id : Uuid) (digest : String) :
    Database :=
  { db with
    outbox := db.outbox.update (OutboxItem.matches kind id digest) OutboxItem.mirrored
      (fun _ => rfl) (fun _ => rfl) }

def failRow (db : Database) (kind : StoredSubmissionKind) (id : Uuid) : Database :=
  db.setTable kind ((db.table kind).update (fun row => row.id = id)
    (Row.setMirrorStatus .retryableFailure) (fun _ => rfl) (fun _ => rfl))

def failOutbox (db : Database) (now : Timestamp) (kind : StoredSubmissionKind) (id : Uuid)
    (errorCode : String) : Database :=
  { db with
    outbox := db.outbox.update (OutboxItem.retries kind id) (OutboxItem.failed now errorCode)
      (fun _ => rfl) (fun _ => rfl) }

def verifyUpload (db : Database) (now : Timestamp) (id : Uuid) (subject : Option String)
    (digest : String) : Database :=
  db.setTable .upload ((db.table .upload).update
    (fun row => row.isPending now id subject && row.payload.sha256 = digest) (Row.verified now)
    (fun _ => rfl) (fun _ => rfl))

end Database

def Statement.exec (now : Timestamp) :
    (statement : Statement) → Database → Except DataError (statement.Answer × Database)
  | .begin, db => .ok ((),db)
  | .insert kind values, db =>
    let row : Row kind := { values with createdAt := now }
    match (db.table kind).insertOrIgnore row with
    | .error _ => .error .database
    | .ok none => .ok (none,db)
    | .ok (some table) => .ok (some row,db.setTable kind table)
  | .selectByKey kind key, db => .ok ((db.table kind).findKey key,db)
  | .insertOutbox kind id digest, db =>
    match db.outbox.insertOrIgnore (.new now kind id digest) with
    | .ok (some outbox) => .ok ((),{ db with outbox })
    | _ => .error .database
  | .markRow kind id digest, db =>
    .ok ((db.table kind).count (Row.matches id digest),db.markRow kind id digest)
  | .markOutbox kind id digest, db =>
    .ok (db.outbox.count (OutboxItem.matches kind id digest),db.markOutbox kind id digest)
  | .failRow kind id, db =>
    .ok ((db.table kind).count (fun row => row.id = id),db.failRow kind id)
  | .failOutbox kind id errorCode, db =>
    .ok (db.outbox.count (OutboxItem.retries kind id),db.failOutbox now kind id errorCode)
  | .countVerifiedUploads subject resume photoId, db =>
    .ok ((db.table .upload).count (Row.isVerifiedUpload now subject resume photoId),db)
  | .selectPendingUpload id subject, db =>
    .ok ((db.table .upload).rows.find? (Row.isPending now id subject),db)
  | .verifyUpload id subject digest, db =>
    .ok ((db.table .upload).count
      (fun row => row.isPending now id subject && row.payload.sha256 = digest),
      db.verifyUpload now id subject digest)

section Selections

theorem Row.matches_id {kind : StoredSubmissionKind} {id : Uuid} {digest : String} (row : Row kind)
    (chosen : row.matches id digest = true) : row.id = id := by
  simp only [Row.matches, Bool.and_eq_true, decide_eq_true_eq] at chosen
  exact chosen.1

theorem Row.isPending_id {now : Timestamp} {id : Uuid} {subject : Option String} (row : Row .upload)
    (chosen : row.isPending now id subject = true) : row.id = id := by
  simp only [Row.isPending, Bool.and_eq_true, decide_eq_true_eq] at chosen
  exact chosen.1.1.1

theorem Row.isVerifiedUpload_status {now : Timestamp} {subject : Option String} {resume photoId : Uuid}
    (row : Row .upload) (chosen : row.isVerifiedUpload now subject resume photoId = true) :
    row.state.status = .verified := by
  simp only [Row.isVerifiedUpload, Bool.and_eq_true, decide_eq_true_eq] at chosen
  exact chosen.1.1.2

theorem OutboxItem.matches_names {kind : StoredSubmissionKind} {id : Uuid} {digest : String} (item : OutboxItem)
    (chosen : item.matches kind id digest = true) : item.submissionKind = kind ∧ item.submissionId = id := by
  simp only [OutboxItem.matches, Bool.and_eq_true, decide_eq_true_eq] at chosen
  exact chosen.1

theorem OutboxItem.retries_names {kind : StoredSubmissionKind} {id : Uuid} (item : OutboxItem)
    (chosen : item.retries kind id = true) : item.submissionKind = kind ∧ item.submissionId = id := by
  simp only [OutboxItem.retries, Bool.and_eq_true, decide_eq_true_eq] at chosen
  exact chosen.1

end Selections

theorem Row.verified_continues (now : Timestamp) (row : Row .upload) :
    row.Continues (row.verified now) := by
  refine ⟨rfl,rfl,rfl,rfl,rfl,rfl,rfl,rfl,fun _ => rfl,fun _ => rfl,?_,?_,?_⟩
  · intro time kept; simp [Row.verified, kept]
  · intro time kept; simp [Row.verified, kept]
  · intro _ _; simp [Row.verified]

/-- No statement deletes a row or rewrites what its insertion fixed. -/
theorem Statement.exec_retains (now : Timestamp) (statement : Statement) (db : Database)
    (answer : statement.Answer) (db' : Database)
    (executed : statement.exec now db = .ok (answer,db')) : db.Retains db' := by
  cases statement with
  | begin => cases executed; exact db.retains_refl
  | insert kind values =>
    simp only [Statement.exec] at executed
    split at executed
    · cases executed
    · cases executed; exact db.retains_refl
    · next inserted =>
      cases executed
      obtain ⟨id,key,rfl⟩ := Table.insertOrIgnore_some inserted
      exact Database.retains_setTable (Table.retains_insert Row.continues_refl)
  | selectByKey => cases executed; exact db.retains_refl
  | insertOutbox =>
    simp only [Statement.exec] at executed
    split at executed
    · cases executed; exact db.retains_refl
    · cases executed
  | markRow =>
    cases executed
    exact Database.retains_setTable (Table.retains_update Row.continues_refl
      fun row _ => row.setMirrorStatus_continues _)
  | markOutbox => cases executed; exact db.retains_refl
  | failRow =>
    cases executed
    exact Database.retains_setTable (Table.retains_update Row.continues_refl
      fun row _ => row.setMirrorStatus_continues _)
  | failOutbox => cases executed; exact db.retains_refl
  | countVerifiedUploads => cases executed; exact db.retains_refl
  | selectPendingUpload => cases executed; exact db.retains_refl
  | verifyUpload =>
    cases executed
    exact Database.retains_setTable (Table.retains_update Row.continues_refl
      fun row _ => row.verified_continues now)

end IntakeApi
