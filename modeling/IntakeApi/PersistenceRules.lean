import IntakeApi.Persistence

/-! What each command does when nothing interrupts it, stated once. Proofs about
commands use these equations and never run their statements again. -/
namespace IntakeApi

open Interaction Transaction Relational

/-- The undisturbed body of a transaction that began at `now`. -/
abbrev perform (now : Timestamp) (program : Tx α) (db : Database) :
    Except DataError (α × Database) :=
  execute (Statement.exec now) .database none program db

theorem perform_bind (now : Timestamp) (first : Tx α) (next : α → Tx β) (db : Database) :
    perform now (first >>= next) db =
      (perform now first db).bind fun outcome => perform now (next outcome.1) outcome.2 :=
  execute_bind first next db

theorem perform_sql (now : Timestamp) (statement : Statement) (db : Database) :
    perform now (sql statement) db = statement.exec now db :=
  execute_ask statement db

theorem perform_require (now : Timestamp) (condition : Bool) (error : DataError) (db : Database) :
    perform now (.require condition error) db = if condition then .ok ((),db) else .error error :=
  execute_require condition error db

theorem perform_begin (now : Timestamp) (next : Unit → Tx α) (db : Database) :
    perform now (sql .begin >>= next) db = perform now (next ()) db := rfl

theorem perform_check (now : Timestamp) (condition : Bool) (error : DataError) (next : Unit → Tx α)
    (db : Database) : perform now (.require condition error >>= next) db =
      if condition then perform now (next ()) db else .error error := by
  cases condition <;> rfl

@[simp] theorem perform_pure (now : Timestamp) (value : α) (db : Database) :
    perform now (pure value) db = .ok (value,db) := rfl

/-- No command deletes a row or rewrites what an insertion fixed, whatever fails. -/
theorem run_retains (now : Timestamp) (faults : Faults) (program : Tx α) (db : Database) :
    db.Retains (run (Statement.exec now) .database faults program db).2 :=
  run_related Database.retains_refl Database.retains_trans (Statement.exec_retains now) faults program db

/-- The row that a store inserts when its key is free. -/
def freshRow (target : PersistenceTarget) (context : SubmissionContext) (apiNow now : Timestamp) :
    {kind : StoredSubmissionKind} → Create kind → Row kind
  | .preInterest, body => { preInterestValues target context body.input with createdAt := now }
  | .upload, body => { uploadValues context apiNow body.input with createdAt := now }
  | .application, body => { applicationValues target context body.input with createdAt := now }
  | .referral, body =>
    { referralValues target context (context.subjectColumn.getD "") body.input with createdAt := now }

/-- What a command reports of the row it stored. -/
def storedOf (replayed : Bool) : {kind : StoredSubmissionKind} → Row kind → Stored kind
  | .preInterest, row => storedFromRow row replayed
  | .upload, row => ⟨row.id,row.state.objectKey,row.state.expiresAt,replayed⟩
  | .application, row => storedFromRow row replayed
  | .referral, row => storedFromRow row replayed

@[simp] theorem storedOf_id (replayed : Bool) (row : Row kind) : (storedOf replayed row).id = row.id := by
  cases kind <;> rfl

section FreshRow

variable (target : PersistenceTarget) (context : SubmissionContext) (apiNow now : Timestamp)
variable {kind : StoredSubmissionKind} (body : Create kind)

@[simp] theorem freshRow_id : (freshRow target context apiNow now body).id = context.canonicalId := by
  cases kind <;> rfl

@[simp] theorem freshRow_idempotencyKey :
    (freshRow target context apiNow now body).idempotencyKey = context.idempotencyKey := by
  cases kind <;> rfl

@[simp] theorem freshRow_payloadSha256 :
    (freshRow target context apiNow now body).payloadSha256 = context.payloadSha256 := by
  cases kind <;> rfl

@[simp] theorem freshRow_createdAt : (freshRow target context apiNow now body).createdAt = now := by
  cases kind <;> rfl

theorem freshRow_mirrorStatus (kept : kind ≠ .upload) :
    (freshRow target context apiNow now body).mirrorStatus = some target.mirrorStatus := by
  cases kind with
  | upload => contradiction
  | _ => rfl

end FreshRow

/-- What a store checks before it looks at its own table. -/
def storeGuard (contract : Contract) (context : SubmissionContext) (now : Timestamp) :
    {kind : StoredSubmissionKind} → Create kind → Database → Except DataError Unit
  | .preInterest, body, _ => if contract.validate body then .ok () else .error .validation
  | .upload, body, _ =>
    if contract.validate body then
      if body.input.sizeBytes < 2 ^ 63 then .ok () else .error .invariant
    else .error .validation
  | .application, body, db =>
    if contract.validate body then
      if body.input.preferredRoomOccupancy < 2 ^ 15 then
        if (db.table .upload).count (Row.isVerifiedUpload now context.subjectColumn
          body.input.resumeUploadId body.input.photoIdUploadId) = 2 then .ok ()
        else .error .intakeObjectUnavailable
      else .error .invariant
    else .error .validation
  | .referral, body, _ =>
    if contract.validate body then context.requireSubject.map fun _ => () else .error .validation

/-- The effect of insert-or-replay together with its outbox item. -/
def settle (target : PersistenceTarget) (context : SubmissionContext) (now : Timestamp)
    (fresh : Row kind) (db : Database) : Except DataError ((Row kind × Bool) × Database) :=
  match (db.table kind).findKey context.idempotencyKey with
  | some row =>
    if row.payloadSha256 = context.payloadSha256 then .ok ((row,true),db)
    else .error .idempotencyConflict
  | none =>
    match (db.table kind).insertOrIgnore fresh with
    | .ok (some table) =>
      if target.createsOutbox then
        match db.outbox.insertOrIgnore (.new now kind fresh.id context.payloadSha256) with
        | .ok (some outbox) => .ok ((fresh,false),{ db.setTable kind table with outbox })
        | _ => .error .database
      else .ok ((fresh,false),db.setTable kind table)
    | _ => .error .database

theorem perform_insertOrReplayRow (now : Timestamp) (context : SubmissionContext)
    (values : Values kind) (keyed : values.idempotencyKey = context.idempotencyKey) (db : Database) :
    perform now (insertOrReplayRow context values) db =
      match (db.table kind).findKey context.idempotencyKey with
      | some row =>
        if row.payloadSha256 = context.payloadSha256 then .ok ((row,true),db)
        else .error .idempotencyConflict
      | none =>
        match (db.table kind).insertOrIgnore { values with createdAt := now } with
        | .ok (some table) => .ok (({ values with createdAt := now },false),db.setTable kind table)
        | _ => .error .database := by
  rw [insertOrReplayRow, perform_bind, perform_sql, Statement.exec]
  cases found : (db.table kind).findKey context.idempotencyKey with
  | some row =>
    obtain ⟨member,same⟩ := Table.findKey_some.mp found
    have taken : (db.table kind).insertOrIgnore { values with createdAt := now } = .ok none :=
      Table.insertOrIgnore_none.mpr ⟨row,member,same.trans keyed.symm⟩
    rw [taken]
    change perform now (sql (.selectByKey kind context.idempotencyKey) >>= _) db = _
    rw [perform_bind, perform_sql, Statement.exec, found]
    change perform now (requireSamePayload row context.payloadSha256 >>= _) db = _
    rw [perform_bind, requireSamePayload, perform_require]
    by_cases digest : row.payloadSha256 = context.payloadSha256
    · simp only [digest, decide_true, if_true]; rfl
    · simp only [digest, decide_false, Bool.false_eq_true, if_false]; rfl
  | none =>
    have free := Table.findKey_none.mp found
    cases inserted : (db.table kind).insertOrIgnore { values with createdAt := now } with
    | error => rfl
    | ok outcome =>
      cases outcome with
      | some table => rfl
      | none =>
        obtain ⟨row,member,same⟩ := Table.insertOrIgnore_none.mp inserted
        exact absurd (same.trans keyed) (free row member)

theorem perform_maybeInsertOutbox (now : Timestamp) (target : PersistenceTarget)
    (kind : StoredSubmissionKind) (stored : StoredSubmission) (context : SubmissionContext)
    (db : Database) :
    perform now (maybeInsertOutbox target kind stored context) db =
      if !target.createsOutbox || stored.replayed then .ok ((),db)
      else Statement.exec now (.insertOutbox kind stored.id context.payloadSha256) db := by
  unfold maybeInsertOutbox
  split
  · rfl
  · rw [perform_sql]

/-- Insert-or-replay and the outbox item it needs, as one effect. -/
theorem perform_settle (target : PersistenceTarget) (context : SubmissionContext) (now : Timestamp)
    (values : Values kind) (keyed : values.idempotencyKey = context.idempotencyKey)
    (submission : Row kind → Bool → StoredSubmission) (id : ∀ row replayed, (submission row replayed).id = row.id)
    (replayed : ∀ row again, (submission row again).replayed = again)
    (report : Row kind × Bool → α) (db : Database) :
    perform now (insertOrReplayRow context values >>= fun stored =>
        maybeInsertOutbox target kind (submission stored.1 stored.2) context >>= fun _ =>
          pure (report stored)) db =
      (settle target context now { values with createdAt := now } db).map
        fun outcome => (report outcome.1,outcome.2) := by
  rw [perform_bind, perform_insertOrReplayRow now context values keyed, settle]
  cases (db.table kind).findKey context.idempotencyKey with
  | some row =>
    by_cases digest : row.payloadSha256 = context.payloadSha256
    · simp [digest, Except.bind, Except.map, perform_bind, perform_maybeInsertOutbox, replayed]
    · simp [digest, Except.bind, Except.map]
  | none =>
    cases inserted : (db.table kind).insertOrIgnore { values with createdAt := now } with
    | error => rfl
    | ok outcome =>
      cases outcome with
      | none => rfl
      | some table =>
        simp only [Except.bind, perform_bind, perform_maybeInsertOutbox, replayed, id,
          Bool.or_false, Statement.exec, Database.setTable_outbox]
        cases target with
        | supabaseMirror => rfl
        | primary =>
          simp only [PersistenceTarget.createsOutbox, Bool.not_true, Bool.false_eq_true, if_false,
            if_true]
          cases db.outbox.insertOrIgnore (.new now kind values.id context.payloadSha256) with
          | error => rfl
          | ok outbox => cases outbox <;> rfl

section Store

variable (contract : Contract) (target : PersistenceTarget) (context : SubmissionContext)
variable (apiNow now : Timestamp)

theorem perform_insertOrReplay_outbox (values : Values kind)
    (keyed : values.idempotencyKey = context.idempotencyKey) (db : Database) :
    perform now (insertOrReplay context values >>= fun stored =>
        maybeInsertOutbox target kind stored context >>= fun _ => pure stored) db =
      (settle target context now { values with createdAt := now } db).map
        fun outcome => (storedFromRow outcome.1.1 outcome.1.2,outcome.2) := by
  have whole := perform_settle target context now values keyed storedFromRow (fun _ _ => rfl)
    (fun _ _ => rfl) (fun stored => storedFromRow stored.1 stored.2) db
  rw [← whole, insertOrReplay, perform_bind, perform_bind, perform_bind]
  cases perform now (insertOrReplayRow context values) db <;> rfl

/-- Every `store_*` command: its own checks, then one insert-or-replay with outbox. -/
theorem perform_store {kind : StoredSubmissionKind} (body : Create kind) (db : Database) :
    perform now (store contract target context apiNow kind body) db =
      (storeGuard contract context now body db).bind fun _ =>
        (settle target context now (freshRow target context apiNow now body) db).map
          fun outcome => (storedOf outcome.1.2 outcome.1.1,outcome.2) := by
  cases kind with
  | preInterest =>
    change perform now (storePreInterest contract target context body) db = _
    rw [storePreInterest, perform_check, storeGuard]
    split
    · rw [perform_begin, perform_insertOrReplay_outbox _ _ _ _ (by rfl)]; rfl
    · rfl
  | upload =>
    change perform now (storeUploadIntent contract target context apiNow body) db = _
    rw [storeUploadIntent, perform_check, storeGuard]
    split
    · rw [perform_begin, perform_check]
      by_cases size : body.input.sizeBytes < 2 ^ 63
      · simp only [size, decide_true, if_true]
        exact perform_settle target context now (uploadValues context apiNow body.input) rfl
          (fun row replayed => ⟨row.id,row.state.expiresAt,replayed⟩) (fun _ _ => rfl)
          (fun _ _ => rfl) (fun stored => storedOf stored.2 stored.1) db
      · simp only [size, decide_false, Bool.false_eq_true, if_false]; rfl
    · rfl
  | application =>
    change perform now (storeApplication contract target context body) db = _
    rw [storeApplication, perform_check, storeGuard]
    split
    · rw [perform_check]
      by_cases occupancy : body.input.preferredRoomOccupancy < 2 ^ 15
      · simp only [occupancy, decide_true, if_true]
        rw [perform_begin, requireVerifiedUploads, perform_bind, perform_bind, perform_sql,
          Statement.exec]
        change (perform now (.require _ _) db).bind _ = _
        rw [perform_require]
        by_cases gate : (db.table .upload).count (Row.isVerifiedUpload now context.subjectColumn
          body.input.resumeUploadId body.input.photoIdUploadId) = 2
        · simp only [gate, decide_true, if_true]
          exact perform_insertOrReplay_outbox target context now
            (applicationValues target context body.input) rfl db
        · simp only [gate, decide_false, Bool.false_eq_true, if_false]; rfl
      · simp only [occupancy, decide_false, Bool.false_eq_true, if_false]; rfl
    · rfl
  | referral =>
    change perform now (storeReferral contract target context body) db = _
    rw [storeReferral, perform_check, storeGuard]
    split
    · rw [perform_bind]
      cases required : context.requireSubject with
      | error error => rfl
      | ok subject =>
        change perform now (sql .begin >>= _) db = _
        rw [perform_begin]
        have named : context.subjectColumn.getD "" = subject := by
          unfold SubmissionContext.requireSubject at required
          split at required
          · next present => cases required; simp [SubmissionContext.subjectColumn, present]
          · cases required
        have settled := perform_insertOrReplay_outbox target context now
          (referralValues target context subject body.input) rfl db
        rw [← named] at settled ⊢
        exact settled
    · rfl

end Store

/-- A store that inserted: its key and its id were free, its row is the only change
to the canonical tables, and only the primary target adds an outbox item. -/
structure Inserted (target : PersistenceTarget) (context : SubmissionContext) (now : Timestamp)
    (fresh : Row kind) (db db' : Database) : Prop where
  absent : ∀ row ∈ db.table kind, row.idempotencyKey ≠ context.idempotencyKey
  free : ∀ row ∈ db.table kind, row.id ≠ fresh.id
  here : ∀ row, row ∈ db'.table kind ↔ row = fresh ∨ row ∈ db.table kind
  elsewhere : ∀ other, other ≠ kind → db'.table other = db.table other
  item_free : target.createsOutbox = true → ∀ item ∈ db.outbox,
    ¬(item.submissionKind = kind ∧ item.submissionId = fresh.id)
  outbox : ∀ item, item ∈ db'.outbox ↔
    (target.createsOutbox = true ∧ item = .new now kind fresh.id context.payloadSha256) ∨
      item ∈ db.outbox

theorem settle_cases {target : PersistenceTarget} {context : SubmissionContext} {now : Timestamp}
    {fresh row : Row kind} {replayed : Bool} {db db' : Database}
    (settled : settle target context now fresh db = .ok ((row,replayed),db')) :
    (replayed = true ∧ db' = db ∧ row ∈ db.table kind ∧
      row.idempotencyKey = context.idempotencyKey ∧ row.payloadSha256 = context.payloadSha256) ∨
    (replayed = false ∧ row = fresh ∧ Inserted target context now fresh db db') := by
  rw [settle] at settled
  split at settled
  · next found =>
    split at settled
    · next digest =>
      cases settled
      obtain ⟨member,key⟩ := Table.findKey_some.mp found
      exact .inl ⟨rfl,rfl,member,key,digest⟩
    · cases settled
  · next missing =>
    have absent := Table.findKey_none.mp missing
    split at settled
    · next table inserted =>
      obtain ⟨id,key,rfl⟩ := Table.insertOrIgnore_some inserted
      split at settled
      · next creates =>
        split at settled
        · next outbox added =>
          obtain ⟨itemId,itemKey,rfl⟩ := Table.insertOrIgnore_some added
          cases settled
          refine .inr ⟨rfl,rfl,absent,id,?_,?_,?_,?_⟩
          · intro other; simp
          · intro other distinct; exact Database.setTable_other db _ distinct
          · intro _ item member same
            exact itemId item member (Prod.ext same.1 same.2)
          · intro item; simp [creates]
        · cases settled
      · next quiet =>
        cases settled
        refine .inr ⟨rfl,rfl,absent,id,?_,?_,?_,?_⟩
        · intro other; simp
        · intro other distinct; exact Database.setTable_other db _ distinct
        · intro creates; contradiction
        · intro item; simp [quiet]
    · cases settled

namespace Database

def acknowledges (db : Database) (kind : StoredSubmissionKind) (id : Uuid) (digest : String) : Bool :=
  (kind = .upload || (db.table kind).count (Row.matches id digest) = 1) &&
    db.outbox.count (OutboxItem.matches kind id digest) = 1

def mirrored (db : Database) (kind : StoredSubmissionKind) (id : Uuid) (digest : String) : Database :=
  (if kind = .upload then db else db.markRow kind id digest).markOutbox kind id digest

def retries (db : Database) (kind : StoredSubmissionKind) (id : Uuid) : Bool :=
  (kind = .upload || (db.table kind).count (fun row => row.id = id) = 1) &&
    db.outbox.count (OutboxItem.retries kind id) = 1

def failed (db : Database) (now : Timestamp) (kind : StoredSubmissionKind) (id : Uuid)
    (errorCode : String) : Database :=
  (if kind = .upload then db else db.failRow kind id).failOutbox now kind id errorCode

end Database

/-- An update of the row, which uploads go without, and one of its outbox item: each has to affect
one row. -/
theorem perform_updates {now : Timestamp} {kind : StoredSubmissionKind} {row item : Tx Nat} {rows items : Nat}
    {db db' : Database} {after : Database → Database} (updated : perform now row db = .ok (rows,db'))
    (listed : ∀ d ∈ [db,db'], perform now item d = .ok (items,after d)) :
    perform now (do
      if kind ≠ .upload then
        let affected ← row
        .require (affected = 1) .invariant
      let affected ← item
      .require (affected = 1) .invariant) db =
      if (kind = .upload || rows = 1) && items = 1 then .ok ((),after (if kind = .upload then db else db'))
      else .error .invariant := by
  by_cases upload : kind = .upload
  · subst upload
    simp only [ne_eq, not_true_eq_false, if_false, decide_true, Bool.true_or, Bool.true_and, if_true]
    rw [perform_bind, listed db (by simp)]
    exact perform_require ..
  · simp only [upload, ne_eq, not_false_eq_true, if_true, decide_false, Bool.false_or, if_false]
    rw [perform_bind, updated]
    change perform now (.require _ _ >>= _) _ = _
    rw [perform_check]
    by_cases one : rows = 1
    · simp only [one, decide_true, if_true, Bool.true_and]
      rw [perform_bind, listed db' (by simp)]
      exact perform_require ..
    · simp only [one, decide_false, Bool.false_and, Bool.false_eq_true, if_false]

theorem perform_markMirrored (now : Timestamp) (kind : StoredSubmissionKind) (id : Uuid)
    (digest : String) (db : Database) :
    perform now (markMirrored kind id digest) db =
      if db.acknowledges kind id digest then .ok ((),db.mirrored kind id digest)
      else .error .invariant := by
  rw [markMirrored, perform_begin, Database.acknowledges, Database.mirrored]
  refine @perform_updates _ _ _ _ _ _ _ _ (fun d => d.markOutbox kind id digest) (perform_sql ..)
    fun d member => ?_
  rcases List.mem_pair.mp member with rfl | rfl <;> exact perform_sql ..

theorem perform_recordMirrorFailure (now : Timestamp) (kind : StoredSubmissionKind) (id : Uuid)
    (errorCode : String) (db : Database) :
    perform now (recordMirrorFailure kind id errorCode) db =
      if isErrorCode errorCode then
        if db.retries kind id then .ok ((),db.failed now kind id errorCode) else .error .invariant
      else .error (.invalidContext "mirror_error_code") := by
  rw [recordMirrorFailure, perform_check]
  split
  · rw [perform_begin, Database.retries, Database.failed]
    refine @perform_updates _ _ _ _ _ _ _ _ (fun d => d.failOutbox now kind id errorCode) (perform_sql ..)
      fun d member => ?_
    rcases List.mem_pair.mp member with rfl | rfl <;> exact perform_sql ..
  · rfl

def pendingOf (row : Row .upload) : PendingUpload :=
  ⟨row.id,row.state.objectKey,row.payload.sha256,row.payload.contentType,row.payload.sizeBytes,
    row.state.expiresAt⟩

theorem perform_pendingUpload (now : Timestamp) (id : Uuid) (subject : Option VerifiedSubject)
    (db : Database) :
    perform now (pendingUpload id subject) db =
      match (db.table .upload).rows.find? (Row.isPending now id (subject.map VerifiedSubject.value)) with
      | none => .error .intakeObjectUnavailable
      | some row => .ok (pendingOf row,db) := by
  rw [pendingUpload, perform_bind, perform_sql, Statement.exec]
  cases (db.table .upload).rows.find?
    (Row.isPending now id (subject.map VerifiedSubject.value)) <;> rfl

theorem perform_verifyUpload (now : Timestamp) (id : Uuid) (subject : Option VerifiedSubject)
    (digest : String) (db : Database) :
    perform now (verifyUpload id subject digest) db =
      if isDigest digest then
        if (db.table .upload).count (fun row => row.isPending now id (subject.map VerifiedSubject.value) &&
            row.payload.sha256 = digest) = 1 then
          .ok ((),db.verifyUpload now id (subject.map VerifiedSubject.value) digest)
        else .error .intakeObjectUnavailable
      else .error (.invalidContext "observed_sha256") := by
  rw [verifyUpload, perform_check]
  split
  · rw [perform_bind, perform_sql, Statement.exec]
    change perform now (.require _ _) _ = _
    rw [perform_require]
    simp only [decide_eq_true_eq]
  · rfl

end IntakeApi
