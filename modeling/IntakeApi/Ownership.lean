import IntakeApi.Gate

/-! Who owns what: the row that a request is told of belongs to whoever stored it first,
and the mirror's copy to whoever copied it. -/
namespace IntakeApi

open Interaction Relational Transaction Service

section Origins

variable {contract : Contract} {w : World} (reachable : Reachable contract w)

def StoredBy (contract : Contract) (w : World) {kind : StoredSubmissionKind} (row : Row kind)
    (first : SubmissionContext) : Prop :=
  ∃ session ∈ w.sessions, ∃ body : Create kind, Requested contract session.arrival body first ∧
    first.idempotencyKey = row.idempotencyKey ∧ first.payloadSha256 = row.payloadSha256 ∧
    first.subjectColumn = row.subject

include reachable in
theorem stored_by {connection : Connection} {kind : StoredSubmissionKind} {row : Row kind}
    (member : row ∈ (w.store connection).table kind) : ∃ first, StoredBy contract w row first := by
  obtain ⟨session,first,body,wrote⟩ := written reachable member
  exact ⟨first,session,wrote.here,body,wrote.requested,wrote.idempotencyKey.symm,
    wrote.requested.digest.trans wrote.payloadSha256.symm,wrote.subject.symm⟩

section Told

variable {entry : Entry} (logged : entry ∈ w.log) {kind : StoredSubmissionKind}
variable {context : SubmissionContext} {body : Create kind} {stored : Stored kind}
variable (told : entry.exchange = ⟨primaryLeg kind context body,.ok stored⟩)

include reachable logged told in
/-- What a successful primary call passed, and the row it reported: one it found under its
key, or its own. -/
theorem told_row :
    storeGuard contract context entry.env.databaseNow body (entry.before .primary) = .ok () ∧
    ∃ old row, old.Continues row ∧ Holds (w.store .primary) kind context stored row ∧
      ((old ∈ (entry.before .primary).table kind ∧ old.idempotencyKey = context.idempotencyKey) ∨
        old = freshRow .primary context entry.env.apiNow entry.env.databaseNow body) := by
  have sound := Server.log_sound reachable entry logged
  have kept := after_retained reachable logged
  obtain ⟨i,exchange,env,before⟩ := entry
  cases told
  obtain ⟨db,performed,changed⟩ := respond_ok sound.symm
  have later : db.Retains (w.store .primary) := by
    have same : (respond contract env (primaryLeg kind context body) before).2 .primary = db := by
      rw [primaryLeg, changed, Function.update_self]
    exact same ▸ kept .primary
  obtain ⟨guarded,old,replayed,reported,⟨-,rfl,member,key,digest⟩ | ⟨-,rfl,inserted⟩⟩ :=
    store_performed performed
  · have holds : Holds (before .primary) kind context stored old := ⟨member,⟨replayed,reported⟩,key,digest⟩
    obtain ⟨row,continues,holds'⟩ := holds.retained later
    exact ⟨guarded,old,row,continues,holds',.inl ⟨member,key⟩⟩
  · have holds : Holds db kind context stored
        (freshRow .primary context env.apiNow env.databaseNow body) :=
      ⟨(inserted.here _).mpr (.inl rfl),⟨replayed,reported⟩,freshRow_idempotencyKey ..,
        freshRow_payloadSha256 ..⟩
    obtain ⟨row,continues,holds'⟩ := holds.retained later
    exact ⟨guarded,_,row,continues,holds',.inr rfl⟩

include reachable logged told in
/-- A caller that finds its key free owns what it is told of. -/
theorem told_fresh
    (free : ∀ old ∈ (entry.before .primary).table kind, old.idempotencyKey ≠ context.idempotencyKey)
    {row : Row kind} (holds : Holds (w.store .primary) kind context stored row) :
    row.subject = context.subjectColumn := by
  obtain ⟨guarded,old,found,continues,there,⟨member,key⟩ | rfl⟩ := told_row reachable logged told
  · exact (free old member key).elim
  · have same : row = found := Table.eq_of_key holds.member there.member
      (holds.idempotencyKey.trans there.idempotencyKey.symm)
    rw [same, continues.subject]
    exact freshRow_subject _ _ _ _ guarded

end Told

include reachable in
theorem application_uploads {row : Row .application} (member : row ∈ (w.store .primary).table .application) :
    ∃ session ∈ w.sessions, ∃ (first : SubmissionContext) (body : Create .application),
      Requested contract session.arrival body first ∧
      row.payloadSha256 = contract.canonicalDigest body.input ∧
      ∃ upload ∈ (w.store .primary).table .upload, upload.id = body.input.resumeUploadId ∧
        upload.subject = row.subject := by
  cases provenance reachable member with
  | @primary i session first body env before here requested kept guarded continues =>
    have digest := (continues.payloadSha256.trans (freshRow_payloadSha256 ..)).trans requested.digest
    obtain ⟨resume,-⟩ := (application_guard requested.valid).mp guarded
    obtain ⟨upload,there,named,-,owner,-⟩ := resume.later (kept .primary)
    refine ⟨session,List.mem_of_getElem? here,first,body,requested,digest,upload,there,named,?_⟩
    rw [owner, continues.subject, freshRow_subject _ _ _ _ guarded]

include reachable in
theorem told_application (free : CollisionFree contract w) {entry : Entry} (logged : entry ∈ w.log)
    {context : SubmissionContext} {body : Create .application} {stored : StoredSubmission}
    (told : entry.exchange = ⟨primaryLeg .application context body,.ok stored⟩) {row : Row .application}
    (holds : Holds (w.store .primary) .application context stored row) :
    row.subject = context.subjectColumn := by
  obtain ⟨session,here,requested⟩ := primary_logged reachable logged (congrArg Sigma.fst told)
  obtain ⟨session',there,first,body',requested',digest,upload,listed,named,owner⟩ :=
    application_uploads reachable holds.member
  have same : body.input = body'.input := by
    refine free .application body body' ⟨session,List.mem_of_getElem? here,requested.request⟩
      ⟨session',there,requested'.request⟩ ?_
    rw [← requested.digest, ← holds.payloadSha256, digest]
  have later := before_retained reachable logged
  obtain ⟨resume,-⟩ := (application_guard requested.valid).mp (told_row reachable logged told).1
  obtain ⟨upload',listed',named',-,owner',-⟩ := resume.later (later .primary)
  have equal : upload' = upload := Table.eq_of_id listed' listed (named'.trans (same ▸ named.symm))
  rw [← owner, ← equal, owner']

include reachable in
/-- A request copies a row under the id it was told. -/
theorem copied_told {entry : Entry} (logged : entry ∈ w.log) {target : PersistenceTarget}
    {kind : StoredSubmissionKind} {context : SubmissionContext} {body : Create kind}
    (called : entry.exchange.1 = .persist .supabase (.store target kind context body)) :
    ∃ (first : SubmissionContext) (stored : Stored kind), context = first.withCanonicalId stored.id ∧
      (⟨primaryLeg kind first body,.ok stored⟩ : Exchange Call Call.Answer) ∈ w.history entry.session := by
  obtain ⟨session,here,newer,earlier,history,allowed⟩ := logged_asks reachable logged
  rw [called] at allowed
  cases allowed with
  | create request admitted asks =>
    obtain ⟨same,⟨elsewhere,-⟩ | ⟨-,stored,rfl,rfl⟩⟩ := asks.stored rfl
    · cases elsewhere
    · cases same
      refine ⟨_,stored,rfl,?_⟩
      rw [history]
      simp
  | complete request admitted asks => exact (asks.not_stored rfl).elim

include reachable in
/-- A request has the upload it was told of signed. -/
theorem signed_told {entry : Entry} (logged : entry ∈ w.log) {objectKey : String}
    (called : entry.exchange.1 = .createSignedUploadUrl objectKey) :
    ∃ (first : SubmissionContext) (body : Create .upload) (stored : StoredUpload),
      objectKey = stored.objectKey ∧
      (⟨primaryLeg .upload first body,.ok stored⟩ : Exchange Call Call.Answer) ∈
        w.history entry.session := by
  obtain ⟨session,here,newer,earlier,history,allowed⟩ := logged_asks reachable logged
  rw [called] at allowed
  cases allowed with
  | @create kind body first request admitted asks =>
    generalize signing : Call.createSignedUploadUrl objectKey = call at asks
    cases asks with
    | @sign _ body stored other same =>
      cases signing
      refine ⟨first,body,stored,rfl,?_⟩
      rw [history]
      simp
    | _ => cases signing
  | complete request admitted asks =>
    generalize signing : Call.createSignedUploadUrl objectKey = call at asks
    cases asks <;> cases signing

end Origins

/-- A replay is fenced by key and digest. What a request is told of belongs to whoever
first stored it under that key and digest: to the caller itself where its key was free,
and always where it is an application. All that the request gets is about that row. -/
theorem replay_isolation {contract : Contract} {w : World} (reachable : Reachable contract w) :
    (∀ entry ∈ w.log, ∀ (kind : StoredSubmissionKind) (context : SubmissionContext) (body : Create kind)
      (stored : Stored kind), entry.exchange = ⟨primaryLeg kind context body,.ok stored⟩ →
      ∃ row ∈ (w.store .primary).table kind, row.id = stored.id ∧
        row.idempotencyKey = context.idempotencyKey ∧ row.payloadSha256 = context.payloadSha256 ∧
        (∃ first, StoredBy contract w row first) ∧
        ((∀ old ∈ (entry.before .primary).table kind, old.idempotencyKey ≠ context.idempotencyKey) →
          row.subject = context.subjectColumn) ∧
        (kind = .application → CollisionFree contract w → row.subject = context.subjectColumn)) ∧
    (∀ entry ∈ w.log, ∀ (target : PersistenceTarget) (kind : StoredSubmissionKind)
      (context : SubmissionContext) (body : Create kind),
      entry.exchange.1 = .persist .supabase (.store target kind context body) →
      ∃ (first : SubmissionContext) (stored : Stored kind), context = first.withCanonicalId stored.id ∧
        (⟨primaryLeg kind first body,.ok stored⟩ : Exchange Call Call.Answer) ∈ w.history entry.session) ∧
    (∀ entry ∈ w.log, ∀ objectKey, entry.exchange.1 = .createSignedUploadUrl objectKey →
      ∃ (first : SubmissionContext) (body : Create .upload) (stored : StoredUpload),
        objectKey = stored.objectKey ∧
        (⟨primaryLeg .upload first body,.ok stored⟩ : Exchange Call Call.Answer) ∈
          w.history entry.session) ∧
    (∀ (i : Nat) (arrival : Arrival) (receipt : Receipt) (kind : StoredSubmissionKind) (id : Uuid),
      w.sessions[i]? = some ⟨arrival,.replied (.ok receipt)⟩ → receipt.created = some (kind,id) →
      ∃ (context : SubmissionContext) (body : Create kind) (stored : Stored kind),
        Requested contract arrival body context ∧ id = stored.id ∧
        (⟨primaryLeg kind context body,.ok stored⟩ : Exchange Call Call.Answer) ∈ w.history i) := by
  refine ⟨?_,?_,?_,?_⟩
  · intro entry logged kind context body stored told
    obtain ⟨guarded,old,row,continues,holds,-⟩ := told_row reachable logged told
    refine ⟨row,holds.member,holds.id,holds.idempotencyKey,holds.payloadSha256,
      stored_by reachable holds.member,?_,?_⟩
    · intro free
      exact told_fresh reachable logged told free holds
    · rintro rfl collisionless
      exact told_application reachable collisionless logged told holds
  · intro entry logged target kind context body called
    exact copied_told reachable logged called
  · intro entry logged objectKey called
    exact signed_told reachable logged called
  · intro i arrival receipt kind id here created
    obtain ⟨context,body,stored,told,rfl⟩ := acknowledged_as reachable here created
    exact ⟨context,body,stored,told.requested,rfl,told.primary⟩

namespace Sample

def signedIn (subject : VerifiedSubject) (canonicalId : Uuid) (host : String) : Arrival :=
  arrival (some subject) canonicalId (.create .preInterest ⟨preInterest,some "proof-one"⟩) host

/-- Two users send one body under one key. -/
def shared : List (Event Env Arrival) :=
  [.arrive (signedIn owner 1 "hhaus.org"),.advance 0 (calm 10),.advance 0 (calm 11),.advance 0 (calm 12),
    .reply 0,.arrive (signedIn stranger 2 "hhaus.org"),.advance 1 (calm 13),.advance 1 (calm 14),
    .advance 1 (calm 15),.reply 1]

/-- The second user gets the answer that the first one got, for the row of the first one. -/
theorem shared_answered : possible .sample shared = true ∧
    (outcome .sample shared).sessions[1]? = some ⟨signedIn stranger 2 "hhaus.org",
      .replied (.ok (.submission ⟨1,.preInterest,10,.stored,.stored⟩))⟩ ∧
    ∀ row ∈ (((outcome .sample shared).store .primary).table .preInterest).rows,
      row.id = 1 ∧ row.subject = some owner.value := by
  have computed : possible .sample shared = true ∧
      (outcome .sample shared).sessions[1]?.bind Session.reply? =
        some (.ok (.submission ⟨1,.preInterest,10,.stored,.stored⟩)) ∧
      ∀ row ∈ (((outcome .sample shared).store .primary).table .preInterest).rows,
        row.id = 1 ∧ row.subject = some owner.value := by
    decide +kernel
  obtain ⟨ran,left,rows⟩ := computed
  exact ⟨ran,session_outcome ran rfl left,rows⟩

end Sample

theorem replay_isolation_stranger :
    ∃ (context : SubmissionContext) (body : Create .preInterest) (stored : StoredSubmission),
      Requested .sample (Sample.signedIn Sample.stranger 2 "hhaus.org") body context ∧ 1 = stored.id ∧
      (⟨primaryLeg .preInterest context body,.ok stored⟩ : Exchange Call Call.Answer) ∈
        (outcome .sample Sample.shared).history 1 := by
  obtain ⟨ran,here,-⟩ := Sample.shared_answered
  exact (replay_isolation (reachable_outcome ran)).2.2.2 1 _ _ .preInterest 1 here rfl

/-- The second user gets the 201 of the first one's submission. -/
theorem replay_isolation_shared :
    Reachable .sample (outcome .sample Sample.shared) ∧
    (outcome .sample Sample.shared).sessions[1]? = some ⟨Sample.signedIn Sample.stranger 2 "hhaus.org",
      .replied (.ok (.submission ⟨1,.preInterest,10,.stored,.stored⟩))⟩ ∧
    (∀ row ∈ (((outcome .sample Sample.shared).store .primary).table .preInterest).rows,
      row.id = 1 ∧ row.subject = some Sample.owner.value) ∧
    Sample.owner.value ≠ Sample.stranger.value := by
  obtain ⟨ran,here,rows⟩ := Sample.shared_answered
  exact ⟨reachable_outcome ran,here,rows,by decide⟩

end IntakeApi
