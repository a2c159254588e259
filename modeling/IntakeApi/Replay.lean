import IntakeApi.Provenance

/-! Replays: what a store answers when its key is taken, and what follows from it for
every request that uses one key. -/
namespace IntakeApi

open Interaction Relational Transaction Service

section Settle

variable {target : PersistenceTarget} {context : SubmissionContext} {now : Timestamp}
variable {kind : StoredSubmissionKind} {fresh row : Row kind} {db : Database}

theorem settle_replay (member : row ∈ db.table kind) (key : row.idempotencyKey = context.idempotencyKey)
    (digest : row.payloadSha256 = context.payloadSha256) :
    settle target context now fresh db = .ok ((row,true),db) := by
  have found : (db.table kind).findKey context.idempotencyKey = some row :=
    Table.findKey_some.mpr ⟨member,key⟩
  rw [settle, found]
  exact if_pos digest

theorem settle_conflict (member : row ∈ db.table kind)
    (key : row.idempotencyKey = context.idempotencyKey)
    (digest : row.payloadSha256 ≠ context.payloadSha256) :
    settle target context now fresh db = .error .idempotencyConflict := by
  have found : (db.table kind).findKey context.idempotencyKey = some row :=
    Table.findKey_some.mpr ⟨member,key⟩
  rw [settle, found]
  exact if_neg digest

/-- Only a row of the key with another digest makes a conflict. -/
theorem settle_conflict_row
    (conflict : settle target context now fresh db = .error .idempotencyConflict) :
    ∃ row ∈ db.table kind, row.idempotencyKey = context.idempotencyKey ∧
      row.payloadSha256 ≠ context.payloadSha256 := by
  rw [settle] at conflict
  split at conflict
  · next row found =>
    split at conflict
    · cases conflict
    · next other =>
      obtain ⟨member,key⟩ := Table.findKey_some.mp found
      exact ⟨row,member,key,other⟩
  · split at conflict
    · split at conflict
      · split at conflict <;> cases conflict
      · cases conflict
    · cases conflict

end Settle

theorem storeGuard_conflict {contract : Contract} {context : SubmissionContext} {now : Timestamp}
    {kind : StoredSubmissionKind} {body : Create kind} {db : Database} :
    storeGuard contract context now body db ≠ .error .idempotencyConflict := by
  intro conflict
  cases kind with
  | preInterest =>
    simp only [storeGuard] at conflict
    split at conflict <;> cases conflict
  | upload =>
    simp only [storeGuard] at conflict
    split at conflict
    · split at conflict <;> cases conflict
    · cases conflict
  | application =>
    simp only [storeGuard] at conflict
    split at conflict
    · split at conflict
      · split at conflict <;> cases conflict
      · cases conflict
    · cases conflict
  | referral =>
    simp only [storeGuard, SubmissionContext.requireSubject] at conflict
    split at conflict
    · split at conflict <;> cases conflict
    · cases conflict

section Store

variable {contract : Contract} {env : Env} {target : PersistenceTarget} {context : SubmissionContext}
variable {kind : StoredSubmissionKind} {body : Create kind} {row : Row kind} {db : Database}

theorem store_replay (guarded : storeGuard contract context env.databaseNow body db = .ok ())
    (member : row ∈ db.table kind) (key : row.idempotencyKey = context.idempotencyKey)
    (digest : row.payloadSha256 = context.payloadSha256) :
    perform env.databaseNow ((Command.store target kind context body).transaction contract env.apiNow) db =
      .ok (storedOf true row,db) := by
  rw [Command.transaction, perform_store, guarded, settle_replay member key digest]
  rfl

theorem store_conflict (guarded : storeGuard contract context env.databaseNow body db = .ok ())
    (member : row ∈ db.table kind) (key : row.idempotencyKey = context.idempotencyKey)
    (digest : row.payloadSha256 ≠ context.payloadSha256) :
    perform env.databaseNow ((Command.store target kind context body).transaction contract env.apiNow) db =
      .error .idempotencyConflict := by
  rw [Command.transaction, perform_store, guarded, settle_conflict member key digest]
  rfl

theorem fresh_fits (absent : ∀ other ∈ db.table kind, other.idempotencyKey ≠ context.idempotencyKey)
    (free : ∀ other ∈ db.table kind, other.id ≠ context.canonicalId) :
    ∃ table, (db.table kind).insertOrIgnore (freshRow target context env.apiNow env.databaseNow body) =
      .ok (some table) := by
  refine ⟨_,Table.insertOrIgnore_fresh ?_ ?_⟩
  · intro other member
    rw [row_keyed_id, row_keyed_id, freshRow_id]
    exact free other member
  · intro other member
    rw [row_keyed_key, row_keyed_key, freshRow_idempotencyKey]
    exact absent other member

/-- Where key and id are free, a store without outbox inserts its row. -/
theorem store_inserts (quiet : target.createsOutbox = false)
    (guarded : storeGuard contract context env.databaseNow body db = .ok ())
    (absent : ∀ other ∈ db.table kind, other.idempotencyKey ≠ context.idempotencyKey)
    (free : ∀ other ∈ db.table kind, other.id ≠ context.canonicalId) :
    ∃ db', perform env.databaseNow
      ((Command.store target kind context body).transaction contract env.apiNow) db =
        .ok (storedOf false (freshRow target context env.apiNow env.databaseNow body),db') := by
  have missing : (db.table kind).findKey context.idempotencyKey = none := Table.findKey_none.mpr absent
  obtain ⟨table,fits⟩ := @fresh_fits env target context kind body db absent free
  refine ⟨db.setTable kind table,?_⟩
  rw [Command.transaction, perform_store, guarded, settle, missing]
  simp only [fits, quiet, Bool.false_eq_true, if_false, Except.bind, Except.map]

theorem store_refused {error : DataError}
    (guarded : storeGuard contract context env.databaseNow body db = .error error) :
    perform env.databaseNow ((Command.store target kind context body).transaction contract env.apiNow) db =
      .error error := by
  rw [Command.transaction, perform_store, guarded]
  rfl

theorem store_conflict_row (conflict : perform env.databaseNow
    ((Command.store target kind context body).transaction contract env.apiNow) db =
      .error .idempotencyConflict) :
    ∃ row ∈ db.table kind, row.idempotencyKey = context.idempotencyKey ∧
      row.payloadSha256 ≠ context.payloadSha256 := by
  rw [Command.transaction, perform_store] at conflict
  cases guarded : storeGuard contract context env.databaseNow body db with
  | error error =>
    rw [guarded] at conflict
    cases conflict
    exact absurd guarded storeGuard_conflict
  | ok =>
    rw [guarded] at conflict
    cases settled : settle target context env.databaseNow
      (freshRow target context env.apiNow env.databaseNow body) db with
    | error error =>
      simp only [Except.bind, Except.map, settled] at conflict
      cases conflict
      exact settle_conflict_row settled
    | ok outcome => simp [Except.bind, Except.map, settled] at conflict

end Store

theorem admitCreate_referral {contract : Contract} {arrival : Arrival} {body : Create .referral}
    {context : SubmissionContext} (admitted : admitCreate contract arrival body = .ok context) :
    ∃ subject, context.subject = some subject := by
  unfold admitCreate at admitted
  split at admitted
  · cases required : arrival.admission.requiredSubject with
    | error => simp [required, Except.map, Except.bind] at admitted
    | ok subject =>
      simp only [required, Except.map, Except.bind] at admitted
      exact ⟨subject,(Admission.submissionContext_ok admitted).subject⟩
  · cases admitted

/-- What an admitted request passes before its insert-or-replay: everything, but for the
upload gate of applications. `id` is the mirror's, or the request's own. -/
theorem Requested.guard {contract : Contract} {arrival : Arrival} {kind : StoredSubmissionKind}
    {body : Create kind} {context : SubmissionContext}
    (requested : Requested contract arrival body context) (id : Uuid) (now : Timestamp) (db : Database) :
    storeGuard contract (context.withCanonicalId id) now body db = .ok () ∨
    (kind = .application ∧
      storeGuard contract (context.withCanonicalId id) now body db = .error .intakeObjectUnavailable) := by
  have valid := requested.valid
  cases kind with
  | preInterest => exact .inl (by simp only [storeGuard, valid, if_true])
  | upload =>
    have size := contract.upload_size body valid
    have small : body.input.sizeBytes < 2 ^ 63 := by
      unfold maxUploadBytes at size
      omega
    exact .inl (by simp only [storeGuard, valid, small, if_true])
  | application =>
    have occupancy := contract.room_occupancy body valid
    simp only [storeGuard, valid, occupancy, if_true]
    split
    · exact .inl rfl
    · exact .inr ⟨trivial,rfl⟩
  | referral =>
    obtain ⟨subject,owner⟩ := admitCreate_referral requested.admitted
    exact .inl (by simp [storeGuard, valid, SubmissionContext.requireSubject, owner, Except.map])

/-- Requests of one kind with one digest say the same: what SHA-256 is relied on for, of
the requests that were made. -/
def CollisionFree (contract : Contract) (w : World) : Prop :=
  ∀ (kind : StoredSubmissionKind) (a b : Create kind),
    (∃ session ∈ w.sessions, session.arrival.request = .create kind a) →
    (∃ session ∈ w.sessions, session.arrival.request = .create kind b) →
    contract.canonicalDigest a.input = contract.canonicalDigest b.input → a.input = b.input

/-- It is enough to compare the requests that arrived. -/
theorem collisionFree_of_arrivals {contract : Contract} {w : World} {arrivals : List Arrival}
    (arrived : w.sessions.map Session.arrival = arrivals)
    (apart : ∀ a ∈ arrivals, ∀ b ∈ arrivals, ∀ (kind : StoredSubmissionKind) (x y : Create kind),
      a.request = .create kind x → b.request = .create kind y →
      contract.canonicalDigest x.input = contract.canonicalDigest y.input → x.input = y.input) :
    CollisionFree contract w := by
  rintro kind x y ⟨session,member,asked⟩ ⟨session',member',asked'⟩ equal
  exact apart _ (arrived ▸ List.mem_map_of_mem member) _ (arrived ▸ List.mem_map_of_mem member') kind x y asked asked'
    equal

section Run

variable {contract : Contract} {w : World} (reachable : Reachable contract w)

include reachable in
/-- Rows of one kind and digest, in either store, have the same payload columns. -/
theorem same_payload (free : CollisionFree contract w) {kind : StoredSubmissionKind} {a b : Row kind}
    {here there : Connection} (ha : a ∈ (w.store here).table kind) (hb : b ∈ (w.store there).table kind)
    (digest : a.payloadSha256 = b.payloadSha256) : a.payload = b.payload := by
  obtain ⟨session,context,body,wrote⟩ := written reachable ha
  obtain ⟨session',context',body',wrote'⟩ := written reachable hb
  have same := free kind body body' ⟨session,wrote.here,wrote.requested.request⟩
    ⟨session',wrote'.here,wrote'.requested.request⟩
    (wrote.payloadSha256.symm.trans (digest.trans wrote'.payloadSha256))
  rw [wrote.payload, wrote'.payload, same]

include reachable in
theorem copied_payload (free : CollisionFree contract w) {kind : StoredSubmissionKind}
    {row copy : Row kind} (member : row ∈ (w.store .primary).table kind)
    (copied : copy ∈ (w.store .supabase).table kind) (id : row.id = copy.id) :
    row.payload = copy.payload := by
  obtain ⟨other,there,same,-,digest⟩ := copied_row reachable copied
  have equal : row = other := Table.eq_of_id member there (id.trans same.symm)
  subst equal
  exact same_payload reachable free member copied digest

include reachable in
/-- What a completion found in a store is a row that is still there. -/
theorem looked_row {i : Nat} {id : Uuid} {subject : Option VerifiedSubject} {connection : Connection}
    {found : PendingUpload} (member : (⟨Completion.lookLeg id subject connection,.ok found⟩ :
      Exchange Call Call.Answer) ∈ w.history i) :
    ∃ row ∈ (w.store connection).table .upload, row.id = id ∧
      row.subject = subject.map VerifiedSubject.value ∧ found = pendingOf row := by
  obtain ⟨entry,-,-,-,told,kept⟩ := answered reachable member
  obtain ⟨db,performed,changed⟩ := respond_ok told
  rw [Command.transaction, perform_pendingUpload] at performed
  split at performed
  · cases performed
  · next row looked =>
    cases performed
    have chosen := List.find?_some looked
    have listed : row ∈ (entry.before connection).table .upload := List.mem_of_find?_eq_some looked
    simp only [Row.isPending, Bool.and_eq_true, decide_eq_true_eq] at chosen
    have same : (respond contract entry.env (.persist connection (.pendingUpload id subject))
        entry.before).2 connection = entry.before connection := by
      rw [changed, Function.update_self]
    obtain ⟨later,here,continues⟩ := kept connection .upload row (same ▸ listed)
    obtain ⟨key,expiry,-⟩ := continues.state
    refine ⟨later,here,continues.id.trans chosen.1.1.1,continues.subject.trans chosen.1.1.2,?_⟩
    simp only [pendingOf, continues.id, key, continues.payload, expiry]

include reachable in
theorem mirror_agrees {i : Nat} {kind : StoredSubmissionKind} {context : SubmissionContext}
    {body : Create kind} {stored other : Stored kind}
    (told : (⟨primaryLeg kind context body,.ok stored⟩ : Exchange Call Call.Answer) ∈ w.history i)
    (copied : (⟨mirrorLeg kind context body stored.id,.ok other⟩ : Exchange Call Call.Answer) ∈
      w.history i) : other.id = stored.id := by
  obtain ⟨row,holds⟩ := stored_row reachable told
  obtain ⟨copy,holds'⟩ := stored_row reachable copied
  obtain ⟨found,there,id,key,-⟩ := copied_row reachable holds'.member
  have same : found = row :=
    Table.eq_of_key there holds.member (key.trans (holds'.idempotencyKey.trans holds.idempotencyKey.symm))
  rw [← holds'.id, ← holds.id, ← id, same]

include reachable in
/-- The mirror never finds its key taken for another digest. -/
theorem mirror_never_conflicts (i : Nat) (target : PersistenceTarget) (kind : StoredSubmissionKind)
    (context : SubmissionContext) (body : Create kind) :
    (⟨.persist .supabase (.store target kind context body),.error .idempotencyConflict⟩ :
      Exchange Call Call.Answer) ∉ w.history i := by
  intro member
  obtain ⟨entry,logged,-,same⟩ := (World.mem_history w).mp member
  have never : ∀ entry ∈ w.log, entry.exchange ≠
      ⟨.persist .supabase (.store target kind context body),.error .idempotencyConflict⟩ := by
    apply @Server.log_invariant _ _ _ _ _ _ _ (server contract) _ (fun entry : Entry => entry.exchange ≠
      ⟨.persist .supabase (.store target kind context body),.error .idempotencyConflict⟩) _ reachable
    intro w i arrival call next env before here equal
    injection equal with calls answers
    subst calls
    have failed := eq_of_heq answers
    cases asked before here with
    | @create _ _ first request admitted asks =>
      obtain ⟨sort,⟨elsewhere,-⟩ | ⟨-,stored,rfl,history⟩⟩ := asks.stored rfl
      · cases elsewhere
      · cases sort
        have told : (⟨primaryLeg kind first body,.ok stored⟩ : Exchange Call Call.Answer) ∈
            w.history i := by
          rw [history]; exact List.mem_cons_self
        obtain ⟨row,holds⟩ := stored_row before told
        rcases respond_failed failed with outage | conflict
        · cases outage
        · obtain ⟨copy,copied,key,digest⟩ := store_conflict_row conflict
          obtain ⟨found,there,-,key',digest'⟩ := copied_row before copied
          have same : found = row :=
            Table.eq_of_key there holds.member (key'.trans (key.trans holds.idempotencyKey.symm))
          subst same
          exact digest (digest'.symm.trans holds.payloadSha256)
    | complete request admitted asks => exact asks.not_stored rfl
  exact never entry logged same

include reachable in
theorem mirror_subcopy (free : CollisionFree contract w) :
    (∀ kind, ∀ copy ∈ (w.store .supabase).table kind, ∃ row ∈ (w.store .primary).table kind,
      row.id = copy.id ∧ row.idempotencyKey = copy.idempotencyKey ∧
        row.payloadSha256 = copy.payloadSha256 ∧ row.payload = copy.payload) ∧
    (∀ copy ∈ (w.store .supabase).table .upload, ∀ row ∈ (w.store .primary).table .upload,
      row.id = copy.id → row.state.objectKey = copy.state.objectKey ∧
        row.payload.sha256 = copy.payload.sha256 ∧ row.payload.contentType = copy.payload.contentType ∧
        row.payload.sizeBytes = copy.payload.sizeBytes) ∧
    (∀ (i j : Nat) (id : Uuid) (subject subject' : Option VerifiedSubject) (primary mirror : PendingUpload),
      (⟨Completion.lookLeg id subject .primary,.ok primary⟩ : Exchange Call Call.Answer) ∈ w.history i →
      (⟨Completion.lookLeg id subject' .supabase,.ok mirror⟩ : Exchange Call Call.Answer) ∈ w.history j →
      sameUploadIdentity primary mirror = true) ∧
    (∀ (i : Nat) (target : PersistenceTarget) (kind : StoredSubmissionKind) (context : SubmissionContext)
      (body : Create kind), (⟨.persist .supabase (.store target kind context body),
        .error .idempotencyConflict⟩ : Exchange Call Call.Answer) ∉ w.history i) ∧
    (∀ (i : Nat) (kind : StoredSubmissionKind) (context : SubmissionContext) (body : Create kind)
      (stored other : Stored kind),
      (⟨primaryLeg kind context body,.ok stored⟩ : Exchange Call Call.Answer) ∈ w.history i →
      (⟨mirrorLeg kind context body stored.id,.ok other⟩ : Exchange Call Call.Answer) ∈ w.history i →
      other.id = stored.id) := by
  have identity (copy row : Row .upload) (copied : copy ∈ (w.store .supabase).table .upload)
      (member : row ∈ (w.store .primary).table .upload) (id : row.id = copy.id) :
      row.payload = copy.payload ∧ row.state.objectKey = copy.state.objectKey := by
    have payload := copied_payload reachable free member copied id
    refine ⟨payload,?_⟩
    rw [written_objectKey reachable member, written_objectKey reachable copied, payload, id]
  refine ⟨?_,?_,?_,mirror_never_conflicts reachable,fun _ _ _ _ _ _ => mirror_agrees reachable⟩
  · intro kind copy copied
    obtain ⟨row,member,id,key,digest⟩ := copied_row reachable copied
    exact ⟨row,member,id,key,digest,copied_payload reachable free member copied id⟩
  · intro copy copied row member id
    obtain ⟨payload,key⟩ := identity copy row copied member id
    exact ⟨key,by rw [payload],by rw [payload],by rw [payload]⟩
  · intro i j id subject subject' primary mirror looked looked'
    obtain ⟨row,member,named,-,rfl⟩ := looked_row reachable looked
    obtain ⟨copy,copied,named',-,rfl⟩ := looked_row reachable looked'
    obtain ⟨payload,key⟩ := identity copy row copied member (named.trans named'.symm)
    simp only [sameUploadIdentity, pendingOf, named, named', key, payload, decide_true, Bool.and_self]

end Run

namespace Sample

/-- An upload intent whose mirror is out of reach at first, its retry, and another upload. -/
def recopied : List (Event Env Arrival) :=
  [.arrive (intent 1 .resume),.advance 0 (calm 10),
    .advance 0 { calm 11 with faults := ⟨some 1,.acknowledged⟩ },.advance 0 (calm 12),.reply 0,
    .arrive (intent 2 .resume),.advance 1 (calm 13),.advance 1 (calm 14),.advance 1 (calm 15),
    .advance 1 { calm 16 with signedUrl := .ok "https://storage/upload" },.reply 1,
    .arrive (keyed "intake-key-000002" (intent 3 .photoId)),.advance 2 (calm 17),.advance 2 (calm 18),
    .advance 2 (calm 19),.advance 2 { calm 20 with signedUrl := .ok "https://storage/upload" },.reply 2]

theorem recopied_possible : possible .sample recopied = true := by decide +kernel

theorem recopied_arrivals : (outcome .sample recopied).sessions.map Session.arrival =
    [intent 1 .resume,intent 2 .resume,keyed "intake-key-000002" (intent 3 .photoId)] :=
  sessions_outcome recopied_possible

theorem uploads_apart : Contract.sample.canonicalDigest (@Create.input .upload ⟨upload .resume,some "proof-one"⟩) ≠
    Contract.sample.canonicalDigest (@Create.input .upload ⟨upload .photoId,some "proof-one"⟩) := by decide +kernel

theorem recopied_free : CollisionFree .sample (outcome .sample recopied) := by
  refine collisionFree_of_arrivals recopied_arrivals fun a first b second kind x y asked asked' equal => ?_
  simp only [List.mem_cons, List.not_mem_nil, or_false] at first second
  rcases first with rfl | rfl | rfl <;> cases asked <;> rcases second with rfl | rfl | rfl <;> cases asked' <;>
    first | rfl | exact absurd equal uploads_apart | exact absurd equal.symm uploads_apart

end Sample

theorem mirror_subcopy_recopied :
    (∃ copy ∈ ((outcome .sample Sample.recopied).store .supabase).table .upload, copy.id = 1) ∧
    (∃ copy ∈ ((outcome .sample Sample.recopied).store .supabase).table .upload, copy.id = 3) ∧
    (∀ copy ∈ ((outcome .sample Sample.recopied).store .supabase).table .upload,
      ∃ row ∈ ((outcome .sample Sample.recopied).store .primary).table .upload, row.id = copy.id ∧
        row.idempotencyKey = copy.idempotencyKey ∧ row.payloadSha256 = copy.payloadSha256 ∧
          row.payload = copy.payload) ∧
    ∀ copy ∈ ((outcome .sample Sample.recopied).store .supabase).table .upload,
      ∀ row ∈ ((outcome .sample Sample.recopied).store .primary).table .upload,
        row.id = copy.id → row.state.objectKey = copy.state.objectKey := by
  have copied : (∃ copy ∈ (((outcome .sample Sample.recopied).store .supabase).table .upload).rows, copy.id = 1) ∧
      ∃ copy ∈ (((outcome .sample Sample.recopied).store .supabase).table .upload).rows, copy.id = 3 := by
    decide +kernel
  obtain ⟨rows,keys,-⟩ := mirror_subcopy (reachable_outcome Sample.recopied_possible) Sample.recopied_free
  exact ⟨copied.1,copied.2,rows .upload,fun copy there row member same => (keys copy there row member same).1⟩

/-- A create request that goes on was not refused by the primary. -/
theorem Creation.Asks.not_refused {kind k : StoredSubmissionKind} {context context' : SubmissionContext}
    {body : Create kind} {body' : Create k} {history : History} {call : Call} {error : DataError}
    (asks : Creation.Asks kind context body history call) :
    (⟨primaryLeg k context' body',.error error⟩ : Exchange Call Call.Answer) ∉ history := by
  intro told
  cases asks with
  | primary => cases told
  | mirror =>
    rcases List.mem_singleton.mp told with told
    cases told
  | fail =>
    rcases List.mem_pair.mp told with told | told <;> cases told
  | mark =>
    rcases List.mem_pair.mp told with told | told <;> cases told
  | sign =>
    rcases List.mem_cons.mp told with told | told
    · cases told
    · rcases List.mem_pair.mp told with told | told <;> cases told

/-- A refusal of the primary is a create request's last answer. -/
theorem Creation.Ends.refused_inv {kind k : StoredSubmissionKind} {context context' : SubmissionContext}
    {body : Create kind} {body' : Create k} {history : History} {result : Except ApiFailure Receipt}
    {error : DataError} (ends : Creation.Ends kind context body history result)
    (told : (⟨primaryLeg k context' body',.error error⟩ : Exchange Call Call.Answer) ∈ history) :
    history = [⟨primaryLeg k context' body',.error error⟩] ∧ result = .error (.ofData error) := by
  cases ends with
  | refused =>
    rcases List.mem_singleton.mp told with told
    cases told
    exact ⟨rfl,rfl⟩
  | unmirrored =>
    simp only [List.mem_cons, List.not_mem_nil, or_false] at told
    rcases told with told | told | told <;> cases told
  | unmarked =>
    simp only [List.mem_cons, List.not_mem_nil, or_false] at told
    rcases told with told | told | told <;> cases told
  | accepted =>
    simp only [List.mem_cons, List.not_mem_nil, or_false] at told
    rcases told with told | told | told <;> cases told
  | unsigned =>
    simp only [List.mem_cons, List.not_mem_nil, or_false] at told
    rcases told with told | told | told | told <;> cases told
  | signed =>
    simp only [List.mem_cons, List.not_mem_nil, or_false] at told
    rcases told with told | told | told | told <;> cases told

/-- A refused request made one call, which changed nothing, and is answered with the
refusal or not at all. -/
structure Refused (contract : Contract) (w : World) (entry : Entry) (failure : ApiFailure) : Prop where
  only : w.history entry.session = [entry.exchange]
  unchanged : (server contract).after entry = entry.before
  answered : ∃ session, w.sessions[entry.session]? = some session ∧
    session.progress.At (.done (.error failure))

section Refusals

variable {contract : Contract} {w : World} (reachable : Reachable contract w)
variable {entry : Entry} (logged : entry ∈ w.log)

include reachable logged in
/-- The primary leg is the first call of an admitted request. -/
theorem primary_logged {kind : StoredSubmissionKind} {context : SubmissionContext} {body : Create kind}
    (called : entry.exchange.1 = primaryLeg kind context body) :
    ∃ session, w.sessions[entry.session]? = some session ∧
      Requested contract session.arrival body context := by
  obtain ⟨session,here,newer,earlier,history,allowed⟩ := logged_asks reachable logged
  refine ⟨session,here,?_⟩
  rw [called] at allowed
  cases allowed with
  | create request admitted asks =>
    obtain ⟨same,⟨-,rfl⟩ | ⟨elsewhere,-⟩⟩ := asks.stored rfl
    · cases same
      exact ⟨request,admitted⟩
    · cases elsewhere
  | complete request admitted asks => exact (asks.not_stored rfl).elim

include reachable logged in
theorem primary_refused {kind : StoredSubmissionKind} {context : SubmissionContext} {body : Create kind}
    {error : DataError} (refused : entry.exchange = ⟨primaryLeg kind context body,.error error⟩)
    (unchanged : (server contract).after entry = entry.before) :
    Refused contract w entry (.ofData error) := by
  obtain ⟨session,here,requested⟩ := primary_logged reachable logged (congrArg Sigma.fst refused)
  have told : (⟨primaryLeg kind context body,.error error⟩ : Exchange Call Call.Answer) ∈
      w.history entry.session := (World.mem_history w).mpr ⟨entry,logged,rfl,refused⟩
  rcases @Server.traced _ _ _ _ _ _ _ (server contract) _ _ (handle_obeys contract) _ _ reachable _
    session here with ⟨call,next,asks,-⟩ | ⟨result,ends,stands⟩
  · cases asks with
    | create _ _ asks => exact (asks.not_refused told).elim
    | complete request => cases requested.request.symm.trans request
  · cases ends with
    | rejected untouched =>
      rw [untouched] at told
      cases told
    | create _ _ ends =>
      obtain ⟨only,rfl⟩ := ends.refused_inv told
      exact ⟨by rw [only, refused],unchanged,session,here,stands⟩
    | complete request => cases requested.request.symm.trans request

include reachable logged in
/-- A key that is taken for another digest turns a request away. -/
theorem conflict_refused {kind : StoredSubmissionKind} {context : SubmissionContext} {body : Create kind}
    {row : Row kind} (called : entry.exchange.1 = primaryLeg kind context body)
    (clear : entry.env.faults = .clear) (member : row ∈ (entry.before .primary).table kind)
    (key : row.idempotencyKey = context.idempotencyKey)
    (digest : row.payloadSha256 ≠ context.payloadSha256) : Refused contract w entry .conflict := by
  obtain ⟨session,here,requested⟩ := primary_logged reachable logged called
  have sound := Server.log_sound reachable entry logged
  have turned {error : DataError} (performed : perform entry.env.databaseNow
      ((Command.store .primary kind context body).transaction contract entry.env.apiNow)
      (entry.before .primary) = .error error) : Refused contract w entry (.ofData error) := by
    have responded := @respond_clear_error contract entry.env .primary
      (.store .primary kind context body) entry.before error clear performed
    obtain ⟨i,⟨call,answer⟩,env,before⟩ := entry
    cases called
    have failed : answer = .error error := sound.trans (congrArg Prod.fst responded)
    have refused : (⟨primaryLeg kind context body,answer⟩ : Exchange Call Call.Answer) =
        ⟨primaryLeg kind context body,.error error⟩ := by rw [failed]
    exact primary_refused reachable logged refused (congrArg Prod.snd responded)
  rcases requested.guard context.canonicalId entry.env.databaseNow (entry.before .primary) with
    passed | ⟨-,gated⟩
  · exact turned (store_conflict passed member key digest)
  · exact turned (store_refused gated)

end Refusals

def Receipt.acceptedAt : Receipt → Option Timestamp
  | .submission receipt => some receipt.acceptedAt
  | .uploadIntent _ => none
  | .uploadCompletion _ => none

theorem Acknowledged.acceptedAt {contract : Contract} {w : World} {i : Nat} {arrival : Arrival}
    {receipt : Receipt} {kind : StoredSubmissionKind} {context : SubmissionContext} {body : Create kind}
    {stored : Stored kind} (told : Acknowledged contract w i arrival receipt context body stored) :
    receipt.acceptedAt = (submissionReceipt kind stored).map SubmissionReceipt.acceptedAt := by
  have created := told.created
  cases receipt with
  | submission submission =>
    rw [told.accepted submission rfl]
    rfl
  | uploadIntent receipt =>
    simp only [Receipt.created, Option.some.injEq, Prod.mk.injEq] at created
    obtain ⟨rfl,-⟩ := created
    rfl
  | uploadCompletion receipt => cases created

/-- The acceptance time is the row's, whoever is told. -/
theorem submissionReceipt_acceptedAt (a b : Bool) (row : Row kind) :
    (submissionReceipt kind (storedOf a row)).map SubmissionReceipt.acceptedAt =
      (submissionReceipt kind (storedOf b row)).map SubmissionReceipt.acceptedAt := by
  cases kind <;> rfl

/-- A store that reports success or took effect leaves a row of its key and digest. -/
theorem store_settled {contract : Contract} {env : Env} {connection : Connection}
    {target : PersistenceTarget} {kind : StoredSubmissionKind} {context : SubmissionContext}
    {body : Create kind} {stores : Stores}
    (settled : (∃ stored, (respond contract env
        (.persist connection (.store target kind context body)) stores).1 = .ok stored) ∨
      (respond contract env (.persist connection (.store target kind context body)) stores).2 ≠ stores) :
    ∃ row ∈ ((respond contract env (.persist connection (.store target kind context body)) stores).2
      connection).table kind, row.idempotencyKey = context.idempotencyKey ∧
        row.payloadSha256 = context.payloadSha256 := by
  rcases settled with ⟨stored,told⟩ | changed
  · obtain ⟨row,holds⟩ := store_holds told
    exact ⟨row,holds.member,holds.idempotencyKey,holds.payloadSha256⟩
  · rcases respond_store contract env connection target context body stores with same | ⟨db,equal,-,inserted⟩
    · exact (changed same).elim
    · rw [equal, Function.update_self]
      exact ⟨_,(inserted.here _).mpr (.inl rfl),freshRow_idempotencyKey ..,
        freshRow_payloadSha256 ..⟩

section Agreement

variable {contract : Contract} {w : World} (reachable : Reachable contract w)

include reachable in
theorem settled_row {entry : Entry} (logged : entry ∈ w.log) {kind : StoredSubmissionKind}
    {context : SubmissionContext} {body : Create kind} {answer : Except DataError (Stored kind)}
    (called : entry.exchange = ⟨primaryLeg kind context body,answer⟩)
    (settled : (∃ stored, answer = .ok stored) ∨ (server contract).after entry ≠ entry.before) :
    ∃ row ∈ (w.store .primary).table kind, row.idempotencyKey = context.idempotencyKey ∧
      row.payloadSha256 = context.payloadSha256 := by
  have sound := Server.log_sound reachable entry logged
  have kept := after_retained reachable logged
  obtain ⟨i,exchange,env,before⟩ := entry
  cases called
  have effective : (∃ stored, (respond contract env (primaryLeg kind context body) before).1 =
      .ok stored) ∨ (respond contract env (primaryLeg kind context body) before).2 ≠ before :=
    settled.imp_left fun ⟨stored,told⟩ => ⟨stored,sound.symm.trans told⟩
  obtain ⟨row,member,key,digest⟩ := store_settled effective
  obtain ⟨later,here,continues⟩ := kept .primary kind row member
  exact ⟨later,here,continues.idempotencyKey.trans key,continues.payloadSha256.trans digest⟩

include reachable in
theorem receipts_agree {i j : Nat} {a b : Arrival} {receipt other : Receipt}
    {created created' : StoredSubmissionKind × Uuid}
    (here : w.sessions[i]? = some ⟨a,.replied (.ok receipt)⟩)
    (there : w.sessions[j]? = some ⟨b,.replied (.ok other)⟩)
    (named : receipt.created = some created) (named' : other.created = some created')
    (kinds : created.1 = created'.1)
    (keys : a.admission.idempotencyKey = b.admission.idempotencyKey) :
    created = created' ∧ receipt.acceptedAt = other.acceptedAt := by
  obtain ⟨kind,context,body,stored,told⟩ := acknowledged reachable here named
  obtain ⟨kind',context',body',stored',told'⟩ := acknowledged reachable there named'
  obtain rfl := Option.some.inj (named.symm.trans told.created)
  obtain rfl := Option.some.inj (named'.symm.trans told'.created)
  dsimp only at kinds
  subst kinds
  have same : context.idempotencyKey = context'.idempotencyKey := by
    have key := (admitCreate_ok told.requested.admitted).2.key
    have key' := (admitCreate_ok told'.requested.admitted).2.key
    exact Option.some.inj (key.symm.trans (keys.trans key'))
  obtain ⟨row,holds⟩ := stored_row reachable told.primary
  obtain ⟨row',holds'⟩ := stored_row reachable told'.primary
  have equal : row = row' := Table.eq_of_key holds.member holds'.member
    (holds.idempotencyKey.trans (same.trans holds'.idempotencyKey.symm))
  subst equal
  refine ⟨by rw [← holds.id, ← holds'.id],?_⟩
  obtain ⟨replayed,rfl⟩ := holds.reported
  obtain ⟨replayed',rfl⟩ := holds'.reported
  rw [told.acceptedAt, told'.acceptedAt, submissionReceipt_acceptedAt]

end Agreement

/-- All requests of a kind that use one key agree on one row, and a request with another
digest is turned away without a trace. -/
theorem key_agreement {contract : Contract} {w : World} (reachable : Reachable contract w) :
    (∀ kind, ∀ row ∈ (w.store .primary).table kind, ∀ other ∈ (w.store .primary).table kind,
      row.idempotencyKey = other.idempotencyKey → row = other) ∧
    (∀ (i j : Nat) (a b : Arrival) (receipt other : Receipt) (created created' : StoredSubmissionKind × Uuid),
      w.sessions[i]? = some ⟨a,.replied (.ok receipt)⟩ → w.sessions[j]? = some ⟨b,.replied (.ok other)⟩ →
      receipt.created = some created → other.created = some created' → created.1 = created'.1 →
      a.admission.idempotencyKey = b.admission.idempotencyKey →
      created = created' ∧ receipt.acceptedAt = other.acceptedAt) ∧
    (∀ entry ∈ w.log, ∀ (kind : StoredSubmissionKind) (context : SubmissionContext) (body : Create kind)
      (answer : Except DataError (Stored kind)),
      entry.exchange = ⟨primaryLeg kind context body,answer⟩ →
      (∃ stored, answer = .ok stored) ∨ (server contract).after entry ≠ entry.before →
      ∀ row ∈ (w.store .primary).table kind, row.idempotencyKey = context.idempotencyKey →
        row.payloadSha256 = context.payloadSha256) ∧
    (∀ entry ∈ w.log, ∀ (kind : StoredSubmissionKind) (context : SubmissionContext) (body : Create kind),
      entry.exchange.1 = primaryLeg kind context body → entry.env.faults = .clear →
      ∀ row ∈ (entry.before .primary).table kind, row.idempotencyKey = context.idempotencyKey →
        row.payloadSha256 ≠ context.payloadSha256 → Refused contract w entry .conflict) := by
  refine ⟨?_,?_,?_,?_⟩
  · intro kind row member other member' keys
    exact Table.eq_of_key member member' keys
  · intro i j a b receipt other created created' here there named named' kinds keys
    exact receipts_agree reachable here there named named' kinds keys
  · intro entry logged kind context body answer called settled row member key
    obtain ⟨found,there,key',digest⟩ := settled_row reachable logged called settled
    have same : row = found := Table.eq_of_key member there (key.trans key'.symm)
    rw [same, digest]
  · intro entry logged kind context body called clear row member key digest
    exact conflict_refused reachable logged called clear member key digest

/-- Two upload intents under one key: the second one is for another object. -/
def Sample.conflicting : List (Event Env Arrival) :=
  [.arrive (intent 1 .resume),.advance 0 (calm 10),.arrive (intent 2 .photoId),.advance 1 (calm 11)]

theorem key_agreement_conflicting : ∃ entry ∈ (outcome .sample Sample.conflicting).log,
    entry.session = 1 ∧ Refused .sample (outcome .sample Sample.conflicting) entry .conflict := by
  have agreement := key_agreement
    (reachable_outcome (by decide +kernel : possible .sample Sample.conflicting = true))
  have taken : ∃ (answer : Except DataError StoredUpload) (before : Stores) (earlier : List Entry),
      (outcome .sample Sample.conflicting).log =
        ⟨1,⟨primaryLeg .upload (@Sample.context 2 .upload (Sample.upload .photoId))
          ⟨Sample.upload .photoId,some "proof-one"⟩,answer⟩,Sample.calm 11,before⟩ :: earlier ∧
      ∃ row ∈ ((before .primary).table .upload).rows, row.idempotencyKey = "intake-key-000001" ∧
        row.payloadSha256 ≠ @Contract.canonicalDigest .sample .upload (Sample.upload .photoId) := by
    refine ⟨_,_,_,rfl,?_⟩
    decide +kernel
  obtain ⟨answer,before,earlier,log,row,member,key,digest⟩ := taken
  refine ⟨_,log ▸ List.mem_cons_self,rfl,?_⟩
  exact agreement.2.2.2 _ (log ▸ List.mem_cons_self) .upload _ _ rfl rfl row member key digest

end IntakeApi
