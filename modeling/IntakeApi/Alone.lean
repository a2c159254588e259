import IntakeApi.Convergence

/-! A create request that is served alone: what it is answered depends on the row of its key and on
nothing else that has happened. -/
namespace IntakeApi

open Interaction Relational Transaction Service

/-- What the key of a request stands for in a store: a row to come, the row of the same request, or
one of another. -/
def Database.claimed (db : Database) (kind : StoredSubmissionKind) (context : SubmissionContext) :
    Except ApiFailure Uuid :=
  match (db.table kind).findKey context.idempotencyKey with
  | none => .ok context.canonicalId
  | some row => if row.payloadSha256 = context.payloadSha256 then .ok row.id else .error .conflict

section Claims

variable {contract : Contract} {kind : StoredSubmissionKind} {context : SubmissionContext} {body : Create kind}
variable {db : Database} {env : Env}

/-- Where key and id are free, the primary inserts the row and its item. -/
theorem store_inserts_listed (guarded : storeGuard contract context env.databaseNow body db = .ok ())
    (absent : ∀ other ∈ db.table kind, other.idempotencyKey ≠ context.idempotencyKey)
    (free : ∀ other ∈ db.table kind, other.id ≠ context.canonicalId)
    (unlisted : ∀ item ∈ db.outbox, ¬(item.submissionKind = kind ∧ item.submissionId = context.canonicalId)) :
    ∃ db', perform env.databaseNow ((Command.store .primary kind context body).transaction contract env.apiNow) db =
      .ok (storedOf false (freshRow .primary context env.apiNow env.databaseNow body),db') := by
  have missing : (db.table kind).findKey context.idempotencyKey = none := Table.findKey_none.mpr absent
  obtain ⟨table,fits⟩ := @fresh_fits env .primary context kind body db absent free
  obtain ⟨outbox,listed⟩ : ∃ outbox, db.outbox.insertOrIgnore (.new env.databaseNow kind
      (freshRow .primary context env.apiNow env.databaseNow body).id context.payloadSha256) = .ok (some outbox) := by
    have room : ∀ item ∈ db.outbox, (item.submissionKind,item.submissionId) ≠
        (kind,(freshRow .primary context env.apiNow env.databaseNow body).id) := by
      intro item member same
      rw [freshRow_id] at same
      exact unlisted item member (Prod.mk.inj same)
    exact ⟨_,Table.insertOrIgnore_fresh room room⟩
  refine ⟨{ db.setTable kind table with outbox := outbox },?_⟩
  rw [Command.transaction, perform_store, guarded, settle, missing]
  simp only [fits, listed, PersistenceTarget.createsOutbox, if_true, Except.bind, Except.map]

variable {w : World}

theorem claimed_answers (reachable : Reachable contract w) (clear : env.faults = .clear)
    (free : ∀ row ∈ (w.store .primary).table kind, row.id ≠ context.canonicalId)
    (passed : storeGuard contract context env.databaseNow body (w.store .primary) = .ok ()) {id : Uuid}
    (claimed : (w.store .primary).claimed kind context = .ok id) :
    ∃ (stored : Stored kind) (db : Database), stored.id = id ∧
      respond contract env (primaryLeg kind context body) w.store =
        (.ok stored,Function.update w.store .primary db) := by
  rw [Database.claimed] at claimed
  split at claimed
  · next missing =>
    cases claimed
    have unlisted : ∀ item ∈ (w.store .primary).outbox,
        ¬(item.submissionKind = kind ∧ item.submissionId = context.canonicalId) := by
      intro item listed same
      obtain ⟨row,member,named,-⟩ := (outboxed reachable).1.owned item listed
      obtain ⟨rfl,id⟩ := same
      exact free row member (named.trans id)
    obtain ⟨db,performed⟩ := store_inserts_listed passed (Table.findKey_none.mp missing) free unlisted
    exact ⟨_,db,by rw [storedOf_id, freshRow_id],@respond_clear_ok contract env .primary
      (.store .primary kind context body) w.store _ _ clear performed⟩
  · next row found =>
    split at claimed
    · next digest =>
      cases claimed
      obtain ⟨member,key⟩ := Table.findKey_some.mp found
      exact ⟨_,_,storedOf_id ..,@respond_clear_ok contract env .primary (.store .primary kind context body)
        w.store _ _ clear (store_replay passed member key digest)⟩
    · cases claimed

theorem unclaimed_answers (clear : env.faults = .clear)
    (passed : storeGuard contract context env.databaseNow body (w.store .primary) = .ok ()) {failure : ApiFailure}
    (claimed : (w.store .primary).claimed kind context = .error failure) :
    failure = .conflict ∧ respond contract env (primaryLeg kind context body) w.store =
      (.error .idempotencyConflict,w.store) := by
  rw [Database.claimed] at claimed
  split at claimed
  · cases claimed
  · next row found =>
    split at claimed
    · cases claimed
    · next digest =>
      cases claimed
      obtain ⟨member,key⟩ := Table.findKey_some.mp found
      exact ⟨rfl,@respond_clear_error contract env .primary (.store .primary kind context body) w.store _ clear
        (store_conflict passed member key digest)⟩

end Claims

section Reply

variable {contract : Contract} {w : World} {i : Nat} {arrival : Arrival} {kind : StoredSubmissionKind}
variable {context : SubmissionContext} {body : Create kind} {env : Env}

/-- After the acknowledgement there is a 201, for an upload once its URL is signed. -/
theorem marked_replies {before : World} (reachable : Reachable contract before) {row : Row kind}
    (member : row ∈ (before.store .primary).table kind) {replayed : Bool}
    {last : Except DataError Unit → Handler Receipt}
    (finishes : Creation.finish kind context body (storedOf replayed row) = .call (markLeg kind context row.id) last)
    (signs : env.signedUrl.isOk = true) (here : w.sessions[i]? = some ⟨arrival,.running (last (.ok ()))⟩) :
    ∃ count w' receipt, count ≤ 1 ∧
      Machine.Run (server contract).Step w (List.replicate count (.advance i env) ++ [.reply i]) w' ∧
      w'.sessions[i]? = some ⟨arrival,.replied (.ok receipt)⟩ ∧ receipt.created = some (kind,row.id) ∧
      w'.store = w.store := by
  cases kind with
  | upload =>
    cases finishes
    obtain ⟨url,signed⟩ : ∃ url, env.signedUrl = .ok url := by
      cases answer : env.signedUrl with
      | ok url => exact ⟨url,rfl⟩
      | error => rw [answer] at signs; cases signs
    have told : respond contract env (.createSignedUploadUrl row.state.objectKey) w.store = (.ok url,w.store) := by
      rw [respond, createSignedUploadUrl, if_pos (written_key_valid reachable member), signed]
    obtain ⟨w₁,asked,here₁,store₁,-⟩ := answered_step here told
    obtain ⟨bound,-⟩ := List.getElem?_eq_some_iff.mp here₁
    have replied : (server contract).Step w₁ (.reply i) _ := .reply here₁
    exact ⟨1,_,_,Nat.le_refl _,.cons asked (.cons replied .nil),List.getElem?_set_self bound,rfl,store₁⟩
  | _ =>
    cases finishes
    obtain ⟨bound,-⟩ := List.getElem?_eq_some_iff.mp here
    have replied : (server contract).Step w (.reply i) _ := .reply here
    exact ⟨0,_,_,Nat.zero_le _,.cons replied .nil,List.getElem?_set_self bound,rfl,rfl⟩

end Reply

section Served

variable {contract : Contract} {w : World} {arrival : Arrival} {kind : StoredSubmissionKind}
variable {context : SubmissionContext} {body : Create kind} {env : Env}
variable (reachable : Reachable contract w) (requested : Requested contract arrival body context)
variable (clear : env.faults = .clear)

include requested clear in
theorem refused_alone (passed : storeGuard contract context env.databaseNow body (w.store .primary) = .ok ())
    {failure : ApiFailure} (claimed : (w.store .primary).claimed kind context = .error failure) :
    ∃ w', Machine.Run (server contract).Step w
        [.arrive arrival,.advance w.sessions.length env,.reply w.sessions.length] w' ∧
      w'.sessions[w.sessions.length]? = some ⟨arrival,.replied (.error failure)⟩ ∧ w'.store = w.store := by
  obtain ⟨first,begun,refused,-⟩ := handle_legs requested
  obtain ⟨rfl,told⟩ := unclaimed_answers clear passed claimed
  obtain ⟨w₁,asked,here₁,store₁,-⟩ := arrives_answered begun told
  rw [refused] at here₁
  obtain ⟨bound,-⟩ := List.getElem?_eq_some_iff.mp here₁
  have replied : (server contract).Step w₁ (.reply w.sessions.length) _ := .reply here₁
  exact ⟨_,asked.append (.cons replied .nil),List.getElem?_set_self bound,store₁⟩

include reachable requested clear in
theorem accepted_alone (signs : env.signedUrl.isOk = true)
    (free : ∀ row ∈ (w.store .primary).table kind, row.id ≠ context.canonicalId)
    (passed : ∀ id connection,
      storeGuard contract (context.withCanonicalId id) env.databaseNow body (w.store connection) = .ok ()) {id : Uuid}
    (claimed : (w.store .primary).claimed kind context = .ok id) :
    ∃ count w' receipt, count ≤ 4 ∧ Machine.Run (server contract).Step w
        (.arrive arrival :: List.replicate count (.advance w.sessions.length env) ++ [.reply w.sessions.length]) w' ∧
      w'.sessions[w.sessions.length]? = some ⟨arrival,.replied (.ok receipt)⟩ ∧ receipt.created = some (kind,id) ∧
      ∃ row ∈ (w'.store .primary).table kind, row.id = id ∧ row.idempotencyKey = context.idempotencyKey ∧
        row.payloadSha256 = context.payloadSha256 ∧ Settled w'.store row := by
  obtain ⟨first,begun,-,accepted⟩ := handle_legs requested
  obtain ⟨stored,db,named,told⟩ := claimed_answers reachable clear free (passed context.canonicalId .primary) claimed
  -- the primary has a row for the request
  have held : ∃ row, Holds ((respond contract env (primaryLeg kind context body) w.store).2 .primary) kind context
      stored row := store_holds (congrArg Prod.fst told)
  obtain ⟨w₁,asked,here₁,store₁,-⟩ := arrives_answered begun told
  rw [told, ← store₁] at held
  obtain ⟨row,holds⟩ := held
  obtain ⟨next,called,finishes⟩ := accepted stored
  rw [called, ← holds.id] at here₁
  rw [← holds.id] at finishes named
  have reachable₁ := reachable.extend asked
  have passed₁ : storeGuard contract (context.withCanonicalId row.id) env.databaseNow body (w₁.store .supabase) =
      .ok () := by
    rw [store₁, Function.update_of_ne (by decide)]
    exact passed row.id .supabase
  obtain ⟨last,marks⟩ := @finish_marks kind context body stored
  rw [← holds.id] at marks
  -- the mirror has it, and the primary knows
  obtain ⟨w₂,copied,here₂,-,mends,settled⟩ := told_settles reachable₁ holds.member holds.idempotencyKey.symm
    holds.payloadSha256.symm clear passed₁ marks finishes here₁
  obtain ⟨row',member',continues⟩ := mends.rewrites.kept kind row holds.member
  obtain ⟨replayed,shown⟩ := holds.reported
  rw [shown] at marks
  obtain ⟨count,w₃,receipt,one,replied,here₃,created,store₃⟩ :=
    marked_replies reachable₁ holds.member marks signs here₂
  refine ⟨3 + count,w₃,receipt,by omega,?_,here₃,named ▸ created,row',?_,continues.id.trans named,
    continues.idempotencyKey.trans holds.idempotencyKey,continues.payloadSha256.trans holds.payloadSha256,?_⟩
  · rw [List.replicate_add]
    exact asked.append (copied.append replied)
  · rw [store₃]
    exact member'
  · rw [store₃]
    exact (Settled.of_continues continues).mpr settled

end Served

/-- What an admitted create request is answered when it is served alone and nothing fails: in every
state a 201 for the row of its key, its own where the key is free, and then both stores have the
row; or a conflict, which changes nothing. -/
theorem served_alone {contract : Contract} {w : World} (reachable : Reachable contract w) {arrival : Arrival}
    {kind : StoredSubmissionKind} {context : SubmissionContext} {body : Create kind}
    (requested : Requested contract arrival body context) {env : Env} (clear : env.faults = .clear)
    (signs : env.signedUrl.isOk = true)
    (free : ∀ row ∈ (w.store .primary).table kind, row.id ≠ context.canonicalId)
    (passed : kind = .application → ∀ id connection,
      storeGuard contract (context.withCanonicalId id) env.databaseNow body (w.store connection) = .ok ()) :
    ∃ count w', count ≤ 4 ∧ Machine.Run (server contract).Step w
        (.arrive arrival :: List.replicate count (.advance w.sessions.length env) ++ [.reply w.sessions.length]) w' ∧
      (∀ id, (w.store .primary).claimed kind context = .ok id →
        (∃ receipt, w'.sessions[w.sessions.length]? = some ⟨arrival,.replied (.ok receipt)⟩ ∧
          receipt.created = some (kind,id)) ∧
        ∃ row ∈ (w'.store .primary).table kind, row.id = id ∧ row.idempotencyKey = context.idempotencyKey ∧
          row.payloadSha256 = context.payloadSha256 ∧ Settled w'.store row) ∧
      ∀ failure, (w.store .primary).claimed kind context = .error failure →
        w'.sessions[w.sessions.length]? = some ⟨arrival,.replied (.error failure)⟩ ∧ w'.store = w.store := by
  have guarded (id : Uuid) (connection : Connection) :
      storeGuard contract (context.withCanonicalId id) env.databaseNow body (w.store connection) = .ok () := by
    rcases requested.guard id env.databaseNow (w.store connection) with unlocked | ⟨application,-⟩
    · exact unlocked
    · exact passed application id connection
  cases claimed : (w.store .primary).claimed kind context with
  | error failure =>
    obtain ⟨w',run,replied,same⟩ := refused_alone requested clear (guarded context.canonicalId .primary) claimed
    refine ⟨1,w',by omega,run,?_,?_⟩
    · intro id other
      cases other
    · rintro _ ⟨rfl⟩
      exact ⟨replied,same⟩
  | ok id =>
    obtain ⟨count,w',receipt,four,run,replied,created,stored⟩ :=
      accepted_alone reachable requested clear signs free guarded claimed
    refine ⟨count,w',four,run,?_,?_⟩
    · rintro _ ⟨rfl⟩
      exact ⟨⟨receipt,replied,created⟩,stored⟩
    · intro failure other
      cases other

/-- After a mirror failure another request is let in. -/
theorem served_alone_intent : ∃ count w' receipt, count ≤ 4 ∧
    Machine.Run (server .sample).Step (outcome .sample Sample.unmirrored) (.arrive (Sample.intent 2 .resume) ::
      List.replicate count (.advance 1 { Sample.calm 20 with signedUrl := .ok "https://storage/upload" }) ++
        [.reply 1]) w' ∧
    w'.sessions[1]? = some ⟨Sample.intent 2 .resume,.replied (.ok receipt)⟩ ∧ receipt.created = some (.upload,2) := by
  have claimed : ((outcome .sample Sample.unmirrored).store .primary).claimed .upload
      (@Sample.context 2 .upload (Sample.upload .resume)) = .ok 2 := rfl
  have free : ∀ row ∈ (((outcome .sample Sample.unmirrored).store .primary).table .upload).rows, row.id ≠ 2 := by
    decide +kernel
  have one : (outcome .sample Sample.unmirrored).sessions.length = 1 := rfl
  obtain ⟨count,w',four,run,accepted,-⟩ := @served_alone .sample _ (reachable_outcome Sample.unmirrored_possible)
    (Sample.intent 2 .resume) .upload (@Sample.context 2 .upload (Sample.upload .resume))
    ⟨Sample.upload .resume,some "proof-one"⟩ ⟨rfl,rfl⟩
    { Sample.calm 20 with signedUrl := .ok "https://storage/upload" } rfl rfl
    (fun row member => free row (Table.mem_rows.mpr member)) (fun other => absurd other (by decide))
  obtain ⟨⟨receipt,replied,created⟩,-⟩ := accepted 2 claimed
  rw [one] at run replied
  exact ⟨count,w',receipt,four,run,replied,created⟩

end IntakeApi
