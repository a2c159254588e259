import IntakeApi.Acknowledgement

/-! Where rows come from: each row of either store goes back to the call of an admitted
request, which fixed its key, digest, payload and owner. -/
namespace IntakeApi

open Interaction Relational Service

def Connection.target : Connection → PersistenceTarget
  | .primary => .primary
  | .supabase => .supabaseMirror

/-- A change leaves the rows of a store the same ones, or inserts the one of its call. -/
theorem Change.effect {contract : Contract} {env : Env} {arrival : Arrival} {history : History}
    {old stores : Stores} {call : Call} (change : Change contract env arrival history old call stores)
    (connection : Connection) :
    (old connection).Rewrites (stores connection) ∨
    ∃ (kind : StoredSubmissionKind) (context : SubmissionContext) (body : Create kind),
      call = .persist connection (.store connection.target kind context body) ∧
      storeGuard contract context env.databaseNow body (old connection) = .ok () ∧
      Inserted connection.target context env.databaseNow
        (freshRow connection.target context env.apiNow env.databaseNow body) (old connection)
        (stores connection) := by
  have quiet (other : Connection) (db : Database) (distinct : connection ≠ other) :
      (old connection).Rewrites (Function.update old other db connection) := by
    rw [Function.update_of_ne distinct]
    exact Database.rewrites_refl _
  cases change with
  | accept requested followed guarded inserted =>
    cases connection with
    | primary =>
      rw [Function.update_self]
      exact .inr ⟨_,_,_,rfl,guarded,inserted⟩
    | supabase => exact .inl (quiet _ _ (by decide))
  | copy requested followed guarded inserted =>
    cases connection with
    | primary => exact .inl (quiet _ _ (by decide))
    | supabase =>
      rw [Function.update_self]
      exact .inr ⟨_,_,_,rfl,guarded,inserted⟩
  | mark requested same followed acknowledged =>
    cases connection with
    | primary =>
      rw [Function.update_self]
      exact .inl (Database.mirrored_rewrites ..)
    | supabase => exact .inl (quiet _ _ (by decide))
  | fail requested followed retried =>
    cases connection with
    | primary =>
      rw [Function.update_self]
      exact .inl (Database.failed_rewrites ..)
    | supabase => exact .inl (quiet _ _ (by decide))
  | @verify other id subject body completing asks =>
    by_cases same : connection = other
    · subst same
      rw [Function.update_self]
      exact .inl (Database.verifyUpload_rewrites ..)
    · exact .inl (quiet _ _ same)

section FreshRow

variable (target : PersistenceTarget) (context : SubmissionContext) (apiNow now : Timestamp)

theorem freshRow_payload {kind : StoredSubmissionKind} (body : Create kind) :
    (freshRow target context apiNow now body).payload = storedInput body.input := by
  cases kind <;> rfl

theorem freshRow_sourceHost (body : Create .preInterest) :
    (freshRow target context apiNow now body).sourceHost = some context.sourceHost := rfl

/-- A row that passed its guard belongs to the caller. -/
theorem freshRow_subject {contract : Contract} {kind : StoredSubmissionKind} {body : Create kind}
    {db : Database} (guarded : storeGuard contract context now body db = .ok ()) :
    (freshRow target context apiNow now body).subject = context.subjectColumn := by
  cases kind with
  | referral =>
    change some (context.subjectColumn.getD "") = context.subjectColumn
    simp only [storeGuard] at guarded
    split at guarded
    · cases owner : context.subject with
      | none => simp [SubmissionContext.requireSubject, owner, Except.map] at guarded
      | some subject => simp [SubmissionContext.subjectColumn, owner]
    · cases guarded
  | _ => rfl

end FreshRow

inductive Originates (contract : Contract) (connection : Connection) {kind : StoredSubmissionKind}
    (row : Row kind) : Entry → Prop where
  | store {session : Nat} {context : SubmissionContext} {body : Create kind}
      {answer : Except DataError (Stored kind)} {env : Env} {before : Stores}
      (guarded : storeGuard contract context env.databaseNow body (before connection) = .ok ())
      (continues : (freshRow connection.target context env.apiNow env.databaseNow body).Continues row) :
      Originates contract connection row
        ⟨session,⟨.persist connection (.store connection.target kind context body),answer⟩,env,before⟩

structure Inserts (contract : Contract) (connection : Connection) {kind : StoredSubmissionKind}
    (row : Row kind) (entry : Entry) : Prop where
  originates : Originates contract connection row entry
  absent : ∀ other ∈ (entry.before connection).table kind, other.id ≠ row.id
  present : ∃ fresh ∈ ((server contract).after entry connection).table kind, fresh.Continues row

theorem insertion {contract : Contract} {w : World} (reachable : Reachable contract w) :
    ∀ (connection : Connection) (kind : StoredSubmissionKind), ∀ row ∈ (w.store connection).table kind,
      ∃ entry ∈ w.log, Inserts contract connection row entry := by
  apply @Server.state_invariant _ _ _ _ _ _ _ (server contract) _
    (fun stores (log : List Entry) => ∀ (connection : Connection) (kind : StoredSubmissionKind),
      ∀ row ∈ (stores connection).table kind, ∃ entry ∈ log, Inserts contract connection row entry)
    _ reachable
  · intro connection kind row member
    exact (Table.not_mem_empty row member).elim
  · intro w i arrival call next env before here holds connection kind row member
    have old (row : Row kind) (member : row ∈ (w.store connection).table kind) (entry : Entry) :
        ∃ found ∈ entry :: w.log, Inserts contract connection row found := by
      obtain ⟨found,logged,inserts⟩ := holds connection kind row member
      exact ⟨found,List.mem_cons_of_mem _ logged,inserts⟩
    rcases answered_change (asked before here) env w.store with quiet | change
    · change row ∈ ((respond contract env call w.store).2 connection).table kind at member
      rw [quiet] at member
      exact old row member _
    · rcases change.effect connection with rewrites | ⟨k,context,body,rfl,guarded,inserted⟩
      · obtain ⟨earlier,there,continues⟩ := rewrites.rows kind row member
        obtain ⟨found,logged,inserts⟩ := old earlier there
          ⟨i,⟨call,((server contract).respond env call w.store).1⟩,env,w.store⟩
        refine ⟨found,logged,?_,?_,?_⟩
        · cases inserts.originates with
          | store guarded first => exact .store guarded (first.trans continues)
        · rw [continues.id]
          exact inserts.absent
        · obtain ⟨fresh,present,first⟩ := inserts.present
          exact ⟨fresh,present,first.trans continues⟩
      · rcases (Database.mem_inserted inserted).mp member with equal | earlier
        · cases equal
          exact ⟨_,List.mem_cons_self,.store guarded (Row.continues_refl _),inserted.free,
            _,member,Row.continues_refl _⟩
        · exact old row earlier _

theorem origin {contract : Contract} {w : World} (reachable : Reachable contract w)
    (connection : Connection) (kind : StoredSubmissionKind) (row : Row kind)
    (member : row ∈ (w.store connection).table kind) :
    ∃ entry ∈ w.log, Originates contract connection row entry := by
  obtain ⟨entry,logged,inserts⟩ := insertion reachable connection kind row member
  exact ⟨entry,logged,inserts.originates⟩

/-- The store calls among the calls of a create request. -/
theorem Creation.Asks.stored {kind k : StoredSubmissionKind} {context context' : SubmissionContext}
    {body : Create kind} {body' : Create k} {history : History} {call : Call} {connection : Connection}
    {target : PersistenceTarget} (asks : Creation.Asks kind context body history call)
    (equal : call = .persist connection (.store target k context' body')) :
    (⟨kind,body⟩ : (kind : StoredSubmissionKind) × Create kind) = ⟨k,body'⟩ ∧
    ((connection = .primary ∧ context' = context) ∨
      (connection = .supabase ∧ ∃ stored : Stored kind, context' = context.withCanonicalId stored.id ∧
        history = [⟨primaryLeg kind context body,.ok stored⟩])) := by
  cases asks with
  | primary =>
    cases equal
    exact ⟨rfl,.inl ⟨rfl,rfl⟩⟩
  | mirror =>
    cases equal
    exact ⟨rfl,.inr ⟨rfl,_,rfl,rfl⟩⟩
  | fail => cases equal
  | mark => cases equal
  | sign => cases equal

theorem Completion.Asks.not_stored {id : Uuid} {subject : Option VerifiedSubject}
    {completion : UploadCompleteCreate} {history : History} {call : Call} {connection : Connection}
    {target : PersistenceTarget} {kind : StoredSubmissionKind} {context : SubmissionContext}
    {body : Create kind} (asks : Completion.Asks id subject completion history call) :
    call ≠ .persist connection (.store target kind context body) := by
  intro equal
  cases asks <;> cases equal

/-- The admitted request that a row goes back to. In the mirror it is a request that had
stored its row in the primary first, under the id it was told there. -/
inductive Provenance (contract : Contract) (w : World) {kind : StoredSubmissionKind} (row : Row kind) :
    Connection → Prop where
  | primary {i : Nat} {session : Session Call Call.Answer Arrival ApiFailure Receipt}
      {context : SubmissionContext} {body : Create kind} {env : Env} {before : Stores}
      (here : w.sessions[i]? = some session) (requested : Requested contract session.arrival body context)
      (kept : before.Retains w.store)
      (guarded : storeGuard contract context env.databaseNow body (before .primary) = .ok ())
      (continues : (freshRow .primary context env.apiNow env.databaseNow body).Continues row) :
      Provenance contract w row .primary
  | supabase {i : Nat} {session : Session Call Call.Answer Arrival ApiFailure Receipt}
      {context : SubmissionContext} {body : Create kind} {stored : Stored kind} {env : Env}
      {before : Stores} (here : w.sessions[i]? = some session)
      (requested : Requested contract session.arrival body context)
      (told : (⟨primaryLeg kind context body,.ok stored⟩ : Exchange Call Call.Answer) ∈ w.history i)
      (kept : before.Retains w.store)
      (guarded : storeGuard contract (context.withCanonicalId stored.id) env.databaseNow body
        (before .supabase) = .ok ())
      (continues : (freshRow .supabaseMirror (context.withCanonicalId stored.id) env.apiNow
        env.databaseNow body).Continues row) :
      Provenance contract w row .supabase

theorem provenance {contract : Contract} {w : World} (reachable : Reachable contract w)
    {connection : Connection} {kind : StoredSubmissionKind} {row : Row kind}
    (member : row ∈ (w.store connection).table kind) : Provenance contract w row connection := by
  obtain ⟨entry,logged,originates⟩ := origin reachable connection kind row member
  have held := before_retained reachable logged
  obtain ⟨session,here,newer,earlier,history,allowed⟩ := logged_asks reachable logged
  cases originates with
  | @store i context body answer env before guarded continues =>
    cases allowed with
    | create request admitted asks =>
      obtain ⟨same,⟨rfl,rfl⟩ | ⟨rfl,stored,rfl,rfl⟩⟩ := asks.stored rfl
      · cases same
        exact .primary here ⟨request,admitted⟩ held guarded continues
      · cases same
        refine .supabase here ⟨request,admitted⟩ ?_ held guarded continues
        rw [history]
        simp
    | complete request admitted asks =>
      exact (asks.not_stored rfl).elim

/-- What both kinds of provenance tell alike. -/
structure Written (contract : Contract) (w : World) {kind : StoredSubmissionKind} (row : Row kind)
    (session : Session Call Call.Answer Arrival ApiFailure Receipt) (context : SubmissionContext)
    (body : Create kind) : Prop where
  here : session ∈ w.sessions
  requested : Requested contract session.arrival body context
  idempotencyKey : row.idempotencyKey = context.idempotencyKey
  payloadSha256 : row.payloadSha256 = contract.canonicalDigest body.input
  subject : row.subject = context.subjectColumn
  payload : row.payload = storedInput body.input

/-- Each row continues the fresh row of an admitted request, under the id that the row was given. -/
theorem continues_fresh {contract : Contract} {w : World} (reachable : Reachable contract w)
    {connection : Connection} {kind : StoredSubmissionKind} {row : Row kind}
    (member : row ∈ (w.store connection).table kind) :
    ∃ session ∈ w.sessions, ∃ (context : SubmissionContext) (body : Create kind) (id : Uuid) (apiNow now : Timestamp),
      Requested contract session.arrival body context ∧
      (freshRow connection.target (context.withCanonicalId id) apiNow now body).subject = context.subjectColumn ∧
      (freshRow connection.target (context.withCanonicalId id) apiNow now body).Continues row := by
  cases provenance reachable member with
  | @primary i session context body env before here requested kept guarded continues =>
    exact ⟨session,List.mem_of_getElem? here,context,body,context.canonicalId,env.apiNow,env.databaseNow,requested,
      freshRow_subject _ _ _ _ guarded,continues⟩
  | @supabase i session context body stored env before here requested told kept guarded continues =>
    exact ⟨session,List.mem_of_getElem? here,context,body,stored.id,env.apiNow,env.databaseNow,requested,
      freshRow_subject _ _ _ _ guarded,continues⟩

theorem written {contract : Contract} {w : World} (reachable : Reachable contract w)
    {connection : Connection} {kind : StoredSubmissionKind} {row : Row kind}
    (member : row ∈ (w.store connection).table kind) :
    ∃ session context body, Written contract w row session context body := by
  obtain ⟨session,there,context,body,id,apiNow,now,requested,owner,continues⟩ := continues_fresh reachable member
  exact ⟨session,context,body,there,requested,
    continues.idempotencyKey.trans (freshRow_idempotencyKey ..),
    (continues.payloadSha256.trans (freshRow_payloadSha256 ..)).trans requested.digest,
    continues.subject.trans owner,continues.payload.trans (freshRow_payload ..)⟩

/-- The object key of an upload row names the row itself. -/
theorem written_objectKey {contract : Contract} {w : World} (reachable : Reachable contract w)
    {connection : Connection} {row : Row .upload} (member : row ∈ (w.store connection).table .upload) :
    row.state.objectKey = uploadObjectKey row.payload.kind row.id row.payload.sha256 := by
  obtain ⟨session,there,context,body,id,apiNow,now,requested,owner,continues⟩ := continues_fresh reachable member
  obtain ⟨key,-⟩ := continues.state
  rw [key, continues.payload, continues.id]
  rfl

end IntakeApi
