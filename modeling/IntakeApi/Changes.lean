import IntakeApi.World

/-! Everything a call can do to the stores, each change with what the caller had
learnt before it. Invariants of runs are checked against these five changes. -/
namespace IntakeApi

open Interaction Transaction Service

structure Requested (contract : Contract) (arrival : Arrival) {kind : StoredSubmissionKind}
    (body : Create kind) (context : SubmissionContext) : Prop where
  request : arrival.request = .create kind body
  admitted : admitCreate contract arrival body = .ok context

structure Completing (contract : Contract) (arrival : Arrival) (id : Uuid)
    (subject : Option VerifiedSubject) (body : UploadCompleteCreate) : Prop where
  request : arrival.request = .complete id body
  admitted : admitCompletion contract arrival body = .ok subject

namespace Requested

variable {contract : Contract} {arrival : Arrival} {kind : StoredSubmissionKind} {body : Create kind}
variable {context : SubmissionContext}

theorem valid (requested : Requested contract arrival body context) : contract.validate body = true :=
  (admitCreate_ok requested.admitted).1

theorem digest (requested : Requested contract arrival body context) :
    context.payloadSha256 = contract.canonicalDigest body.input :=
  (admitCreate_ok requested.admitted).2.digest

theorem unique {kind' : StoredSubmissionKind} {body' : Create kind'} {context' : SubmissionContext}
    (requested : Requested contract arrival body context)
    (again : Requested contract arrival body' context') :
    kind = kind' ∧ body ≍ body' ∧ context = context' := by
  have same := requested.request.symm.trans again.request
  injection same with kinds bodies
  subst kinds
  cases bodies
  have admitted := again.admitted
  rw [requested.admitted] at admitted
  cases admitted
  exact ⟨rfl,.rfl,rfl⟩

theorem asks (requested : Requested contract arrival body context) {history : History} {call : Call}
    (asks : arrival.Asks contract history call) : Creation.Asks kind context body history call := by
  cases asks with
  | create request admitted asks =>
    obtain ⟨rfl,bodies,rfl⟩ := requested.unique ⟨request,admitted⟩
    cases bodies
    exact asks
  | complete request => cases requested.request.symm.trans request

theorem ends (requested : Requested contract arrival body context) {history : History}
    {result : Except ApiFailure Receipt} (ends : arrival.Ends contract history result) :
    Creation.Ends kind context body history result := by
  cases ends with
  | rejected _ _ turned => exact (turned body context requested.request requested.admitted).elim
  | create request admitted ends =>
    obtain ⟨rfl,bodies,rfl⟩ := requested.unique ⟨request,admitted⟩
    cases bodies
    exact ends
  | complete request => cases requested.request.symm.trans request

end Requested

inductive Change (contract : Contract) (env : Env) (arrival : Arrival) (history : History)
    (stores : Stores) : Call → Stores → Prop where
  | accept {kind : StoredSubmissionKind} {body : Create kind} {context : SubmissionContext}
      {db : Database} (requested : Requested contract arrival body context) (followed : history = [])
      (guarded : storeGuard contract context env.databaseNow body (stores .primary) = .ok ())
      (inserted : Inserted .primary context env.databaseNow
        (freshRow .primary context env.apiNow env.databaseNow body) (stores .primary) db) :
      Change contract env arrival history stores (primaryLeg kind context body)
        (Function.update stores .primary db)
  | copy {kind : StoredSubmissionKind} {body : Create kind} {context : SubmissionContext}
      {stored : Stored kind} {db : Database} (requested : Requested contract arrival body context)
      (followed : history = [⟨primaryLeg kind context body,.ok stored⟩])
      (guarded : storeGuard contract (context.withCanonicalId stored.id) env.databaseNow body
        (stores .supabase) = .ok ())
      (inserted : Inserted .supabaseMirror (context.withCanonicalId stored.id) env.databaseNow
        (freshRow .supabaseMirror (context.withCanonicalId stored.id) env.apiNow env.databaseNow body)
        (stores .supabase) db) :
      Change contract env arrival history stores (mirrorLeg kind context body stored.id)
        (Function.update stores .supabase db)
  | mark {kind : StoredSubmissionKind} {body : Create kind} {context : SubmissionContext}
      {stored other : Stored kind} (requested : Requested contract arrival body context)
      (same : other.id = stored.id)
      (followed : history = [⟨mirrorLeg kind context body stored.id,.ok other⟩,
        ⟨primaryLeg kind context body,.ok stored⟩])
      (acknowledged : (stores .primary).acknowledges kind stored.id context.payloadSha256 = true) :
      Change contract env arrival history stores (markLeg kind context stored.id)
        (Function.update stores .primary
          ((stores .primary).mirrored kind stored.id context.payloadSha256))
  | fail {kind : StoredSubmissionKind} {body : Create kind} {context : SubmissionContext}
      {stored : Stored kind} {mirrored : Except DataError (Stored kind)}
      (requested : Requested contract arrival body context)
      (followed : history = [⟨mirrorLeg kind context body stored.id,mirrored⟩,
        ⟨primaryLeg kind context body,.ok stored⟩])
      (retried : (stores .primary).retries kind stored.id = true) :
      Change contract env arrival history stores (failLeg kind stored.id)
        (Function.update stores .primary
          ((stores .primary).failed env.databaseNow kind stored.id "supabase_unavailable"))
  | verify {connection : Connection} {id : Uuid} {subject : Option VerifiedSubject}
      {body : UploadCompleteCreate} (completing : Completing contract arrival id subject body)
      (asks : Completion.Asks id subject body history (Completion.verifyLeg id subject connection body)) :
      Change contract env arrival history stores (Completion.verifyLeg id subject connection body)
        (Function.update stores connection ((stores connection).verifyUpload env.databaseNow id
          (subject.map VerifiedSubject.value) body.sha256))

/-- What a completed `store_*` did: it found the row of its key, or inserted its own. -/
theorem store_performed {contract : Contract} {env : Env} {target : PersistenceTarget}
    {kind : StoredSubmissionKind} {context : SubmissionContext} {body : Create kind}
    {stored : Stored kind} {db db' : Database}
    (performed : perform env.databaseNow
      ((Command.store target kind context body).transaction contract env.apiNow) db = .ok (stored,db')) :
    storeGuard contract context env.databaseNow body db = .ok () ∧
    ∃ row replayed, stored = storedOf replayed row ∧
      ((replayed = true ∧ db' = db ∧ row ∈ db.table kind ∧
          row.idempotencyKey = context.idempotencyKey ∧ row.payloadSha256 = context.payloadSha256) ∨
        (replayed = false ∧ row = freshRow target context env.apiNow env.databaseNow body ∧
          Inserted target context env.databaseNow
            (freshRow target context env.apiNow env.databaseNow body) db db')) := by
  rw [Command.transaction, perform_store] at performed
  cases guarded : storeGuard contract context env.databaseNow body db with
  | error => rw [guarded] at performed; cases performed
  | ok =>
    rw [guarded] at performed
    cases settled : settle target context env.databaseNow
      (freshRow target context env.apiNow env.databaseNow body) db with
    | error => simp [Except.bind, Except.map, settled] at performed
    | ok outcome =>
      obtain ⟨⟨row,replayed⟩,after⟩ := outcome
      simp only [Except.bind, Except.map, settled, Except.ok.injEq, Prod.mk.injEq] at performed
      obtain ⟨rfl,rfl⟩ := performed
      exact ⟨rfl,row,replayed,rfl,settle_cases settled⟩

/-- A store call leaves the stores alone or inserts its row. -/
theorem respond_store (contract : Contract) (env : Env) (connection : Connection) (target : PersistenceTarget)
    {kind : StoredSubmissionKind} (context : SubmissionContext) (body : Create kind) (stores : Stores) :
    (respond contract env (.persist connection (.store target kind context body)) stores).2 = stores ∨
    ∃ db, (respond contract env (.persist connection (.store target kind context body)) stores).2 =
        Function.update stores connection db ∧
      storeGuard contract context env.databaseNow body (stores connection) = .ok () ∧
      Inserted target context env.databaseNow (freshRow target context env.apiNow env.databaseNow body)
        (stores connection) db := by
  rcases respond_persist contract env connection (.store target kind context body) stores with
    ⟨error,equal⟩ | ⟨stored,db,performed,changed,-⟩
  · exact .inl (congrArg Prod.snd equal)
  · obtain ⟨guarded,row,replayed,-,⟨-,rfl,-⟩ | ⟨-,-,inserted⟩⟩ := store_performed performed
    · exact .inl (changed.trans (Function.update_eq_self ..))
    · exact .inr ⟨db,changed,guarded,inserted⟩

/-- A call leaves the stores alone or makes one of the five changes. -/
theorem answered_change {contract : Contract} {arrival : Arrival} {history : History} {call : Call}
    (asked : arrival.Asks contract history call) (env : Env) (stores : Stores) :
    (respond contract env call stores).2 = stores ∨
      Change contract env arrival history stores call (respond contract env call stores).2 := by
  cases asked with
  | @create kind body context request admitted asks =>
    have requested : Requested contract arrival body context := ⟨request,admitted⟩
    cases asks with
    | primary =>
      rcases respond_store contract env .primary .primary context body stores with
        same | ⟨db,changed,guarded,inserted⟩
      · exact .inl same
      · exact .inr (changed ▸ .accept requested rfl guarded inserted)
    | @mirror _ _ _ stored =>
      rcases respond_store contract env .supabase .supabaseMirror (context.withCanonicalId stored.id) body stores with
        same | ⟨db,changed,guarded,inserted⟩
      · exact .inl same
      · exact .inr (changed ▸ .copy requested rfl guarded inserted)
    | @fail _ _ _ stored =>
      rcases respond_persist contract env .primary
        (.recordMirrorFailure kind stored.id "supabase_unavailable") stores with
        ⟨error,equal⟩ | ⟨stored,db,performed,changed,-⟩
      · exact .inl (congrArg Prod.snd equal)
      · rw [Command.transaction, perform_recordMirrorFailure, if_pos (by decide)] at performed
        split at performed
        · next retried => cases performed; exact .inr (changed ▸ .fail requested rfl retried)
        · cases performed
    | @mark _ _ _ stored _ same =>
      rcases respond_persist contract env .primary
        (.markMirrored kind stored.id context.payloadSha256) stores with
        ⟨error,equal⟩ | ⟨stored,db,performed,changed,-⟩
      · exact .inl (congrArg Prod.snd equal)
      · rw [Command.transaction, perform_markMirrored] at performed
        split at performed
        · next acknowledged =>
          cases performed
          exact .inr (changed ▸ .mark requested same rfl acknowledged)
        · cases performed
    | sign => exact .inl rfl
  | @complete id body subject request admitted asks =>
    have completing : Completing contract arrival id subject body := ⟨request,admitted⟩
    have looked (connection : Connection) :
        (respond contract env (Completion.lookLeg id subject connection) stores).2 = stores := by
      rcases respond_persist contract env connection (.pendingUpload id subject) stores with
        ⟨error,equal⟩ | ⟨value,db,performed,changed,-⟩
      · exact congrArg Prod.snd equal
      · rw [Command.transaction, perform_pendingUpload] at performed
        split at performed
        · cases performed
        · cases performed
          exact changed.trans (Function.update_eq_self ..)
    have verified (connection : Connection)
        (asks : Completion.Asks id subject body history (Completion.verifyLeg id subject connection body)) :
        (respond contract env (Completion.verifyLeg id subject connection body) stores).2 = stores ∨
          Change contract env arrival history stores (Completion.verifyLeg id subject connection body)
            (respond contract env (Completion.verifyLeg id subject connection body) stores).2 := by
      rcases respond_persist contract env connection (.verifyUpload id subject body.sha256) stores with
        ⟨error,equal⟩ | ⟨value,db,performed,changed,-⟩
      · exact .inl (congrArg Prod.snd equal)
      · rw [Command.transaction, perform_verifyUpload] at performed
        split at performed
        · split at performed
          · cases performed
            exact .inr (changed ▸ .verify completing asks)
          · cases performed
        · cases performed
    cases asks with
    | primary => exact .inl (looked .primary)
    | mirror => exact .inl (looked .supabase)
    | object => exact .inl rfl
    | verifyMirror found => exact verified .supabase (.verifyMirror found)
    | verifyPrimary found => exact verified .primary (.verifyPrimary found)

end IntakeApi
