import IntakeApi.Updates

/-! What the log of a run tells: the answers were given by the stores of their time,
and the rows a handler was told of are still there. -/
namespace IntakeApi

open Interaction Relational Service

section Reachable

variable {contract : Contract} {w : World} {i : Nat} {arrival : Arrival}

theorem asked (reachable : Reachable contract w) {call : Call} {next : call.Answer → Handler Receipt}
    (here : w.sessions[i]? = some ⟨arrival,.running (.call call next)⟩) :
    arrival.Asks contract (w.history i) call :=
  @Server.asked _ _ _ _ _ _ _ (server contract) _ _ (handle_obeys contract) _ _ reachable _ _ _ _ here

theorem replied (reachable : Reachable contract w) {result : Except ApiFailure Receipt}
    (here : w.sessions[i]? = some ⟨arrival,.replied result⟩) :
    arrival.Ends contract (w.history i) result :=
  @Server.ended _ _ _ _ _ _ _ (server contract) _ _ (handle_obeys contract) _ _ reachable _ _ _ here

/-- What is logged was asked by the handler of its session. -/
theorem logged_asks (reachable : Reachable contract w) {entry : Entry} (logged : entry ∈ w.log) :
    ∃ session, w.sessions[entry.session]? = some session ∧
      ∃ newer earlier, w.history entry.session = newer ++ entry.exchange :: earlier ∧
        session.arrival.Asks contract earlier entry.exchange.1 :=
  @Server.logged _ _ _ _ _ _ _ (server contract) _ _ (handle_obeys contract) _ _ reachable entry logged

/-- The stores have only moved on since an entry. -/
theorem after_retained (reachable : Reachable contract w) {entry : Entry} (logged : entry ∈ w.log) :
    ((server contract).after entry).Retains w.store :=
  Server.log_related Stores.retains_refl Stores.retains_trans (respond_retains contract) reachable entry logged

theorem before_retained (reachable : Reachable contract w) {entry : Entry} (logged : entry ∈ w.log) :
    entry.before.Retains w.store :=
  Stores.retains_trans _ _ _ (respond_retains contract entry.env entry.exchange.1 entry.before)
    (after_retained reachable logged)

/-- An answer a session got is the one its store gave, which has since moved on. -/
theorem answered (reachable : Reachable contract w) {call : Call} {answer : call.Answer}
    (member : ⟨call,answer⟩ ∈ w.history i) : ∃ entry ∈ w.log, entry.session = i ∧
      entry.exchange = ⟨call,answer⟩ ∧ (respond contract entry.env call entry.before).1 = answer ∧
      (respond contract entry.env call entry.before).2.Retains w.store := by
  obtain ⟨entry,logged,rfl,same⟩ := (World.mem_history w).mp member
  have sound := Server.log_sound reachable entry logged
  have kept := after_retained reachable logged
  obtain ⟨session,exchange,env,before⟩ := entry
  cases same
  exact ⟨_,logged,rfl,rfl,sound.symm,kept⟩

/-- An invariant of the stores needs to be checked only for the five changes. -/
theorem store_invariant {I : Stores → Prop} (reachable : Reachable contract w) (init : I .empty)
    (changed : ∀ (w : World) i arrival env call stores, Reachable contract w →
      Change contract env arrival (w.history i) w.store call stores → I w.store → I stores) :
    I w.store := by
  apply @Server.state_invariant _ _ _ _ _ _ _ (server contract) _ (fun stores _ => I stores) _
    reachable init
  intro w i arrival call next env before here holds
  rcases answered_change (asked before here) env w.store with quiet | change
  · change I (respond contract env call w.store).2
    rwa [quiet]
  · exact changed w i arrival env call _ before change holds

end Reachable

theorem storedOf_continues {old new : Row kind} (continues : old.Continues new) (replayed : Bool) :
    (storedOf replayed new : Stored kind) = storedOf replayed old := by
  cases kind with
  | upload =>
    obtain ⟨key,expiry,-⟩ := continues.state
    simp only [storedOf, continues.id, key, expiry]
  | _ => simp only [storedOf, storedFromRow, continues.id, continues.createdAt]

/-- Where a store succeeded there is a row of its key and digest, and it was told of
that row. -/
structure Holds (db : Database) (kind : StoredSubmissionKind) (context : SubmissionContext)
    (stored : Stored kind) (row : Row kind) : Prop where
  member : row ∈ db.table kind
  reported : ∃ replayed, stored = storedOf replayed row
  idempotencyKey : row.idempotencyKey = context.idempotencyKey
  payloadSha256 : row.payloadSha256 = context.payloadSha256

theorem Holds.id {db : Database} {kind : StoredSubmissionKind} {context : SubmissionContext}
    {stored : Stored kind} {row : Row kind} (holds : Holds db kind context stored row) :
    row.id = stored.id := by
  obtain ⟨replayed,rfl⟩ := holds.reported
  exact (storedOf_id replayed row).symm

theorem Holds.retained {db later : Database} {kind : StoredSubmissionKind} {context : SubmissionContext}
    {stored : Stored kind} {row : Row kind} (holds : Holds db kind context stored row)
    (kept : db.Retains later) : ∃ row', row.Continues row' ∧ Holds later kind context stored row' := by
  obtain ⟨row',member,continues⟩ := kept kind row holds.member
  obtain ⟨replayed,reported⟩ := holds.reported
  exact ⟨row',continues,member,⟨replayed,reported.trans (storedOf_continues continues replayed).symm⟩,
    continues.idempotencyKey.trans holds.idempotencyKey,
    continues.payloadSha256.trans holds.payloadSha256⟩

theorem store_holds {contract : Contract} {env : Env} {connection : Connection}
    {target : PersistenceTarget} {kind : StoredSubmissionKind} {context : SubmissionContext}
    {body : Create kind} {stores : Stores} {stored : Stored kind}
    (answered : (respond contract env (.persist connection (.store target kind context body)) stores).1 =
      .ok stored) :
    ∃ row, Holds ((respond contract env (.persist connection (.store target kind context body)) stores).2
      connection) kind context stored row := by
  obtain ⟨db,performed,changed⟩ := respond_ok answered
  rw [changed, Function.update_self]
  obtain ⟨-,row,replayed,rfl,⟨-,rfl,member,key,digest⟩ | ⟨-,rfl,inserted⟩⟩ := store_performed performed
  · exact ⟨row,member,⟨replayed,rfl⟩,key,digest⟩
  · exact ⟨_,(inserted.here _).mpr (.inl rfl),⟨replayed,rfl⟩,freshRow_idempotencyKey ..,
      freshRow_payloadSha256 ..⟩

/-- The row that a successful store told a handler of is there from then on. -/
theorem stored_row {contract : Contract} {w : World} (reachable : Reachable contract w) {i : Nat}
    {connection : Connection} {target : PersistenceTarget} {kind : StoredSubmissionKind}
    {context : SubmissionContext} {body : Create kind} {stored : Stored kind}
    (member : (⟨.persist connection (.store target kind context body),.ok stored⟩ :
      Exchange Call Call.Answer) ∈ w.history i) :
    ∃ row, Holds (w.store connection) kind context stored row := by
  obtain ⟨entry,-,-,-,told,kept⟩ := answered reachable member
  obtain ⟨row,holds⟩ := store_holds told
  obtain ⟨row',-,holds'⟩ := holds.retained (kept connection)
  exact ⟨row',holds'⟩

end IntakeApi
