import IntakeApi.Custody

/-! Retries: what a later request for a stored submission is answered when none of its own
calls fails, whatever has happened before and whatever else goes on. -/
namespace IntakeApi

open Interaction Relational Transaction Service

/-- The call meets no outage, of its database or of the object storage. -/
def Call.undisturbed (env : Env) : Call → Bool
  | .persist .. => env.faults = .clear
  | .createSignedUploadUrl _ => env.signedUrl.isOk
  | .verifyObject _ => env.object.isOk

/-- In a run from `w`, where the primary holds the row, the session `i` arrives with the
row's key and digest, and none of its own calls fails. -/
structure Retry (contract : Contract) {kind : StoredSubmissionKind} (row : Row kind)
    (context : SubmissionContext) (body : Create kind) (w w' : World) (i : Nat)
    (session : Session Call Call.Answer Arrival ApiFailure Receipt) : Prop where
  reachable : Reachable contract w
  member : row ∈ (w.store .primary).table kind
  run : ∃ events, Machine.Run (server contract).Step w events w'
  later : w.sessions.length ≤ i
  here : w'.sessions[i]? = some session
  requested : Requested contract session.arrival body context
  key : context.idempotencyKey = row.idempotencyKey
  digest : context.payloadSha256 = row.payloadSha256
  clear : ∀ entry ∈ w'.log, entry.session = i → entry.exchange.1.undisturbed entry.env = true

structure Kept {kind : StoredSubmissionKind} (contract : Contract) (row : Row kind) (stores : Stores)
    (old : Row kind) : Prop where
  reached : ∃ w, Reachable contract w ∧ w.store = stores
  member : old ∈ (stores .primary).table kind
  continues : row.Continues old

section Answers

variable {contract : Contract} {kind : StoredSubmissionKind} {row old : Row kind} {stores : Stores}
variable {context : SubmissionContext} {body : Create kind} {env : Env} (kept : Kept contract row stores old)

include kept in
theorem Kept.primary (clear : env.faults = .clear) (key : context.idempotencyKey = row.idempotencyKey)
    (digest : context.payloadSha256 = row.payloadSha256)
    (guarded : storeGuard contract context env.databaseNow body (stores .primary) = .ok ()) :
    (respond contract env (primaryLeg kind context body) stores).1 = .ok (storedOf true old) :=
  congrArg Prod.fst (@respond_clear_ok contract env .primary (.store .primary kind context body) stores _ _
    clear (store_replay guarded kept.member (kept.continues.idempotencyKey.trans key.symm)
      (kept.continues.payloadSha256.trans digest.symm)))

include kept in
/-- The mirror replays its copy of the row, or has room for it. -/
theorem Kept.mirror (clear : env.faults = .clear) (key : context.idempotencyKey = row.idempotencyKey)
    (digest : context.payloadSha256 = row.payloadSha256)
    (guarded : storeGuard contract (context.withCanonicalId row.id) env.databaseNow body
      (stores .supabase) = .ok ()) :
    ∃ other : Stored kind, other.id = row.id ∧
      (respond contract env (mirrorLeg kind context body row.id) stores).1 = .ok other := by
  obtain ⟨w,reachable,rfl⟩ := kept.reached
  have performed : ∃ (other : Stored kind) (db : Database), other.id = row.id ∧ perform env.databaseNow
      ((Command.store .supabaseMirror kind (context.withCanonicalId row.id) body).transaction contract
        env.apiNow) (w.store .supabase) = .ok (other,db) := by
    by_cases taken : ∃ copy ∈ (w.store .supabase).table kind, copy.idempotencyKey = context.idempotencyKey
    · obtain ⟨copy,copied,same⟩ := taken
      obtain ⟨found,there,id,key',digest'⟩ := copied_row reachable copied
      have equal : found = old := Table.eq_of_key there kept.member
        (key'.trans (same.trans (key.trans kept.continues.idempotencyKey.symm)))
      subst equal
      refine ⟨storedOf true copy,_,?_,store_replay guarded copied same ?_⟩
      · rw [storedOf_id, ← id, kept.continues.id]
      · exact digest'.symm.trans (kept.continues.payloadSha256.trans digest.symm)
    · have absent : ∀ copy ∈ (w.store .supabase).table kind,
          copy.idempotencyKey ≠ context.idempotencyKey := fun copy copied same => taken ⟨copy,copied,same⟩
      have free : ∀ copy ∈ (w.store .supabase).table kind, copy.id ≠ row.id := by
        intro copy copied same
        obtain ⟨found,there,id,key',-⟩ := copied_row reachable copied
        have equal : found = old :=
          Table.eq_of_id there kept.member (id.trans (same.trans kept.continues.id.symm))
        subst equal
        exact absent copy copied (key'.symm.trans (kept.continues.idempotencyKey.trans key.symm))
      obtain ⟨db,performed⟩ := @store_inserts contract env .supabaseMirror
        (context.withCanonicalId row.id) kind body (w.store .supabase) rfl guarded absent free
      exact ⟨_,db,by rw [storedOf_id, freshRow_id]; rfl,performed⟩
  obtain ⟨other,db,id,performed⟩ := performed
  exact ⟨other,id,congrArg Prod.fst (@respond_clear_ok contract env .supabase
    (.store .supabaseMirror kind (context.withCanonicalId row.id) body) w.store _ _ clear performed)⟩

include kept in
/-- Both updates of `mark_mirrored` match one row. -/
theorem Kept.acknowledges :
    (stores .primary).acknowledges kind row.id row.payloadSha256 = true := by
  obtain ⟨w,reachable,rfl⟩ := kept.reached
  obtain ⟨item,listed,sort,named,hashed⟩ := (outboxed reachable).1.covered kind old kept.member
  rw [← kept.continues.id, ← kept.continues.payloadSha256]
  exact Database.acknowledges_row kept.member listed sort named hashed

include kept in
theorem Kept.mark (clear : env.faults = .clear) (digest : context.payloadSha256 = row.payloadSha256) :
    (respond contract env (markLeg kind context row.id) stores).1 = .ok () := by
  have performed : perform env.databaseNow ((Command.markMirrored kind row.id context.payloadSha256).transaction
      contract env.apiNow) (stores .primary) =
        .ok ((),(stores .primary).mirrored kind row.id context.payloadSha256) := by
    rw [Command.transaction, perform_markMirrored, if_pos]
    rw [digest]
    exact kept.acknowledges
  exact congrArg Prod.fst (@respond_clear_ok contract env .primary
    (.markMirrored kind row.id context.payloadSha256) stores _ _ clear performed)

end Answers

/-- The object key of an upload may be addressed. -/
theorem written_key_valid {contract : Contract} {w : World} (reachable : Reachable contract w)
    {connection : Connection} {row : Row .upload} (member : row ∈ (w.store connection).table .upload) :
    validateObjectKey row.state.objectKey = true := by
  obtain ⟨session,context,body,wrote⟩ := written reachable member
  rw [written_objectKey reachable member, wrote.payload]
  exact uploadObjectKey_valid _ _ (contract.upload_sha256 body wrote.requested.valid)

/-- The store calls of a session pass what comes before the insert-or-replay. -/
def Passes (contract : Contract) (w : World) (i : Nat) {kind : StoredSubmissionKind}
    (context : SubmissionContext) (body : Create kind) (id : Uuid) : Prop :=
  ∀ entry ∈ w.log, entry.session = i →
    (entry.exchange.1 = primaryLeg kind context body →
      storeGuard contract context entry.env.databaseNow body (entry.before .primary) = .ok ()) ∧
    (entry.exchange.1 = mirrorLeg kind context body id →
      storeGuard contract (context.withCanonicalId id) entry.env.databaseNow body
        (entry.before .supabase) = .ok ())

namespace Retry

variable {contract : Contract} {kind : StoredSubmissionKind} {row : Row kind}
variable {context : SubmissionContext} {body : Create kind} {w w' : World} {i : Nat}
variable {session : Session Call Call.Answer Arrival ApiFailure Receipt}
variable (retry : Retry contract row context body w w' i session)

include retry in
theorem reached : Reachable contract w' :=
  retry.run.elim fun _ run => retry.reachable.extend run

include retry in
theorem since {entry : Entry} (logged : entry ∈ w'.log) (own : entry.session = i) :
    w.store.Retains entry.before := by
  obtain ⟨events,run⟩ := retry.run
  exact Server.arrived_since Stores.retains_refl Stores.retains_trans (respond_retains contract)
    (handle_obeys contract) retry.reachable run retry.later entry logged own

include retry in
theorem meets {entry : Entry} (logged : entry ∈ w'.log) (own : entry.session = i) :
    ∃ old, Kept contract row entry.before old := by
  obtain ⟨old,there,continues⟩ := retry.since logged own .primary kind row retry.member
  exact ⟨old,Server.log_reachable retry.reached entry logged,there,continues⟩

include retry in
theorem met {call : Call} {answer : call.Answer} (member : ⟨call,answer⟩ ∈ w'.history i) :
    ∃ entry ∈ w'.log, entry.session = i ∧ entry.exchange = ⟨call,answer⟩ ∧
      (respond contract entry.env call entry.before).1 = answer ∧ call.undisturbed entry.env = true ∧
      ∃ old, Kept contract row entry.before old := by
  obtain ⟨entry,logged,own,same,told,-⟩ := answered retry.reached member
  have clear := retry.clear entry logged own
  rw [same] at clear
  exact ⟨entry,logged,own,same,told,clear,retry.meets logged own⟩

section Told

variable (passes : Passes contract w' i context body row.id)

include retry passes in
theorem told_primary {answer : Except DataError (Stored kind)}
    (member : (⟨primaryLeg kind context body,answer⟩ : Exchange Call Call.Answer) ∈ w'.history i) :
    ∃ old : Row kind, row.Continues old ∧ answer = .ok (storedOf true old) := by
  obtain ⟨entry,logged,own,same,told,clear,old,kept⟩ := retry.met member
  have guarded := (passes entry logged own).1 (congrArg Sigma.fst same)
  exact ⟨old,kept.continues,told.symm.trans (kept.primary (of_decide_eq_true clear) retry.key retry.digest guarded)⟩

include retry passes in
theorem told_mirror {answer : Except DataError (Stored kind)}
    (member : (⟨mirrorLeg kind context body row.id,answer⟩ : Exchange Call Call.Answer) ∈ w'.history i) :
    ∃ other : Stored kind, other.id = row.id ∧ answer = .ok other := by
  obtain ⟨entry,logged,own,same,told,clear,old,kept⟩ := retry.met member
  have guarded := (passes entry logged own).2 (congrArg Sigma.fst same)
  obtain ⟨other,id,responded⟩ := kept.mirror (of_decide_eq_true clear) retry.key retry.digest guarded
  exact ⟨other,id,told.symm.trans responded⟩

end Told

include retry in
theorem told_mark {answer : Except DataError Unit}
    (member : (⟨markLeg kind context row.id,answer⟩ : Exchange Call Call.Answer) ∈ w'.history i) :
    answer = .ok () := by
  obtain ⟨entry,logged,own,same,told,clear,old,kept⟩ := retry.met member
  exact told.symm.trans (kept.mark (of_decide_eq_true clear) retry.digest)

end Retry

theorem Retry.told_sign {contract : Contract} {row : Row .upload} {context : SubmissionContext}
    {body : Create .upload} {w w' : World} {i : Nat}
    {session : Session Call Call.Answer Arrival ApiFailure Receipt}
    (retry : Retry contract row context body w w' i session) {answer : Except ExternalError String}
    (member : (⟨.createSignedUploadUrl row.state.objectKey,answer⟩ : Exchange Call Call.Answer) ∈
      w'.history i) : ∃ url, answer = .ok url := by
  obtain ⟨entry,logged,own,same,told,clear,old,kept⟩ := retry.met member
  have valid := written_key_valid retry.reachable retry.member
  change IntakeApi.createSignedUploadUrl row.state.objectKey entry.env.signedUrl = answer at told
  rw [IntakeApi.createSignedUploadUrl, if_pos valid] at told
  change entry.env.signedUrl.isOk = true at clear
  cases signed : entry.env.signedUrl with
  | error error => rw [signed] at clear; cases clear
  | ok url => exact ⟨url,told.symm.trans signed⟩

def calls : StoredSubmissionKind → Nat
  | .upload => 4
  | _ => 3

theorem three_le_calls (kind : StoredSubmissionKind) : 3 ≤ calls kind := by
  cases kind <;> decide

/-- A 201 for the row, which the mirror holds now, given after both updates of
`mark_mirrored` matched one row. -/
structure Repaired (w : World) (i : Nat) {kind : StoredSubmissionKind} (row : Row kind)
    (context : SubmissionContext) (receipt : Receipt) : Prop where
  created : receipt.created = some (kind,row.id)
  copied : (w.store .supabase).HoldsCopy row
  marked : ∃ entry ∈ w.log, entry.session = i ∧
    entry.exchange = ⟨markLeg kind context row.id,.ok ()⟩ ∧
    (entry.before .primary).acknowledges kind row.id row.payloadSha256 = true

/-- A session that goes on its way, and is at its end answered with a 201. -/
def Completes (w : World) (i : Nat) {kind : StoredSubmissionKind} (row : Row kind)
    (context : SubmissionContext) (session : Session Call Call.Answer Arrival ApiFailure Receipt) : Prop :=
  session.progress = .cancelled ∨
  ((w.history i).length < calls kind ∧ ∃ call next, session.progress = .running (.call call next)) ∨
  ((w.history i).length = calls kind ∧ ∃ receipt, (session.progress = .running (.done (.ok receipt)) ∨
    session.progress = .replied (.ok receipt)) ∧ Repaired w i row context receipt)

namespace Retry

variable {contract : Contract} {kind : StoredSubmissionKind} {row : Row kind}
variable {context : SubmissionContext} {body : Create kind} {w w' : World} {i : Nat}
variable {session : Session Call Call.Answer Arrival ApiFailure Receipt}
variable (retry : Retry contract row context body w w' i session)

include retry in
theorem repaired {stored other : Stored kind} {receipt : Receipt} (named : stored.id = row.id)
    (same : other.id = stored.id) (created : receipt.created = some (kind,stored.id))
    (copied : (⟨mirrorLeg kind context body stored.id,.ok other⟩ : Exchange Call Call.Answer) ∈ w'.history i)
    (marked : (⟨markLeg kind context stored.id,.ok ()⟩ : Exchange Call Call.Answer) ∈ w'.history i) :
    Repaired w' i row context receipt := by
  rw [named] at created marked
  obtain ⟨copy,holds⟩ := stored_row retry.reached copied
  obtain ⟨entry,logged,own,equal,-,-,old,kept⟩ := retry.met marked
  exact ⟨created,⟨copy,holds.member,holds.id.trans (same.trans named),
    holds.idempotencyKey.trans retry.key,holds.payloadSha256.trans retry.digest⟩,
    entry,logged,own,equal,kept.acknowledges⟩

include retry in
theorem completes (passes : Passes contract w' i context body row.id) :
    Completes w' i row context session := by
  have named {stored : Stored kind}
      (told : (⟨primaryLeg kind context body,.ok stored⟩ : Exchange Call Call.Answer) ∈ w'.history i) :
      stored.id = row.id := by
    obtain ⟨old,continues,equal⟩ := retry.told_primary passes told
    cases equal
    rw [storedOf_id, continues.id]
  have mirrors {stored : Stored kind} {answer : Except DataError (Stored kind)}
      (named : stored.id = row.id)
      (told : (⟨mirrorLeg kind context body stored.id,answer⟩ : Exchange Call Call.Answer) ∈
        w'.history i) : ∃ other : Stored kind, other.id = stored.id ∧ answer = .ok other := by
    rw [named] at told ⊢
    exact retry.told_mirror passes told
  have bound := three_le_calls kind
  rcases @Server.traced _ _ _ _ _ _ _ (server contract) _ _ (handle_obeys contract) _ _ retry.reached _
    session retry.here with ⟨call,next,asks,stands⟩ | ⟨result,ends,stands⟩
  · rcases Progress.at_call stands with cancelled | running
    · exact .inl cancelled
    · refine .inr (.inl ⟨?_,call,next,running⟩)
      have asks := retry.requested.asks asks
      generalize traced : w'.history i = history at asks named mirrors
      cases asks with
      | primary =>
        rw [List.length_nil]
        omega
      | mirror =>
        rw [List.length_singleton]
        omega
      | mark same =>
        simp only [List.length_cons, List.length_nil]
        omega
      | sign same => exact (by decide : 3 < 4)
      | @fail _ _ _ stored mirrored unacceptable =>
        obtain ⟨other,same,rfl⟩ := mirrors (named (by simp)) List.mem_cons_self
        exact (unacceptable other rfl same).elim
  · have finished : ∃ receipt, result = .ok receipt ∧ (w'.history i).length = calls kind ∧
        Repaired w' i row context receipt := by
      have ends := retry.requested.ends ends
      generalize traced : w'.history i = history at ends
      cases ends with
      | refused =>
        obtain ⟨old,-,equal⟩ := retry.told_primary passes (traced ▸ List.mem_cons_self)
        cases equal
      | @unmirrored _ _ _ stored mirrored recorded unacceptable =>
        have told : (⟨primaryLeg kind context body,.ok stored⟩ : Exchange Call Call.Answer) ∈
            w'.history i := by rw [traced]; simp
        have copied : (⟨mirrorLeg kind context body stored.id,mirrored⟩ : Exchange Call Call.Answer) ∈
            w'.history i := by rw [traced]; simp
        obtain ⟨other,same,rfl⟩ := mirrors (named told) copied
        exact (unacceptable other rfl same).elim
      | @unmarked _ _ _ stored other error same =>
        have told : (⟨primaryLeg kind context body,.ok stored⟩ : Exchange Call Call.Answer) ∈
            w'.history i := by rw [traced]; simp
        have marked := @told_mark _ _ _ _ _ _ _ _ _ retry (.error error)
        rw [← named told, traced] at marked
        cases marked List.mem_cons_self
      | @accepted _ _ _ stored other receipt same reported =>
        have told : (⟨primaryLeg kind context body,.ok stored⟩ : Exchange Call Call.Answer) ∈
            w'.history i := by rw [traced]; simp
        refine ⟨_,rfl,?_,retry.repaired (named told) same ?_ (by rw [traced]; simp)
          (by rw [traced]; simp)⟩
        · cases kind <;> first | rfl | cases reported
        · cases kind <;> cases reported <;> rfl
      | @unsigned _ body stored other error same =>
        have told : (⟨primaryLeg .upload context body,.ok stored⟩ : Exchange Call Call.Answer) ∈
            w'.history i := by rw [traced]; simp
        obtain ⟨old,continues,equal⟩ := retry.told_primary passes told
        cases equal
        obtain ⟨key,-⟩ := continues.state
        have signed := @Retry.told_sign _ _ _ _ _ _ _ _ retry (.error error)
        rw [← key, traced] at signed
        obtain ⟨url,impossible⟩ := signed List.mem_cons_self
        cases impossible
      | @signed _ body stored other url same =>
        have told : (⟨primaryLeg .upload context body,.ok stored⟩ : Exchange Call Call.Answer) ∈
            w'.history i := by rw [traced]; simp
        exact ⟨_,rfl,rfl,retry.repaired (named told) same rfl (by rw [traced]; simp)
          (by rw [traced]; simp)⟩
    obtain ⟨receipt,rfl,counted,repaired⟩ := finished
    rcases Progress.at_done stands with cancelled | standing
    · exact .inl cancelled
    · exact .inr (.inr ⟨counted,receipt,standing,repaired⟩)

end Retry

/-- A later request for a pre-interest, an upload intent or a referral that the primary
holds repairs whatever is missing and is answered with a 201. -/
theorem retry_repairs {contract : Contract} {kind : StoredSubmissionKind} {row : Row kind}
    {context : SubmissionContext} {body : Create kind} {w w' : World} {i : Nat}
    {session : Session Call Call.Answer Arrival ApiFailure Receipt} (kept : kind ≠ .application)
    (retry : Retry contract row context body w w' i session) :
    Completes w' i row context session ∧
    (∀ entry ∈ w'.log, entry.session = i → ∀ answer : Except DataError Unit,
      entry.exchange = ⟨markLeg kind context row.id,answer⟩ →
      (entry.before .primary).acknowledges kind row.id row.payloadSha256 = true ∧ answer = .ok ()) ∧
    (∀ other : Stored kind, (⟨mirrorLeg kind context body row.id,.ok other⟩ : Exchange Call Call.Answer) ∈
      w'.history i → other.id = row.id) := by
  have passes : Passes contract w' i context body row.id := by
    intro entry logged own
    have open_guard (id : Uuid) (db : Database) :
        storeGuard contract (context.withCanonicalId id) entry.env.databaseNow body db = .ok () := by
      rcases retry.requested.guard id entry.env.databaseNow db with passed | ⟨application,-⟩
      · exact passed
      · contradiction
    exact ⟨fun _ => open_guard context.canonicalId _,fun _ => open_guard row.id _⟩
  refine ⟨retry.completes passes,?_,?_⟩
  · intro entry logged own answer equal
    have told : (⟨markLeg kind context row.id,answer⟩ : Exchange Call Call.Answer) ∈ w'.history i :=
      (World.mem_history w').mpr ⟨entry,logged,own,equal⟩
    obtain ⟨old,held⟩ := retry.meets logged own
    exact ⟨held.acknowledges,retry.told_mark told⟩
  · intro other told
    obtain ⟨stored,id,equal⟩ := retry.told_mirror passes told
    cases equal
    exact id

/-- The mirror is within reach when the key is used once more. -/
def Sample.repaired : List (Event Env Arrival) :=
  [.arrive (anonymous 2),.advance 1 (calm 13),.advance 1 (calm 14),.advance 1 (calm 15),.reply 1]

theorem retry_repairs_unmirrored :
    ∃ row : Row .preInterest, row.id = 1 ∧
      Completes (outcome .sample (Sample.unmirrored ++ Sample.repaired)) 1 row
        (@Sample.context 2 .preInterest Sample.preInterest)
        ⟨Sample.anonymous 2,.replied (.ok (.submission ⟨1,.preInterest,10,.stored,.stored⟩))⟩ := by
  have computed : possible .sample (Sample.unmirrored ++ Sample.repaired) = true ∧
      (outcome .sample (Sample.unmirrored ++ Sample.repaired)).sessions[1]?.bind Session.reply? =
        some (.ok (.submission ⟨1,.preInterest,10,.stored,.stored⟩)) ∧
      ∀ entry ∈ (outcome .sample (Sample.unmirrored ++ Sample.repaired)).log, entry.session = 1 →
        entry.exchange.1.undisturbed entry.env = true := by
    decide +kernel
  have stored : ∃ row ∈ (((outcome .sample Sample.unmirrored).store .primary).table .preInterest).rows,
      row.id = 1 ∧ row.idempotencyKey = "intake-key-000001" ∧
        row.payloadSha256 = @Contract.canonicalDigest .sample .preInterest Sample.preInterest := by
    decide +kernel
  obtain ⟨ran,left,clear⟩ := computed
  obtain ⟨row,member,id,key,digest⟩ := stored
  refine ⟨row,id,(@retry_repairs .sample _ row _ ⟨Sample.preInterest,some "proof-one"⟩
    (outcome .sample Sample.unmirrored) _ 1 _ nofun ?_).1⟩
  exact
    { reachable := reachable_outcome Sample.unmirrored_possible
      member := member
      run := ⟨_,run_outcome ran⟩
      later := Nat.le_of_eq (length_sessions_outcome Sample.unmirrored_possible)
      here := session_outcome ran rfl left
      requested := ⟨rfl,rfl⟩
      key := key.symm
      digest := digest.symm
      clear := clear }

end IntakeApi
