import IntakeApi.Lifecycle
import IntakeApi.Retry

/-! The mirror status that a canonical row shows beside that of its outbox item. They agree
until the hundredth failure, which only the item tells from the others. -/
namespace IntakeApi

open Interaction Relational Transaction Service

/-- The turn found an item of this submission that is one failure from its end. -/
def Turn.spent (kind : StoredSubmissionKind) (id : Uuid) (turn : Turn) : Bool :=
  turn.before.outbox.rows.any fun item =>
    item.submissionKind = kind && item.submissionId = id && 99 ≤ item.attempts

section History

variable {contract : Contract} {turns : List Turn} {db : Database}

/-- The hundredth failure is recorded of an item with ninety-nine. -/
theorem failures_bounded (served : Served contract turns db) {kind : StoredSubmissionKind} {id : Uuid}
    (spared : ∀ turn ∈ turns, turn.records contract kind id = true → turn.spent kind id = false) :
    failures contract kind id turns < 100 := by
  induction served with
  | nil => exact Nat.succ_pos _
  | @cons turns db env command served ih =>
    have earlier := ih fun turn member => spared turn (List.mem_cons_of_mem _ member)
    rw [failures_cons]
    cases recorded : Turn.records contract kind id ⟨env,command,db⟩ with
    | false => exact earlier
    | true =>
      have unspent := spared _ List.mem_cons_self recorded
      simp only [Turn.spent, List.any_eq_false, Bool.and_eq_true, decide_eq_true_eq, not_and, Nat.not_le] at unspent
      change failures contract kind id turns + 1 < 100
      by_cases listed : ∃ item ∈ db.outbox, item.submissionKind = kind ∧ item.submissionId = id
      · obtain ⟨item,member,rfl,rfl⟩ := listed
        rw [← ((tracked served).followed item member).attempts]
        have few := unspent item member ⟨rfl,rfl⟩
        omega
      · rw [((tracked served).absent kind id fun item member same => listed ⟨item,member,same⟩).1]
        omega

/-- An item with a hundred failures is at its end, unless it was acknowledged since. -/
theorem OutboxItem.Sound.ended {item : OutboxItem} (sound : item.Sound) (last : 100 ≤ item.attempts)
    (unmarked : item.mirrorStatus ≠ .mirrored) : item.mirrorStatus = .terminalFailure := by
  cases status : item.mirrorStatus with
  | pending => have none := sound.pending status; omega
  | mirrored => exact absurd status unmarked
  | retryableFailure => have few := sound.retryable status; omega
  | terminalFailure => rfl

/-- An item's last failure is its hundredth. -/
theorem terminal_history (served : Served contract turns db) {item : OutboxItem} (member : item ∈ db.outbox) :
    item.mirrorStatus = .terminalFailure ↔
      100 ≤ failures contract item.submissionKind item.submissionId turns ∧
        lastMarked contract item.submissionKind item.submissionId turns = false := by
  obtain ⟨attempts,mirrored,sound⟩ := (tracked served).followed item member
  rw [← attempts, ← Bool.not_eq_true, ← mirrored]
  constructor
  · intro terminal
    exact ⟨Nat.le_of_eq (sound.terminal terminal).symm,by rw [terminal]; nofun⟩
  · rintro ⟨last,unmarked⟩
    exact sound.ended last unmarked

end History

theorem MirrorStatus.inRow_eq {status : MirrorStatus} : status.inRow = status ↔ status ≠ .terminalFailure := by
  cases status <;> decide

/-- A row of the primary and its item agree exactly while fewer than a hundred failures were
recorded, or after an acknowledgement; in particular in every run in which no failure is
recorded of an item with ninety-nine. -/
theorem mirror_status_agreement {contract : Contract} {w : World} (reachable : Reachable contract w)
    {kind : StoredSubmissionKind} (kept : kind ≠ .upload) :
    ∀ row ∈ (w.store .primary).table kind, ∃ item ∈ (w.store .primary).outbox,
      item.submissionKind = kind ∧ item.submissionId = row.id ∧
      (row.mirrorStatus = some item.mirrorStatus ↔
        failures contract kind row.id (turnsOf .primary w.log) < 100 ∨
          lastMarked contract kind row.id (turnsOf .primary w.log) = true) ∧
      ((∀ turn ∈ turnsOf .primary w.log, turn.records contract kind row.id = true →
          turn.spent kind row.id = false) → row.mirrorStatus = some item.mirrorStatus) := by
  intro row here
  have served := served reachable .primary
  obtain ⟨item,member,sort,named,-⟩ := (outboxed reachable).1.covered kind row here
  obtain ⟨other,there,same,-,shown⟩ := paired served kind item member sort
  have equal : other = row := Table.eq_of_id there here (same.trans named)
  subst equal
  have agree : other.mirrorStatus = some item.mirrorStatus ↔
      failures contract kind other.id (turnsOf .primary w.log) < 100 ∨
        lastMarked contract kind other.id (turnsOf .primary w.log) = true := by
    rw [shown kept, Option.some_inj, MirrorStatus.inRow_eq, ne_eq, terminal_history served member, sort, named,
      not_and_or, Nat.not_le, Bool.not_eq_false]
  exact ⟨item,member,sort,named,agree,fun spared => agree.mpr (.inl (failures_bounded served spared))⟩

theorem mirror_status_agreement_unmirrored :
    ∃ row ∈ ((outcome .sample Sample.unmirrored).store .primary).table .preInterest,
      ∃ item ∈ ((outcome .sample Sample.unmirrored).store .primary).outbox,
        item.submissionId = row.id ∧ row.mirrorStatus = some item.mirrorStatus := by
  have reached := reachable_outcome Sample.unmirrored_possible
  have stored : ∃ row ∈ (((outcome .sample Sample.unmirrored).store .primary).table .preInterest).rows,
      failures .sample .preInterest row.id (turnsOf .primary (outcome .sample Sample.unmirrored).log) < 100 := by
    decide +kernel
  obtain ⟨row,here,few⟩ := stored
  obtain ⟨item,member,-,named,agree,-⟩ := @mirror_status_agreement _ _ reached .preInterest nofun row here
  exact ⟨row,here,item,member,named,agree.mpr (.inl few)⟩

namespace Sample

/-- The mirror does not commit. -/
def unreachable (now : Timestamp) : Env := { calm now with faults := ⟨none,.refused⟩ }

end Sample

section Rounds

variable {contract : Contract} {kind : StoredSubmissionKind} {context : SubmissionContext} {body : Create kind}

theorem respond_refused {env : Env} {connection : Connection} {command : Command} {stores : Stores}
    (refused : env.faults.commit = .refused) :
    ∃ error, respond contract env (.persist connection command) stores = (.error error,stores) := by
  obtain ⟨error,equal⟩ := @run_uncommitted _ _ _ _ _ (Statement.exec env.databaseNow) DataError.database
    env.faults (command.transaction contract env.apiNow) (stores connection)
    (by simp only [commits, refused, ne_eq, not_true_eq_false, decide_false, Bool.and_false])
  exact ⟨error,by rw [respond, equal, Function.update_eq_self]⟩

/-- Another request for a stored submission, which does not reach the mirror. -/
theorem drive_failed {stores : Stores} {row : Row kind} {item : OutboxItem}
    (guarded : storeGuard contract context 0 body (stores .primary) = .ok ())
    (here : row ∈ (stores .primary).table kind) (key : row.idempotencyKey = context.idempotencyKey)
    (digest : row.payloadSha256 = context.payloadSha256) (member : item ∈ (stores .primary).outbox)
    (sort : item.submissionKind = kind) (named : item.submissionId = row.id) (below : item.attempts < 100) :
    ((server contract).drive (storeBoth kind context body >>= Creation.finish kind context body)
      [Sample.calm 0,Sample.unreachable 0,Sample.calm 0] stores).2 =
        Function.update stores .primary
          ((stores .primary).failed 0 kind row.id "supabase_unavailable") := by
  have replayed : respond contract (Sample.calm 0) (primaryLeg kind context body) stores =
      (.ok (storedOf true row),stores) := by
    have replayed := @respond_clear_ok contract (Sample.calm 0) .primary (.store .primary kind context body)
      stores _ _ rfl (store_replay guarded here key digest)
    rwa [Function.update_eq_self] at replayed
  obtain ⟨error,missed⟩ := @respond_refused contract (Sample.unreachable 0) .supabase
    (.store .supabaseMirror kind (context.withCanonicalId row.id) body) stores rfl
  have retried : (stores .primary).retries kind row.id = true := Database.retries_row here member sort named below
  have recorded : respond contract (Sample.calm 0) (failLeg kind row.id) stores =
      (.ok (),Function.update stores .primary
        ((stores .primary).failed 0 kind row.id "supabase_unavailable")) := by
    refine respond_clear_ok rfl ?_
    change perform 0 (recordMirrorFailure kind row.id "supabase_unavailable") (stores .primary) = _
    rw [perform_recordMirrorFailure, if_pos (by decide), if_pos retried]
  -- the three calls of the request, each answered as above
  unfold storeBoth persist
  simp only [Program.ask_bind, Program.bind_call, Server.drive_call]
  rw [show (server contract).respond (Sample.calm 0) (.persist .primary (.store .primary kind context body))
    stores = _ from replayed]
  simp only [attempt, Except.mapError, Program.bind_ok, Program.bind_call, Server.drive_call]
  rw [storedOf_id, show (server contract).respond (Sample.unreachable 0) (.persist .supabase
    (.store .supabaseMirror kind (context.withCanonicalId row.id) body)) stores = _ from missed]
  simp only [isMirrored, Bool.false_eq_true, if_false]
  exact congrArg Prod.snd recorded

/-- A stored submission whose mirror was missed `n` times and never reached. -/
structure Missed (kind : StoredSubmissionKind) (context : SubmissionContext) (n : Nat) (db : Database)
    (row : Row kind) (item : OutboxItem) : Prop where
  here : row ∈ db.table kind
  key : row.idempotencyKey = context.idempotencyKey
  digest : row.payloadSha256 = context.payloadSha256
  member : item ∈ db.outbox
  sort : item.submissionKind = kind
  named : item.submissionId = row.id
  attempts : item.attempts = n
  unmarked : item.mirrorStatus ≠ .mirrored

theorem Missed.again {n : Nat} {db : Database} {row : Row kind} {item : OutboxItem}
    (missed : Missed kind context n db row item) (below : n < 100) {now : Timestamp} {code : String} :
    ∃ row' item', Missed kind context (n + 1) (db.failed now kind row.id code) row' item' := by
  refine ⟨row.setMirrorStatus .retryableFailure,item.failed now code,?_⟩
  have continues := row.setMirrorStatus_continues .retryableFailure
  have chosen : item.retries kind row.id = true := by
    simp [OutboxItem.retries, missed.sort, missed.named, missed.attempts, below]
  exact
    { here := Database.mem_failed_table.mpr ⟨row,missed.here,if_pos ⟨rfl,rfl⟩⟩
      key := continues.idempotencyKey.trans missed.key
      digest := continues.payloadSha256.trans missed.digest
      member := Database.mem_failed_outbox.mpr ⟨item,missed.member,if_pos chosen⟩
      sort := missed.sort
      named := missed.named.trans continues.id.symm
      attempts := congrArg (· + 1) missed.attempts
      unmarked := item.failed_unmirrored now code }

/-- Requests that keep missing the mirror. -/
theorem missed_rounds {w : World} (reachable : Reachable contract w) {arrival : Arrival}
    (requested : Requested contract arrival body context) (kept : kind ≠ .application) {row : Row kind}
    {item : OutboxItem} (missed : Missed kind context 0 (w.store .primary) row item) (n : Nat)
    (few : n ≤ 100) : ∃ w', Reachable contract w' ∧
      ∃ row' item', Missed kind context n (w'.store .primary) row' item' := by
  induction n with
  | zero => exact ⟨w,reachable,row,item,missed⟩
  | succ n ih =>
    obtain ⟨w',reached,row',item',missed'⟩ := ih (Nat.le_of_succ_le few)
    have arrived := reached.next (.arrive arrival)
    have program : handle contract arrival =
        (storeBoth kind context body >>= Creation.finish kind context body) := by
      rw [handle_create requested.request, requested.admitted]
    obtain ⟨w'',reached',stores⟩ := @Server.driven _ _ _ _ _ _ _ _ _ _ w'.sessions.length arrival _ arrived
      List.getElem?_concat_length [Sample.calm 0,Sample.unreachable 0,Sample.calm 0]
    have guarded : storeGuard contract context 0 body (w'.store .primary) = .ok () := by
      rcases requested.guard context.canonicalId 0 (w'.store .primary) with passed | ⟨application,-⟩
      · exact passed
      · contradiction
    rw [show (server contract).handle arrival = _ from program] at stores
    have moved := stores.trans (drive_failed guarded missed'.here missed'.key missed'.digest missed'.member
      missed'.sort missed'.named (by rw [missed'.attempts]; exact few))
    refine ⟨w'',reached',?_⟩
    rw [moved, Function.update_self]
    exact missed'.again few

end Rounds

def Sample.begun : List (Event Env Arrival) := [.arrive (anonymous 1),.advance 0 (calm 10)]

theorem mirror_status_disagreement : ∃ w, Reachable .sample w ∧
    ∃ row ∈ (w.store .primary).table .preInterest, ∃ item ∈ (w.store .primary).outbox,
      item.submissionKind = .preInterest ∧ item.submissionId = row.id ∧
      item.mirrorStatus = .terminalFailure ∧ row.mirrorStatus = some .retryableFailure := by
  have begun := reachable_outcome (by decide +kernel : possible .sample Sample.begun = true)
  have requested : Requested .sample (Sample.anonymous 1) (⟨Sample.preInterest,some "proof-one"⟩ : Create .preInterest)
      (@Sample.context 1 .preInterest Sample.preInterest) := ⟨rfl,rfl⟩
  have stored : ∃ row ∈ (((outcome .sample Sample.begun).store .primary).table .preInterest).rows,
      ∃ item ∈ ((outcome .sample Sample.begun).store .primary).outbox.rows,
        (row.idempotencyKey = "intake-key-000001" ∧
          row.payloadSha256 = @Contract.canonicalDigest .sample .preInterest Sample.preInterest) ∧
        item.submissionKind = .preInterest ∧ item.submissionId = row.id ∧ item.attempts = 0 ∧
        item.mirrorStatus ≠ .mirrored := by
    decide +kernel
  obtain ⟨row,here,item,member,⟨key,digest⟩,sort,named,attempts,unmarked⟩ := stored
  obtain ⟨w,reachable,row',item',missed⟩ := missed_rounds begun requested nofun
    ⟨here,key,digest,member,sort,named,attempts,unmarked⟩ 100 (Nat.le_refl _)
  have served := served reachable .primary
  obtain ⟨-,-,sound⟩ := (tracked served).followed item' missed.member
  have terminal := sound.ended (Nat.le_of_eq missed.attempts.symm) missed.unmarked
  obtain ⟨other,there,same,-,shown⟩ := paired served .preInterest item' missed.member missed.sort
  have equal : other = row' := Table.eq_of_id there missed.here (same.trans missed.named)
  subst equal
  refine ⟨w,reachable,other,there,item',missed.member,missed.sort,missed.named,terminal,?_⟩
  rw [shown nofun, terminal]
  rfl

end IntakeApi
