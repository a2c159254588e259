import IntakeApi.Convergence
import IntakeApi.Verification

/-! What has been served stays as it is: requests that come once more change nothing in either
store, unless a failure is recorded over an acknowledgement. -/
namespace IntakeApi

open Interaction Relational Service

structure Spent (contract : Contract) (stores : Stores) (arrival : Arrival) : Prop where
  created : ∀ {kind : StoredSubmissionKind} {body : Create kind} {context : SubmissionContext},
    Requested contract arrival body context →
    ∃ row ∈ (stores .primary).table kind, row.idempotencyKey = context.idempotencyKey ∧ Settled stores row
  completed : ∀ {id : Uuid} {subject : Option VerifiedSubject} {body : UploadCompleteCreate},
    Completing contract arrival id subject body →
    ∀ connection, ∀ row ∈ (stores connection).table .upload, row.id = id → row.state.status = .verified

section Updates

variable {db : Database} {kind : StoredSubmissionKind} {id : Uuid} {digest : String}

theorem Database.setTable_idle (db : Database) (kind : StoredSubmissionKind) :
    db.setTable kind (db.table kind) = db := by
  rw [setTable, Function.update_eq_self]

theorem OutboxItem.mirrored_idle {item : OutboxItem} (status : item.mirrorStatus = .mirrored)
    (code : item.lastErrorCode = none) : item.mirrored = item := by
  rw [OutboxItem.mirrored, ← status, ← code]

theorem Row.setMirrorStatus_idle {row : Row kind} {status : MirrorStatus} (same : row.mirrorStatus = some status) :
    row.setMirrorStatus status = row := by
  obtain ⟨values,createdAt⟩ := row
  obtain ⟨id,key,digest,subject,payload,state⟩ := values
  cases kind with
  | preInterest => cases same; rfl
  | upload => rfl
  | application => cases same; rfl
  | referral => cases same; rfl

/-- Telling the primary again what it knows. -/
theorem Database.Marked.mirrored_idle (marked : db.Marked kind id) : db.mirrored kind id digest = db := by
  obtain ⟨item,listed,sort,named,status,code⟩ := marked.item
  have items (other : OutboxItem) (there : other ∈ db.outbox) (chosen : other.matches kind id digest = true) :
      other.mirrored = other := by
    obtain ⟨sort',named'⟩ := other.matches_names chosen
    have same : other = item := Table.eq_of_id there listed (Prod.ext (sort'.trans sort.symm) (named'.trans named.symm))
    subst same
    exact OutboxItem.mirrored_idle status code
  have rows (kept : kind ≠ .upload) : db.markRow kind id digest = db := by
    obtain ⟨row,member,named,status⟩ := marked.row kept
    have idle (other : Row kind) (there : other ∈ db.table kind) (chosen : other.matches id digest = true) :
        other.setMirrorStatus .mirrored = other := by
      have same : other = row := Table.eq_of_id there member ((other.matches_id chosen).trans named.symm)
      subst same
      exact Row.setMirrorStatus_idle status
    exact (congrArg (db.setTable kind) (Table.update_idle idle)).trans (db.setTable_idle kind)
  have marks : (if kind = .upload then db else db.markRow kind id digest) = db := by
    split
    · rfl
    · next kept => exact rows kept
  rw [Database.mirrored, marks]
  exact congrArg (fun outbox => { db with outbox }) (Table.update_idle items)

/-- Verifying again what has been verified. -/
theorem Database.verifyUpload_idle {now : Timestamp} {subject : Option String}
    (done : ∀ row ∈ db.table .upload, row.id = id → row.state.status = .verified ∧ UploadState.Stamped row.state) :
    db.verifyUpload now id subject digest = db := by
  have idle (row : Row .upload) (member : row ∈ db.table .upload)
      (chosen : (row.isPending now id subject && row.payload.sha256 = digest) = true) : row.verified now = row := by
    have named : row.id = id := by
      simp only [Row.isPending, Bool.and_eq_true, decide_eq_true_eq] at chosen
      exact chosen.1.1.1.1
    obtain ⟨status,stamped⟩ := done row member named
    obtain ⟨uploaded,verified⟩ := stamped status
    rw [Row.verified, Option.or_of_isSome uploaded, Option.or_of_isSome verified, ← status]
  exact (congrArg (db.setTable .upload) (Table.update_idle idle)).trans (db.setTable_idle .upload)

end Updates

section Requests

variable {contract : Contract} {w w' : World} {arrival : Arrival}

/-- The row that a spent request was told of is the one that is settled. -/
theorem Spent.told (spent : Spent contract w.store arrival) (reachable : Reachable contract w) {i : Nat}
    {kind : StoredSubmissionKind} {body : Create kind} {context : SubmissionContext} {stored : Stored kind}
    (requested : Requested contract arrival body context)
    (told : (⟨primaryLeg kind context body,.ok stored⟩ : Exchange Call Call.Answer) ∈ w.history i) :
    (w.store .primary).Marked kind stored.id := by
  obtain ⟨row,holds⟩ := stored_row reachable told
  obtain ⟨own,member,key,settled⟩ := spent.created requested
  have same : own = row := Table.eq_of_key member holds.member (key.trans holds.idempotencyKey.symm)
  rw [← holds.id, ← same]
  exact settled.marked

/-- The only change left to a spent request is a failure recorded over an acknowledgement. -/
theorem Change.idle {i : Nat} {env : Env} {call : Call} {stores : Stores} (reachable : Reachable contract w)
    (spent : Spent contract w.store arrival)
    (spared : ∀ (kind : StoredSubmissionKind) (id : Uuid), call = failLeg kind id → stores ≠ w.store →
      ∀ item ∈ (w.store .primary).outbox, item.submissionKind = kind → item.submissionId = id →
        item.mirrorStatus ≠ .mirrored)
    (change : Change contract env arrival (w.history i) w.store call stores) : stores = w.store := by
  cases change with
  | accept requested followed guarded inserted =>
    obtain ⟨row,member,key,-⟩ := spent.created requested
    exact absurd key (inserted.absent row member)
  | copy requested followed guarded inserted =>
    obtain ⟨row,member,key,settled⟩ := spent.created requested
    obtain ⟨copy,there,-,same,-⟩ := settled.copied
    exact absurd (same.trans key) (inserted.absent copy there)
  | mark requested same followed acknowledged =>
    have marked := spent.told reachable requested (followed ▸ List.mem_cons_of_mem _ List.mem_cons_self)
    rw [marked.mirrored_idle, Function.update_eq_self]
  | @fail kind body context stored mirrored requested followed retried =>
    have marked := spent.told reachable requested (followed ▸ List.mem_cons_of_mem _ List.mem_cons_self)
    obtain ⟨item,listed,sort,named,status,-⟩ := marked.item
    by_contra changed
    exact spared kind stored.id rfl changed item listed sort named status
  | @verify connection id subject body completing asks =>
    have done (row : Row .upload) (member : row ∈ (w.store connection).table .upload) (named : row.id = id) :
        row.state.status = .verified ∧ UploadState.Stamped row.state :=
      ⟨spent.completed completing connection row member named,stamped_row reachable member⟩
    rw [Database.verifyUpload_idle done, Function.update_eq_self]

def AllSpent (contract : Contract) (stores : Stores) (w : World) : Prop :=
  ∀ session ∈ w.sessions, ∀ program, session.progress = .running program → Spent contract stores session.arrival

theorem AllSpent.settled {stores : Stores} (all : AllSpent contract stores w) {i : Nat}
    {old new : Progress Call Call.Answer ApiFailure Receipt} (here : w.sessions[i]? = some ⟨arrival,old⟩)
    (open_before : ∃ program, old = .running program) :
    ∀ session ∈ w.sessions.set i ⟨arrival,new⟩, ∀ program, session.progress = .running program →
      Spent contract stores session.arrival := by
  intro session member program running
  rcases List.mem_or_eq_of_mem_set member with old_session | rfl
  · exact all session old_session program running
  · obtain ⟨before,begun⟩ := open_before
    exact all ⟨arrival,old⟩ (List.mem_of_getElem? here) before begun

/-- A step of spent requests. -/
theorem spent_step {event : Event Env Arrival} (reachable : Reachable contract w)
    (all : AllSpent contract w.store w) (arrives : ∀ arrival, event = .arrive arrival → Spent contract w.store arrival)
    (stepped : (server contract).Step w event w')
    (spared : ∀ entry, w'.log = entry :: w.log → Spares contract entry) :
    w'.store = w.store ∧ AllSpent contract w.store w' := by
  cases stepped with
  | arrive arrival =>
    refine ⟨rfl,fun session member program running => ?_⟩
    rcases List.mem_append.mp member with earlier | last
    · exact all session earlier program running
    · rw [List.mem_singleton.mp last]
      exact arrives arrival rfl
  | @advance i arrival call next env here =>
    have spent := all _ (List.mem_of_getElem? here) _ rfl
    refine ⟨?_,all.settled here ⟨_,rfl⟩⟩
    change (respond contract env call w.store).2 = w.store
    rcases answered_change (asked reachable here) env w.store with quiet | change
    · exact quiet
    · exact change.idle reachable spent (spared _ rfl)
  | reply here => exact ⟨rfl,all.settled here ⟨_,rfl⟩⟩
  | cancel here => exact ⟨rfl,all.settled here ⟨_,rfl⟩⟩

end Requests

/-- Where everything asked for is done, nothing changes any more: whatever arrives again, in any
order and with any faults, both stores stay as they are, unless a failure is recorded over an
acknowledgement. -/
theorem spent_requests_idle {contract : Contract} {w w' : World} {events : List (Event Env Arrival)}
    (reachable : Reachable contract w) (all : AllSpent contract w.store w)
    (arrives : ∀ arrival, .arrive arrival ∈ events → Spent contract w.store arrival)
    (run : Machine.Run (server contract).Step w events w')
    (spared : ∀ newer, w'.log = newer ++ w.log → ∀ entry ∈ newer, Spares contract entry) :
    w'.store = w.store := by
  induction run with
  | nil => rfl
  | @cons w event middle events w' here rest ih =>
    have grows := @Machine.Run.related _ _ (server contract).Step _ _ _ Server.Grows Server.grows_refl
      Server.grows_trans (Server.step_grows (server contract)) rest
    obtain ⟨latest,grown⟩ := grows.logged
    have one_spared (entry : Entry) (logged : middle.log = entry :: w.log) : Spares contract entry := by
      refine spared (latest ++ [entry]) ?_ entry (List.mem_append_right _ List.mem_cons_self)
      rw [grown, logged, List.append_assoc]
      rfl
    obtain ⟨same,all'⟩ := spent_step reachable all
      (fun arrival first => arrives arrival (first ▸ List.mem_cons_self)) here one_spared
    obtain ⟨latest_step,grown_step⟩ := (Server.step_grows (server contract) w event middle here).logged
    rw [← same]
    refine ih (reachable.next here) (same.symm ▸ all') ?_ ?_
    · intro arrival later
      exact same.symm ▸ arrives arrival (List.mem_cons_of_mem _ later)
    · intro newer whole entry member
      refine spared (newer ++ latest_step) ?_ entry (List.mem_append_left _ member)
      rw [whole, grown_step, List.append_assoc]

/-- An accepted request that comes once more is spent. -/
theorem Sample.spent : Spent .sample (outcome .sample accepted).store (anonymous 2) where
  created := by
    intro kind body context requested
    have known : @Requested .sample (anonymous 2) .preInterest ⟨preInterest,some "proof-one"⟩
        (@Sample.context 2 .preInterest preInterest) := ⟨rfl,rfl⟩
    obtain ⟨rfl,bodies,rfl⟩ := requested.unique known
    have stored : ∃ row ∈ (((outcome .sample accepted).store .primary).table .preInterest).rows,
        row.idempotencyKey = "intake-key-000001" ∧ row.id = 1 ∧ row.mirrorStatus = some .mirrored ∧
        (∃ copy ∈ (((outcome .sample accepted).store .supabase).table .preInterest).rows,
          copy.id = row.id ∧ copy.idempotencyKey = row.idempotencyKey ∧ copy.payloadSha256 = row.payloadSha256) ∧
        ∃ item ∈ ((outcome .sample accepted).store .primary).outbox.rows, item.submissionKind = .preInterest ∧
          item.submissionId = 1 ∧ item.mirrorStatus = .mirrored ∧ item.lastErrorCode = none := by
      decide +kernel
    obtain ⟨row,member,key,named,status,⟨copy,there,same⟩,item,listed,facts⟩ := stored
    exact ⟨row,member,key,⟨⟨copy,there,same⟩,named.symm ▸ ⟨⟨item,listed,facts⟩,fun _ => ⟨row,member,named,status⟩⟩⟩⟩
  completed completing := by cases completing.request

theorem spent_requests_idle_accepted :
    (outcome .sample (Sample.accepted ++ Sample.repaired)).store = (outcome .sample Sample.accepted).store := by
  have ran : possible .sample (Sample.accepted ++ Sample.repaired) = true ∧
      ∀ entry ∈ (outcome .sample (Sample.accepted ++ Sample.repaired)).log,
        entry.exchange.1.recordsFailure = false := by
    decide +kernel
  obtain ⟨possible,unfailed⟩ := ran
  refine spent_requests_idle (reachable_outcome Sample.accepted_possible) ?_ ?_ (run_outcome possible) ?_
  · intro session member program running
    rw [Sample.accepted_sessions] at member
    rw [List.mem_singleton.mp member] at running
    cases running
  · intro arrival listed
    have same : arrival = Sample.anonymous 2 := by simpa [Sample.repaired] using listed
    exact same ▸ Sample.spent
  · intro newer whole entry member
    exact spares_of_unfailed (unfailed entry (whole ▸ List.mem_append_left _ member))

end IntakeApi
