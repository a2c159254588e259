import IntakeApi.Replay

/-! What a 201 promised, and the one step that takes it back: a failure recorded over
an acknowledgement. -/
namespace IntakeApi

open Interaction Relational Service

structure Database.Marked (db : Database) (kind : StoredSubmissionKind) (id : Uuid) : Prop where
  item : ∃ item ∈ db.outbox, item.submissionKind = kind ∧ item.submissionId = id ∧
    item.mirrorStatus = .mirrored ∧ item.lastErrorCode = none
  row : kind ≠ .upload → ∃ row ∈ db.table kind, row.id = id ∧ row.mirrorStatus = some .mirrored

namespace Database.Marked

variable {db db' : Database} {kind k : StoredSubmissionKind} {id other : Uuid} {digest errorCode : String}
variable {now : Timestamp}

/-- What `mark_mirrored` reaches when both its updates match one row. -/
theorem acknowledged (acknowledged : db.acknowledges kind id digest = true) :
    (db.mirrored kind id digest).Marked kind id := by
  refine ⟨?_,fun kept => ?_⟩
  · obtain ⟨item,listed,chosen⟩ := acknowledged_item acknowledged
    obtain ⟨sort,named⟩ := item.matches_names chosen
    exact ⟨item.mirrored,mem_mirrored_outbox.mpr ⟨item,listed,if_pos chosen⟩,sort,named,rfl,rfl⟩
  · simp only [acknowledges, kept, decide_false, Bool.false_or, Bool.and_eq_true, decide_eq_true_eq] at acknowledged
    have positive : 0 < (db.table kind).count (Row.matches id digest) := by omega
    obtain ⟨row,member,chosen⟩ := Table.exists_of_count positive
    exact ⟨_,mem_mirrored_table.mpr ⟨row,member,if_pos ⟨rfl,chosen⟩⟩,row.matches_id chosen,
      Row.setMirrorStatus_mirrorStatus _ _ kept⟩

theorem inserted {target : PersistenceTarget} {context : SubmissionContext} {fresh : Row k}
    (marked : db.Marked kind id) (inserted : Inserted target context now fresh db db') :
    db'.Marked kind id := by
  obtain ⟨item,listed,facts⟩ := marked.item
  refine ⟨⟨item,(inserted.outbox item).mpr (.inr listed),facts⟩,fun kept => ?_⟩
  obtain ⟨row,member,status⟩ := marked.row kept
  exact ⟨row,(mem_inserted inserted).mpr (.inr member),status⟩

theorem mirrored (marked : db.Marked kind id) : (db.mirrored k other digest).Marked kind id := by
  obtain ⟨item,listed,sort,named,status,code⟩ := marked.item
  refine ⟨⟨_,mem_mirrored_outbox.mpr ⟨item,listed,rfl⟩,?_⟩,fun kept => ?_⟩
  · split
    · exact ⟨sort,named,rfl,rfl⟩
    · exact ⟨sort,named,status,code⟩
  · obtain ⟨row,member,named,status⟩ := marked.row kept
    refine ⟨_,mem_mirrored_table.mpr ⟨row,member,rfl⟩,?_⟩
    split
    · exact ⟨named,Row.setMirrorStatus_mirrorStatus _ _ kept⟩
    · exact ⟨named,status⟩

theorem failed (marked : db.Marked kind id) (distinct : ¬(k = kind ∧ other = id)) :
    (db.failed now k other errorCode).Marked kind id := by
  obtain ⟨item,listed,sort,named,status,code⟩ := marked.item
  refine ⟨⟨item,mem_failed_outbox.mpr ⟨item,listed,if_neg ?_⟩,sort,named,status,code⟩,fun kept => ?_⟩
  · intro chosen
    obtain ⟨sort',named'⟩ := item.retries_names chosen
    exact distinct ⟨sort'.symm.trans sort,named'.symm.trans named⟩
  · obtain ⟨row,member,named,status⟩ := marked.row kept
    refine ⟨row,mem_failed_table.mpr ⟨row,member,if_neg ?_⟩,named,status⟩
    rintro ⟨sort,same⟩
    exact distinct ⟨sort.symm,same.symm.trans named⟩

theorem verifyUpload {subject : Option String} (marked : db.Marked kind id) :
    (db.verifyUpload now other subject digest).Marked kind id := by
  refine ⟨marked.item,fun kept => ?_⟩
  rw [verifyUpload_other kept]
  exact marked.row kept

end Database.Marked

/-- The step is not a failure that is recorded over an acknowledgement. -/
def Spares (contract : Contract) (entry : Entry) : Prop :=
  ∀ (kind : StoredSubmissionKind) (id : Uuid), entry.exchange.1 = failLeg kind id →
    (server contract).after entry ≠ entry.before → ∀ item ∈ (entry.before .primary).outbox,
      item.submissionKind = kind → item.submissionId = id → item.mirrorStatus ≠ .mirrored

def Call.recordsFailure : Call → Bool
  | .persist _ (.recordMirrorFailure ..) => true
  | _ => false

theorem spares_of_unfailed {contract : Contract} {entry : Entry}
    (unfailed : entry.exchange.1.recordsFailure = false) : Spares contract entry := by
  intro kind id called
  rw [called] at unfailed
  cases unfailed

theorem Change.marked {contract : Contract} {env : Env} {arrival : Arrival} {history : History}
    {old stores : Stores} {call : Call} {kind : StoredSubmissionKind} {id : Uuid}
    (change : Change contract env arrival history old call stores)
    (spared : ∀ (k : StoredSubmissionKind) (other : Uuid), call = failLeg k other → stores ≠ old →
      ∀ item ∈ (old .primary).outbox, item.submissionKind = k → item.submissionId = other →
        item.mirrorStatus ≠ .mirrored)
    (marked : (old .primary).Marked kind id) : (stores .primary).Marked kind id := by
  have distinct : Connection.primary ≠ .supabase := by decide
  cases change with
  | accept requested followed guarded inserted =>
    rw [Function.update_self]
    exact marked.inserted inserted
  | copy requested followed guarded inserted =>
    rwa [Function.update_of_ne distinct]
  | mark requested same followed acknowledged =>
    rw [Function.update_self]
    exact marked.mirrored
  | @fail k body context stored mirrored requested followed retried =>
    generalize recorded : Function.update old Connection.primary
      ((old .primary).failed env.databaseNow k stored.id "supabase_unavailable") = stores at spared
    by_cases quiet : stores = old
    · rwa [quiet]
    · rw [← recorded, Function.update_self]
      refine marked.failed ?_
      rintro ⟨rfl,rfl⟩
      obtain ⟨item,listed,sort,named,status,-⟩ := marked.item
      exact spared k stored.id rfl quiet item listed sort named status
  | @verify connection other subject body completing asks =>
    cases connection with
    | primary =>
      rw [Function.update_self]
      exact marked.verifyUpload
    | supabase => rwa [Function.update_of_ne distinct]

theorem marked_kept {contract : Contract} {w : World} (reachable : Reachable contract w)
    (spared : ∀ entry ∈ w.log, Spares contract entry) :
    ∀ entry ∈ w.log, ∀ (kind : StoredSubmissionKind) (context : SubmissionContext) (id : Uuid),
      entry.exchange = ⟨markLeg kind context id,.ok ()⟩ → (w.store .primary).Marked kind id := by
  apply @Server.log_kept _ _ _ _ _ _ _ (server contract) _ (Spares contract)
    (fun (entry : Entry) (stores : Stores) => ∀ (kind : StoredSubmissionKind) (context : SubmissionContext)
      (id : Uuid), entry.exchange = ⟨markLeg kind context id,.ok ()⟩ → (stores .primary).Marked kind id)
    _ reachable spared
  · intro w i arrival call next env before here kind context id equal
    injection equal with calls answers
    subst calls
    obtain ⟨db,performed,changed⟩ := respond_ok (eq_of_heq answers)
    rw [Command.transaction, perform_markMirrored] at performed
    split at performed
    · next acknowledged =>
      cases performed
      change ((respond contract env (markLeg kind context id) w.store).2 .primary).Marked kind id
      rw [markLeg, changed, Function.update_self]
      exact .acknowledged acknowledged
    · cases performed
  · intro w i arrival call next env entry before here allowed holds kind context id equal
    have marked := holds kind context id equal
    rcases answered_change (asked before here) env w.store with quiet | change
    · change ((respond contract env call w.store).2 .primary).Marked kind id
      rwa [quiet]
    · exact change.marked allowed marked

/-- Accepted stays accepted, in every run that records no failure over an
acknowledgement. -/
theorem accepted_stays_accepted {contract : Contract} {w : World} (reachable : Reachable contract w)
    (spared : ∀ entry ∈ w.log, Spares contract entry) {i : Nat} {arrival : Arrival} {receipt : Receipt}
    {kind : StoredSubmissionKind} {id : Uuid}
    (here : w.sessions[i]? = some ⟨arrival,.replied (.ok receipt)⟩)
    (created : receipt.created = some (kind,id)) :
    (∃ item ∈ (w.store .primary).outbox, item.submissionKind = kind ∧ item.submissionId = id ∧
      item.mirrorStatus = .mirrored ∧ item.lastErrorCode = none) ∧
    (kind ≠ .upload → ∃ row ∈ (w.store .primary).table kind, row.id = id ∧
      row.mirrorStatus = some .mirrored) := by
  obtain ⟨context,body,stored,told,rfl⟩ := acknowledged_as reachable here created
  obtain ⟨entry,logged,-,equal⟩ := (World.mem_history w).mp told.marked
  obtain ⟨item,row⟩ := marked_kept reachable spared entry logged _ _ _ equal
  exact ⟨item,row⟩

/-- The mirror is out of reach at first, a retry is answered with a 201, and the key is used once more. -/
def Sample.mended : List (Event Env Arrival) :=
  unmirrored ++ [.arrive (anonymous 2),.advance 1 (calm 13),.advance 1 (calm 14),.advance 1 (calm 15),.reply 1,
    .arrive (anonymous 3),.advance 2 (calm 16),.advance 2 (calm 17),.advance 2 (calm 18)]

theorem accepted_stays_accepted_mended :
    (∃ entry ∈ (outcome .sample Sample.mended).log, entry.exchange.1.recordsFailure = true) ∧
    (∃ item ∈ ((outcome .sample Sample.mended).store .primary).outbox, item.submissionKind = .preInterest ∧
      item.submissionId = 1 ∧ item.mirrorStatus = .mirrored ∧ item.lastErrorCode = none) ∧
    ∃ row ∈ ((outcome .sample Sample.mended).store .primary).table .preInterest, row.id = 1 ∧
      row.mirrorStatus = some .mirrored := by
  have computed : possible .sample Sample.mended = true ∧
      (∃ entry ∈ (outcome .sample Sample.mended).log, entry.exchange.1.recordsFailure = true) ∧
      (∀ entry ∈ (outcome .sample Sample.mended).log, entry.exchange.1.recordsFailure = true →
        ∀ item ∈ (entry.before .primary).outbox.rows, item.mirrorStatus ≠ .mirrored) ∧
      (outcome .sample Sample.mended).sessions[1]?.bind Session.reply? =
        some (.ok (.submission ⟨1,.preInterest,10,.stored,.stored⟩)) := by
    decide +kernel
  obtain ⟨ran,failed,early,left⟩ := computed
  have spared : ∀ entry ∈ (outcome .sample Sample.mended).log, Spares .sample entry :=
    fun entry logged _ _ called _ item listed _ _ => early entry logged (by rw [called]; rfl) item listed
  obtain ⟨item,row⟩ := accepted_stays_accepted (reachable_outcome ran) spared (session_outcome ran rfl left) rfl
  exact ⟨failed,item,row (by decide)⟩

/-- After a 201 the key is used once more, and this time the mirror is out of reach. -/
def Sample.overtaken : List (Event Env Arrival) :=
  accepted ++ [.arrive (anonymous 2),.advance 1 (calm 13),
    .advance 1 { calm 14 with faults := ⟨some 1,.acknowledged⟩ },.advance 1 (calm 15)]

/-- The submission that was answered with a 201 is to be retried. -/
theorem accepted_overtaken :
    Reachable .sample (outcome .sample Sample.overtaken) ∧
    (outcome .sample Sample.overtaken).sessions[0]? =
      some ⟨Sample.anonymous 1,.replied (.ok (.submission ⟨1,.preInterest,10,.stored,.stored⟩))⟩ ∧
    (∃ item ∈ (((outcome .sample Sample.overtaken).store .primary).outbox).rows,
      item.submissionKind = .preInterest ∧ item.submissionId = 1 ∧
        item.mirrorStatus = .retryableFailure ∧ item.lastErrorCode = some "supabase_unavailable") ∧
    (∃ row ∈ (((outcome .sample Sample.overtaken).store .primary).table .preInterest).rows, row.id = 1 ∧
      row.mirrorStatus = some .retryableFailure) := by
  have computed : possible .sample Sample.overtaken = true ∧
      (outcome .sample Sample.overtaken).sessions[0]?.bind Session.reply? =
        some (.ok (.submission ⟨1,.preInterest,10,.stored,.stored⟩)) ∧
      (∃ item ∈ (((outcome .sample Sample.overtaken).store .primary).outbox).rows,
        item.submissionKind = .preInterest ∧ item.submissionId = 1 ∧
          item.mirrorStatus = .retryableFailure ∧ item.lastErrorCode = some "supabase_unavailable") ∧
      (∃ row ∈ (((outcome .sample Sample.overtaken).store .primary).table .preInterest).rows, row.id = 1 ∧
        row.mirrorStatus = some .retryableFailure) := by
    decide +kernel
  obtain ⟨ran,left,item,row⟩ := computed
  exact ⟨reachable_outcome ran,session_outcome ran rfl left,item,row⟩

end IntakeApi
