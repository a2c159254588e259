import IntakeApi.Turns
import IntakeApi.Sample

/-! The life of an outbox item, over every sequence of commands: how often its mirror has
failed, what it tells of that, and what its canonical row tells. -/
namespace IntakeApi

open Interaction Relational Transaction Service

def Command.records (kind : StoredSubmissionKind) (id : Uuid) : Command → Bool
  | .recordMirrorFailure k i _ => k = kind && i = id
  | _ => false

def Command.marks (kind : StoredSubmissionKind) (id : Uuid) : Command → Bool
  | .markMirrored k i _ => k = kind && i = id
  | _ => false

section Turns

variable (contract : Contract) (kind : StoredSubmissionKind) (id : Uuid)

/-- The turn recorded a failure of this submission's mirror. -/
def Turn.records (turn : Turn) : Bool := turn.commits contract && turn.command.records kind id

def Turn.marks (turn : Turn) : Bool := turn.commits contract && turn.command.marks kind id

def failures (turns : List Turn) : Nat := turns.countP (Turn.records contract kind id)

/-- Of failures and acknowledgements, the last was an acknowledgement. -/
def lastMarked : List Turn → Bool
  | [] => false
  | turn :: older => turn.marks contract kind id || (!turn.records contract kind id && lastMarked older)

end Turns

/-- What an item tells of its attempts. -/
structure OutboxItem.Sound (item : OutboxItem) : Prop where
  bounded : item.attempts ≤ 100
  pending : item.mirrorStatus = .pending → item.attempts = 0
  retryable : item.mirrorStatus = .retryableFailure → 1 ≤ item.attempts ∧ item.attempts ≤ 99
  terminal : item.mirrorStatus = .terminalFailure → item.attempts = 100
  failed : item.lastErrorCode.isSome = true ↔
    item.mirrorStatus = .retryableFailure ∨ item.mirrorStatus = .terminalFailure
  coded : ∀ code, item.lastErrorCode = some code → isErrorCode code = true

theorem isErrorCode_spec {code : String} (coded : isErrorCode code = true) :
    code ≠ "" ∧ code.toList.length ≤ 64 ∧ ∀ c ∈ code.toList,
      ('a' ≤ c ∧ c ≤ 'z') ∨ ('0' ≤ c ∧ c ≤ '9') ∨ c = '_' := by
  simp only [isErrorCode, Bool.and_eq_true, Bool.not_eq_true', Bool.or_eq_false_iff, decide_eq_false_iff_not,
    Nat.not_lt, List.all_eq_true, Bool.or_eq_true, decide_eq_true_eq, beq_iff_eq, or_assoc,
    String.isEmpty_eq_false_iff] at coded
  obtain ⟨⟨nonempty,short⟩,chars⟩ := coded
  have ascii : ∀ c ∈ code.toList, c.utf8Size = 1 := by
    intro c member
    refine utf8Size_ascii ?_
    rcases chars c member with lower | digit | rfl
    · exact isAlphanumeric_ascii (by simp [isAlphanumeric, lower])
    · exact isAlphanumeric_ascii (by simp [isAlphanumeric, digit])
    · decide
  rw [byteLength_ascii code ascii] at short
  exact ⟨nonempty,short,chars⟩

namespace OutboxItem.Sound

theorem new (now : Timestamp) (kind : StoredSubmissionKind) (id : Uuid) (digest : String) :
    (OutboxItem.new now kind id digest).Sound :=
  ⟨Nat.zero_le _,fun _ => rfl,nofun,nofun,by simp [OutboxItem.new],nofun⟩

theorem mirrored {item : OutboxItem} (sound : item.Sound) : item.mirrored.Sound :=
  ⟨sound.bounded,nofun,nofun,nofun,by simp [OutboxItem.mirrored],nofun⟩

theorem failed_of {item : OutboxItem} (below : item.attempts < 100) (now : Timestamp) {code : String}
    (coded : isErrorCode code = true) : (item.failed now code).Sound := by
  refine ⟨below,?_,?_,?_,?_,?_⟩
  · intro status
    simp only [OutboxItem.failed] at status
    split at status <;> cases status
  · intro status
    simp only [OutboxItem.failed] at status ⊢
    split at status
    · cases status
    · omega
  · intro status
    simp only [OutboxItem.failed] at status ⊢
    split at status
    · omega
    · cases status
  · simp only [OutboxItem.failed, Option.isSome_some, true_iff]
    split
    · exact .inr rfl
    · exact .inl rfl
  · intro other same
    cases same
    exact coded

end OutboxItem.Sound

theorem failed_window (item : OutboxItem) (now : Timestamp) (code : String) :
    now + seconds 1 ≤ (item.failed now code).nextAttemptAt ∧
      (item.failed now code).nextAttemptAt ≤ now + seconds 3600 := by
  have positive : 1 ≤ 1 <<< min item.attempts 11 := by
    rw [Nat.one_shiftLeft]
    exact Nat.one_le_two_pow
  refine ⟨Nat.add_le_add_left (Nat.mul_le_mul_right _ (Nat.le_min.mpr ⟨by decide,positive⟩)) now,?_⟩
  exact Nat.add_le_add_left (Nat.mul_le_mul_right _ (Nat.min_le_left ..)) now

section Tracked

variable {contract : Contract} {kind : StoredSubmissionKind} {id : Uuid} {turns : List Turn} {turn : Turn}
variable {db : Database}

theorem failures_cons (turn : Turn) (turns : List Turn) : failures contract kind id (turn :: turns) =
    failures contract kind id turns + (turn.records contract kind id).toNat := by
  rw [failures, List.countP_cons]
  cases turn.records contract kind id <;> rfl

/-- A turn that neither fails nor acknowledges the submission is not seen in its history. -/
theorem history_other (unrecorded : turn.records contract kind id = false)
    (unmarked : turn.marks contract kind id = false) :
    failures contract kind id (turn :: turns) = failures contract kind id turns ∧
      lastMarked contract kind id (turn :: turns) = lastMarked contract kind id turns := by
  rw [failures_cons, lastMarked, unrecorded, unmarked]
  exact ⟨rfl,rfl⟩

theorem history_recorded (recorded : turn.records contract kind id = true)
    (unmarked : turn.marks contract kind id = false) :
    failures contract kind id (turn :: turns) = failures contract kind id turns + 1 ∧
      lastMarked contract kind id (turn :: turns) = false := by
  rw [failures_cons, lastMarked, recorded, unmarked]
  exact ⟨rfl,rfl⟩

theorem history_marked (unrecorded : turn.records contract kind id = false)
    (marked : turn.marks contract kind id = true) :
    failures contract kind id (turn :: turns) = failures contract kind id turns ∧
      lastMarked contract kind id (turn :: turns) = true := by
  rw [failures_cons, lastMarked, unrecorded, marked]
  exact ⟨rfl,rfl⟩

structure OutboxItem.Follows (contract : Contract) (item : OutboxItem) (turns : List Turn) : Prop where
  attempts : item.attempts = failures contract item.submissionKind item.submissionId turns
  mirrored : item.mirrorStatus = .mirrored ↔
    lastMarked contract item.submissionKind item.submissionId turns = true
  sound : item.Sound

/-- Every item follows its history, and where there is no item there is no history. -/
structure Tracked (contract : Contract) (turns : List Turn) (db : Database) : Prop where
  followed : ∀ item ∈ db.outbox, item.Follows contract turns
  absent : ∀ kind id, (∀ item ∈ db.outbox, ¬(item.submissionKind = kind ∧ item.submissionId = id)) →
    failures contract kind id turns = 0 ∧ lastMarked contract kind id turns = false

theorem OutboxItem.Follows.other {item : OutboxItem} (follows : item.Follows contract turns)
    (unrecorded : turn.records contract item.submissionKind item.submissionId = false)
    (unmarked : turn.marks contract item.submissionKind item.submissionId = false) :
    item.Follows contract (turn :: turns) := by
  obtain ⟨attempts,mirrored,sound⟩ := follows
  obtain ⟨counted,last⟩ := @history_other contract _ _ turns turn unrecorded unmarked
  exact ⟨by rw [counted, attempts],by rw [last, mirrored],sound⟩

/-- A turn that is no failure and no acknowledgement, and keeps the outbox. -/
theorem Tracked.other (tracked : Tracked contract turns db) {db' : Database}
    (outbox : db'.outbox = db.outbox) (unrecorded : ∀ kind id, turn.records contract kind id = false)
    (unmarked : ∀ kind id, turn.marks contract kind id = false) : Tracked contract (turn :: turns) db' where
  followed item member := by
    rw [outbox] at member
    exact (tracked.followed item member).other (unrecorded _ _) (unmarked _ _)
  absent kind id free := by
    rw [outbox] at free
    obtain ⟨counted,last⟩ := @history_other contract kind id turns turn (unrecorded _ _) (unmarked _ _)
    rw [counted, last]
    exact tracked.absent kind id free

theorem Tracked.inserted (tracked : Tracked contract turns db) {db' : Database} {k : StoredSubmissionKind}
    {target : PersistenceTarget} {context : SubmissionContext} {now : Timestamp} {fresh : Row k}
    (inserted : Inserted target context now fresh db db')
    (unrecorded : ∀ kind id, turn.records contract kind id = false)
    (unmarked : ∀ kind id, turn.marks contract kind id = false) : Tracked contract (turn :: turns) db' := by
  have later : Tracked contract (turn :: turns) db := tracked.other rfl unrecorded unmarked
  refine ⟨?_,?_⟩
  · intro item member
    rcases (inserted.outbox item).mp member with ⟨creates,rfl⟩ | old
    · obtain ⟨counted,last⟩ := later.absent k fresh.id (inserted.item_free creates)
      exact ⟨counted.symm,iff_of_false nofun (by rw [OutboxItem.new, last]; nofun),.new ..⟩
    · exact later.followed item old
  · intro kind id free
    exact later.absent kind id fun item member => free item ((inserted.outbox item).mpr (.inr member))

theorem chosen_item {selected : OutboxItem → Bool} (one : db.outbox.count selected = 1)
    (pinned : ∀ item, selected item = true → item.submissionKind = kind ∧ item.submissionId = id) :
    ∃ item ∈ db.outbox, selected item = true ∧ ∀ other ∈ db.outbox, other.submissionKind = kind →
      other.submissionId = id → other = item := by
  obtain ⟨item,member,chosen⟩ := Table.exists_of_count (one ▸ Nat.one_pos)
  obtain ⟨sort,named⟩ := pinned item chosen
  exact ⟨item,member,chosen,fun other there sort' named' =>
    Table.eq_of_id there member (Prod.ext (sort'.trans sort.symm) (named'.trans named.symm))⟩

theorem acknowledges_item {digest : String} (acknowledged : db.acknowledges kind id digest = true) :
    ∃ item ∈ db.outbox, item.matches kind id digest = true ∧ ∀ other ∈ db.outbox,
      other.submissionKind = kind → other.submissionId = id → other = item := by
  simp only [Database.acknowledges, Bool.and_eq_true, decide_eq_true_eq] at acknowledged
  exact chosen_item acknowledged.2 OutboxItem.matches_names

theorem retries_item (retried : db.retries kind id = true) :
    ∃ item ∈ db.outbox, item.retries kind id = true ∧ ∀ other ∈ db.outbox,
      other.submissionKind = kind → other.submissionId = id → other = item := by
  simp only [Database.retries, Bool.and_eq_true, decide_eq_true_eq] at retried
  exact chosen_item retried.2 OutboxItem.retries_names

/-- A turn that changes the item of one submission, and fails or acknowledges no other. -/
theorem Tracked.updated (tracked : Tracked contract turns db) {db' : Database}
    {selected : OutboxItem → Bool} {update : OutboxItem → OutboxItem}
    (outbox : ∀ {item}, item ∈ db'.outbox ↔ ∃ old ∈ db.outbox, (if selected old then update old else old) = item)
    (names : ∀ item, (update item).submissionKind = item.submissionKind ∧
      (update item).submissionId = item.submissionId)
    (pinned : ∀ item, selected item = true → item.submissionKind = kind ∧ item.submissionId = id)
    (chosen : ∃ item ∈ db.outbox, selected item = true ∧ ∀ other ∈ db.outbox, other.submissionKind = kind →
      other.submissionId = id → other = item)
    (elsewhere : ∀ k i, ¬(kind = k ∧ id = i) →
      turn.records contract k i = false ∧ turn.marks contract k i = false)
    (follows : ∀ item, selected item = true → item.Follows contract turns →
      (update item).Follows contract (turn :: turns)) : Tracked contract (turn :: turns) db' := by
  obtain ⟨found,listed,matching,only⟩ := chosen
  refine ⟨?_,?_⟩
  · intro item member
    obtain ⟨old,there,rfl⟩ := outbox.mp member
    by_cases same : kind = old.submissionKind ∧ id = old.submissionId
    · have equal := only old there same.1.symm same.2.symm
      subst equal
      rw [if_pos matching]
      exact follows old matching (tracked.followed old there)
    · have spared : ¬selected old = true := by
        intro taken
        obtain ⟨sort,named⟩ := pinned old taken
        exact same ⟨sort.symm,named.symm⟩
      obtain ⟨unrecorded,unmarked⟩ := elsewhere _ _ same
      rw [if_neg spared]
      exact (tracked.followed old there).other unrecorded unmarked
  · intro k i free
    have missing : ∀ item ∈ db.outbox, ¬(item.submissionKind = k ∧ item.submissionId = i) := by
      intro item member same
      refine free _ (outbox.mpr ⟨item,member,rfl⟩) ?_
      split
      · rwa [(names item).1, (names item).2]
      · exact same
    have apart : ¬(kind = k ∧ id = i) := by
      rintro ⟨rfl,rfl⟩
      exact missing found listed (pinned found matching)
    obtain ⟨unrecorded,unmarked⟩ := elsewhere k i apart
    obtain ⟨counted,last⟩ := @history_other contract k i turns turn unrecorded unmarked
    rw [counted, last]
    exact tracked.absent k i missing

theorem Tracked.mirrored (tracked : Tracked contract turns db) {digest : String}
    (acknowledged : db.acknowledges kind id digest = true)
    (unrecorded : ∀ kind id, turn.records contract kind id = false)
    (marked : ∀ k i, turn.marks contract k i = true ↔ kind = k ∧ id = i) :
    Tracked contract (turn :: turns) (db.mirrored kind id digest) := by
  refine tracked.updated Database.mem_mirrored_outbox (fun _ => ⟨rfl,rfl⟩) OutboxItem.matches_names
    (acknowledges_item acknowledged) ?_ ?_
  · intro k i apart
    exact ⟨unrecorded k i,Bool.eq_false_iff.mpr fun marks => apart ((marked k i).mp marks)⟩
  · intro item matching follows
    obtain ⟨sort,named⟩ := item.matches_names matching
    obtain ⟨counted,last⟩ := @history_marked contract item.submissionKind item.submissionId turns turn
      (unrecorded _ _) ((marked _ _).mpr ⟨sort.symm,named.symm⟩)
    exact ⟨follows.attempts.trans counted.symm,iff_of_true rfl last,follows.sound.mirrored⟩

theorem Tracked.failed (tracked : Tracked contract turns db) {now : Timestamp} {code : String}
    (coded : isErrorCode code = true) (retried : db.retries kind id = true)
    (recorded : ∀ k i, turn.records contract k i = true ↔ kind = k ∧ id = i)
    (unmarked : ∀ kind id, turn.marks contract kind id = false) :
    Tracked contract (turn :: turns) (db.failed now kind id code) := by
  refine tracked.updated Database.mem_failed_outbox (fun _ => ⟨rfl,rfl⟩) OutboxItem.retries_names
    (retries_item retried) ?_ ?_
  · intro k i apart
    exact ⟨Bool.eq_false_iff.mpr fun records => apart ((recorded k i).mp records),unmarked k i⟩
  · intro item matching follows
    obtain ⟨sort,named⟩ := item.retries_names matching
    obtain ⟨counted,last⟩ := @history_recorded contract item.submissionKind item.submissionId turns turn
      ((recorded _ _).mpr ⟨sort.symm,named.symm⟩) (unmarked _ _)
    have below : item.attempts < 100 := by
      simp only [OutboxItem.retries, Bool.and_eq_true, decide_eq_true_eq] at matching
      exact matching.2
    refine ⟨?_,iff_of_false (item.failed_unmirrored now code) (Bool.eq_false_iff.mp last),
      .failed_of below now coded⟩
    exact (congrArg (· + 1) follows.attempts).trans counted.symm

end Tracked

/-- Items follow their histories, over every sequence of commands. -/
theorem tracked {contract : Contract} {turns : List Turn} {db : Database}
    (served : Served contract turns db) : Tracked contract turns db := by
  refine Served.invariant ?_ ?_ ?_ served
  · exact ⟨fun item member => (Table.not_mem_empty item member).elim,fun _ _ _ => ⟨rfl,rfl⟩⟩
  · intro turn turns uncommitted holds
    refine holds.other rfl ?_ ?_
    · intro kind id
      rw [Turn.records, uncommitted, Bool.false_and]
    · intro kind id
      rw [Turn.marks, uncommitted, Bool.false_and]
  · intro env command db db' turns committed effect holds
    have records (kind : StoredSubmissionKind) (id : Uuid) :
        Turn.records contract kind id ⟨env,command,db⟩ = command.records kind id := by
      rw [Turn.records, committed, Bool.true_and]
    have marks (kind : StoredSubmissionKind) (id : Uuid) :
        Turn.marks contract kind id ⟨env,command,db⟩ = command.marks kind id := by
      rw [Turn.marks, committed, Bool.true_and]
    cases effect with
    | replay => exact holds.other rfl records marks
    | insert inserted => exact holds.inserted inserted records marks
    | mark acknowledged =>
      refine holds.mirrored acknowledged records fun k i => ?_
      rw [marks, Command.marks, Bool.and_eq_true, decide_eq_true_eq, decide_eq_true_eq]
    | fail coded retried =>
      refine holds.failed coded retried (fun k i => ?_) marks
      rw [records, Command.records, Bool.and_eq_true, decide_eq_true_eq, decide_eq_true_eq]
    | look => exact holds.other rfl records marks
    | verify => exact holds.other Database.verifyUpload_outbox records marks

/-- What a canonical row shows of its item's status: it knows no terminal failure. -/
def MirrorStatus.inRow : MirrorStatus → MirrorStatus
  | .terminalFailure => .retryableFailure
  | status => status

structure OutboxItem.RowOf (item : OutboxItem) {kind : StoredSubmissionKind} (row : Row kind) : Prop where
  id : row.id = item.submissionId
  payloadSha256 : row.payloadSha256 = item.payloadSha256
  mirrorStatus : kind ≠ .upload → row.mirrorStatus = some item.mirrorStatus.inRow

def Paired (db : Database) : Prop :=
  ∀ kind, ∀ item ∈ db.outbox, item.submissionKind = kind → ∃ row ∈ db.table kind, item.RowOf row

namespace Paired

variable {db db' : Database} {k : StoredSubmissionKind} {id : Uuid} {digest : String}

theorem inserted {target : PersistenceTarget} {context : SubmissionContext} {apiNow now : Timestamp}
    {body : Create k} (paired : Paired db)
    (inserted : Inserted target context now (freshRow target context apiNow now body) db db') :
    Paired db' := by
  intro kind item member sort
  rcases (inserted.outbox item).mp member with ⟨creates,rfl⟩ | old
  · have same : k = kind := sort
    subst same
    refine ⟨_,(inserted.here _).mpr (.inl rfl),rfl,freshRow_payloadSha256 ..,fun kept => ?_⟩
    have primary : target = .primary := by
      cases target with
      | primary => rfl
      | supabaseMirror => cases creates
    rw [freshRow_mirrorStatus target context apiNow now body kept, primary]
    rfl
  · obtain ⟨row,here,rowOf⟩ := paired kind item old sort
    exact ⟨row,(Database.mem_inserted inserted).mpr (.inr here),rowOf⟩

theorem mirrored (paired : Paired db) : Paired (db.mirrored k id digest) := by
  intro kind item member sort
  obtain ⟨old,there,rfl⟩ := Database.mem_mirrored_outbox.mp member
  have sort' : old.submissionKind = kind := by rw [← sort]; split <;> rfl
  obtain ⟨row,here,named,hashed,shown⟩ := paired kind old there sort'
  -- the update chooses the row exactly where it chooses the item
  have both : (kind = k ∧ row.matches id digest = true) ↔ old.matches k id digest = true := by
    simp only [Row.matches, OutboxItem.matches, Bool.and_eq_true, decide_eq_true_eq, sort', named, hashed,
      and_assoc]
  refine ⟨_,Database.mem_mirrored_table.mpr ⟨row,here,rfl⟩,?_⟩
  by_cases chosen : old.matches k id digest = true
  · rw [if_pos chosen, if_pos (both.mpr chosen)]
    exact ⟨named,hashed,fun kept => row.setMirrorStatus_mirrorStatus _ kept⟩
  · rw [if_neg chosen, if_neg fun choose => chosen (both.mp choose)]
    exact ⟨named,hashed,shown⟩

theorem failed {now : Timestamp} {code : String} (paired : Paired db) (retried : db.retries k id = true) :
    Paired (db.failed now k id code) := by
  obtain ⟨found,-,matching,only⟩ := retries_item retried
  intro kind item member sort
  obtain ⟨old,there,rfl⟩ := Database.mem_failed_outbox.mp member
  have sort' : old.submissionKind = kind := by rw [← sort]; split <;> rfl
  obtain ⟨row,here,named,hashed,shown⟩ := paired kind old there sort'
  refine ⟨_,Database.mem_failed_table.mpr ⟨row,here,rfl⟩,?_⟩
  by_cases chosen : old.retries k id = true
  · obtain ⟨same,same'⟩ := old.retries_names chosen
    rw [if_pos chosen, if_pos ⟨sort'.symm.trans same,named.trans same'⟩]
    refine ⟨named,hashed,fun kept => ?_⟩
    rw [row.setMirrorStatus_mirrorStatus _ kept, OutboxItem.failed]
    dsimp only
    split <;> rfl
  · rw [if_neg chosen, if_neg]
    · exact ⟨named,hashed,shown⟩
    · rintro ⟨rfl,same'⟩
      have equal := only old there sort' (named.symm.trans same')
      exact chosen (equal ▸ matching)

theorem verifyUpload {now : Timestamp} {subject : Option String} (paired : Paired db) :
    Paired (db.verifyUpload now id subject digest) := by
  intro kind item member sort
  obtain ⟨row,here,named,hashed,shown⟩ := paired kind item member sort
  by_cases upload : kind = .upload
  · subst upload
    refine ⟨_,Database.mem_verifyUpload.mpr ⟨row,here,rfl⟩,?_,?_,fun kept => (kept rfl).elim⟩
    · split <;> exact named
    · split <;> exact hashed
  · rw [Database.verifyUpload_other upload]
    exact ⟨row,here,named,hashed,shown⟩

end Paired

theorem paired {contract : Contract} {turns : List Turn} {db : Database}
    (served : Served contract turns db) : Paired db := by
  refine @Served.invariant _ (fun _ db => Paired db) ?_ ?_ ?_ _ _ served
  · exact fun _ item member => (Table.not_mem_empty item member).elim
  · exact fun _ _ _ holds => holds
  · intro env command db db' turns _ effect holds
    cases effect with
    | replay => exact holds
    | insert inserted => exact holds.inserted inserted
    | mark => exact holds.mirrored
    | fail coded retried => exact holds.failed retried
    | look => exact holds
    | verify => exact holds.verifyUpload

section Serve

variable {contract : Contract} {turns : List Turn} {db : Database} {item : OutboxItem}

/-- After its hundredth failure no further one is recorded. -/
theorem record_refused (member : item ∈ db.outbox) (last : item.attempts = 100) (env : Env) (code : String) :
    ∃ error, serve contract env
      (.recordMirrorFailure item.submissionKind item.submissionId code) db = (.error error,db) := by
  refine run_uncommitted (Bool.eq_false_iff.mpr fun committed => ?_)
  have effect := @Turn.committed contract
    ⟨env,.recordMirrorFailure item.submissionKind item.submissionId code,db⟩ committed
  generalize Turn.after contract
    ⟨env,.recordMirrorFailure item.submissionKind item.submissionId code,db⟩ = db' at effect
  cases effect with
  | fail coded retried =>
    obtain ⟨found,-,matching,only⟩ := retries_item retried
    rw [← only item member rfl rfl] at matching
    simp only [OutboxItem.retries, Bool.and_eq_true, decide_eq_true_eq] at matching
    omega

/-- No status of an item blocks its acknowledgement. -/
theorem mark_served (served : Served contract turns db) (member : item ∈ db.outbox) {env : Env}
    (clear : env.faults = .clear) :
    serve contract env (.markMirrored item.submissionKind item.submissionId item.payloadSha256) db =
      (.ok (),db.mirrored item.submissionKind item.submissionId item.payloadSha256) := by
  obtain ⟨row,here,named,hashed,-⟩ := paired served _ item member rfl
  have acknowledged : db.acknowledges item.submissionKind item.submissionId item.payloadSha256 = true := by
    rw [← named, ← hashed]
    exact Database.acknowledges_row here member rfl named.symm hashed.symm
  have performed : perform env.databaseNow
      (markMirrored item.submissionKind item.submissionId item.payloadSha256) db =
        .ok ((),db.mirrored item.submissionKind item.submissionId item.payloadSha256) := by
    rw [perform_markMirrored, if_pos acknowledged]
  unfold perform at performed
  rw [serve, clear, run_clear, Command.transaction, performed]

end Serve

theorem recorded_item {contract : Contract} {turns : List Turn} {db : Database}
    (served : Served contract turns db) {env : Env} {kind : StoredSubmissionKind} {id : Uuid} {code : String}
    (committed : Turn.commits contract ⟨env,.recordMirrorFailure kind id code,db⟩ = true) :
    ∃ item ∈ db.outbox, item.attempts = failures contract kind id turns ∧
      item.submissionKind = kind ∧ item.submissionId = id ∧
      item.failed env.databaseNow code ∈
        (Turn.after contract ⟨env,.recordMirrorFailure kind id code,db⟩).outbox := by
  have effect := Turn.committed committed
  generalize Turn.after contract ⟨env,.recordMirrorFailure kind id code,db⟩ = db' at effect ⊢
  cases effect with
  | fail coded retried =>
    obtain ⟨item,listed,matching,-⟩ := retries_item retried
    obtain ⟨rfl,rfl⟩ := item.retries_names matching
    exact ⟨item,listed,((tracked served).followed item listed).attempts,rfl,rfl,
      Database.mem_failed_outbox.mpr ⟨item,listed,if_pos matching⟩⟩

/-- The life of an outbox item: what its columns tell after any sequence of commands, when a
failure is retried, that none is recorded after the hundredth, and that an acknowledgement
always succeeds. -/
theorem outbox_life_cycle {contract : Contract} {turns : List Turn} {db : Database}
    (served : Served contract turns db) :
    (∀ item ∈ db.outbox,
      item.attempts = failures contract item.submissionKind item.submissionId turns ∧ item.attempts ≤ 100 ∧
      (item.mirrorStatus = .pending → item.attempts = 0) ∧
      (item.mirrorStatus = .retryableFailure → 1 ≤ item.attempts ∧ item.attempts ≤ 99) ∧
      (item.mirrorStatus = .terminalFailure → item.attempts = 100) ∧
      (item.lastErrorCode.isSome = true ↔
        item.mirrorStatus = .retryableFailure ∨ item.mirrorStatus = .terminalFailure) ∧
      (∀ code, item.lastErrorCode = some code → code ≠ "" ∧ code.toList.length ≤ 64 ∧
        ∀ c ∈ code.toList, ('a' ≤ c ∧ c ≤ 'z') ∨ ('0' ≤ c ∧ c ≤ '9') ∨ c = '_')) ∧
    (∀ (env : Env) (kind : StoredSubmissionKind) (id : Uuid) (code : String),
      Turn.commits contract ⟨env,.recordMirrorFailure kind id code,db⟩ = true →
      ∃ item ∈ (Turn.after contract ⟨env,.recordMirrorFailure kind id code,db⟩).outbox,
        item.submissionKind = kind ∧ item.submissionId = id ∧
        env.databaseNow + seconds 1 ≤ item.nextAttemptAt ∧
        item.nextAttemptAt ≤ env.databaseNow + seconds 3600) ∧
    (∀ item ∈ db.outbox, item.attempts = 100 → ∀ (env : Env) (code : String), ∃ error,
      serve contract env (.recordMirrorFailure item.submissionKind item.submissionId code) db =
        (.error error,db)) ∧
    (∀ item ∈ db.outbox, ∀ env : Env, env.faults = .clear →
      (serve contract env (.markMirrored item.submissionKind item.submissionId item.payloadSha256) db).1 =
        .ok () ∧
      item.mirrored ∈ (serve contract env
        (.markMirrored item.submissionKind item.submissionId item.payloadSha256) db).2.outbox) := by
  refine ⟨?_,?_,?_,?_⟩
  · intro item member
    obtain ⟨attempts,-,sound⟩ := (tracked served).followed item member
    exact ⟨attempts,sound.bounded,sound.pending,sound.retryable,sound.terminal,sound.failed,
      fun code told => isErrorCode_spec (sound.coded code told)⟩
  · intro env kind id code committed
    obtain ⟨item,-,-,sort,named,failed⟩ := recorded_item served committed
    exact ⟨_,failed,sort,named,failed_window item env.databaseNow code⟩
  · intro item member last env code
    exact record_refused member last env code
  · intro item member env clear
    rw [mark_served served member clear]
    exact ⟨rfl,Database.mem_mirrored_outbox.mpr ⟨item,member,if_pos (by simp [OutboxItem.matches])⟩⟩

namespace Sample

def stored : Turn :=
  ⟨calm 10,.store .primary .preInterest (@context 1 .preInterest preInterest) ⟨preInterest,some "proof-one"⟩,
    .empty⟩

def failed : Turn :=
  ⟨calm 11,.recordMirrorFailure .preInterest 1 "supabase_unavailable",stored.after .sample⟩

end Sample

theorem outbox_life_cycle_failed : ∃ db, Served .sample [Sample.failed,Sample.stored] db ∧
    ∃ item ∈ db.outbox, item.attempts = 1 ∧
      item.attempts = failures .sample item.submissionKind item.submissionId [Sample.failed,Sample.stored] := by
  have served : Served .sample [Sample.failed,Sample.stored] (Sample.failed.after .sample) :=
    .cons _ _ (.cons _ _ .nil)
  obtain ⟨followed,-⟩ := outbox_life_cycle served
  have once : ∃ item ∈ (Sample.failed.after .sample).outbox.rows, item.attempts = 1 := by decide +kernel
  obtain ⟨item,member,once⟩ := once
  exact ⟨_,served,item,member,once,(followed item member).1⟩

end IntakeApi
