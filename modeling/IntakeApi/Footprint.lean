import IntakeApi.Changes

/-! What the commands look at and write, as regions of a database. Databases that agree outside
a region answer a command alike whose statements stay clear of it. -/
namespace IntakeApi

open Interaction Transaction Relational

structure Region where
  rows : (kind : StoredSubmissionKind) → Row kind → Prop
  items : OutboxItem → Prop

def Region.none : Region := ⟨fun _ _ => False,fun _ => False⟩

/-- Two databases hold the same, outside a region. -/
structure Database.Agree (region : Region) (a b : Database) : Prop where
  tables : ∀ kind, Table.Agree (region.rows kind) (a.table kind) (b.table kind)
  outbox : Table.Agree region.items a.outbox b.outbox

namespace Database.Agree

variable {region : Region} {a b c : Database}

theorem refl (db : Database) : Database.Agree region db db := ⟨fun _ => .refl _,.refl _⟩

theorem symm (agree : Database.Agree region a b) : Database.Agree region b a :=
  ⟨fun kind => (agree.tables kind).symm,agree.outbox.symm⟩

theorem trans (first : Database.Agree region a b) (second : Database.Agree region b c) :
    Database.Agree region a c :=
  ⟨fun kind => (first.tables kind).trans (second.tables kind),first.outbox.trans second.outbox⟩

theorem setTable (agree : Database.Agree region a b) {kind : StoredSubmissionKind} {s t : Table (Row kind)}
    (tables : Table.Agree (region.rows kind) s t) :
    Database.Agree region (a.setTable kind s) (b.setTable kind t) := by
  refine ⟨fun other => ?_,agree.outbox⟩
  by_cases same : other = kind
  · subst same
    rw [setTable_same, setTable_same]
    exact tables
  · rw [setTable_other a s same, setTable_other b t same]
    exact agree.tables other

theorem setOutbox (agree : Database.Agree region a b) {s t : Table OutboxItem}
    (outbox : Table.Agree region.items s t) :
    Database.Agree region { a with outbox := s } { b with outbox := t } :=
  ⟨agree.tables,outbox⟩

end Database.Agree

/-- What a statement selects by lies outside a region. -/
def Statement.Apart (region : Region) : Statement → Prop
  | .begin => True
  | .insert kind values => ∀ row : Row kind, row.idempotencyKey = values.idempotencyKey ∨ row.id = values.id →
      ¬region.rows kind row
  | .selectByKey kind key => ∀ row : Row kind, row.idempotencyKey = key → ¬region.rows kind row
  | .insertOutbox kind id _ => ∀ item, item.submissionKind = kind → item.submissionId = id → ¬region.items item
  | .markRow kind id _ => ∀ row : Row kind, row.id = id → ¬region.rows kind row
  | .markOutbox kind id _ => ∀ item, item.submissionKind = kind → item.submissionId = id → ¬region.items item
  | .failRow kind id => ∀ row : Row kind, row.id = id → ¬region.rows kind row
  | .failOutbox kind id _ => ∀ item, item.submissionKind = kind → item.submissionId = id → ¬region.items item
  | .countVerifiedUploads .. => ∀ row : Row .upload, row.state.status = .verified → ¬region.rows .upload row
  | .selectPendingUpload id _ => ∀ row : Row .upload, row.id = id → ¬region.rows .upload row
  | .verifyUpload id _ _ => ∀ row : Row .upload, row.id = id → ¬region.rows .upload row

theorem Statement.apart_none (statement : Statement) : statement.Apart .none := by
  cases statement <;> simp [Statement.Apart, Region.none]

/-- Statements clear of a region are answered alike where only it differs. -/
theorem Statement.exec_agree {region : Region} (now : Timestamp) (statement : Statement) (a b : Database)
    (apart : statement.Apart region) (agree : Database.Agree region a b) :
    Alike (Database.Agree region) (statement.exec now a) (statement.exec now b) := by
  cases statement with
  | begin => exact alike_ok rfl agree
  | insert kind values =>
    simp only [Statement.exec]
    rcases @Table.Agree.insertOrIgnore _ _ _ _ _ _ _ _ _ (agree.tables kind) { values with createdAt := now }
      (fun row same => apart row (.inl same)) (fun row same => apart row (.inr same)) with
      ⟨first,second⟩ | ⟨first,second⟩ | ⟨s,t,first,second,tables⟩
    · rw [first, second]
      exact .inl ⟨_,rfl,rfl⟩
    · rw [first, second]
      exact alike_ok rfl agree
    · rw [first, second]
      exact alike_ok rfl (agree.setTable tables)
  | selectByKey kind key => exact alike_ok ((agree.tables kind).findKey apart) agree
  | insertOutbox kind id digest =>
    simp only [Statement.exec]
    have clear : ∀ item : OutboxItem, Keyed.id item = (kind,id) → ¬region.items item :=
      fun item same => apart item (congrArg Prod.fst same) (congrArg Prod.snd same)
    rcases @Table.Agree.insertOrIgnore _ _ _ _ _ _ _ _ _ agree.outbox (.new now kind id digest) clear clear with
      ⟨first,second⟩ | ⟨first,second⟩ | ⟨s,t,first,second,tables⟩
    · rw [first, second]
      exact .inl ⟨_,rfl,rfl⟩
    · rw [first, second]
      exact .inl ⟨_,rfl,rfl⟩
    · rw [first, second]
      exact alike_ok rfl (agree.setOutbox tables)
  | markRow kind id digest =>
    have clear := fun (row : Row kind) chosen => apart row (@Row.matches_id kind id digest row chosen)
    exact alike_ok ((agree.tables kind).count clear) (agree.setTable ((agree.tables kind).update clear))
  | markOutbox kind id digest =>
    have clear := fun item chosen =>
      have names := @OutboxItem.matches_names kind id digest item chosen
      apart item names.1 names.2
    exact alike_ok (agree.outbox.count clear) (agree.setOutbox (agree.outbox.update clear))
  | failRow kind id =>
    have clear := fun (row : Row kind) (chosen : decide (row.id = id) = true) => apart row (of_decide_eq_true chosen)
    exact alike_ok ((agree.tables kind).count clear) (agree.setTable ((agree.tables kind).update clear))
  | failOutbox kind id errorCode =>
    have clear := fun item chosen =>
      have names := @OutboxItem.retries_names kind id item chosen
      apart item names.1 names.2
    exact alike_ok (agree.outbox.count clear) (agree.setOutbox (agree.outbox.update clear))
  | countVerifiedUploads subject resume photoId =>
    exact alike_ok ((agree.tables .upload).count fun row chosen =>
      apart row (Row.isVerifiedUpload_status row chosen)) agree
  | selectPendingUpload id subject =>
    exact alike_ok ((agree.tables .upload).find (fun row chosen => apart row (Row.isPending_id row chosen))
      Row.isPending_id) agree
  | verifyUpload id subject digest =>
    have clear := fun (row : Row .upload)
        (chosen : (row.isPending now id subject && decide (row.payload.sha256 = digest)) = true) =>
      apart row (Row.isPending_id row (Bool.and_eq_true_iff.mp chosen).1)
    exact alike_ok ((agree.tables .upload).count clear) (agree.setTable ((agree.tables .upload).update clear))

/-- What a create request owns: its kind, its key, the id drawn for it and the id of its row. -/
structure Lane where
  kind : StoredSubmissionKind
  key : String
  fresh : Uuid
  id : Uuid

def Row.Unverified : {kind : StoredSubmissionKind} → Row kind → Prop
  | .upload, row => row.state.status ≠ .verified
  | _, _ => True

def Lane.region (lane : Lane) : Region where
  rows kind row := kind = lane.kind ∧ row.idempotencyKey = lane.key ∧ row.id = lane.id ∧ row.Unverified
  items item := item.submissionKind = lane.kind ∧ item.submissionId = lane.id

/-- Requests of one kind that differ in key and in ids. Those of two kinds may share both. -/
structure Lane.Apart (a b : Lane) : Prop where
  key : a.kind = b.kind → a.key ≠ b.key
  id : a.kind = b.kind → a.id ≠ b.id
  fresh : a.kind = b.kind → a.fresh ≠ b.id
  fresh' : a.kind = b.kind → b.fresh ≠ a.id

theorem Lane.Apart.symm {a b : Lane} (apart : a.Apart b) : b.Apart a :=
  ⟨fun same => (apart.key same.symm).symm,fun same => (apart.id same.symm).symm,
    fun same => apart.fresh' same.symm,fun same => apart.fresh same.symm⟩

def Command.Within (lane : Lane) : Command → Prop
  | .store _ kind context _ => kind = lane.kind ∧ context.idempotencyKey = lane.key ∧
      (context.canonicalId = lane.fresh ∨ context.canonicalId = lane.id)
  | .markMirrored kind id _ => kind = lane.kind ∧ id = lane.id
  | .recordMirrorFailure kind id _ => kind = lane.kind ∧ id = lane.id
  | .pendingUpload .. => False
  | .verifyUpload .. => False

/-- `INSERT … RETURNING` returns what was inserted. -/
def Genuine : Exchange Statement Statement.Answer → Prop
  | ⟨.insert _ values,answer⟩ => ∀ row, answer = some row → row.id = values.id
  | _ => True

theorem exec_genuine {now : Timestamp} (statement : Statement) (db : Database) (answer : statement.Answer)
    (db' : Database) (executed : statement.exec now db = .ok (answer,db')) : Genuine ⟨statement,answer⟩ := by
  cases statement with
  | insert kind values =>
    intro row returned
    subst returned
    simp only [Statement.exec] at executed
    split at executed
    · cases executed
    · cases executed
    · cases executed; rfl
  | _ => trivial

/-- All statements of a body stay clear of a region, and it ends as `ends` says, if its
answers are genuine. -/
def Avoids (region : Region) (program : Tx α) (ends : Except DataError α → Prop) : Prop :=
  ∀ history : List (Exchange Statement Statement.Answer), program.Obeys
    (fun history statement => (∀ exchange ∈ history, Genuine exchange) → statement.Apart region)
    (fun history result => (∀ exchange ∈ history, Genuine exchange) → ends result) history

namespace Avoids

variable {region : Region}

theorem done {result : Except DataError α} {ends : Except DataError α → Prop} (ended : ends result) :
    Avoids region (.done result) ends := fun _ _ => ended

/-- Nothing is asked of a body that got a spurious answer. -/
theorem spurious {program : Tx α} {ends : Except DataError α → Prop}
    {history : List (Exchange Statement Statement.Answer)} (odd : ¬∀ exchange ∈ history, Genuine exchange) :
    program.Obeys (fun history statement => (∀ exchange ∈ history, Genuine exchange) → statement.Apart region)
      (fun history result => (∀ exchange ∈ history, Genuine exchange) → ends result) history := by
  induction program generalizing history with
  | done result => exact fun even => absurd even odd
  | call statement next ih =>
    refine ⟨fun even => absurd even odd,fun answer => ih answer fun even => odd ?_⟩
    exact fun exchange member => even exchange (List.mem_cons_of_mem _ member)

theorem bind {first : Tx α} {next : α → Tx β} {middle : Except DataError α → Prop}
    {ends : Except DataError β → Prop} (begins : Avoids region first middle)
    (continues : ∀ value, middle (.ok value) → Avoids region (next value) ends)
    (stops : ∀ error, ends (.error error)) : Avoids region (first >>= next) ends := by
  intro history
  refine Program.Obeys.bind (begins history) ?_ fun _ error _ _ => stops error
  intro later value reached
  by_cases even : ∀ exchange ∈ later, Genuine exchange
  · exact continues value (reached even) later
  · exact spurious even

theorem mono {program : Tx α} {ends ends' : Except DataError α → Prop} (avoids : Avoids region program ends)
    (finished : ∀ result, ends result → ends' result) : Avoids region program ends' :=
  fun history => (avoids history).mono (fun _ _ asks => asks) fun _ result ended even => finished result (ended even)

theorem sql {statement : Statement} (apart : statement.Apart region) : Avoids region (sql statement)
    fun result => ∀ answer, result = .ok answer → Genuine ⟨statement,answer⟩ :=
  fun history => ⟨fun _ => apart,by
    rintro answer even _ ⟨⟩
    exact even _ List.mem_cons_self⟩

theorem require {condition : Bool} {error : DataError} {ends : Except DataError Unit → Prop}
    (passed : ends (.ok ())) (refused : ends (.error error)) : Avoids region (.require condition error) ends := by
  cases condition with
  | false => exact done refused
  | true => exact done passed

end Avoids

section Commands

variable {lane other : Lane} (apart : lane.Apart other)

include apart in
theorem Lane.Apart.key_clear {kind : StoredSubmissionKind} (sort : kind = lane.kind) {row : Row kind}
    (key : row.idempotencyKey = lane.key) : ¬other.region.rows kind row :=
  fun inside => apart.key (sort.symm.trans inside.1) (key.symm.trans inside.2.1)

include apart in
theorem Lane.Apart.id_clear {kind : StoredSubmissionKind} (sort : kind = lane.kind) {row : Row kind}
    (id : row.id = lane.fresh ∨ row.id = lane.id) : ¬other.region.rows kind row := by
  intro inside
  rcases id with fresh | id
  · exact apart.fresh (sort.symm.trans inside.1) (fresh.symm.trans inside.2.2.1)
  · exact apart.id (sort.symm.trans inside.1) (id.symm.trans inside.2.2.1)

include apart in
theorem Lane.Apart.item_clear {item : OutboxItem} (sort : item.submissionKind = lane.kind)
    (id : item.submissionId = lane.fresh ∨ item.submissionId = lane.id) : ¬other.region.items item := by
  intro inside
  rcases id with fresh | id
  · exact apart.fresh (sort.symm.trans inside.1) (fresh.symm.trans inside.2)
  · exact apart.id (sort.symm.trans inside.1) (id.symm.trans inside.2)

variable {kind : StoredSubmissionKind} {context : SubmissionContext} (sort : kind = lane.kind)
variable (key : context.idempotencyKey = lane.key)
variable (id : context.canonicalId = lane.fresh ∨ context.canonicalId = lane.id)

include apart sort key id in
theorem insertOrReplayRow_avoids {values : Values kind} (keyed : values.idempotencyKey = context.idempotencyKey)
    (named : values.id = context.canonicalId) : Avoids other.region (insertOrReplayRow context values)
      fun result => ∀ row, result = .ok (row,false) → row.id = context.canonicalId := by
  refine .bind (@Avoids.sql _ (.insert kind values) ?_) ?_ nofun
  · rintro row (same | same)
    · exact apart.key_clear sort (same.trans (keyed.trans key))
    · rw [← named] at id
      exact apart.id_clear sort (id.imp same.trans same.trans)
  · intro answer told
    cases answer with
    | some row =>
      refine .done ?_
      rintro _ ⟨⟩
      exact (told _ rfl _ rfl).trans named
    | none =>
      refine .bind (@Avoids.sql _ (.selectByKey kind context.idempotencyKey) ?_) ?_ nofun
      · exact fun row same => apart.key_clear sort (same.trans key)
      · intro answer _
        cases answer with
        | none => exact .done nofun
        | some row =>
          refine @Avoids.bind _ _ _ _ _ (fun _ => True) _ (.require trivial trivial) (fun _ _ => .done ?_) nofun
          nofun

include apart sort key id in
theorem insertOrReplay_avoids {values : Values kind} (keyed : values.idempotencyKey = context.idempotencyKey)
    (named : values.id = context.canonicalId) : Avoids other.region (insertOrReplay context values)
      fun result => ∀ stored, result = .ok stored → stored.replayed = false → stored.id = context.canonicalId := by
  refine .bind (insertOrReplayRow_avoids apart sort key id keyed named) ?_ nofun
  rintro ⟨row,replayed⟩ told
  refine .done ?_
  rintro _ ⟨⟩ fresh
  change replayed = false at fresh
  subst fresh
  exact told row rfl

include apart sort id in
theorem maybeInsertOutbox_avoids (target : PersistenceTarget) {stored : StoredSubmission}
    (told : stored.replayed = false → stored.id = context.canonicalId) :
    Avoids other.region (maybeInsertOutbox target kind stored context) fun _ => True := by
  unfold maybeInsertOutbox
  split
  · exact .done trivial
  · next creates =>
    simp only [Bool.or_eq_true, Bool.not_eq_true', not_or, Bool.not_eq_true] at creates
    rw [← told creates.2] at id
    refine .mono (@Avoids.sql _ (.insertOutbox kind stored.id context.payloadSha256) ?_) fun _ _ => trivial
    exact fun item sort' named => apart.item_clear (sort'.trans sort) (id.imp named.trans named.trans)

include apart sort key id in
/-- The end that the three submission kinds share. -/
theorem insertOrReplay_outbox_avoids (target : PersistenceTarget) {values : Values kind}
    (keyed : values.idempotencyKey = context.idempotencyKey) (named : values.id = context.canonicalId) :
    Avoids other.region (insertOrReplay context values >>= fun stored =>
      maybeInsertOutbox target kind stored context >>= fun _ => pure stored) fun _ => True := by
  refine .bind (insertOrReplay_avoids apart sort key id keyed named) (fun stored told => ?_) fun _ => trivial
  exact .bind (maybeInsertOutbox_avoids apart sort id target (told stored rfl)) (fun _ _ => .done trivial)
    fun _ => trivial

theorem avoids_require {region : Region} {condition : Bool} {error : DataError} {next : Unit → Tx α}
    (continues : Avoids region (next ()) fun _ => True) :
    Avoids region (.require condition error >>= next) fun _ => True :=
  @Avoids.bind _ _ _ _ _ (fun _ => True) _ (.require trivial trivial) (fun _ _ => continues) fun _ => trivial

theorem avoids_begin {region : Region} {next : Unit → Tx α} (continues : Avoids region (next ()) fun _ => True) :
    Avoids region (sql .begin >>= next) fun _ => True :=
  .bind (@Avoids.sql _ .begin trivial) (fun _ _ => continues) fun _ => trivial

include apart sort key id in
theorem store_avoids (contract : Contract) (target : PersistenceTarget) (now : Timestamp) (body : Create kind) :
    Avoids other.region (store contract target context now kind body) fun _ => True := by
  cases kind with
  | preInterest =>
    exact avoids_require (avoids_begin (insertOrReplay_outbox_avoids apart sort key id target rfl rfl))
  | upload =>
    refine avoids_require (avoids_begin (avoids_require ?_))
    refine .bind (insertOrReplayRow_avoids apart sort key id rfl rfl) ?_ fun _ => trivial
    rintro ⟨row,replayed⟩ told
    refine .bind (maybeInsertOutbox_avoids apart sort id target ?_) (fun _ _ => .done trivial) fun _ => trivial
    rintro ⟨⟩
    exact told row rfl
  | application =>
    refine avoids_require (avoids_require (avoids_begin ?_))
    refine @Avoids.bind _ _ _ _ _ (fun _ => True) _ ?_ (fun _ _ => ?_) fun _ => trivial
    · refine .bind (@Avoids.sql _ (.countVerifiedUploads ..) ?_) (fun _ _ => .require trivial trivial) fun _ => trivial
      exact fun row verified inside => inside.2.2.2 verified
    · exact insertOrReplay_outbox_avoids apart sort key id target rfl rfl
  | referral =>
    refine avoids_require (@Avoids.bind _ _ _ _ _ (fun _ => True) _ (.done trivial) (fun subject _ => ?_)
      fun _ => trivial)
    exact avoids_begin (insertOrReplay_outbox_avoids apart sort key id target rfl rfl)

include apart in
/-- A create request's commands stay clear of what another one owns. -/
theorem Command.Within.avoids {command : Command} (within : command.Within lane) (contract : Contract)
    (now : Timestamp) : Avoids other.region (command.transaction contract now) fun _ => True := by
  cases command with
  | store target kind context body =>
    obtain ⟨sort,key,id⟩ := within
    exact store_avoids apart sort key id contract target now body
  | markMirrored kind id digest =>
    obtain ⟨sort,rfl⟩ := within
    refine avoids_begin ?_
    have last : Avoids other.region (sql (.markOutbox kind lane.id digest) >>= fun affected =>
        .require (affected = 1) .invariant) fun _ => True :=
      .bind (@Avoids.sql _ (.markOutbox kind lane.id digest)
        fun item sort' named => apart.item_clear (sort'.trans sort) (.inr named))
        (fun _ _ => .require trivial trivial) fun _ => trivial
    split
    · exact .bind (@Avoids.sql _ (.markRow kind lane.id digest) fun row named => apart.id_clear sort (.inr named))
        (fun _ _ => avoids_require last) fun _ => trivial
    · exact last
  | recordMirrorFailure kind id errorCode =>
    obtain ⟨sort,rfl⟩ := within
    refine avoids_require (avoids_begin ?_)
    have last : Avoids other.region (sql (.failOutbox kind lane.id errorCode) >>= fun affected =>
        .require (affected = 1) .invariant) fun _ => True :=
      .bind (@Avoids.sql _ (.failOutbox kind lane.id errorCode)
        fun item sort' named => apart.item_clear (sort'.trans sort) (.inr named))
        (fun _ _ => .require trivial trivial) fun _ => trivial
    split
    · exact .bind (@Avoids.sql _ (.failRow kind lane.id) fun row named => apart.id_clear sort (.inr named))
        (fun _ _ => avoids_require last) fun _ => trivial
    · exact last
  | pendingUpload => exact within.elim
  | verifyUpload => exact within.elim

end Commands

def Stores.AgreeOutside (region : Region) (s t : Stores) : Prop :=
  ∀ connection, Database.Agree region (s connection) (t connection)

namespace Stores.AgreeOutside

variable {region : Region} {s t u : Stores}

theorem refl (stores : Stores) : Stores.AgreeOutside region stores stores := fun _ => .refl _

theorem symm (agree : Stores.AgreeOutside region s t) : Stores.AgreeOutside region t s :=
  fun connection => (agree connection).symm

theorem trans (first : Stores.AgreeOutside region s t) (second : Stores.AgreeOutside region t u) :
    Stores.AgreeOutside region s u :=
  fun connection => (first connection).trans (second connection)

theorem update (agree : Stores.AgreeOutside region s t) {connection : Connection} {a b : Database}
    (databases : Database.Agree region a b) :
    Stores.AgreeOutside region (Function.update s connection a) (Function.update t connection b) := by
  intro other
  by_cases same : other = connection
  · subst same
    rw [Function.update_self, Function.update_self]
    exact databases
  · rw [Function.update_of_ne same, Function.update_of_ne same]
    exact agree other

end Stores.AgreeOutside

theorem avoids_none (program : Tx α) : Avoids .none program fun _ => True := by
  intro history
  induction program generalizing history with
  | done result => exact fun _ => trivial
  | call statement next ih => exact ⟨fun _ => statement.apart_none,fun answer => ih answer _⟩

def Call.Avoids (contract : Contract) (region : Region) : Call → Prop
  | .persist _ command => ∀ now, IntakeApi.Avoids region (command.transaction contract now) fun _ => True
  | _ => True

/-- A call clear of a region is answered alike where only it differs. -/
theorem respond_agree {contract : Contract} {region : Region} {call : Call} (avoids : call.Avoids contract region)
    (env : Env) {s t : Stores} (agree : Stores.AgreeOutside region s t) :
    (respond contract env call s).1 = (respond contract env call t).1 ∧
      Stores.AgreeOutside region (respond contract env call s).2 (respond contract env call t).2 := by
  cases call with
  | persist connection command =>
    have alike := @run_respects _ _ _ _ _ (Statement.exec env.databaseNow) DataError.database
      (Database.Agree region) (Statement.Apart region) Genuine
      (fun statement a b => Statement.exec_agree env.databaseNow statement a b) exec_genuine env.faults
      (command.transaction contract env.apiNow)
      ((avoids env.apiNow []).mono (fun _ _ asks => asks) fun _ _ _ => trivial) _ _ (agree connection)
    exact ⟨alike.1,agree.update alike.2⟩
  | createSignedUploadUrl => exact ⟨rfl,agree⟩
  | verifyObject => exact ⟨rfl,agree⟩

end IntakeApi
