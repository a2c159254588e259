import IntakeApi.Durability
import IntakeApi.Formal
import IntakeApi.Independence

/-! The handlers against `formal/intake_api.qnt`. One key of one kind is looked at through the
eyes of the formal machine, in any run of any requests. -/
namespace IntakeApi

open Interaction Relational Service

section Observed

variable (db : Database) (kind : StoredSubmissionKind) (key : String)

def Database.HasKey : Prop := ∃ row ∈ (db.table kind).rows, row.idempotencyKey = key

def Database.HasStatus (status : MirrorStatus) : Prop :=
  ∃ row ∈ (db.table kind).rows, row.idempotencyKey = key ∧
    ∃ item ∈ db.outbox.rows, item.submissionKind = kind ∧ item.submissionId = row.id ∧ item.mirrorStatus = status

instance : Decidable (db.HasKey kind key) :=
  inferInstanceAs (Decidable (∃ row ∈ (db.table kind).rows, row.idempotencyKey = key))

instance (status : MirrorStatus) : Decidable (db.HasStatus kind key status) :=
  inferInstanceAs (Decidable (∃ row ∈ (db.table kind).rows, row.idempotencyKey = key ∧
    ∃ item ∈ db.outbox.rows, item.submissionKind = kind ∧ item.submissionId = row.id ∧ item.mirrorStatus = status))

def Database.Failed : Prop := db.HasStatus kind key .retryableFailure ∨ db.HasStatus kind key .terminalFailure

instance : Decidable (db.Failed kind key) :=
  inferInstanceAs (Decidable (db.HasStatus kind key .retryableFailure ∨ db.HasStatus kind key .terminalFailure))

end Observed

/-- The context of a create request of the kind that is admitted under the key. -/
def Arrival.admittedUnder (contract : Contract) (kind : StoredSubmissionKind) (key : String) (arrival : Arrival) :
    Option SubmissionContext :=
  match arrival.request with
  | .complete .. => none
  | .create sort body =>
    match admitCreate contract arrival body with
    | .error _ => none
    | .ok context => if sort = kind ∧ context.idempotencyKey = key then some context else none

abbrev Sessions := List (Session Call Call.Answer Arrival ApiFailure Receipt)

section Submission

variable (contract : Contract) (kind : StoredSubmissionKind) (key : String)

/-- A request of the key that got its 201. -/
def acceptedUnder (session : Session Call Call.Answer Arrival ApiFailure Receipt) : Bool :=
  match session.progress with
  | .replied (.ok _) => (session.arrival.admittedUnder contract kind key).isSome
  | _ => false

def firstAdmitted (sessions : Sessions) : Option SubmissionContext :=
  sessions.findSome? fun session => session.arrival.admittedUnder contract kind key

/-- The flags of the first admitted request, and whether any got its 201. -/
def flags (first : Option SubmissionContext) (issued : Bool) : Formal.State where
  auth := match first with
    | none => .pending
    | some context => if context.subject.isSome then .subjectVerified else .publicProofVerified
  requestValidated := first.isSome
  idempotencyBound := first.isSome
  digestBound := first.isSome
  receiptIssued := issued

def requests (sessions : Sessions) : Formal.State :=
  flags (firstAdmitted contract kind key sessions) (sessions.any (acceptedUnder contract kind key))

/-- What the stores hold for a key. -/
def observed (stores : Stores) (s : Formal.State) : Formal.State :=
  { s with
    primaryStored := decide ((stores .primary).HasKey kind key)
    mirrorStored := decide ((stores .supabase).HasKey kind key)
    mirrorFailureRecorded := decide ((stores .primary).Failed kind key)
    primaryMarkedMirrored := decide ((stores .primary).HasStatus kind key .mirrored) }

/-- The state of the formal machine for one key. -/
def submission (w : World) : Formal.State := observed kind key w.store (requests contract kind key w.sessions)

end Submission

theorem admittedUnder_some {contract : Contract} {kind : StoredSubmissionKind} {key : String} {arrival : Arrival}
    {context : SubmissionContext} : arrival.admittedUnder contract kind key = some context ↔
      ∃ body : Create kind, Requested contract arrival body context ∧ context.idempotencyKey = key := by
  obtain ⟨admission,id,request⟩ := arrival
  constructor
  · intro admitted
    unfold Arrival.admittedUnder at admitted
    split at admitted
    · cases admitted
    · next sort body requested =>
      split at admitted
      · cases admitted
      · next context' settled =>
        split at admitted
        · next same =>
          cases admitted
          obtain ⟨rfl,rfl⟩ := same
          exact ⟨body,⟨requested,settled⟩,rfl⟩
        · cases admitted
  · rintro ⟨body,⟨requested,admitted⟩,rfl⟩
    change request = _ at requested
    subst requested
    simp only [Arrival.admittedUnder, admitted, and_self, if_true]

section Status

variable {db db' : Database} {kind : StoredSubmissionKind} {key : String} {id : Uuid}

theorem Database.HasStatus.unique {a b : MirrorStatus} (first : db.HasStatus kind key a)
    (second : db.HasStatus kind key b) : a = b := by
  obtain ⟨row,member,own,item,listed,sort,named,rfl⟩ := first
  obtain ⟨row',member',own',item',listed',sort',named',rfl⟩ := second
  have rows : row = row' := Table.eq_of_key (Table.mem_rows.mpr member) (Table.mem_rows.mpr member')
    (own.trans own'.symm)
  subst rows
  have items : item = item' := @Outboxed.item_unique db _ _ listed listed' (sort.trans sort'.symm)
    (named.trans named'.symm)
  rw [items]

theorem Database.HasStatus.unfailed {status : MirrorStatus} (has : db.HasStatus kind key status)
    (fine : status = .pending ∨ status = .mirrored) : ¬db.Failed kind key := by
  rintro (failed | failed) <;> cases has.unique failed <;> rcases fine with fine | fine <;> cases fine

theorem Database.Failed.unmarked (failed : db.Failed kind key) : ¬db.HasStatus kind key .mirrored :=
  fun marked => marked.unfailed (.inr rfl) failed

theorem Inserted.status {context : SubmissionContext} {now : Timestamp} {fresh : Row kind}
    (inserted : Inserted .primary context now fresh db db') (own : fresh.idempotencyKey = key) :
    db'.HasStatus kind key .pending :=
  ⟨fresh,(inserted.here _).mpr (.inl rfl),own,_,(inserted.outbox _).mpr (.inl ⟨rfl,rfl⟩),rfl,rfl,rfl⟩

/-- The row of a key through an update of the database. -/
theorem Database.Rewrites.row (rewrites : db.Rewrites db') {row : Row kind} (member : row ∈ db.table kind)
    (own : row.idempotencyKey = key) : ∃ row' ∈ db'.table kind, row'.idempotencyKey = key ∧ row'.id = row.id := by
  obtain ⟨later,member',continues⟩ := rewrites.kept kind row member
  exact ⟨later,member',continues.idempotencyKey.trans own,continues.id⟩

theorem Database.mirrored_status {digest : String} {row : Row kind} (member : row ∈ db.table kind)
    (own : row.idempotencyKey = key) (acknowledged : db.acknowledges kind row.id digest = true) :
    (db.mirrored kind row.id digest).HasStatus kind key .mirrored := by
  obtain ⟨row',member',own',named⟩ := (Database.mirrored_rewrites db kind row.id digest).row member own
  obtain ⟨item,listed,sort,submitted,status,-⟩ := (Database.Marked.acknowledged acknowledged).item
  exact ⟨row',member',own',item,listed,sort,submitted.trans named.symm,status⟩

theorem Database.failed_status {now : Timestamp} {code : String} {row : Row kind} (member : row ∈ db.table kind)
    (own : row.idempotencyKey = key) (retried : db.retries kind row.id = true) :
    (db.failed now kind row.id code).Failed kind key := by
  obtain ⟨row',member',own',named⟩ := (Database.failed_rewrites db now kind row.id code).row member own
  obtain ⟨item,listed,chosen⟩ := Database.retried_item retried
  obtain ⟨sort,submitted⟩ := item.retries_names chosen
  have later : item.failed now code ∈ (db.failed now kind row.id code).outbox :=
    Database.mem_failed_outbox.mpr ⟨item,listed,if_pos chosen⟩
  by_cases last : 99 ≤ item.attempts
  · exact .inr ⟨row',member',own',_,later,sort,submitted.trans named.symm,if_pos last⟩
  · exact .inl ⟨row',member',own',_,later,sort,submitted.trans named.symm,if_neg last⟩

end Status

section Others

variable {kind : StoredSubmissionKind} {key : String} {old new : Stores} {r : Formal.State}

theorem observed_same (primary : (new .primary).HasKey kind key ↔ (old .primary).HasKey kind key)
    (mirror : (new .supabase).HasKey kind key ↔ (old .supabase).HasKey kind key)
    (status : ∀ status, (new .primary).HasStatus kind key status ↔ (old .primary).HasStatus kind key status) :
    observed kind key new r = observed kind key old r := by
  have failed : (new .primary).Failed kind key ↔ (old .primary).Failed kind key :=
    or_congr (status _) (status _)
  simp only [observed, decide_eq_decide.mpr primary, decide_eq_decide.mpr mirror, decide_eq_decide.mpr failed,
    decide_eq_decide.mpr (status .mirrored)]

/-- What another key's request changes is not seen. -/
theorem observed_other {k : StoredSubmissionKind} {key' : String} {fresh id : Uuid}
    (agree : Stores.AgreeOutside (Lane.mk k key' fresh id).region old new) (other : (k,key') ≠ (kind,key))
    (named : ∃ row ∈ (new .primary).table k, row.id = id ∧ row.idempotencyKey = key') :
    observed kind key new r = observed kind key old r := by
  have rows (connection : Connection) (row : Row kind) (own : row.idempotencyKey = key) :
      row ∈ (new connection).table kind ↔ row ∈ (old connection).table kind := by
    refine (((agree connection).tables kind) row ?_).symm
    rintro ⟨sort,same,-⟩
    exact other (Prod.ext sort.symm (same.symm.trans own))
  have items (row : Row kind) (member : row ∈ (new .primary).table kind) (own : row.idempotencyKey = key)
      (item : OutboxItem) (sort : item.submissionKind = kind) (submitted : item.submissionId = row.id) :
      item ∈ (new .primary).outbox ↔ item ∈ (old .primary).outbox := by
    refine ((agree .primary).outbox item ?_).symm
    rintro ⟨sort',submitted'⟩
    obtain ⟨theirs,here,same,taken⟩ := named
    obtain rfl : kind = k := sort.symm.trans sort'
    have equal := Table.eq_of_id here member (same.trans (submitted'.symm.trans submitted))
    exact other (Prod.ext rfl (taken.symm.trans (congrArg (fun row => row.idempotencyKey) equal |>.trans own)))
  refine observed_same ?_ ?_ fun status => ⟨?_,?_⟩
  · exact exists_congr fun row => and_congr_left (rows .primary row)
  · exact exists_congr fun row => and_congr_left (rows .supabase row)
  · rintro ⟨row,member,own,item,listed,sort,submitted,same⟩
    exact ⟨row,(rows _ _ own).mp member,own,item,(items row member own item sort submitted).mp listed,sort,
      submitted,same⟩
  · rintro ⟨row,member,own,item,listed,sort,submitted,same⟩
    have later := (rows .primary _ own).mpr member
    exact ⟨row,later,own,item,(items row later own item sort submitted).mpr listed,sort,submitted,same⟩

theorem observed_verified (stated : kind ≠ .upload) (connection : Connection) (now : Timestamp) (id : Uuid)
    (subject : Option String) (digest : String) :
    observed kind key (Function.update old connection ((old connection).verifyUpload now id subject digest)) r =
      observed kind key old r := by
  have tables (other : Connection) : (Function.update old connection
      ((old connection).verifyUpload now id subject digest) other).table kind = (old other).table kind := by
    by_cases same : other = connection
    · subst same
      rw [Function.update_self, Database.verifyUpload_other stated]
    · rw [Function.update_of_ne same]
  have outbox : (Function.update old connection
      ((old connection).verifyUpload now id subject digest) .primary).outbox = (old .primary).outbox := by
    by_cases same : Connection.primary = connection
    · subst same
      rw [Function.update_self, Database.verifyUpload_outbox]
    · rw [Function.update_of_ne same]
  refine observed_same ?_ ?_ fun status => ?_
  · rw [Database.HasKey, tables, ← Database.HasKey]
  · rw [Database.HasKey, tables, ← Database.HasKey]
  · rw [Database.HasStatus, tables, outbox, ← Database.HasStatus]

end Others

section Changes

variable {contract : Contract} {w : World} {i : Nat} {arrival : Arrival} {env : Env} {call : Call} {stores : Stores}
variable {kind : StoredSubmissionKind} {key : String} {r : Formal.State}

/-- A change that is not made for the key is not seen. -/
theorem change_other (reachable : Reachable contract w) (stated : kind ≠ .upload)
    (retained : w.store.Retains stores) (change : Change contract env arrival (w.history i) w.store call stores)
    (other : arrival.admittedUnder contract kind key = none) :
    observed kind key stores r = observed kind key w.store r := by
  have foreign {k : StoredSubmissionKind} {body : Create k} {context : SubmissionContext}
      (requested : Requested contract arrival body context) :
      observed kind key stores r = observed kind key w.store r := by
    obtain ⟨id,target,agree⟩ := change_frame reachable requested change
    refine observed_other agree ?_ ?_
    · intro same
      cases same
      cases (admittedUnder_some.mpr ⟨body,requested,rfl⟩).symm.trans other
    · cases target with
      | accepted _ _ _ stored => exact stored
      | told stored answered named =>
        obtain ⟨row,holds⟩ := stored_row reachable answered
        obtain ⟨later,member,continues⟩ := retained .primary k row holds.member
        exact ⟨later,member,continues.id.trans (holds.id.trans named),
          continues.idempotencyKey.trans holds.idempotencyKey⟩
  cases change with
  | accept requested => exact foreign requested
  | copy requested => exact foreign requested
  | mark requested => exact foreign requested
  | fail requested => exact foreign requested
  | verify => exact observed_verified stated ..

end Changes

section Own

variable {kind : StoredSubmissionKind} {key : String} {stores : Stores} {db : Database} {r : Formal.State}

theorem observed_primary (stores : Stores) (db : Database) (r : Formal.State) :
    observed kind key (Function.update stores .primary db) r = { r with
      primaryStored := decide (db.HasKey kind key)
      mirrorStored := decide ((stores .supabase).HasKey kind key)
      mirrorFailureRecorded := decide (db.Failed kind key)
      primaryMarkedMirrored := decide (db.HasStatus kind key .mirrored) } := by
  have distinct : Connection.supabase ≠ .primary := by decide
  simp only [observed, Function.update_self, Function.update_of_ne distinct]

theorem Database.HasStatus.stored {status : MirrorStatus} (has : db.HasStatus kind key status) :
    db.HasKey kind key := by
  obtain ⟨row,member,own,-⟩ := has
  exact ⟨row,member,own⟩

theorem Database.Failed.stored (failed : db.Failed kind key) : db.HasKey kind key :=
  failed.elim Database.HasStatus.stored Database.HasStatus.stored

theorem observed_accept (validated : r.requestValidated = true) (absent : ¬(stores .primary).HasKey kind key)
    (pending : db.HasStatus kind key .pending) :
    Formal.RetryStep (observed kind key stores r) .storePrimary
      (observed kind key (Function.update stores .primary db) r) := by
  have unmarked : ¬(stores .primary).HasStatus kind key .mirrored := fun marked => absent marked.stored
  have unfailed : ¬(stores .primary).Failed kind key := fun failed => absent failed.stored
  have unmarked' : ¬db.HasStatus kind key .mirrored := fun marked => nomatch pending.unique marked
  refine ⟨?_,?_⟩
  · simp [Formal.Action.retryGuard, Formal.Action.guard, observed, validated, absent]
  · rw [observed_primary]
    simp [Formal.Action.retryEffect, Formal.Action.effect, observed, pending.stored, pending.unfailed, unmarked,
      unmarked', unfailed]

theorem observed_copy (stored : (stores .primary).HasKey kind key) (absent : ¬(stores .supabase).HasKey kind key)
    (present : db.HasKey kind key) :
    Formal.RetryStep (observed kind key stores r) .storeMirror
      (observed kind key (Function.update stores .supabase db) r) := by
  refine ⟨?_,?_⟩
  · simp [Formal.Action.retryGuard, observed, stored, absent]
  · simp [Formal.Action.retryEffect, Formal.Action.effect, observed, present]

theorem observed_mark (stored : (stores .primary).HasKey kind key) (copied : (stores .supabase).HasKey kind key)
    (marked : db.HasStatus kind key .mirrored) :
    ∃ action, Formal.RetryStep (observed kind key stores r) action
      (observed kind key (Function.update stores .primary db) r) := by
  by_cases again : (stores .primary).HasStatus kind key .mirrored
  · refine ⟨.idle,rfl,?_⟩
    rw [observed_primary]
    simp [Formal.Action.retryEffect, Formal.Action.effect, observed, stored, marked.stored, marked.unfailed,
      again.unfailed, marked, again]
  · refine ⟨.markPrimaryMirrored,?_,?_⟩
    · simp [Formal.Action.retryGuard, Formal.Action.guard, observed, stored, copied, again]
    · rw [observed_primary]
      simp [Formal.Action.retryEffect, observed, stored, marked.stored, marked.unfailed, marked]

theorem observed_fail (stored : (stores .primary).HasKey kind key)
    (unmarked : ¬(stores .primary).HasStatus kind key .mirrored) (unissued : r.receiptIssued = false)
    (failed : db.Failed kind key) :
    Formal.RetryStep (observed kind key stores r) .recordMirrorFailure
      (observed kind key (Function.update stores .primary db) r) := by
  refine ⟨?_,?_⟩
  · simp [Formal.Action.retryGuard, observed, stored, unmarked, unissued]
  · rw [observed_primary]
    simp [Formal.Action.retryEffect, Formal.Action.effect, observed, stored, failed.stored, failed, failed.unmarked,
      unmarked]

end Own

section Step

variable {contract : Contract} {w : World} {i : Nat} {arrival : Arrival} {env : Env} {call : Call} {stores : Stores}
variable {kind : StoredSubmissionKind} {key : String} {r : Formal.State} {context : SubmissionContext}

/-- A change that is made for the key is a step of the formal machine with retries. -/
theorem change_own (reachable : Reachable contract w)
    (change : Change contract env arrival (w.history i) w.store call stores)
    (own : arrival.admittedUnder contract kind key = some context) (validated : r.requestValidated = true)
    (issued : r.receiptIssued = true → (w.store .primary).HasStatus kind key .mirrored)
    (spared : ∀ (k : StoredSubmissionKind) (other : Uuid), call = failLeg k other →
      ∀ item ∈ (w.store .primary).outbox, item.submissionKind = k → item.submissionId = other →
        item.mirrorStatus ≠ .mirrored) :
    ∃ action, Formal.RetryStep (observed kind key w.store r) action (observed kind key stores r) := by
  obtain ⟨body,requested,rfl⟩ := admittedUnder_some.mp own
  cases change with
  | @accept _ _ _ db requested' followed guarded inserted =>
    obtain ⟨rfl,bodies,rfl⟩ := requested.unique requested'
    cases bodies
    refine ⟨_,observed_accept validated ?_ (inserted.status (freshRow_idempotencyKey ..))⟩
    rintro ⟨row,member,same⟩
    exact inserted.absent row member same
  | @copy _ _ _ stored db requested' followed guarded inserted =>
    obtain ⟨rfl,bodies,rfl⟩ := requested.unique requested'
    cases bodies
    have told : ⟨primaryLeg kind context body,.ok stored⟩ ∈ w.history i := by
      rw [followed]; exact List.mem_cons_self
    obtain ⟨row,holds⟩ := stored_row reachable told
    refine ⟨_,observed_copy ⟨row,holds.member,holds.idempotencyKey⟩ ?_
      ⟨_,(inserted.here _).mpr (.inl rfl),freshRow_idempotencyKey ..⟩⟩
    rintro ⟨copy,member,same⟩
    exact inserted.absent copy member same
  | @mark _ _ _ stored other requested' same followed acknowledged =>
    obtain ⟨rfl,bodies,rfl⟩ := requested.unique requested'
    cases bodies
    have told : ⟨primaryLeg kind context body,.ok stored⟩ ∈ w.history i := by
      rw [followed]; exact List.mem_cons_of_mem _ List.mem_cons_self
    have copied : ⟨mirrorLeg kind context body stored.id,.ok other⟩ ∈ w.history i := by
      rw [followed]; exact List.mem_cons_self
    obtain ⟨row,holds⟩ := stored_row reachable told
    obtain ⟨copy,holds'⟩ := stored_row reachable copied
    rw [← holds.id] at acknowledged ⊢
    exact observed_mark ⟨row,holds.member,holds.idempotencyKey⟩ ⟨copy,holds'.member,holds'.idempotencyKey⟩
      (Database.mirrored_status holds.member holds.idempotencyKey acknowledged)
  | @fail _ _ _ stored mirrored requested' followed retried =>
    obtain ⟨rfl,bodies,rfl⟩ := requested.unique requested'
    cases bodies
    have told : ⟨primaryLeg kind context body,.ok stored⟩ ∈ w.history i := by
      rw [followed]; exact List.mem_cons_of_mem _ List.mem_cons_self
    obtain ⟨row,holds⟩ := stored_row reachable told
    have unmarked : ¬(w.store .primary).HasStatus kind context.idempotencyKey .mirrored := by
      rintro ⟨row',member,same,item,listed,sort,submitted,status⟩
      have equal := Table.eq_of_key (Table.mem_rows.mpr member) holds.member
        (same.trans holds.idempotencyKey.symm)
      exact spared kind stored.id rfl item listed sort (submitted.trans (equal ▸ holds.id)) status
    rw [← holds.id] at retried ⊢
    exact ⟨_,observed_fail ⟨row,holds.member,holds.idempotencyKey⟩ unmarked
      (Bool.eq_false_iff.mpr fun sent => unmarked (issued sent))
      (Database.failed_status holds.member holds.idempotencyKey retried)⟩
  | verify completing => cases requested.request.symm.trans completing.request

/-- Where one of the key's requests got its 201, the item is called mirrored. -/
theorem issued_marked (reachable : Reachable contract w) (spared : ∀ entry ∈ w.log, Spares contract entry)
    (stated : kind ≠ .upload) {receipt : Receipt} (here : w.sessions[i]? = some ⟨arrival,.replied (.ok receipt)⟩)
    (own : arrival.admittedUnder contract kind key = some context) :
    (w.store .primary).HasStatus kind key .mirrored := by
  obtain ⟨body,requested,rfl⟩ := admittedUnder_some.mp own
  have ends := requested.ends (replied reachable here)
  generalize traced : w.history i = history at ends
  generalize answered : (Except.ok receipt : Except ApiFailure Receipt) = result at ends
  cases ends with
  | refused => cases answered
  | unmirrored => cases answered
  | unmarked => cases answered
  | unsigned => cases answered
  | signed => exact absurd rfl stated
  | @accepted _ _ _ stored other submission same reported =>
    cases answered
    have told : ⟨primaryLeg kind context body,.ok stored⟩ ∈ w.history i := by rw [traced]; simp
    have created : (Receipt.submission submission).created = some (kind,stored.id) := by
      cases kind <;> cases reported <;> rfl
    obtain ⟨row,holds⟩ := stored_row reachable told
    obtain ⟨⟨item,listed,sort,named,status,-⟩,-⟩ := accepted_stays_accepted reachable spared here created
    exact ⟨row,holds.member,holds.idempotencyKey,item,listed,sort,named.trans holds.id.symm,status⟩

end Step

section Requests

variable {contract : Contract} {kind : StoredSubmissionKind} {key : String}
variable {sessions : List (Session Call Call.Answer Arrival ApiFailure Receipt)} {i : Nat} {arrival : Arrival}
variable {old new : Progress Call Call.Answer ApiFailure Receipt}

theorem any_set {l : List α} {p : α → Bool} {x y : α} (here : l[i]? = some x) (same : p y = p x) :
    (l.set i y).any p = l.any p := by
  have mapped : (l.set i y).map p = l.map p := by
    have found : (l.map p)[i]? = some (p x) := by rw [List.getElem?_map, here]; rfl
    obtain ⟨bound,equal⟩ := List.getElem?_eq_some_iff.mp found
    rw [List.map_set, same, ← equal]
    exact List.set_getElem_self bound
  have each (l : List α) : l.any p = (l.map p).any id := by rw [List.any_map]; rfl
  rw [each, mapped, ← each]

theorem firstAdmitted_set (here : sessions[i]? = some ⟨arrival,old⟩) :
    firstAdmitted contract kind key (sessions.set i ⟨arrival,new⟩) = firstAdmitted contract kind key sessions := by
  have each (l : Sessions) : firstAdmitted contract kind key l =
      (l.map Session.arrival).findSome? (Arrival.admittedUnder contract kind key) := by
    rw [List.findSome?_map]; rfl
  rw [each, Server.map_set_arrival here, ← each]

/-- A session that moves on without being accepted changes nothing that is seen. -/
theorem requests_set (here : sessions[i]? = some ⟨arrival,old⟩)
    (same : acceptedUnder contract kind key ⟨arrival,new⟩ = acceptedUnder contract kind key ⟨arrival,old⟩) :
    requests contract kind key (sessions.set i ⟨arrival,new⟩) = requests contract kind key sessions := by
  rw [requests, firstAdmitted_set here, any_set here same, requests]

theorem requests_validated (here : sessions[i]? = some ⟨arrival,old⟩) {context : SubmissionContext}
    (own : arrival.admittedUnder contract kind key = some context) :
    (requests contract kind key sessions).requestValidated = true := by
  refine List.findSome?_isSome_iff.mpr ⟨_,List.mem_of_getElem? here,?_⟩
  rw [own]
  rfl

theorem acceptedUnder_iff {session : Session Call Call.Answer Arrival ApiFailure Receipt} :
    acceptedUnder contract kind key session = true ↔ ∃ (receipt : Receipt) (context : SubmissionContext),
      session.progress = .replied (.ok receipt) ∧ session.arrival.admittedUnder contract kind key = some context := by
  obtain ⟨arrival,progress⟩ := session
  constructor
  · intro accepted
    unfold acceptedUnder at accepted
    split at accepted
    · next receipt progressed =>
      obtain ⟨context,own⟩ := Option.isSome_iff_exists.mp accepted
      exact ⟨receipt,context,progressed,own⟩
    · cases accepted
  · rintro ⟨receipt,context,rfl,own⟩
    exact Option.isSome_iff_exists.mpr ⟨context,own⟩

theorem requests_issued (issued : (requests contract kind key sessions).receiptIssued = true) :
    ∃ (i : Nat) (arrival : Arrival) (receipt : Receipt) (context : SubmissionContext),
      sessions[i]? = some ⟨arrival,.replied (.ok receipt)⟩ ∧
      arrival.admittedUnder contract kind key = some context := by
  obtain ⟨⟨arrival,progress⟩,member,accepted⟩ := List.any_eq_true.mp issued
  obtain ⟨receipt,context,rfl,own⟩ := acceptedUnder_iff.mp accepted
  obtain ⟨i,here⟩ := List.mem_iff_getElem?.mp member
  exact ⟨i,arrival,receipt,context,here,own⟩

end Requests

/-- The steps of the formal machine that an event may be: the arrival of the first admitted request
is both its authentication and its validation. -/
def formalSteps : Event Env Arrival → Nat
  | .arrive _ => 2
  | _ => 1

section Simulation

variable {contract : Contract} {w w' : World} {kind : StoredSubmissionKind} {key : String}

theorem observed_idle {s t : Formal.State} (same : t = s) :
    ∃ actions, actions.length ≤ 1 ∧ Formal.Follows s actions t := by
  subst same
  exact ⟨[],Nat.zero_le _,.stutter t⟩

theorem observed_once {s t : Formal.State} (moved : ∃ action, Formal.RetryStep s action t) :
    ∃ actions, actions.length ≤ 1 ∧ Formal.Follows s actions t := by
  obtain ⟨action,step⟩ := moved
  exact ⟨[action],Nat.le_refl _,step.follows⟩

/-- The first admitted request authenticates and validates. -/
theorem observed_admitted (stores : Stores) (context : SubmissionContext) (issued : Bool) :
    ∃ actions, actions.length ≤ 2 ∧ Formal.Follows (observed kind key stores (flags none issued)) actions
      (observed kind key stores (flags (some context) issued)) := by
  by_cases signed : context.subject.isSome = true
  · have validated : observed kind key stores (flags (some context) issued) = Formal.Action.effect
        (Formal.Action.effect (observed kind key stores (flags none issued)) .verifySubject) .validateRequest := by
      simp [observed, flags, signed, Formal.Action.effect]
    rw [validated]
    exact ⟨[.verifySubject,.validateRequest],Nat.le_refl _,.cons ⟨rfl,rfl⟩ (.cons ⟨rfl,rfl⟩ .nil),
      fun _ _ => .cons ⟨rfl,rfl⟩ (.cons ⟨rfl,rfl⟩ .nil)⟩
  · have validated : observed kind key stores (flags (some context) issued) = Formal.Action.effect
        (Formal.Action.effect (observed kind key stores (flags none issued)) .verifyPublicProof) .validateRequest := by
      simp [observed, flags, signed, Formal.Action.effect]
    rw [validated]
    exact ⟨[.verifyPublicProof,.validateRequest],Nat.le_refl _,.cons ⟨rfl,rfl⟩ (.cons ⟨rfl,rfl⟩ .nil),
      fun _ _ => .cons ⟨rfl,rfl⟩ (.cons ⟨rfl,rfl⟩ .nil)⟩

theorem submission_arrive (w : World) (arrival : Arrival) (program : Handler Receipt) :
    ∃ actions, actions.length ≤ 2 ∧ Formal.Follows (submission contract kind key w) actions
      (submission contract kind key (w.arrive arrival program)) := by
  have first : firstAdmitted contract kind key (w.arrive arrival program).sessions =
      (firstAdmitted contract kind key w.sessions).or (arrival.admittedUnder contract kind key) := by
    rw [firstAdmitted, World.arrive, List.findSome?_append, firstAdmitted, List.findSome?_singleton]
  have issued : (w.arrive arrival program).sessions.any (acceptedUnder contract kind key) =
      w.sessions.any (acceptedUnder contract kind key) := by
    rw [World.arrive, List.any_append]
    simp [acceptedUnder]
  rw [submission, submission, requests, requests, first, issued]
  change ∃ actions, _ ∧ Formal.Follows _ _ (observed kind key w.store _)
  cases firstAdmitted contract kind key w.sessions with
  | some context => exact ⟨[],Nat.zero_le _,.stutter _⟩
  | none =>
    cases arrival.admittedUnder contract kind key with
    | none => exact ⟨[],Nat.zero_le _,.stutter _⟩
    | some context => exact observed_admitted w.store context _

variable {i : Nat} {arrival : Arrival} (reachable : Reachable contract w) (stated : kind ≠ .upload)
variable (spared : ∀ entry ∈ w.log, Spares contract entry)

include reachable stated spared in
theorem requests_marked (issued : (requests contract kind key w.sessions).receiptIssued = true) :
    (w.store .primary).HasStatus kind key .mirrored := by
  obtain ⟨i,arrival,receipt,context,here,own⟩ := requests_issued issued
  exact issued_marked reachable spared stated here own

include reachable stated spared in
theorem submission_advance {call : Call} {next : call.Answer → Handler Receipt} {env : Env}
    (here : w.sessions[i]? = some ⟨arrival,.running (.call call next)⟩)
    (spares : Spares contract ⟨i,⟨call,(respond contract env call w.store).1⟩,env,w.store⟩) :
    ∃ actions, actions.length ≤ 1 ∧ Formal.Follows (submission contract kind key w) actions
      (submission contract kind key (w.advance i arrival env call next (respond contract env call w.store).1
        (respond contract env call w.store).2)) := by
  have same := @requests_set contract kind key _ _ _ _ (.running (next (respond contract env call w.store).1)) here rfl
  change ∃ actions, _ ∧ Formal.Follows _ _ (observed kind key _ (requests contract kind key (w.sessions.set i _)))
  rw [same]
  by_cases quiet : (respond contract env call w.store).2 = w.store
  · exact observed_idle (by rw [quiet]; rfl)
  · have change := (answered_change (asked reachable here) env w.store).resolve_left quiet
    cases own : arrival.admittedUnder contract kind key with
    | none => exact observed_idle (change_other reachable stated (respond_retains contract env call w.store) change own)
    | some context =>
      exact observed_once (change_own reachable change own (requests_validated here own)
        (requests_marked reachable stated spared) fun k other called => spares k other called quiet)

include reachable stated spared in
/-- A 201 is sent while the item is called mirrored. -/
theorem submission_reply {result : Except ApiFailure Receipt}
    (here : w.sessions[i]? = some ⟨arrival,.running (.done result)⟩) :
    ∃ actions, actions.length ≤ 1 ∧ Formal.Follows (submission contract kind key w) actions
      (submission contract kind key (w.settle i arrival (.replied result))) := by
  have later := reachable.next (.reply here)
  obtain ⟨bound,-⟩ := List.getElem?_eq_some_iff.mp here
  have there : (w.settle i arrival (.replied result)).sessions[i]? = some ⟨arrival,.replied result⟩ :=
    List.getElem?_set_self bound
  change ∃ actions, _ ∧ Formal.Follows _ _
    (observed kind key w.store (requests contract kind key (w.sessions.set i ⟨arrival,.replied result⟩)))
  by_cases accepted : acceptedUnder contract kind key ⟨arrival,.replied result⟩ = true
  · obtain ⟨receipt,context,replied,own⟩ := acceptedUnder_iff.mp accepted
    cases replied
    have marked : ((w.settle i arrival (.replied (.ok receipt))).store .primary).HasStatus kind key .mirrored :=
      issued_marked later spared stated there own
    change (w.store .primary).HasStatus kind key .mirrored at marked
    have issued : (w.sessions.set i ⟨arrival,.replied (.ok receipt)⟩).any (acceptedUnder contract kind key) = true :=
      List.any_eq_true.mpr ⟨_,List.mem_of_getElem? there,accepted⟩
    rw [requests, firstAdmitted_set here, issued]
    cases before : w.sessions.any (acceptedUnder contract kind key) with
    | true => exact observed_idle (by rw [submission, requests, before])
    | false =>
      refine observed_once ⟨.issueSubmissionReceipt,?_,?_⟩
      · simp [Formal.Action.retryGuard, Formal.Action.guard, submission, observed, requests, flags, marked, before]
      · rw [submission, requests, before]
        rfl
  · refine observed_idle ?_
    rw [requests_set here (Bool.eq_false_iff.mpr accepted), submission]

include reachable stated spared in
/-- Every event is at most as many steps of the formal machine. -/
theorem submission_step {event : Event Env Arrival} (stepped : (server contract).Step w event w')
    (spared' : ∀ entry ∈ w'.log, Spares contract entry) :
    ∃ actions, actions.length ≤ formalSteps event ∧
      Formal.Follows (submission contract kind key w) actions (submission contract kind key w') := by
  cases stepped with
  | arrive arrival => exact submission_arrive w arrival _
  | advance env here => exact submission_advance reachable stated spared here (spared' _ List.mem_cons_self)
  | reply here => exact submission_reply reachable stated spared here
  | @cancel i arrival program here =>
    change ∃ actions, _ ∧ Formal.Follows _ _
      (observed kind key w.store (requests contract kind key (w.sessions.set i ⟨arrival,.cancelled⟩)))
    rw [@requests_set contract kind key _ _ _ _ .cancelled here rfl]
    exact observed_idle rfl

end Simulation

theorem submission_start (contract : Contract) (kind : StoredSubmissionKind) (key : String) :
    submission contract kind key (.start .empty) = Formal.init := by
  have absent (status : MirrorStatus) : ¬Database.empty.HasStatus kind key status := by
    rintro ⟨row,member,-⟩
    exact Table.not_mem_empty row member
  have missing : ¬Database.empty.HasKey kind key := by
    rintro ⟨row,member,-⟩
    exact Table.not_mem_empty row member
  simp [submission, observed, requests, flags, firstAdmitted, World.start, Stores.empty, Database.Failed, absent,
    missing, Formal.init]

/-- The handlers refine the formal machine with retries, in every run that records no failure over
an acknowledgement: each event is a step of the machine, or none, and the order of the two stores
and the receipt that is left holds in every state. Steps that are none of the machine's own start
from a recorded failure, or record one of a row that the mirror has. -/
theorem handlers_refine {contract : Contract} {w : World} (reachable : Reachable contract w)
    (spared : ∀ entry ∈ w.log, Spares contract entry) {kind : StoredSubmissionKind} (stated : kind ≠ .upload)
    (key : String) :
    Machine.Reachable Formal.RetryStep Formal.init (submission contract kind key w) ∧
    (submission contract kind key w).retriedOrder = true ∧
    ∀ (event : Event Env Arrival) (w' : World), (server contract).Step w event w' →
      (∀ entry ∈ w'.log, Spares contract entry) → ∃ actions, actions.length ≤ formalSteps event ∧
        Formal.Follows (submission contract kind key w) actions (submission contract kind key w') := by
  have simulated : (∀ entry ∈ w.log, Spares contract entry) →
      Machine.Reachable Formal.RetryStep Formal.init (submission contract kind key w) := by
    apply @Machine.Reachable.invariant_of_reachable _ _ (server contract).Step _ _ (fun w =>
      (∀ entry ∈ w.log, Spares contract entry) →
        Machine.Reachable Formal.RetryStep Formal.init (submission contract kind key w)) reachable
    · intro _
      rw [submission_start]
      exact .start
    · intro w event w' before holds stepped spared'
      obtain ⟨newer,grown⟩ := ((server contract).step_grows _ _ _ stepped).logged
      have spared : ∀ entry ∈ w.log, Spares contract entry := fun entry logged =>
        spared' entry (grown ▸ List.mem_append_right _ logged)
      obtain ⟨actions,-,follows⟩ := @submission_step _ _ _ kind key before stated spared _ stepped spared'
      exact (holds spared).extend follows.retried
  have here := simulated spared
  exact ⟨here,Formal.retriedOrder_reachable here,
    fun event w' stepped spared' => submission_step reachable stated spared stepped spared'⟩

namespace Sample

def key : String := "intake-key-000001"

/-- A failure is recorded, and the key is used once more with the mirror in reach. -/
def retried : List (Event Env Arrival) := unmirrored ++ [.arrive (anonymous 2),.advance 1 (calm 13)]

def copied : List (Event Env Arrival) := retried ++ [.advance 1 (calm 14)]

/-- What the formal machine sees before the mirror is tried again. -/
def unmirroredState : Formal.State where
  auth := .publicProofVerified
  requestValidated := true
  idempotencyBound := true
  digestBound := true
  primaryStored := true
  mirrorFailureRecorded := true

theorem retried_ran : possible .sample copied = true ∧
    submission .sample .preInterest key (outcome .sample retried) = unmirroredState ∧
    submission .sample .preInterest key (outcome .sample copied) = { unmirroredState with mirrorStored := true } := by
  decide +kernel

theorem retried_step :
    (server .sample).Step (outcome .sample retried) (.advance 1 (calm 14)) (outcome .sample copied) := by
  cases run_outcome retried_ran.1 with
  | cons here rest => cases rest; exact here

end Sample

theorem handlers_refine_retried : ∃ actions, actions.length ≤ 1 ∧
    Formal.Follows (submission .sample .preInterest Sample.key (outcome .sample Sample.retried)) actions
      (submission .sample .preInterest Sample.key (outcome .sample Sample.copied)) := by
  have early : ∀ entry ∈ (outcome .sample Sample.copied).log, ∀ item ∈ (entry.before .primary).outbox.rows,
      item.mirrorStatus ≠ .mirrored := by decide +kernel
  have spared : ∀ entry ∈ (outcome .sample Sample.copied).log, Spares .sample entry :=
    fun entry logged _ _ _ _ item listed _ _ => early entry logged item listed
  obtain ⟨newer,grown⟩ := ((server .sample).step_grows _ _ _ Sample.retried_step).logged
  exact (handlers_refine (reachable_outcome (possible_append_left Sample.retried_ran.1))
    (fun entry logged => spared entry (grown ▸ List.mem_append_right _ logged)) (by decide) Sample.key).2.2 _ _
    Sample.retried_step spared

/-- The mirror store of a retry is no step of the formal machine, and leads to where the machine
never is. -/
theorem handlers_leave_machine :
    Reachable .sample (outcome .sample Sample.retried) ∧
    (server .sample).Step (outcome .sample Sample.retried) (.advance 1 (Sample.calm 14))
      (outcome .sample Sample.copied) ∧
    (∀ action, ¬Formal.Step (submission .sample .preInterest Sample.key (outcome .sample Sample.retried)) action
      (submission .sample .preInterest Sample.key (outcome .sample Sample.copied))) ∧
    (submission .sample .preInterest Sample.key (outcome .sample Sample.copied)).dualPersistenceOrder = false := by
  obtain ⟨ran,before,after⟩ := Sample.retried_ran
  refine ⟨reachable_outcome (possible_append_left ran),Sample.retried_step,?_,?_⟩
  · rw [before, after]
    rintro action ⟨enabled,moved⟩
    revert enabled moved
    cases action <;> decide
  · rw [after]
    decide

end IntakeApi
