import IntakeApi.Retry

/-! Where verified uploads come from: a completion that read the object, by the owner of
both rows, and the mirror before the primary. -/
namespace IntakeApi

open Interaction Relational Transaction Service

/-- An upload row after a change was there before, or is a new one, or has just been
verified. -/
theorem Change.upload {contract : Contract} {env : Env} {arrival : Arrival} {history : History}
    {old stores : Stores} {call : Call} (change : Change contract env arrival history old call stores)
    {connection : Connection} {row : Row .upload} (member : row ∈ (stores connection).table .upload) :
    row ∈ (old connection).table .upload ∨
    (∃ (context : SubmissionContext) (body : Create .upload),
      row = freshRow connection.target context env.apiNow env.databaseNow body) ∨
    ∃ before ∈ (old connection).table .upload, row = before.verified env.databaseNow ∧
      ∃ (subject : Option VerifiedSubject) (body : UploadCompleteCreate),
        call = Completion.verifyLeg row.id subject connection body := by
  have inserts {target : PersistenceTarget} {kind : StoredSubmissionKind} {context : SubmissionContext}
      {body : Create kind} {db db' : Database}
      (inserted : Inserted target context env.databaseNow
        (freshRow target context env.apiNow env.databaseNow body) db db')
      (here : row ∈ db'.table .upload) : row ∈ db.table .upload ∨
        ∃ (context : SubmissionContext) (body : Create .upload),
          row = freshRow target context env.apiNow env.databaseNow body := by
    rcases (Database.mem_inserted inserted).mp here with equal | before
    · cases equal
      exact .inr ⟨context,body,rfl⟩
    · exact .inl before
  cases change with
  | accept requested followed guarded inserted =>
    cases connection with
    | primary => exact (inserts inserted (by rwa [Function.update_self] at member)).imp_right .inl
    | supabase => exact .inl (by rwa [Function.update_of_ne (by decide)] at member)
  | copy requested followed guarded inserted =>
    cases connection with
    | primary => exact .inl (by rwa [Function.update_of_ne (by decide)] at member)
    | supabase => exact (inserts inserted (by rwa [Function.update_self] at member)).imp_right .inl
  | mark requested _ followed acknowledged =>
    cases connection with
    | primary =>
      rw [Function.update_self] at member
      obtain ⟨before,here,equal⟩ := Database.mem_mirrored_table.mp member
      rw [Row.setMirrorStatus_upload, ite_self] at equal
      exact .inl (equal ▸ here)
    | supabase => exact .inl (by rwa [Function.update_of_ne (by decide)] at member)
  | fail requested followed retried =>
    cases connection with
    | primary =>
      rw [Function.update_self] at member
      obtain ⟨before,here,equal⟩ := Database.mem_failed_table.mp member
      rw [Row.setMirrorStatus_upload, ite_self] at equal
      exact .inl (equal ▸ here)
    | supabase => exact .inl (by rwa [Function.update_of_ne (by decide)] at member)
  | @verify other id subject body completing asks =>
    by_cases here : connection = other
    · subst here
      rw [Function.update_self] at member
      obtain ⟨before,there,rfl⟩ := Database.mem_verifyUpload.mp member
      split
      · next chosen =>
        simp only [Row.isPending, Bool.and_eq_true, decide_eq_true_eq] at chosen
        obtain ⟨⟨⟨⟨rfl,-⟩,-⟩,-⟩,-⟩ := chosen
        exact .inr (.inr ⟨before,there,rfl,subject,body,rfl⟩)
      · exact .inl there
    · exact .inl (by rwa [Function.update_of_ne here] at member)

/-- An upload becomes verified by a completion only. -/
theorem Change.verified {contract : Contract} {env : Env} {arrival : Arrival} {history : History}
    {old stores : Stores} {call : Call} (change : Change contract env arrival history old call stores)
    {connection : Connection} {row : Row .upload} (member : row ∈ (stores connection).table .upload)
    (verified : row.state.status = .verified) :
    (∃ before ∈ (old connection).table .upload, before.Continues row ∧ before.state.status = .verified) ∨
    ∃ (subject : Option VerifiedSubject) (body : UploadCompleteCreate),
      call = Completion.verifyLeg row.id subject connection body := by
  rcases change.upload member with here | ⟨context,body,rfl⟩ | ⟨before,there,-,called⟩
  · exact .inl ⟨row,here,row.continues_refl,verified⟩
  · cases verified
  · exact .inr called

/-- No other status is ever written. -/
theorem upload_status {contract : Contract} {w : World} (reachable : Reachable contract w)
    (connection : Connection) : ∀ row ∈ (w.store connection).table .upload,
      row.state.status = .pending ∨ row.state.status = .verified := by
  revert connection
  apply @store_invariant _ _ (fun stores => ∀ connection, ∀ row ∈ (stores connection).table .upload,
    row.state.status = .pending ∨ row.state.status = .verified) reachable
  · intro connection row member
    exact (Table.not_mem_empty row member).elim
  · intro w i arrival env call stores before change holds connection row member
    rcases change.upload member with here | ⟨context,body,rfl⟩ | ⟨old,there,rfl,-⟩
    · exact holds connection row here
    · exact .inl rfl
    · exact .inr rfl

/-- What a completion knows when it verifies a row. -/
structure Verifying (body : UploadCompleteCreate) (history : History) (id : Uuid)
    (subject : Option VerifiedSubject) (connection : Connection) (primary mirror : PendingUpload) :
    Prop where
  found : Completion.Found body primary mirror
  read : (⟨.verifyObject primary,.ok ()⟩ : Exchange Call Call.Answer) ∈ history
  looked : (⟨Completion.lookLeg id subject .primary,.ok primary⟩ : Exchange Call Call.Answer) ∈ history
  copied : (⟨Completion.lookLeg id subject .supabase,.ok mirror⟩ : Exchange Call Call.Answer) ∈ history
  mirrored : connection = .primary →
    (⟨Completion.verifyLeg id subject .supabase body,.ok ()⟩ : Exchange Call Call.Answer) ∈ history

/-- A verification is asked for after the object was read, and in the primary after the mirror. -/
theorem Completion.Asks.verifying {id id' : Uuid} {subject subject' : Option VerifiedSubject}
    {body body' : UploadCompleteCreate} {history : History} {call : Call} {connection : Connection}
    (asks : Completion.Asks id subject body history call)
    (called : call = Completion.verifyLeg id' subject' connection body') :
    id = id' ∧ subject = subject' ∧
      ∃ primary mirror, Verifying body history id subject connection primary mirror := by
  cases asks with
  | primary => cases called
  | mirror => cases called
  | object => cases called
  | verifyMirror found =>
    injection called with connections commands
    subst connections
    injection commands with ids subjects
    exact ⟨ids,subjects,_,_,found,by simp,by simp,by simp,nofun⟩
  | verifyPrimary found =>
    injection called with connections commands
    subst connections
    injection commands with ids subjects
    exact ⟨ids,subjects,_,_,found,by simp,by simp,by simp,fun _ => by simp⟩

theorem Creation.Asks.not_verifying {kind : StoredSubmissionKind} {context : SubmissionContext}
    {body : Create kind} {history : History} {call : Call} {connection : Connection} {id : Uuid}
    {subject : Option VerifiedSubject} {completion : UploadCompleteCreate}
    (asks : Creation.Asks kind context body history call) :
    call ≠ Completion.verifyLeg id subject connection completion := by
  intro equal
  cases asks <;> cases equal

theorem sameUploadIdentity_true {primary mirror : PendingUpload} :
    sameUploadIdentity primary mirror = true ↔ primary.id = mirror.id ∧
      primary.objectKey = mirror.objectKey ∧ primary.expectedSha256 = mirror.expectedSha256 ∧
      primary.contentType = mirror.contentType ∧ primary.sizeBytes = mirror.sizeBytes := by
  simp only [sameUploadIdentity, Bool.and_eq_true, decide_eq_true_eq, and_assoc]

section Verified

variable {contract : Contract} {w : World} (reachable : Reachable contract w)
variable {connection : Connection} {row : Row .upload}

include reachable in
/-- The call by which a row became verified. -/
theorem verified_by : ∀ (connection : Connection), ∀ row ∈ (w.store connection).table .upload,
    row.state.status = .verified → ∃ entry ∈ w.log, ∃ (subject : Option VerifiedSubject)
      (body : UploadCompleteCreate),
        entry.exchange.1 = Completion.verifyLeg row.id subject connection body := by
  apply @Server.state_invariant _ _ _ _ _ _ _ (server contract) _ (fun stores (log : List Entry) =>
    ∀ (connection : Connection), ∀ row ∈ (stores connection).table .upload, row.state.status = .verified →
      ∃ entry ∈ log, ∃ (subject : Option VerifiedSubject) (body : UploadCompleteCreate),
        entry.exchange.1 = Completion.verifyLeg row.id subject connection body) _ reachable
  · intro connection row member
    exact (Table.not_mem_empty row member).elim
  · intro w i arrival call next env before here holds connection row member verified
    have old (row : Row .upload) (member : row ∈ (w.store connection).table .upload)
        (verified : row.state.status = .verified) (entry : Entry) :
        ∃ found ∈ entry :: w.log, ∃ (subject : Option VerifiedSubject) (body : UploadCompleteCreate),
          found.exchange.1 = Completion.verifyLeg row.id subject connection body := by
      obtain ⟨found,logged,facts⟩ := holds connection row member verified
      exact ⟨found,List.mem_cons_of_mem _ logged,facts⟩
    rcases answered_change (asked before here) env w.store with quiet | change
    · change row ∈ ((respond contract env call w.store).2 connection).table .upload at member
      rw [quiet] at member
      exact old row member verified _
    · rcases change.verified member verified with ⟨earlier,there,continues,was⟩ | ⟨subject,body,rfl⟩
      · rw [continues.id]
        exact old earlier there was _
      · exact ⟨_,List.mem_cons_self,subject,body,rfl⟩

include reachable in
/-- The completion by which a row became verified. -/
theorem verified_completion (member : row ∈ (w.store connection).table .upload)
    (verified : row.state.status = .verified) :
    ∃ (i : Nat) (session : Session Call Call.Answer Arrival ApiFailure Receipt)
      (subject : Option VerifiedSubject) (body : UploadCompleteCreate) (primary mirror : PendingUpload),
      w.sessions[i]? = some session ∧ Completing contract session.arrival row.id subject body ∧
        Verifying body (w.history i) row.id subject connection primary mirror := by
  obtain ⟨entry,logged,subject,body,called⟩ := verified_by reachable connection row member verified
  obtain ⟨session,here,newer,earlier,history,allowed⟩ := logged_asks reachable logged
  rw [called] at allowed
  cases allowed with
  | create request admitted asks => exact (asks.not_verifying rfl).elim
  | @complete id body subject request admitted asks =>
    obtain ⟨rfl,rfl,primary,mirror,verifying⟩ := asks.verifying rfl
    have since {exchange : Exchange Call Call.Answer} (told : exchange ∈ earlier) :
        exchange ∈ w.history entry.session := by
      rw [history]
      exact List.mem_append_right _ (List.mem_cons_of_mem _ told)
    exact ⟨entry.session,session,subject,body,primary,mirror,here,⟨request,admitted⟩,verifying.found,
      since verifying.read,since verifying.looked,since verifying.copied,
      fun here => since (verifying.mirrored here)⟩

include reachable in
/-- A verification that was reported is in the store. -/
theorem verified_row {i : Nat} {id : Uuid} {subject : Option VerifiedSubject}
    {body : UploadCompleteCreate} (told : (⟨Completion.verifyLeg id subject connection body,.ok ()⟩ :
      Exchange Call Call.Answer) ∈ w.history i) :
    ∃ row ∈ (w.store connection).table .upload, row.id = id ∧ row.state.status = .verified := by
  obtain ⟨entry,-,-,-,told,kept⟩ := answered reachable told
  obtain ⟨db,performed,changed⟩ := respond_ok told
  rw [Command.transaction, perform_verifyUpload] at performed
  split at performed
  · split at performed
    · next one =>
      cases performed
      obtain ⟨old,there,chosen⟩ := Table.exists_of_count (one ▸ Nat.one_pos)
      simp only [Bool.and_eq_true, decide_eq_true_eq] at chosen
      have pending := chosen.1
      simp only [Row.isPending, Bool.and_eq_true, decide_eq_true_eq] at pending
      have verified : old.verified entry.env.databaseNow ∈ ((entry.before connection).verifyUpload
          entry.env.databaseNow id (subject.map VerifiedSubject.value) body.sha256).table .upload :=
        Database.mem_verifyUpload.mpr ⟨old,there,if_pos chosen⟩
      have stores := kept connection
      rw [Completion.verifyLeg, changed, Function.update_self] at stores
      obtain ⟨row,member,continues⟩ := stores .upload _ verified
      obtain ⟨-,-,status,-⟩ := continues.state
      exact ⟨row,member,continues.id.trans pending.1.1.1,status rfl⟩
    · cases performed
  · cases performed

include reachable in
/-- The verified rows of the stores have their times. -/
theorem stamped_row (member : row ∈ (w.store connection).table .upload) :
    UploadState.Stamped row.state := by
  obtain ⟨session,there,context,body,id,apiNow,now,requested,owner,continues⟩ := continues_fresh reachable member
  obtain ⟨-,-,-,-,-,-,stamped⟩ := continues.state
  exact stamped nofun

/-- The read of its object that an upload was verified by, for a caller who owns it in both
stores. -/
structure ReadBy (contract : Contract) (w : World) (row : Row .upload) (entry : Entry)
    (response : ObjectResponse) : Prop where
  logged : entry ∈ w.log
  read : ∃ expected : PendingUpload, entry.exchange = ⟨.verifyObject expected,.ok ()⟩ ∧
    expected.objectKey = row.state.objectKey
  answered : entry.env.object = .ok response
  success : response.isSuccess = true
  mime : response.contentType.map mimeType = some row.payload.contentType
  size : (bodyOf response.chunks).length = row.payload.sizeBytes
  digest : lowerHex (contract.sha256 (bodyOf response.chunks)) = row.payload.sha256
  owner : ∃ (session : Session Call Call.Answer Arrival ApiFailure Receipt)
    (subject : Option VerifiedSubject) (body : UploadCompleteCreate),
    w.sessions[entry.session]? = some session ∧ Completing contract session.arrival row.id subject body ∧
      ∀ connection, ∃ other ∈ (w.store connection).table .upload, other.id = row.id ∧
        other.subject = subject.map VerifiedSubject.value

include reachable in
theorem read_by (member : row ∈ (w.store connection).table .upload)
    (verified : row.state.status = .verified) : ∃ entry response, ReadBy contract w row entry response := by
  obtain ⟨i,session,subject,body,primary,mirror,here,completing,verifying⟩ :=
    verified_completion reachable member verified
  obtain ⟨held,there,id,owner,rfl⟩ := looked_row reachable verifying.looked
  obtain ⟨copy,copied,id',owner',rfl⟩ := looked_row reachable verifying.copied
  obtain ⟨-,key,sha256,mime,size⟩ := sameUploadIdentity_true.mp verifying.found.same
  -- the row is one of the two that the completion looked at
  have columns : held.state.objectKey = row.state.objectKey ∧ held.payload.sha256 = row.payload.sha256 ∧
      held.payload.contentType = row.payload.contentType ∧
      held.payload.sizeBytes = row.payload.sizeBytes := by
    cases connection with
    | primary =>
      have equal : row = held := Table.eq_of_id member there id.symm
      subst equal
      exact ⟨rfl,rfl,rfl,rfl⟩
    | supabase =>
      have equal : row = copy := Table.eq_of_id member copied id'.symm
      subst equal
      exact ⟨key,sha256,mime,size⟩
  obtain ⟨entry,logged,rfl,exchange,told,-⟩ := answered reachable verifying.read
  obtain ⟨response,answer,matching⟩ := verifyObject_ok told
  obtain ⟨success,contentType,length,digest⟩ := matching
  refine ⟨entry,response,logged,⟨_,exchange,columns.1⟩,answer,success,?_,?_,?_,
    session,subject,body,here,completing,?_⟩
  · rw [contentType, ← columns.2.2.1]
    rfl
  · rw [length, ← columns.2.2.2]
    rfl
  · rw [digest, ← columns.2.1]
    rfl
  · intro connection
    cases connection with
    | primary => exact ⟨held,there,id,owner⟩
    | supabase => exact ⟨copy,copied,id',owner'⟩

include reachable in
/-- The mirror is verified before the primary. -/
theorem verified_copy {row : Row .upload} (member : row ∈ (w.store .primary).table .upload)
    (verified : row.state.status = .verified) :
    ∃ copy ∈ (w.store .supabase).table .upload, copy.id = row.id ∧ copy.state.status = .verified := by
  obtain ⟨_,_,_,_,_,_,_,_,verifying⟩ := verified_completion reachable member verified
  exact verified_row reachable (verifying.mirrored rfl)

include reachable in
/-- A verified row stays as it is. -/
theorem verified_kept {later : Database} (kept : (w.store connection).Retains later)
    (member : row ∈ (w.store connection).table .upload) (verified : row.state.status = .verified) :
    ∃ row' ∈ later.table .upload, row'.id = row.id ∧ row'.state.status = .verified ∧
      row'.state.uploadedAt = row.state.uploadedAt ∧ row'.state.verifiedAt = row.state.verifiedAt := by
  obtain ⟨row',there,continues⟩ := kept .upload row member
  obtain ⟨-,-,status,-,uploaded,done,-⟩ := continues.state
  obtain ⟨uploadedAt,verifiedAt⟩ := stamped_row reachable member verified
  obtain ⟨time,at_time⟩ := Option.isSome_iff_exists.mp uploadedAt
  obtain ⟨time',at_time'⟩ := Option.isSome_iff_exists.mp verifiedAt
  exact ⟨row',there,continues.id,status verified,(uploaded time at_time).trans at_time.symm,
    (done time' at_time').trans at_time'.symm⟩

end Verified

/-- Rows are only continued along a run. -/
theorem run_kept {contract : Contract} {w w' : World} {events : List (Event Env Arrival)}
    (run : Machine.Run (server contract).Step w events w') : w.store.Retains w'.store :=
  @Machine.Run.related _ _ (server contract).Step _ _ _ (fun a b => a.store.Retains b.store)
    (fun w => w.store.retains_refl) (fun a b c => Stores.retains_trans a.store b.store c.store)
    (fun _ _ _ stepped => Server.step_related Stores.retains_refl (respond_retains contract) stepped) run

/-- Completion goes from the object to the mirror to the primary, and is final. -/
theorem upload_completion {contract : Contract} {w : World} (reachable : Reachable contract w) :
    (∀ row ∈ (w.store .primary).table .upload, row.state.status = .verified →
      ∃ copy ∈ (w.store .supabase).table .upload, copy.id = row.id ∧ copy.state.status = .verified) ∧
    (∀ connection, ∀ row ∈ (w.store connection).table .upload, row.state.status = .verified →
      ∃ entry response, ReadBy contract w row entry response) ∧
    (∀ events w', Machine.Run (server contract).Step w events w' → ∀ connection,
      ∀ row ∈ (w.store connection).table .upload, row.state.status = .verified →
        ∃ later ∈ (w'.store connection).table .upload, later.id = row.id ∧
          later.state.status = .verified ∧ later.state.uploadedAt = row.state.uploadedAt ∧
          later.state.verifiedAt = row.state.verifiedAt) :=
  ⟨fun _ member verified => verified_copy reachable member verified,
    fun _ _ member verified => read_by reachable member verified,
    fun _ _ run connection _ member verified =>
      verified_kept reachable (run_kept run connection) member verified⟩

namespace Sample

def completion (id : Uuid) (kind : UploadKind) : Arrival :=
  arrival none 9 (.complete id ⟨contentDigest kind,some "proof-two"⟩) "hhaus.org"

def object (kind : UploadKind) : ObjectResponse :=
  ⟨200,some "application/pdf; charset=binary",none,
    [.ok ((asciiBytes (content kind)).take 2),.ok ((asciiBytes (content kind)).drop 2)]⟩

def completed : List (Event Env Arrival) :=
  [.arrive (intent 1 .resume),.advance 0 (calm 10),.advance 0 (calm 11),.advance 0 (calm 12),
    .advance 0 { calm 13 with signedUrl := .ok "https://storage/upload" },.reply 0,
    .arrive (completion 1 .resume),.advance 1 (calm 14),.advance 1 (calm 15),
    .advance 1 { calm 16 with object := .ok (object .resume) },.advance 1 (calm 17),.advance 1 (calm 18),
    .reply 1]

theorem completed_possible : possible .sample completed = true ∧
    ∃ row ∈ (((outcome .sample completed).store .primary).table .upload).rows, row.id = 1 ∧
      row.idempotencyKey = "intake-key-000001" ∧ row.state.verifiedAt = some 18 ∧
        row.state.status = .verified := by
  decide +kernel

end Sample

theorem upload_completion_completed :
    ∃ row ∈ ((outcome .sample Sample.completed).store .primary).table .upload, row.id = 1 ∧
      row.state.verifiedAt = some 18 ∧
      ∃ entry response, ReadBy .sample (outcome .sample Sample.completed) row entry response := by
  obtain ⟨ran,row,member,id,-,time,verified⟩ := Sample.completed_possible
  exact ⟨row,member,id,time,
    (upload_completion (reachable_outcome ran)).2.1 .primary row member verified⟩

end IntakeApi
