import IntakeApi.Ownership

/-! Whether the two stores agree on who owns a submission. A mirror row takes subject and
host from the request that copies it, and not from the row that is copied. -/
namespace IntakeApi

open Interaction Relational Transaction Service

/-- Rows of one kind and key have one subject and one host. -/
def Stores.Agree (stores : Stores) : Prop :=
  ∀ kind, ∀ row ∈ (stores .primary).table kind, ∀ copy ∈ (stores .supabase).table kind,
    copy.idempotencyKey = row.idempotencyKey → copy.subject = row.subject ∧ copy.sourceHost = row.sourceHost

/-- The request comes from the row's owner, and from its host where the row has one. -/
def Row.SameOwner (row : Row kind) (context : SubmissionContext) : Prop :=
  row.subject = context.subjectColumn ∧ ∀ host, row.sourceHost = some host → host = context.sourceHost

/-- A copy that is made is made for the owner of the primary's row. -/
def Faithful (contract : Contract) (entry : Entry) : Prop :=
  ∀ (kind : StoredSubmissionKind) (context : SubmissionContext) (body : Create kind),
    entry.exchange.1 = .persist .supabase (.store .supabaseMirror kind context body) →
    (server contract).after entry ≠ entry.before →
    ∀ row ∈ (entry.before .primary).table kind, row.idempotencyKey = context.idempotencyKey →
      row.SameOwner context

theorem sameOwner_fresh {contract : Contract} {kind : StoredSubmissionKind} {body : Create kind}
    {target : PersistenceTarget} {context : SubmissionContext} {apiNow now : Timestamp} {db : Database}
    (guarded : storeGuard contract context now body db = .ok ()) (row : Row kind) :
    row.SameOwner context ↔ (freshRow target context apiNow now body).subject = row.subject ∧
      (freshRow target context apiNow now body).sourceHost = row.sourceHost := by
  rw [Row.SameOwner, freshRow_subject _ _ _ _ guarded]
  refine and_congr eq_comm ?_
  cases kind with
  | preInterest =>
    rw [freshRow_sourceHost]
    constructor
    · intro hosts
      exact congrArg some (hosts _ rfl).symm
    · intro equal host hosted
      exact Option.some.inj (hosted.symm.trans equal.symm)
  | _ => exact ⟨fun _ => rfl,fun _ => nofun⟩

section Agreement

variable {contract : Contract}

/-- A faithful step keeps the stores in agreement. -/
theorem Change.agree {w : World} {i : Nat} {env : Env} {arrival : Arrival} {call : Call} {stores : Stores}
    (reachable : Reachable contract w)
    (change : Change contract env arrival (w.history i) w.store call stores)
    (faithful : ∀ (kind : StoredSubmissionKind) (context : SubmissionContext) (body : Create kind),
      call = .persist .supabase (.store .supabaseMirror kind context body) → stores ≠ w.store →
      ∀ row ∈ (w.store .primary).table kind, row.idempotencyKey = context.idempotencyKey →
        row.SameOwner context)
    (agree : w.store.Agree) : stores.Agree := by
  intro kind row member copy copied keys
  rcases change.effect .primary with kept | ⟨k,context,body,rfl,guarded,inserted⟩
  · obtain ⟨old,there,continues⟩ := kept.rows kind row member
    rcases change.effect .supabase with kept' | ⟨k,context,body,rfl,guarded,inserted⟩
    · obtain ⟨old',there',continues'⟩ := kept'.rows kind copy copied
      have same : old'.idempotencyKey = old.idempotencyKey :=
        continues'.idempotencyKey.symm.trans (keys.trans continues.idempotencyKey)
      rw [continues.subject, continues'.subject, continues.sourceHost, continues'.sourceHost]
      exact agree kind old there old' there' same
    · rw [continues.subject, continues.sourceHost]
      rw [continues.idempotencyKey] at keys
      rcases (Database.mem_inserted inserted).mp copied with equal | before
      · cases equal
        have changed : stores ≠ w.store := by
          rintro rfl
          exact inserted.free _ copied rfl
        refine (sameOwner_fresh guarded old).mp (faithful _ _ _ rfl changed old there ?_)
        exact keys.symm.trans (freshRow_idempotencyKey ..)
      · exact agree kind old there copy before keys
  · rcases change.effect .supabase with kept' | ⟨_,_,_,elsewhere,-⟩
    · obtain ⟨old',there',continues'⟩ := kept'.rows kind copy copied
      rw [continues'.subject, continues'.sourceHost]
      rw [continues'.idempotencyKey] at keys
      rcases (Database.mem_inserted inserted).mp member with equal | before
      · cases equal
        obtain ⟨found,held,-,key,-⟩ := copied_row reachable there'
        exact (inserted.absent found held (key.trans (keys.trans (freshRow_idempotencyKey ..)))).elim
      · exact agree kind row before old' there' keys
    · cases elsewhere

theorem agree_of_faithful {w : World} (reachable : Reachable contract w)
    (faithful : ∀ entry ∈ w.log, Faithful contract entry) : w.store.Agree := by
  have kept : (∀ entry ∈ w.log, Faithful contract entry) → w.store.Agree := by
    apply @Server.state_invariant _ _ _ _ _ _ _ (server contract) _ (fun stores (log : List Entry) =>
      (∀ entry ∈ log, Faithful contract entry) → stores.Agree) _ reachable
    · intro _ kind row member
      exact (Table.not_mem_empty row member).elim
    · intro w i arrival call next env before here holds allowed
      have agree := holds fun entry logged => allowed entry (List.mem_cons_of_mem _ logged)
      rcases answered_change (asked before here) env w.store with quiet | change
      · change ((respond contract env call w.store).2).Agree
        rwa [quiet]
      · exact change.agree before (allowed _ List.mem_cons_self) agree
  exact kept faithful

/-- Rows that agree were copied faithfully, since subject and host never change. -/
theorem faithful_of_agree {w : World} (reachable : Reachable contract w) (agree : w.store.Agree) :
    ∀ entry ∈ w.log, Faithful contract entry := by
  intro entry logged kind context body called changed row member key
  have kept := after_retained reachable logged
  have before := before_retained reachable logged
  obtain ⟨i,⟨call,answer⟩,env,old⟩ := entry
  cases called
  rcases respond_store contract env .supabase .supabaseMirror context body old with
    same | ⟨db,equal,guarded,inserted⟩
  · exact (changed same).elim
  · have fresh : freshRow .supabaseMirror context env.apiNow env.databaseNow body ∈
        ((respond contract env (.persist .supabase (.store .supabaseMirror kind context body)) old).2
          .supabase).table kind := by
      rw [equal, Function.update_self]
      exact (inserted.here _).mpr (.inl rfl)
    obtain ⟨copy,copied,continues⟩ := kept .supabase kind _ fresh
    obtain ⟨later,here,continues'⟩ := before .primary kind row member
    have keys : copy.idempotencyKey = later.idempotencyKey :=
      (continues.idempotencyKey.trans (freshRow_idempotencyKey ..)).trans
        (key.symm.trans continues'.idempotencyKey.symm)
    obtain ⟨owner,host⟩ := agree kind later here copy copied keys
    rw [continues.subject, continues'.subject] at owner
    rw [continues.sourceHost, continues'.sourceHost] at host
    exact (sameOwner_fresh guarded row).mpr ⟨owner,host⟩

end Agreement

def Completable (stores : Stores) (id : Uuid) (subject : Option VerifiedSubject) : Prop :=
  ∀ connection, ∃ row ∈ (stores connection).table .upload, row.id = id ∧
    ∀ now < row.state.expiresAt,
      perform now (pendingUpload id subject) (stores connection) = .ok (pendingOf row,stores connection)

section Uploads

variable {contract : Contract} {w : World} (reachable : Reachable contract w)

include reachable in
/-- No upload is ever rejected, and none has expired from the start. -/
theorem upload_live {connection : Connection} {row : Row .upload}
    (member : row ∈ (w.store connection).table .upload) :
    row.state.status.claimable = true ∧ 0 < row.state.expiresAt := by
  obtain ⟨session,there,context,body,id,apiNow,now,requested,owner,continues⟩ := continues_fresh reachable member
  obtain ⟨-,expiry,-,claimable,-⟩ := continues.state
  refine ⟨claimable rfl,?_⟩
  change row.state.expiresAt = apiNow + hours uploadLifetimeHours at expiry
  rw [expiry]
  exact Nat.add_pos_right _ (by decide)

theorem pendingUpload_found {db : Database} {row : Row .upload} {now : Timestamp}
    {subject : Option VerifiedSubject} (member : row ∈ db.table .upload)
    (owner : row.subject = subject.map VerifiedSubject.value) (unexpired : now < row.state.expiresAt)
    (claimable : row.state.status.claimable = true) :
    perform now (pendingUpload row.id subject) db = .ok (pendingOf row,db) := by
  have pending : row.isPending now row.id (subject.map VerifiedSubject.value) = true := by
    simp [Row.isPending, owner, unexpired, claimable]
  rw [perform_pendingUpload]
  cases found : (db.table .upload).rows.find?
      (Row.isPending now row.id (subject.map VerifiedSubject.value)) with
  | none =>
    rw [List.find?_eq_none] at found
    exact (found row member pending).elim
  | some other =>
    have chosen := List.find?_some found
    simp only [Row.isPending, Bool.and_eq_true, decide_eq_true_eq] at chosen
    have same : other = row := Table.eq_of_id (List.mem_of_find?_eq_some found) member chosen.1.1.1
    rw [same]

theorem pendingUpload_owner {db db' : Database} {now : Timestamp} {id : Uuid} {found : PendingUpload}
    {subject : Option VerifiedSubject}
    (performed : perform now (pendingUpload id subject) db = .ok (found,db')) :
    ∃ row ∈ db.table .upload, row.id = id ∧ row.subject = subject.map VerifiedSubject.value := by
  rw [perform_pendingUpload] at performed
  split at performed
  · cases performed
  · next row looked =>
    have chosen := List.find?_some looked
    simp only [Row.isPending, Bool.and_eq_true, decide_eq_true_eq] at chosen
    exact ⟨row,List.mem_of_find?_eq_some looked,chosen.1.1.1,chosen.1.1.2⟩

include reachable in
/-- An upload can be completed by a caller that owns its row in both stores. -/
theorem completable_iff {id : Uuid} {subject : Option VerifiedSubject} :
    Completable w.store id subject ↔ ∀ connection, ∃ row ∈ (w.store connection).table .upload,
      row.id = id ∧ row.subject = subject.map VerifiedSubject.value := by
  refine forall_congr' fun connection => ⟨?_,?_⟩
  · rintro ⟨row,member,rfl,found⟩
    exact pendingUpload_owner (found 0 (upload_live reachable member).2)
  · rintro ⟨row,member,rfl,owner⟩
    exact ⟨row,member,rfl,fun now unexpired =>
      pendingUpload_found member owner unexpired (upload_live reachable member).1⟩

end Uploads

/-- What holds of every upload intent that was answered with a 201, and of the context it
was requested under. -/
def EveryIntent (contract : Contract) (w : World) (P : Uuid → SubmissionContext → Prop) : Prop :=
  ∀ (i : Nat) (arrival : Arrival) (receipt : Receipt) (id : Uuid) (context : SubmissionContext)
    (body : Create .upload), w.sessions[i]? = some ⟨arrival,.replied (.ok receipt)⟩ →
    receipt.created = some (.upload,id) → Requested contract arrival body context → P id context

/-- The stores agree on ownership, and an upload intent can be completed by whoever got
its 201, exactly where every copy is made for the owner of the primary's row and every
such 201 goes to the owner. -/
theorem ownership_agreement {contract : Contract} {w : World} (reachable : Reachable contract w) :
    (w.store.Agree ∧
      EveryIntent contract w fun id context => Completable w.store id context.subject) ↔
    ((∀ entry ∈ w.log, Faithful contract entry) ∧
      EveryIntent contract w fun id context => ∀ row ∈ (w.store .primary).table .upload, row.id = id →
        row.subject = context.subjectColumn) := by
  constructor
  · rintro ⟨agree,completable⟩
    refine ⟨faithful_of_agree reachable agree,?_⟩
    intro i arrival receipt id context body here created requested row member named
    obtain ⟨found,held,named',owner⟩ := (completable_iff reachable).mp
      (completable i arrival receipt id context body here created requested) .primary
    have same : row = found := Table.eq_of_id member held (named.trans named'.symm)
    rw [same, owner]
    rfl
  · rintro ⟨faithful,owned⟩
    have agree := agree_of_faithful reachable faithful
    refine ⟨agree,?_⟩
    intro i arrival receipt id context body here created requested
    obtain ⟨context',body',stored,told,rfl⟩ := acknowledged_as reachable here created
    obtain ⟨row,member,named,key,-⟩ := told.rows reachable .primary
    obtain ⟨copy,copied,named',key',-⟩ := told.rows reachable .supabase
    have owner := owned i arrival receipt stored.id context body here created requested row member named
    have owner' := (agree .upload row member copy copied (key'.trans key.symm)).1
    refine (completable_iff reachable).mpr fun connection => ?_
    cases connection with
    | primary => exact ⟨row,member,named,owner⟩
    | supabase => exact ⟨copy,copied,named',owner'.trans owner⟩

def Call.subject? : Call → Option VerifiedSubject
  | .persist _ (.store _ _ context _) => context.subject
  | _ => none

theorem faithful_of_anonymous {contract : Contract} {entry : Entry} (anonymous : entry.exchange.1.subject? = none)
    (rows : ∀ kind, ∀ row ∈ (entry.before .primary).table kind, row.subject = none ∧ row.sourceHost = none) :
    Faithful contract entry := by
  intro kind context body called changed row member key
  obtain ⟨owner,host⟩ := rows kind row member
  rw [called] at anonymous
  change context.subject = none at anonymous
  refine ⟨?_,fun other hosted => ?_⟩
  · rw [owner, SubmissionContext.subjectColumn, anonymous]
    rfl
  · rw [host] at hosted
    cases hosted

namespace Sample

/-- Nobody in particular asks for the uploads, or owns them. -/
theorem recopied_anonymous : (∀ entry ∈ (outcome .sample recopied).log, entry.exchange.1.subject? = none ∧
      ∀ kind ∈ [StoredSubmissionKind.preInterest,.upload,.application,.referral],
        ∀ row ∈ ((entry.before .primary).table kind).rows, row.subject = none ∧ row.sourceHost = none) ∧
    ∀ row ∈ (((outcome .sample recopied).store .primary).table .upload).rows, row.subject = none := by
  decide +kernel

theorem recopied_replies :
    (outcome .sample recopied).sessions[1]?.bind Session.reply? = some (.ok (.uploadIntent
      ⟨1,.resume,"https://storage/upload",10 + hours 2,maxUploadBytes,allowedContentTypes .resume⟩)) ∧
    (outcome .sample recopied).sessions[2]?.bind Session.reply? = some (.ok (.uploadIntent
      ⟨3,.photoId,"https://storage/upload",17 + hours 2,maxUploadBytes,allowedContentTypes .photoId⟩)) := by
  decide +kernel

theorem recopied_owned : EveryIntent .sample (outcome .sample recopied) fun id context =>
    ∀ row ∈ ((outcome .sample recopied).store .primary).table .upload, row.id = id →
      row.subject = context.subjectColumn := by
  intro i arrival receipt id context body here created requested row member named
  have known : arrival ∈ (outcome .sample recopied).sessions.map Session.arrival :=
    List.mem_map_of_mem (List.mem_of_getElem? here)
  rw [recopied_arrivals] at known
  obtain ⟨asked,admitted⟩ := requested
  have nobody : context.subject = none := by
    simp only [List.mem_cons, List.not_mem_nil, or_false] at known
    rcases known with rfl | rfl | rfl <;> cases asked <;> cases admitted <;> rfl
  rw [recopied_anonymous.2 row member, SubmissionContext.subjectColumn, nobody]
  rfl

end Sample

/-- Both uploads, the retried one and the other, are their owner's in both stores. -/
theorem ownership_agreement_recopied : (outcome .sample Sample.recopied).store.Agree ∧
    ∀ id ∈ [1, 3], Completable (outcome .sample Sample.recopied).store id none := by
  have ran := Sample.recopied_possible
  obtain ⟨first,second⟩ := Sample.recopied_replies
  have faithful : ∀ entry ∈ (outcome .sample Sample.recopied).log, Faithful .sample entry := by
    intro entry logged
    obtain ⟨nobody,rows⟩ := Sample.recopied_anonymous.1 entry logged
    exact faithful_of_anonymous nobody fun kind => rows kind (by cases kind <;> decide)
  obtain ⟨agree,completable⟩ := (ownership_agreement (reachable_outcome ran)).mpr ⟨faithful,Sample.recopied_owned⟩
  refine ⟨agree,List.forall_mem_cons.mpr ⟨?_,List.forall_mem_singleton.mpr ?_⟩⟩
  · exact completable 1 _ _ 1 (@Sample.context 2 .upload (Sample.upload .resume)) _ (session_outcome ran rfl first) rfl
      ⟨rfl,rfl⟩
  · have requested : Requested .sample (Sample.keyed "intake-key-000002" (Sample.intent 3 .photoId)) _ _ := ⟨rfl,rfl⟩
    exact completable 2 _ _ 3 _ _ (session_outcome ran rfl second) rfl requested

namespace Sample

def claimed (canonicalId : Uuid) : Arrival :=
  arrival (some owner) canonicalId (.create .upload ⟨upload .resume,some "proof-one"⟩) "hhaus.org"

/-- An anonymous upload intent fails at the mirror, and its retry is signed in. -/
def adopted : List (Event Env Arrival) :=
  [.arrive (intent 1 .resume),.advance 0 (calm 10),
    .advance 0 { calm 11 with faults := ⟨some 1,.acknowledged⟩ },.advance 0 (calm 12),.reply 0,
    .arrive (claimed 2),.advance 1 (calm 13),.advance 1 (calm 14),.advance 1 (calm 15),
    .advance 1 { calm 16 with signedUrl := .ok "https://storage/upload" },.reply 1]

end Sample

/-- The signed-in caller gets a 201 for an upload that is its own in the mirror only. -/
theorem ownership_adopted :
    Reachable .sample (outcome .sample Sample.adopted) ∧
    (∃ receipt, (outcome .sample Sample.adopted).sessions[1]? =
      some ⟨Sample.claimed 2,.replied (.ok receipt)⟩ ∧ receipt.created = some (.upload,1)) ∧
    (∃ row ∈ (((outcome .sample Sample.adopted).store .primary).table .upload).rows,
      row.idempotencyKey = "intake-key-000001" ∧ row.subject = none) ∧
    (∃ copy ∈ (((outcome .sample Sample.adopted).store .supabase).table .upload).rows,
      copy.idempotencyKey = "intake-key-000001" ∧ copy.subject = some Sample.owner.value) ∧
    perform 17 (pendingUpload 1 (some Sample.owner)) ((outcome .sample Sample.adopted).store .primary) =
      .error .intakeObjectUnavailable := by
  have computed : possible .sample Sample.adopted = true ∧
      (outcome .sample Sample.adopted).sessions[1]?.bind Session.reply? = some (.ok (.uploadIntent
        ⟨1,.resume,"https://storage/upload",10 + hours 2,maxUploadBytes,allowedContentTypes .resume⟩)) ∧
      (∃ row ∈ (((outcome .sample Sample.adopted).store .primary).table .upload).rows,
        row.idempotencyKey = "intake-key-000001" ∧ row.subject = none) ∧
      (∃ copy ∈ (((outcome .sample Sample.adopted).store .supabase).table .upload).rows,
        copy.idempotencyKey = "intake-key-000001" ∧ copy.subject = some Sample.owner.value) := by
    decide +kernel
  obtain ⟨ran,left,row,copy⟩ := computed
  exact ⟨reachable_outcome ran,⟨_,session_outcome ran rfl left,rfl⟩,row,copy,rfl⟩

end IntakeApi
