import IntakeApi.Responses
import IntakeApi.Replay
import IntakeApi.Verification

/-! What the stores check once more never fails: a request is refused before its first call, or for
what the stores hold. -/
namespace IntakeApi

open Interaction Relational Transaction Service

/-- What a command may fail with, and what it then found in its database. Every error of the database
itself counts as an outage, also that of an id which is taken. -/
inductive Warranted (db : Database) (now : Timestamp) : Command → DataError → Prop where
  | outage {command : Command} : Warranted db now command .database
  | conflict {target : PersistenceTarget} {kind : StoredSubmissionKind} {context : SubmissionContext}
      {body : Create kind} {row : Row kind} (member : row ∈ db.table kind)
      (key : row.idempotencyKey = context.idempotencyKey) (digest : row.payloadSha256 ≠ context.payloadSha256) :
      Warranted db now (.store target kind context body) .idempotencyConflict
  | ungated {target : PersistenceTarget} {context : SubmissionContext} {body : Create .application}
      (closed : (db.table .upload).count (Row.isVerifiedUpload now context.subjectColumn
        body.input.resumeUploadId body.input.photoIdUploadId) ≠ 2) :
      Warranted db now (.store target .application context body) .intakeObjectUnavailable
  | unlisted {id : Uuid} {subject : Option VerifiedSubject}
      (absent : ∀ row ∈ db.table .upload, row.isPending now id (subject.map VerifiedSubject.value) = false) :
      Warranted db now (.pendingUpload id subject) .intakeObjectUnavailable
  | unclaimed {id : Uuid} {subject : Option VerifiedSubject} {digest : String}
      (absent : ∀ row ∈ db.table .upload, row.isPending now id (subject.map VerifiedSubject.value) = true →
        row.payload.sha256 ≠ digest) :
      Warranted db now (.verifyUpload id subject digest) .intakeObjectUnavailable
  | exhausted {kind : StoredSubmissionKind} {id : Uuid} {errorCode : String} {item : OutboxItem}
      (listed : item ∈ db.outbox) (sort : item.submissionKind = kind) (named : item.submissionId = id)
      (spent : 100 ≤ item.attempts) : Warranted db now (.recordMirrorFailure kind id errorCode) .invariant

section Commands

variable {contract : Contract} {env : Env} {db : Database} {error : DataError}

theorem settle_error {target : PersistenceTarget} {kind : StoredSubmissionKind} {context : SubmissionContext}
    {now : Timestamp} {fresh : Row kind} (failed : settle target context now fresh db = .error error) :
    error = .idempotencyConflict ∨ error = .database := by
  rw [settle] at failed
  split at failed
  · split at failed <;> cases failed
    exact .inl rfl
  · split at failed
    · split at failed
      · split at failed <;> cases failed
        exact .inr rfl
      · cases failed
    · cases failed
      exact .inr rfl

/-- A store command of an admitted request fails for what the database holds. -/
theorem store_warranted {arrival : Arrival} {kind : StoredSubmissionKind} {body : Create kind}
    {context : SubmissionContext} {target : PersistenceTarget} (requested : Requested contract arrival body context)
    (id : Uuid) (failed : perform env.databaseNow ((Command.store target kind (context.withCanonicalId id)
      body).transaction contract env.apiNow) db = .error error) :
    Warranted db env.databaseNow (.store target kind (context.withCanonicalId id) body) error := by
  rcases requested.guard id env.databaseNow db with guarded | ⟨rfl,closed⟩
  · have settled := failed
    rw [Command.transaction, perform_store, guarded] at settled
    change (settle target (context.withCanonicalId id) env.databaseNow _ db).map _ = .error error at settled
    cases outcome : settle target (context.withCanonicalId id) env.databaseNow
        (freshRow target (context.withCanonicalId id) env.apiNow env.databaseNow body) db with
    | ok => rw [outcome] at settled; cases settled
    | error other =>
      rw [outcome] at settled
      cases settled
      rcases settle_error outcome with rfl | rfl
      · obtain ⟨row,member,key,digest⟩ := store_conflict_row failed
        exact .conflict member key digest
      · exact .outage
  · rw [store_refused closed] at failed
    cases failed
    refine .ungated fun two => ?_
    have occupancy := contract.room_occupancy body requested.valid
    simp only [storeGuard, requested.valid, occupancy, if_true, if_pos two] at closed
    cases closed

theorem pendingUpload_warranted {id : Uuid} {subject : Option VerifiedSubject}
    (failed : perform env.databaseNow ((Command.pendingUpload id subject).transaction contract env.apiNow) db =
      .error error) : Warranted db env.databaseNow (.pendingUpload id subject) error := by
  rw [Command.transaction, perform_pendingUpload] at failed
  split at failed
  · next missing =>
    cases failed
    exact .unlisted fun row member => Bool.eq_false_iff.mpr (List.find?_eq_none.mp missing row member)
  · cases failed

theorem verifyUpload_warranted {id : Uuid} {subject : Option VerifiedSubject} {digest : String}
    (formed : isDigest digest = true)
    (failed : perform env.databaseNow ((Command.verifyUpload id subject digest).transaction contract env.apiNow) db =
      .error error) : Warranted db env.databaseNow (.verifyUpload id subject digest) error := by
  rw [Command.transaction, perform_verifyUpload, if_pos formed] at failed
  split at failed
  · cases failed
  next several =>
  cases failed
  refine .unclaimed fun row member pending same => several (Table.count_eq_one member ?_ ?_)
  · simp [pending, same]
  · intro other chosen
    simp only [Row.isPending, Bool.and_eq_true, decide_eq_true_eq] at chosen pending
    exact chosen.1.1.1.1.trans pending.1.1.1.symm

end Commands

section Steps

variable {contract : Contract} {w : World} {i : Nat} {env : Env} {error : DataError}

/-- The row that a request was told of is acknowledged as a whole. -/
theorem told_acknowledges (reachable : Reachable contract w) {kind : StoredSubmissionKind} {context : SubmissionContext}
    {body : Create kind} {stored : Stored kind}
    (told : (⟨primaryLeg kind context body,.ok stored⟩ : Exchange Call Call.Answer) ∈ w.history i) :
    (w.store .primary).acknowledges kind stored.id context.payloadSha256 = true := by
  obtain ⟨row,holds⟩ := stored_row reachable told
  obtain ⟨item,listed,sort,named,hashed⟩ := (outboxed reachable).1.covered kind row holds.member
  rw [← holds.id, ← holds.payloadSha256]
  exact Database.acknowledges_row holds.member listed sort named hashed

/-- A failure that cannot be recorded has been recorded often enough. -/
theorem told_exhausted (reachable : Reachable contract w) {kind : StoredSubmissionKind} {context : SubmissionContext}
    {body : Create kind} {stored : Stored kind} {now : Timestamp} {errorCode : String}
    (told : (⟨primaryLeg kind context body,.ok stored⟩ : Exchange Call Call.Answer) ∈ w.history i)
    (refused : ¬(w.store .primary).retries kind stored.id = true) :
    Warranted (w.store .primary) now (.recordMirrorFailure kind stored.id errorCode) .invariant := by
  obtain ⟨row,holds⟩ := stored_row reachable told
  obtain ⟨item,listed,sort,named,-⟩ := (outboxed reachable).1.covered kind row holds.member
  refine .exhausted listed sort (named.trans holds.id) (Nat.not_lt.mp fun below => refused ?_)
  rw [← holds.id]
  exact Database.retries_row holds.member listed sort named below

/-- What a completion finds was declared with a digest. -/
theorem looked_digest (reachable : Reachable contract w) {connection : Connection} {id : Uuid}
    {subject : Option VerifiedSubject} {found : PendingUpload}
    (told : (⟨Completion.lookLeg id subject connection,.ok found⟩ : Exchange Call Call.Answer) ∈ w.history i) :
    isDigest found.expectedSha256 = true := by
  obtain ⟨row,member,-,-,rfl⟩ := looked_row reachable told
  obtain ⟨session,context,intent,wrote⟩ := written reachable member
  change isDigest row.payload.sha256 = true
  rw [wrote.payload]
  exact contract.upload_sha256 intent wrote.requested.valid

/-- The step: a call that fails has its reason in the database it is made to. -/
theorem asks_warranted (reachable : Reachable contract w) {arrival : Arrival} {connection : Connection}
    {command : Command} (asks : arrival.Asks contract (w.history i) (.persist connection command))
    (failed : perform env.databaseNow (command.transaction contract env.apiNow) (w.store connection) = .error error) :
    Warranted (w.store connection) env.databaseNow command error := by
  generalize called : Call.persist connection command = call at asks
  generalize followed : w.history i = history at asks
  cases asks with
  | create request admitted asks =>
    have requested : Requested contract arrival _ _ := ⟨request,admitted⟩
    cases asks with
    | primary => cases called; exact store_warranted requested _ failed
    | mirror => cases called; exact store_warranted requested _ failed
    | mark =>
      cases called
      have told := told_acknowledges reachable (followed ▸ List.mem_cons_of_mem _ List.mem_cons_self)
      rw [Command.transaction, perform_markMirrored, if_pos told] at failed
      cases failed
    | fail =>
      cases called
      have formed : isErrorCode "supabase_unavailable" = true := by decide +kernel
      rw [Command.transaction, perform_recordMirrorFailure, if_pos formed] at failed
      split at failed <;> cases failed
      next refused =>
      exact told_exhausted reachable (followed ▸ List.mem_cons_of_mem _ List.mem_cons_self) refused
    | sign => cases called
  | complete request admitted asks =>
    cases asks with
    | primary => cases called; exact pendingUpload_warranted failed
    | mirror => cases called; exact pendingUpload_warranted failed
    | object => cases called
    | verifyMirror found =>
      cases called
      have digest := looked_digest reachable (followed ▸ List.mem_cons_of_mem _ (List.mem_cons_of_mem _ List.mem_cons_self))
      exact verifyUpload_warranted (found.declared ▸ digest) failed
    | verifyPrimary found =>
      cases called
      have digest := looked_digest reachable (followed ▸
        List.mem_cons_of_mem _ (List.mem_cons_of_mem _ (List.mem_cons_of_mem _ List.mem_cons_self)))
      exact verifyUpload_warranted (found.declared ▸ digest) failed

theorem logged_warranted (reachable : Reachable contract w) {entry : Entry} (logged : entry ∈ w.log)
    {connection : Connection} {command : Command}
    (failed : entry.exchange = ⟨.persist connection command,.error error⟩) :
    Warranted (entry.before connection) entry.env.databaseNow command error := by
  obtain ⟨newer,older,split⟩ := List.append_of_mem logged
  obtain ⟨⟨earlier,owner,next,begun,there,store,-,-⟩,-⟩ := Server.log_made reachable newer entry older split
  have asks := asked begun there
  have told := Server.log_sound reachable entry logged
  obtain ⟨i,exchange,env,before⟩ := entry
  subst failed store
  rcases respond_failed told.symm with rfl | performed
  · exact .outage
  · exact asks_warranted begun asks performed

end Steps

/-- The ways in which an admitted completion stops short, each with its calls. -/
inductive Completion.Stops (id : Uuid) (subject : Option VerifiedSubject) (body : UploadCompleteCreate) :
    History → ApiFailure → Prop where
  | unlooked {error : DataError} : Stops id subject body [⟨lookLeg id subject .primary,.error error⟩] (.ofData error)
  | undeclared {primary : PendingUpload} :
      Stops id subject body [⟨lookLeg id subject .primary,.ok primary⟩] .conflict
  | uncopied {primary : PendingUpload} {error : DataError} (declared : body.sha256 = primary.expectedSha256) :
      Stops id subject body
        [⟨lookLeg id subject .supabase,.error error⟩,⟨lookLeg id subject .primary,.ok primary⟩] (.ofData error)
  | unlike {primary mirror : PendingUpload} :
      Stops id subject body
        [⟨lookLeg id subject .supabase,.ok mirror⟩,⟨lookLeg id subject .primary,.ok primary⟩] .conflict
  | mismatched {primary mirror : PendingUpload} {error : ExternalError} (found : Found body primary mirror) :
      Stops id subject body
        [⟨.verifyObject primary,.error error⟩,⟨lookLeg id subject .supabase,.ok mirror⟩,
          ⟨lookLeg id subject .primary,.ok primary⟩] (.ofExternal error)
  | unverifiedMirror {primary mirror : PendingUpload} {error : DataError} (found : Found body primary mirror) :
      Stops id subject body
        [⟨verifyLeg id subject .supabase body,.error error⟩,⟨.verifyObject primary,.ok ()⟩,
          ⟨lookLeg id subject .supabase,.ok mirror⟩,⟨lookLeg id subject .primary,.ok primary⟩] (.ofData error)
  | unverified {primary mirror : PendingUpload} {error : DataError} (found : Found body primary mirror) :
      Stops id subject body
        [⟨verifyLeg id subject .primary body,.error error⟩,⟨verifyLeg id subject .supabase body,.ok ()⟩,
          ⟨.verifyObject primary,.ok ()⟩, ⟨lookLeg id subject .supabase,.ok mirror⟩,
          ⟨lookLeg id subject .primary,.ok primary⟩] (.ofData error)

namespace Completion

variable {id : Uuid} {subject : Option VerifiedSubject} {body : UploadCompleteCreate}

theorem completeAdmitted_stops : (completeAdmitted id subject body).Obeys (fun _ _ => True)
    (fun history result => ∀ failure, result = .error failure → Stops id subject body history failure) [] := by
  refine ⟨trivial,fun looked => ?_⟩
  cases looked with
  | error error => rintro _ ⟨rfl⟩; exact .unlooked
  | ok primary =>
    change (Program.require _ _ >>= _ : Handler Receipt).Obeys _ _ _
    cases declared : decide (body.sha256 = primary.expectedSha256) with
    | false => rintro _ ⟨rfl⟩; exact .undeclared
    | true =>
      refine ⟨trivial,fun looked => ?_⟩
      cases looked with
      | error error => rintro _ ⟨rfl⟩; exact .uncopied (of_decide_eq_true declared)
      | ok mirror =>
        change (Program.require _ _ >>= _ : Handler Receipt).Obeys _ _ _
        cases same : sameUploadIdentity primary mirror with
        | false => rintro _ ⟨rfl⟩; exact .unlike
        | true =>
          have found : Found body primary mirror := ⟨of_decide_eq_true declared,same⟩
          refine ⟨trivial,fun matching => ?_⟩
          cases matching with
          | error error => rintro _ ⟨rfl⟩; exact .mismatched found
          | ok =>
            refine ⟨trivial,fun verified => ?_⟩
            cases verified with
            | error error => rintro _ ⟨rfl⟩; exact .unverifiedMirror found
            | ok =>
              refine ⟨trivial,fun verified => ?_⟩
              cases verified with
              | error error => rintro _ ⟨rfl⟩; exact .unverified found
              | ok => exact nofun

end Completion

section Responses

variable {contract : Contract} {w : World} {i : Nat} {arrival : Arrival} {id : Uuid}
variable {subject : Option VerifiedSubject} {body : UploadCompleteCreate}

theorem Completing.unique {id' : Uuid} {subject' : Option VerifiedSubject} {body' : UploadCompleteCreate}
    (completing : Completing contract arrival id subject body) (again : Completing contract arrival id' subject' body') :
    id = id' ∧ subject = subject' ∧ body = body' := by
  cases completing.request.symm.trans again.request
  cases completing.admitted.symm.trans again.admitted
  exact ⟨rfl,rfl,rfl⟩

theorem handle_stops (contract : Contract) (arrival : Arrival) : (handle contract arrival).Obeys (fun _ _ => True)
    (fun history result => ∀ id subject body, Completing contract arrival id subject body →
      ∀ failure, result = .error failure → Completion.Stops id subject body history failure) [] := by
  by_cases completes : ∃ id subject body, Completing contract arrival id subject body
  · obtain ⟨id,subject,body,completing⟩ := completes
    rw [handle_complete completing.request, completing.admitted]
    refine Completion.completeAdmitted_stops.mono (fun _ _ _ => trivial) ?_
    intro history result stops id' subject' body' again
    obtain ⟨rfl,rfl,rfl⟩ := completing.unique again
    exact stops
  · refine (handle_obeys contract arrival).mono (fun _ _ _ => trivial) ?_
    exact fun _ _ _ id subject body completing => absurd ⟨id,subject,body,completing⟩ completes

theorem stream_error {sizeBytes observed : Nat} {digest : List UInt8} {chunks : List (Except Unit (List UInt8))}
    {error : ExternalError} (failed : (stream sizeBytes observed digest chunks).failure = some error) :
    error ≠ .rejected := by
  induction chunks generalizing observed digest with
  | nil => cases failed
  | cons chunk rest ih =>
    cases chunk with
    | error => cases failed; simp
    | ok bytes =>
      rw [stream] at failed
      split at failed
      · cases failed; simp
      split at failed
      · cases failed; simp
      exact ih failed

/-- The storage is never answered for as a proof of the caller is. -/
theorem verifyObject_error {expected : PendingUpload} {answer : Except ExternalError ObjectResponse}
    {error : ExternalError} (sound : answer ≠ .error .rejected)
    (failed : verifyObject contract expected answer = .error error) : error ≠ .rejected := by
  unfold verifyObject at failed
  split at failed
  · cases failed; simp
  split at failed
  · cases failed; simp
  cases answer with
  | error other =>
    cases failed
    exact fun same => sound (congrArg _ same)
  | ok response =>
    dsimp only at failed
    split at failed
    · cases failed; simp
    split at failed
    · cases failed; simp
    split at failed
    · cases failed; simp
    unfold verifyBody at failed
    dsimp only at failed
    split at failed
    · next broken => cases failed; exact stream_error broken
    split at failed <;> cases failed
    simp

theorem createSignedUploadUrl_error {objectKey : String} {answer : Except ExternalError String} {error : ExternalError}
    (sound : answer ≠ .error .rejected) (failed : createSignedUploadUrl objectKey answer = .error error) :
    error ≠ .rejected := by
  rw [createSignedUploadUrl] at failed
  split at failed
  · exact fun same => sound (failed.trans (congrArg _ same))
  · cases failed; simp

theorem ApiFailure.ofExternal_after {error : ExternalError} (sound : error ≠ .rejected) :
    ApiFailure.ofExternal error = .conflict ∨ (ApiFailure.ofExternal error).status = 503 := by
  cases error with
  | rejected => exact absurd rfl sound
  | objectMismatch => exact .inl rfl
  | unavailable => exact .inr rfl
  | invalidResponse => exact .inr rfl

/-- How a failed command is answered for. -/
theorem Warranted.response {db : Database} {now : Timestamp} {command : Command} {error : DataError}
    (warranted : Warranted db now command error) :
    ApiFailure.ofData error = .conflict ∨ (ApiFailure.ofData error).status = 503 := by
  cases warranted with
  | outage => exact .inr rfl
  | conflict => exact .inl rfl
  | ungated => exact .inl rfl
  | unlisted => exact .inl rfl
  | unclaimed => exact .inl rfl
  | exhausted => exact .inr rfl

theorem told_response (reachable : Reachable contract w) {connection : Connection} {command : Command}
    {error : DataError} (told : (⟨.persist connection command,.error error⟩ : Exchange Call Call.Answer) ∈ w.history i) :
    ApiFailure.ofData error = .conflict ∨ (ApiFailure.ofData error).status = 503 := by
  obtain ⟨entry,logged,own,exchange⟩ := (World.mem_history w).mp told
  exact (logged_warranted reachable logged exchange).response

/-- The object storage does not answer in the words of Turnstile. -/
def StorageSound (w : World) (i : Nat) : Prop :=
  ∀ entry ∈ w.log, entry.session = i → entry.env.signedUrl ≠ .error .rejected ∧ entry.env.object ≠ .error .rejected

section Storage

variable (reachable : Reachable contract w) (storage : StorageSound w i)

include reachable storage in
theorem signed_response {objectKey : String} {error : ExternalError}
    (told : (⟨.createSignedUploadUrl objectKey,.error error⟩ : Exchange Call Call.Answer) ∈ w.history i) :
    ApiFailure.ofExternal error = .conflict ∨ (ApiFailure.ofExternal error).status = 503 := by
  obtain ⟨entry,logged,own,-,answer,-⟩ := answered reachable told
  exact ApiFailure.ofExternal_after (createSignedUploadUrl_error (storage entry logged own).1 answer)

include reachable storage in
theorem object_response {expected : PendingUpload} {error : ExternalError}
    (told : (⟨.verifyObject expected,.error error⟩ : Exchange Call Call.Answer) ∈ w.history i) :
    ApiFailure.ofExternal error = .conflict ∨ (ApiFailure.ofExternal error).status = 503 := by
  obtain ⟨entry,logged,own,-,answer,-⟩ := answered reachable told
  exact ApiFailure.ofExternal_after (verifyObject_error (storage entry logged own).2 answer)

include reachable storage in
theorem creation_response {kind : StoredSubmissionKind} {context : SubmissionContext} {body : Create kind}
    {failure : ApiFailure} (ends : Creation.Ends kind context body (w.history i) (.error failure)) :
    failure = .conflict ∨ failure.status = 503 := by
  generalize followed : w.history i = history at ends
  cases ends with
  | refused => exact told_response reachable (followed ▸ List.mem_cons_self)
  | unmirrored => exact .inr rfl
  | unmarked => exact .inr rfl
  | unsigned => exact signed_response reachable storage (followed ▸ List.mem_cons_self)

include reachable storage in
theorem completion_response {failure : ApiFailure}
    (stops : Completion.Stops id subject body (w.history i) failure) : failure = .conflict ∨ failure.status = 503 := by
  generalize followed : w.history i = history at stops
  cases stops with
  | undeclared => exact .inl rfl
  | unlike => exact .inl rfl
  | mismatched => exact object_response reachable storage (followed ▸ List.mem_cons_self)
  | _ => exact told_response reachable (followed ▸ List.mem_cons_self)

end Storage

end Responses

/-- Whatever a command fails with is an outage or stands in its database: no check that a request
has passed refuses it later. So what is refused after a first call is refused as a conflict. -/
theorem refusals_warranted {contract : Contract} {w : World} (reachable : Reachable contract w) :
    (∀ entry ∈ w.log, ∀ connection command error, entry.exchange = ⟨.persist connection command,.error error⟩ →
      Warranted (entry.before connection) entry.env.databaseNow command error) ∧
    ∀ i arrival failure, w.sessions[i]? = some ⟨arrival,.replied (.error failure)⟩ → StorageSound w i →
      w.history i = [] ∨ failure = .conflict ∨ failure.status = 503 := by
  refine ⟨fun entry logged connection command error failed => logged_warranted reachable logged failed,?_⟩
  intro i arrival failure here storage
  cases replied reachable here with
  | rejected untouched => exact .inl untouched
  | create _ _ ends => exact .inr (creation_response reachable storage ends)
  | complete request admitted =>
    have stops := Server.ended (handle_stops contract) reachable here _ _ _ ⟨request,admitted⟩ _ rfl
    exact .inr (completion_response reachable storage stops)

namespace Sample

/-- A completion that outlives the upload: both rows are found in time, the primary's is not verified
in time. -/
def lateCompleted : List (Event Env Arrival) :=
  completed.take 11 ++ [.advance 1 (calm (10 ^ 15)),.reply 1]

def keyless : Arrival :=
  { anonymous 3 with admission := { (anonymous 3).admission with idempotencyKey := none } }

end Sample

/-- The completion that comes too late is refused for what the primary holds, the request without a
key before it asks for anything. -/
theorem refusals_warranted_late :
    (∃ entry ∈ (outcome .sample (Sample.lateCompleted ++ [.arrive Sample.keyless,.reply 2])).log, entry.session = 1 ∧
      ∃ (subject : Option VerifiedSubject) (digest : String), ∀ row ∈ (entry.before .primary).table .upload,
        row.isPending entry.env.databaseNow 1 (subject.map VerifiedSubject.value) = true → row.payload.sha256 ≠ digest) ∧
    (outcome .sample (Sample.lateCompleted ++ [.arrive Sample.keyless,.reply 2])).history 2 = [] := by
  have facts : possible .sample (Sample.lateCompleted ++ [.arrive Sample.keyless,.reply 2]) = true ∧
      ((outcome .sample (Sample.lateCompleted ++ [.arrive Sample.keyless,.reply 2])).history 1).length = 5 ∧
      (outcome .sample (Sample.lateCompleted ++ [.arrive Sample.keyless,.reply 2])).sessions[1]?.bind Session.reply? =
        some (.error .conflict) ∧
      (outcome .sample (Sample.lateCompleted ++ [.arrive Sample.keyless,.reply 2])).sessions[2]?.bind Session.reply? =
        some (.error .invalid) ∧
      ∀ entry ∈ (outcome .sample (Sample.lateCompleted ++ [.arrive Sample.keyless,.reply 2])).log,
        entry.session ≠ 2 := by
    decide +kernel
  obtain ⟨ran,five,late,left,others⟩ := facts
  obtain ⟨warranted,answers⟩ := refusals_warranted (reachable_outcome ran)
  constructor
  · have here := @session_outcome .sample _ 1 (Sample.completion 1 .resume) _ ran rfl late
    have stops := Server.ended (handle_stops .sample) (reachable_outcome ran) here 1 none _ ⟨rfl,rfl⟩ _ rfl
    generalize followed : World.history _ 1 = history at stops five
    generalize failed : ApiFailure.conflict = failure at stops
    cases stops with
    | unverified =>
      obtain ⟨entry,logged,own,exchange⟩ := (World.mem_history _).mp (followed ▸ List.mem_cons_self)
      cases warranted entry logged _ _ _ exchange with
      | outage => cases congrArg ApiFailure.status failed
      | unclaimed absent => exact ⟨entry,logged,own,_,_,absent⟩
    | _ => cases five
  · have here := @session_outcome .sample _ 2 Sample.keyless _ ran rfl left
    rcases answers 2 _ _ here (fun entry logged own => absurd own (others entry logged)) with untouched | same | outage
    · exact untouched
    · cases congrArg ApiFailure.status same
    · cases outage

end IntakeApi
