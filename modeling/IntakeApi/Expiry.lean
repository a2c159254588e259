import IntakeApi.References
import IntakeApi.Retry

/-! Upload windows and the replay of applications: the gate stands before the replay, so
that a stored application is told again only while both its uploads are unexpired. -/
namespace IntakeApi

open Interaction Relational Transaction Service

namespace Database

def Owns (db : Database) (subject : Option String) (kind : UploadKind) (id : Uuid) : Prop :=
  ∃ row ∈ db.table .upload, row.id = id ∧ row.payload.kind = kind ∧ row.subject = subject ∧
    row.state.status = .verified

def Unexpired (db : Database) (now : Timestamp) (id : Uuid) : Prop :=
  ∃ row ∈ db.table .upload, row.id = id ∧ now < row.state.expiresAt

variable {db : Database} {now : Timestamp} {subject : Option String} {kind : UploadKind} {id : Uuid}

theorem HoldsVerified.owns (held : db.HoldsVerified now subject kind id) : db.Owns subject kind id := by
  obtain ⟨row,member,named,sort,owner,verified,-⟩ := held
  exact ⟨row,member,named,sort,owner,verified⟩

/-- Of an upload that is owned only the window is in question. -/
theorem Owns.holdsVerified_iff (owns : db.Owns subject kind id) :
    db.HoldsVerified now subject kind id ↔ db.Unexpired now id := by
  obtain ⟨row,member,named,sort,owner,verified⟩ := owns
  constructor
  · rintro ⟨other,there,named',-,-,-,unexpired⟩
    exact ⟨other,there,named',unexpired⟩
  · rintro ⟨other,there,named',unexpired⟩
    have same : other = row := Table.eq_of_id there member (named'.trans named.symm)
    exact ⟨row,member,named,sort,owner,verified,same ▸ unexpired⟩

end Database

theorem uploadObjectKey_kind {kind other : UploadKind} {a b : Uuid} {sha256 sha256' : String}
    (same : uploadObjectKey kind a sha256 = uploadObjectKey other b sha256') : kind = other := by
  have chars := congrArg String.toList same
  rw [uploadObjectKey_toList, uploadObjectKey_toList] at chars
  have tails := List.append_cancel_left chars
  injection tails with _ tails
  have resume : (uploadKind .resume).toList.head? = some 'r' := by decide
  have photoId : (uploadKind .photoId).toList.head? = some 'p' := by decide
  have heads := congrArg List.head? tails
  rw [List.head?_append, List.head?_append] at heads
  cases kind <;> cases other <;> first | rfl | simp [resume, photoId] at heads

section Twin

variable {contract : Contract} {w : World} (reachable : Reachable contract w)

include reachable in
/-- The mirror holds a verified upload of the primary under the same kind and owner. -/
theorem owned_copy {subject : Option String} {kind : UploadKind} {id : Uuid}
    (owns : (w.store .primary).Owns subject kind id) : (w.store .supabase).Owns subject kind id := by
  obtain ⟨row,member,rfl,rfl,rfl,verified⟩ := owns
  obtain ⟨_,_,_,_,_,_,_,_,verifying⟩ := verified_completion reachable member verified
  obtain ⟨held,there,id,owner,rfl⟩ := looked_row reachable verifying.looked
  obtain ⟨copy,copied,id',owner',rfl⟩ := looked_row reachable verifying.copied
  obtain ⟨done,listed,id'',verified'⟩ := verified_row reachable (verifying.mirrored rfl)
  have equal : row = held := Table.eq_of_id member there id.symm
  have equal' : done = copy := Table.eq_of_id listed copied (id''.trans id'.symm)
  subst equal equal'
  obtain ⟨-,key,-⟩ := sameUploadIdentity_true.mp verifying.found.same
  have keys : row.state.objectKey = done.state.objectKey := key
  rw [written_objectKey reachable member, written_objectKey reachable listed] at keys
  exact ⟨done,listed,id',(uploadObjectKey_kind keys).symm,owner'.trans owner.symm,verified'⟩

end Twin

def Database.InWindow (db : Database) (now : Timestamp) (input : ApplicationCreate) : Prop :=
  db.Unexpired now input.resumeUploadId ∧ db.Unexpired now input.photoIdUploadId

/-- Each store call of a session comes while both uploads are unexpired in its store. -/
def InTime (w : World) (i : Nat) (context : SubmissionContext) (body : Create .application) (id : Uuid) :
    Prop :=
  ∀ entry ∈ w.log, entry.session = i →
    (entry.exchange.1 = primaryLeg .application context body →
      (entry.before .primary).InWindow entry.env.databaseNow body.input) ∧
    (entry.exchange.1 = mirrorLeg .application context body id →
      (entry.before .supabase).InWindow entry.env.databaseNow body.input)

/-- Requests are not forgotten along a run. -/
theorem run_arrivals {contract : Contract} {w w' : World} {events : List (Event Env Arrival)}
    (run : Machine.Run (server contract).Step w events w')
    {session : Session Call Call.Answer Arrival ApiFailure Receipt} (member : session ∈ w.sessions) :
    ∃ later ∈ w'.sessions, later.arrival = session.arrival := by
  have grows := @Machine.Run.related _ _ (server contract).Step _ _ _ Server.Grows Server.grows_refl
    Server.grows_trans (Server.step_grows (server contract)) run
  obtain ⟨i,here⟩ := List.getElem?_of_mem member
  obtain ⟨later,there,same⟩ := grows.arrivals i session here
  exact ⟨later,List.mem_of_getElem? there,same⟩

namespace Retry

variable {contract : Contract} {row : Row .application} {context : SubmissionContext}
variable {body : Create .application} {w w' : World} {i : Nat}
variable {session : Session Call Call.Answer Arrival ApiFailure Receipt}
variable (retry : Retry contract row context body w w' i session)

include retry in
/-- A retry of an application names the uploads that the row refers to. -/
theorem same_uploads (free : CollisionFree contract w') :
    row.payload.resumeUploadId = body.input.resumeUploadId ∧
      row.payload.photoIdUploadId = body.input.photoIdUploadId := by
  obtain ⟨first,context',body',wrote⟩ := written retry.reachable retry.member
  obtain ⟨events,run⟩ := retry.run
  obtain ⟨later,there,arrived⟩ := run_arrivals run wrote.here
  have same : body'.input = body.input := by
    refine free .application body' body ⟨later,there,?_⟩ ⟨session,List.mem_of_getElem? retry.here,
      retry.requested.request⟩ ?_
    · rw [arrived, wrote.requested.request]
    · rw [← wrote.payloadSha256, ← retry.requested.digest, retry.digest]
  rw [wrote.payload, same]
  exact ⟨rfl,rfl⟩

include retry in
/-- Whenever the retry calls a store, both stores hold its uploads, verified and its own. -/
theorem owns_uploads (free : CollisionFree contract w') (owner : row.subject = context.subjectColumn)
    {entry : Entry} (logged : entry ∈ w'.log) (own : entry.session = i) (connection : Connection) :
    (entry.before connection).Owns context.subjectColumn .resume body.input.resumeUploadId ∧
      (entry.before connection).Owns context.subjectColumn .photoId body.input.photoIdUploadId := by
  obtain ⟨first,here,inserts⟩ := insertion retry.reachable .primary .application row retry.member
  obtain ⟨resume,photoId⟩ := inserted_uploads retry.reachable here inserts
  obtain ⟨resumes,photos⟩ := retry.same_uploads free
  rw [owner, resumes] at resume
  rw [owner, photos] at photoId
  have kept := retry.since logged own .primary
  have primary := And.intro (resume.later kept).owns (photoId.later kept).owns
  cases connection with
  | primary => exact primary
  | supabase =>
    obtain ⟨earlier,reachable,same⟩ := Server.log_reachable retry.reached entry logged
    rw [← same] at primary ⊢
    exact ⟨owned_copy reachable primary.1,owned_copy reachable primary.2⟩

include retry in
/-- The gate of a retry's store call is only a matter of time. -/
theorem gate_iff (free : CollisionFree contract w') (owner : row.subject = context.subjectColumn)
    {entry : Entry} (logged : entry ∈ w'.log) (own : entry.session = i) (connection : Connection)
    (id : Uuid) :
    storeGuard contract (context.withCanonicalId id) entry.env.databaseNow body (entry.before connection) =
        .ok () ↔ (entry.before connection).InWindow entry.env.databaseNow body.input := by
  obtain ⟨resume,photoId⟩ := retry.owns_uploads free owner logged own connection
  rw [application_guard retry.requested.valid]
  exact and_congr resume.holdsVerified_iff photoId.holdsVerified_iff

include retry in
theorem passes_iff (free : CollisionFree contract w') (owner : row.subject = context.subjectColumn) :
    Passes contract w' i context body row.id ↔ InTime w' i context body row.id := by
  refine forall_congr' fun entry => forall_congr' fun logged => forall_congr' fun own => and_congr ?_ ?_
  · refine imp_congr_right fun _ => ?_
    exact retry.gate_iff free owner logged own .primary context.canonicalId
  · refine imp_congr_right fun _ => ?_
    exact retry.gate_iff free owner logged own .supabase row.id

include retry in
/-- A retry that is answered with a 201 passed the gate in both stores. -/
theorem passes_of_created {receipt : Receipt} (finished : session.progress = .replied (.ok receipt)) :
    Passes contract w' i context body row.id := by
  obtain ⟨arrival,progress⟩ := session
  subst finished
  have ends := retry.requested.ends (replied retry.reached retry.here)
  have guarded {connection : Connection} {context' : SubmissionContext} {stored : Stored .application}
      {entry : Entry} (logged : entry ∈ w'.log) (told : entry.exchange =
        ⟨.persist connection (.store connection.target .application context' body),.ok stored⟩) :
      storeGuard contract context' entry.env.databaseNow body (entry.before connection) = .ok () := by
    have sound := Server.log_sound retry.reached entry logged
    obtain ⟨j,exchange,env,before⟩ := entry
    cases told
    obtain ⟨db,performed,-⟩ := respond_ok sound.symm
    exact (store_performed performed).1
  intro entry logged own
  have told : entry.exchange ∈ w'.history i := (World.mem_history w').mpr ⟨entry,logged,own,rfl⟩
  generalize w'.history i = history at ends told
  cases ends with
  | @accepted _ _ _ stored other receipt same reported =>
    simp only [List.mem_cons, List.not_mem_nil, or_false] at told
    rcases told with told | told | told
    · rw [told]
      refine ⟨fun called => ?_,fun called => ?_⟩ <;> cases called
    · have passed := @guarded .supabase _ _ _ logged told
      rw [told]
      refine ⟨fun called => (by cases called),fun called => ?_⟩
      have contexts : context.withCanonicalId stored.id = context.withCanonicalId row.id := by
        simpa [mirrorLeg] using called
      rwa [contexts] at passed
    · have passed := @guarded .primary _ _ _ logged told
      rw [told]
      exact ⟨fun _ => passed,fun called => by cases called⟩

end Retry

/-- A retry of a stored application is answered with a 201 just when it passes the gate of
each store once more, which for its owner is a matter of the windows of both uploads. -/
theorem application_retry {contract : Contract} {row : Row .application} {context : SubmissionContext}
    {body : Create .application} {w w' : World} {i : Nat}
    {session : Session Call Call.Answer Arrival ApiFailure Receipt}
    {result : Except ApiFailure Receipt} (retry : Retry contract row context body w w' i session)
    (finished : session.progress = .replied result) :
    ((∃ receipt, result = .ok receipt ∧ receipt.created = some (.application,row.id)) ↔
      Passes contract w' i context body row.id) ∧
    (CollisionFree contract w' → row.subject = context.subjectColumn →
      (Passes contract w' i context body row.id ↔ InTime w' i context body row.id)) := by
  refine ⟨⟨?_,?_⟩,retry.passes_iff⟩
  · rintro ⟨receipt,rfl,-⟩
    exact retry.passes_of_created finished
  · intro passes
    rcases retry.completes passes with cancelled | ⟨-,call,next,running⟩ | ⟨-,receipt,running | sent,repaired⟩
    · rw [cancelled] at finished
      cases finished
    · rw [running] at finished
      cases finished
    · rw [running] at finished
      cases finished
    · rw [sent] at finished
      cases finished
      exact ⟨receipt,rfl,repaired.created⟩

namespace Sample

/-- The application is accepted, and sent once more after three hours. -/
def late : List (Event Env Arrival) :=
  applied ++ [.advance 4 (calm 26),.reply 4,.arrive (applying 5),.advance 5 (calm (hours 3)),.reply 5]

/-- The two uploads have different digests, and there is one application. -/
theorem applying_free {w : World} (arrived : w.sessions.map Session.arrival =
      [intent 2 .resume,keyed "intake-key-000002" (intent 3 .photoId),completion 2 .resume,completion 3 .photoId,
        applying 4,applying 5]) : CollisionFree .sample w := by
  refine collisionFree_of_arrivals arrived fun a first b second kind x y asked asked' equal => ?_
  simp only [List.mem_cons, List.not_mem_nil, or_false] at first second
  rcases first with rfl | rfl | rfl | rfl | rfl | rfl <;> cases asked <;>
    rcases second with rfl | rfl | rfl | rfl | rfl | rfl <;> cases asked' <;>
    first | rfl | exact absurd equal uploads_apart | exact absurd equal.symm uploads_apart

theorem late_possible : possible .sample late = true := by decide +kernel

theorem late_free : CollisionFree .sample (outcome .sample late) := applying_free (sessions_outcome late_possible)

theorem late_retry : ∃ row : Row .application, row.id = 4 ∧ row.subject = none ∧
    Retry .sample row (@context 5 .application application) ⟨application,some "proof-one"⟩
      (outcome .sample applied) (outcome .sample late) 5 ⟨applying 5,.replied (.error .conflict)⟩ ∧
    (outcome .sample late).sessions[4]? =
      some ⟨applying 4,.replied (.ok (.submission ⟨4,.application,24,.stored,.stored⟩))⟩ := by
  have computed : possible .sample late = true ∧
      (∀ entry ∈ (outcome .sample late).log, entry.session = 5 →
        entry.exchange.1.undisturbed entry.env = true) ∧
      (outcome .sample late).sessions[5]?.bind Session.reply? = some (.error .conflict) ∧
      (outcome .sample late).sessions[4]?.bind Session.reply? =
        some (.ok (.submission ⟨4,.application,24,.stored,.stored⟩)) := by
    decide +kernel
  obtain ⟨ran,clear,left,accepted⟩ := computed
  obtain ⟨reached,rows⟩ := applied_possible
  obtain ⟨row,member,id,owner,key,digest⟩ := rows .primary (by decide)
  refine ⟨row,id,owner,?_,session_outcome ran rfl accepted⟩
  exact
    { reachable := reachable_outcome reached
      member := member
      run := ⟨_,run_outcome ran⟩
      later := Nat.le_of_eq (length_sessions_outcome reached)
      here := session_outcome ran rfl left
      requested := ⟨rfl,rfl⟩
      key := key.symm
      digest := digest.symm
      clear := clear }

end Sample

/-- For the owner of the row it is the time. -/
theorem application_retry_late : ∃ row : Row .application, row.id = 4 ∧
    row.subject = (@Sample.context 5 .application Sample.application).subjectColumn ∧
    ¬Passes .sample (outcome .sample Sample.late) 5 (@Sample.context 5 .application Sample.application)
      (⟨Sample.application,some "proof-one"⟩ : Create .application) row.id ∧
    ¬InTime (outcome .sample Sample.late) 5 (@Sample.context 5 .application Sample.application)
      (⟨Sample.application,some "proof-one"⟩ : Create .application) row.id := by
  obtain ⟨row,id,owner,retry,-⟩ := Sample.late_retry
  obtain ⟨answered,timed⟩ := application_retry retry rfl
  have late : ¬Passes .sample (outcome .sample Sample.late) 5 (@Sample.context 5 .application Sample.application)
      (⟨Sample.application,some "proof-one"⟩ : Create .application) row.id := by
    intro passes
    obtain ⟨receipt,created,-⟩ := answered.mpr passes
    cases created
  exact ⟨row,id,owner,late,fun intime => late ((timed Sample.late_free owner).mpr intime)⟩

/-- The owner of an accepted application sends it once more and gets a 409. -/
theorem application_retry_refused :
    ∃ (row : Row .application) (session : Session Call Call.Answer Arrival ApiFailure Receipt),
      Retry .sample row (@Sample.context 5 .application Sample.application)
        ⟨Sample.application,some "proof-one"⟩ (outcome .sample Sample.applied)
        (outcome .sample Sample.late) 5 session ∧
      row.subject = (@Sample.context 5 .application Sample.application).subjectColumn ∧
      session.progress = .replied (.error .conflict) ∧
      ∃ receipt, (outcome .sample Sample.late).sessions[4]? =
        some ⟨Sample.applying 4,.replied (.ok receipt)⟩ ∧ receipt.created = some (.application,row.id) := by
  obtain ⟨row,id,owner,retry,accepted⟩ := Sample.late_retry
  exact ⟨row,_,retry,owner,rfl,_,accepted,by rw [id]; rfl⟩

end IntakeApi
