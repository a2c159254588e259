import IntakeApi.Refinement
import IntakeApi.Verification

/-! The upload part of `formal/intake_api.qnt`. One upload is looked at through the eyes of the
formal machine, in any run of any requests. -/
namespace IntakeApi

open Interaction Relational Service

/-- What gets done for an upload, in the order of the formal machine. -/
inductive Milestone where
  | primaryIntent
  | mirrorIntent
  | identityMatched
  | objectVerified
  | mirrorVerified
  | primaryVerified
  deriving DecidableEq, Repr

def Milestone.action : Milestone → Formal.Action
  | .primaryIntent => .createUploadPrimaryIntent
  | .mirrorIntent => .createUploadMirrorIntent
  | .identityMatched => .matchUploadIdentity
  | .objectVerified => .verifyStorageObject
  | .mirrorVerified => .verifyUploadMirror
  | .primaryVerified => .verifyUploadPrimary

def Call.milestone : Call → Option Milestone
  | .persist .primary (.store _ .upload _ _) => some .primaryIntent
  | .persist .supabase (.store _ .upload _ _) => some .mirrorIntent
  | .persist .supabase (.pendingUpload ..) => some .identityMatched
  | .verifyObject _ => some .objectVerified
  | .persist .supabase (.verifyUpload ..) => some .mirrorVerified
  | .persist .primary (.verifyUpload ..) => some .primaryVerified
  | _ => none

section Observed

variable (db : Database) (id : Uuid)

def Database.HasUpload : Prop := ∃ row ∈ (db.table .upload).rows, row.id = id

def Database.HasVerified : Prop := ∃ row ∈ (db.table .upload).rows, row.id = id ∧ row.state.status = .verified

instance : Decidable (db.HasUpload id) :=
  inferInstanceAs (Decidable (∃ row ∈ (db.table .upload).rows, row.id = id))

instance : Decidable (db.HasVerified id) :=
  inferInstanceAs (Decidable (∃ row ∈ (db.table .upload).rows, row.id = id ∧ row.state.status = .verified))

def UploadStatus.formal : UploadStatus → Formal.UploadStatus
  | .pending | .uploaded => .pending
  | .verified => .verified
  | .rejected => .rejected

def Database.uploadStatus : Formal.UploadStatus :=
  match (db.table .upload).rows.find? fun row => row.id = id with
  | none => .absent
  | some row => row.state.status.formal

/-- What a look at the upload in one of the stores found. -/
def foundIn (connection : Connection) : Exchange Call Call.Answer → Option PendingUpload
  | ⟨.persist other (.pendingUpload uploadId _),.ok found⟩ =>
    if other = connection ∧ uploadId = id then some found else none
  | _ => none

/-- Both looks of a completion found the upload, as the same object. -/
def matchedIn (history : History) : Bool :=
  history.any fun first => history.any fun second =>
    match foundIn id .primary first, foundIn id .supabase second with
    | some primary, some mirror => sameUploadIdentity primary mirror
    | _, _ => false

def readOf : Exchange Call Call.Answer → Bool
  | ⟨.verifyObject expected,.ok ()⟩ => expected.id = id
  | _ => false

variable (w : World)

def reached : Milestone → Bool
  | .primaryIntent => decide ((w.store .primary).HasUpload id)
  | .mirrorIntent => decide ((w.store .supabase).HasUpload id)
  | .identityMatched => w.log.any fun entry => matchedIn id (w.history entry.session)
  | .objectVerified => w.log.any fun entry => readOf id entry.exchange
  | .mirrorVerified => decide ((w.store .supabase).HasVerified id)
  | .primaryVerified => decide ((w.store .primary).HasVerified id)

/-- A completion of the upload that got its 200. -/
def completedFor (session : Session Call Call.Answer Arrival ApiFailure Receipt) : Bool :=
  match session.progress with
  | .replied (.ok (.uploadCompletion receipt)) => receipt.uploadId = id
  | _ => false

end Observed

/-- The context of an upload intent that is admitted and draws the id. -/
def Arrival.intendedAs (contract : Contract) (id : Uuid) (arrival : Arrival) : Option SubmissionContext :=
  match arrival.request with
  | .create .upload body =>
    match admitCreate contract arrival body with
    | .error _ => none
    | .ok context => if context.canonicalId = id then some context else none
  | _ => none

def firstIntended (contract : Contract) (id : Uuid) (sessions : Sessions) : Option SubmissionContext :=
  sessions.findSome? fun session => session.arrival.intendedAs contract id

section View

variable (first : Option SubmissionContext) (reached : Milestone → Bool)

/-- The state of the formal machine with the given milestones. -/
def uploadView (status : Formal.UploadStatus) (issued : Bool) : Formal.State :=
  { flags first false with
    uploadStatus := status
    uploadPrimaryIntent := reached .primaryIntent
    uploadMirrorIntent := reached .mirrorIntent
    uploadIdentityMatched := reached .identityMatched
    uploadObjectVerified := reached .objectVerified
    uploadMirrorVerified := reached .mirrorVerified
    uploadPrimaryVerified := reached .primaryVerified
    uploadReceiptIssued := issued }

def statusOf : Formal.UploadStatus :=
  if reached .primaryVerified then .verified else if reached .primaryIntent then .pending else .absent

def Milestone.ready : Milestone → Bool
  | .primaryIntent => first.isSome && !reached .primaryVerified
  | .mirrorIntent => reached .primaryIntent
  | .identityMatched => reached .primaryIntent && reached .mirrorIntent
  | .objectVerified => reached .primaryIntent && reached .identityMatched && !reached .primaryVerified
  | .mirrorVerified => reached .objectVerified
  | .primaryVerified => reached .mirrorVerified

/-- A milestone whose turn it is is a step of the formal machine. -/
theorem milestone_step (issued : Bool) {milestone : Milestone} (missing : reached milestone = false)
    (turn : milestone.ready first reached = true) :
    Formal.Step (uploadView first reached (statusOf reached) issued) milestone.action
      (uploadView first (Function.update reached milestone true) (statusOf (Function.update reached milestone true))
        issued) := by
  cases milestone <;> simp only [Milestone.ready, Bool.and_eq_true, Bool.not_eq_true'] at turn <;>
    refine ⟨?_,?_⟩ <;>
    simp [uploadView, flags, statusOf, Milestone.action, Formal.Action.guard, Formal.Action.effect, missing, turn]

end View

/-- One upload of a run as the formal machine has it. -/
def uploadProgress (contract : Contract) (id : Uuid) (w : World) : Formal.State :=
  uploadView (firstIntended contract id w.sessions) (reached id w) ((w.store .primary).uploadStatus id)
    (w.sessions.any (completedFor id))

section Rows

variable {db later : Database} {id : Uuid}

theorem Database.HasVerified.stored (verified : db.HasVerified id) : db.HasUpload id := by
  obtain ⟨row,member,named,-⟩ := verified
  exact ⟨row,member,named⟩

theorem Database.HasUpload.kept (stored : db.HasUpload id) (kept : db.Retains later) : later.HasUpload id := by
  obtain ⟨row,member,named⟩ := stored
  obtain ⟨row',here,continues⟩ := kept .upload row member
  exact ⟨row',here,continues.id.trans named⟩

theorem Database.HasVerified.kept (verified : db.HasVerified id) (kept : db.Retains later) :
    later.HasVerified id := by
  obtain ⟨row,member,named,done⟩ := verified
  obtain ⟨row',here,continues⟩ := kept .upload row member
  obtain ⟨-,-,status,-⟩ := continues.state
  exact ⟨row',here,continues.id.trans named,status done⟩

/-- No status but these two is ever written, so the rows tell the milestones. -/
theorem Database.uploadStatus_eq (written : ∀ row ∈ db.table .upload,
    row.state.status = .pending ∨ row.state.status = .verified) : db.uploadStatus id =
      if db.HasVerified id then .verified else if db.HasUpload id then .pending else .absent := by
  unfold Database.uploadStatus
  split
  · next missing =>
    have absent : ¬db.HasUpload id := by
      rintro ⟨row,member,named⟩
      exact List.find?_eq_none.mp missing row member (decide_eq_true named)
    rw [if_neg fun verified => absent verified.stored, if_neg absent]
  · next row found =>
    have named := List.find?_some found
    simp only [decide_eq_true_eq] at named
    have member : row ∈ db.table .upload := List.mem_of_find?_eq_some found
    rcases written row member with pending | verified
    · have unverified : ¬db.HasVerified id := by
        rintro ⟨other,there,same,done⟩
        have equal := Table.eq_of_id (Table.mem_rows.mpr there) member (same.trans named.symm)
        rw [equal, pending] at done
        cases done
      rw [if_neg unverified, if_pos ⟨row,member,named⟩, pending]
      rfl
    · rw [if_pos ⟨row,member,named,verified⟩, verified]
      rfl

theorem Database.Rewrites.stored (rewrites : db.Rewrites later) (stored : later.HasUpload id) :
    db.HasUpload id := by
  obtain ⟨row,member,named⟩ := stored
  obtain ⟨before,here,continues⟩ := rewrites.rows .upload row member
  exact ⟨before,here,continues.id.symm.trans named⟩

end Rows

section Changes

variable {contract : Contract} {env : Env} {arrival : Arrival} {history : History} {old stores : Stores}
variable {call : Call} {id : Uuid} {connection : Connection}

theorem intendedAs_some {context : SubmissionContext} {body : Create .upload}
    (requested : Requested contract arrival body context) :
    arrival.intendedAs contract context.canonicalId = some context := by
  obtain ⟨admission,drawn,request⟩ := arrival
  have equal := requested.request
  change request = _ at equal
  subst equal
  simp only [Arrival.intendedAs, requested.admitted, if_true]

/-- The upload that an insertion adds. -/
theorem Inserted.upload {target : PersistenceTarget} {kind : StoredSubmissionKind} {context : SubmissionContext}
    {apiNow now : Timestamp} {body : Create kind} {db db' : Database}
    (inserted : Inserted target context now (freshRow target context apiNow now body) db db')
    (stored : db'.HasUpload id) (missing : ¬db.HasUpload id) : kind = .upload ∧ context.canonicalId = id := by
  obtain ⟨row,member,named⟩ := stored
  rcases (Database.mem_inserted inserted).mp member with equal | before
  · cases equal
    exact ⟨rfl,(freshRow_id ..).symm.trans named⟩
  · exact absurd ⟨row,before,named⟩ missing

/-- An upload appears in the primary under the id its own intent drew, and in the mirror under
the id that the primary reported. -/
theorem Change.appears (change : Change contract env arrival history old call stores)
    (stored : (stores connection).HasUpload id) (missing : ¬(old connection).HasUpload id) :
    (connection = .primary ∧ call.milestone = some .primaryIntent ∧
      (arrival.intendedAs contract id).isSome = true) ∨
    (connection = .supabase ∧ call.milestone = some .mirrorIntent ∧
      ∃ (context : SubmissionContext) (body : Create .upload) (told : Stored .upload),
        history = [⟨primaryLeg .upload context body,.ok told⟩] ∧ told.id = id) := by
  have elsewhere {other : Connection} {db : Database} (apart : connection ≠ other)
      (stored : (Function.update old other db connection).HasUpload id) : False := by
    rw [Function.update_of_ne apart] at stored
    exact missing stored
  have rewritten {other : Connection} {db : Database} (rewrites : (old other).Rewrites db)
      (stored : (Function.update old other db connection).HasUpload id) : False := by
    by_cases same : connection = other
    · subst same
      rw [Function.update_self] at stored
      exact missing (rewrites.stored stored)
    · exact elsewhere same stored
  cases change with
  | accept requested followed guarded inserted =>
    cases connection with
    | supabase => exact (elsewhere (by decide) stored).elim
    | primary =>
      rw [Function.update_self] at stored
      obtain ⟨rfl,rfl⟩ := inserted.upload stored missing
      exact .inl ⟨rfl,rfl,by rw [intendedAs_some requested]; rfl⟩
  | @copy kind body context told db requested followed guarded inserted =>
    cases connection with
    | primary => exact (elsewhere (by decide) stored).elim
    | supabase =>
      rw [Function.update_self] at stored
      obtain ⟨rfl,rfl⟩ := inserted.upload stored missing
      exact .inr ⟨rfl,rfl,context,body,told,followed,rfl⟩
  | mark => exact (rewritten (Database.mirrored_rewrites ..) stored).elim
  | fail => exact (rewritten (Database.failed_rewrites ..) stored).elim
  | verify => exact (rewritten (Database.verifyUpload_rewrites ..) stored).elim

theorem Change.verifies (change : Change contract env arrival history old call stores)
    (verified : (stores connection).HasVerified id) (missing : ¬(old connection).HasVerified id) :
    ∃ (subject : Option VerifiedSubject) (body : UploadCompleteCreate),
      call = Completion.verifyLeg id subject connection body := by
  obtain ⟨row,member,rfl,done⟩ := verified
  rcases change.verified member done with ⟨before,there,continues,was⟩ | called
  · exact absurd ⟨before,there,continues.id.symm,was⟩ missing
  · exact called

end Changes

section Exchanges

variable {id : Uuid} {history : History} {exchange : Exchange Call Call.Answer} {connection : Connection}

theorem foundIn_some {found : PendingUpload} : foundIn id connection exchange = some found ↔
    ∃ subject, exchange = ⟨Completion.lookLeg id subject connection,.ok found⟩ := by
  constructor
  · intro looked
    unfold foundIn at looked
    split at looked
    · next other uploadId subject value =>
      split at looked
      · next same =>
        obtain ⟨rfl,rfl⟩ := same
        cases looked
        exact ⟨subject,rfl⟩
      · cases looked
    · cases looked
  · rintro ⟨subject,rfl⟩
    simp only [foundIn, Completion.lookLeg, and_self, if_true]

theorem matchedIn_true : matchedIn id history = true ↔
    ∃ (subject subject' : Option VerifiedSubject) (primary mirror : PendingUpload),
      (⟨Completion.lookLeg id subject .primary,.ok primary⟩ : Exchange Call Call.Answer) ∈ history ∧
      (⟨Completion.lookLeg id subject' .supabase,.ok mirror⟩ : Exchange Call Call.Answer) ∈ history ∧
      sameUploadIdentity primary mirror = true := by
  constructor
  · intro matched
    obtain ⟨first,member,matched⟩ := List.any_eq_true.mp matched
    obtain ⟨second,member',both⟩ := List.any_eq_true.mp matched
    split at both
    · next primary mirror looked looked' =>
      obtain ⟨subject,rfl⟩ := foundIn_some.mp looked
      obtain ⟨subject',rfl⟩ := foundIn_some.mp looked'
      exact ⟨subject,subject',primary,mirror,member,member',both⟩
    · cases both
  · rintro ⟨subject,subject',primary,mirror,member,member',same⟩
    refine List.any_eq_true.mpr ⟨_,member,List.any_eq_true.mpr ⟨_,member',?_⟩⟩
    rw [foundIn_some.mpr ⟨subject,rfl⟩, foundIn_some.mpr ⟨subject',rfl⟩]
    exact same

theorem readOf_true : readOf id exchange = true ↔
    ∃ expected, exchange = ⟨.verifyObject expected,.ok ()⟩ ∧ expected.id = id := by
  constructor
  · intro read
    unfold readOf at read
    split at read
    · next expected => exact ⟨expected,rfl,of_decide_eq_true read⟩
    · cases read
  · rintro ⟨expected,rfl,named⟩
    exact decide_eq_true named

variable {w : World}

theorem matched_true : reached id w .identityMatched = true ↔ ∃ i, matchedIn id (w.history i) = true := by
  constructor
  · intro matched
    obtain ⟨entry,-,matched⟩ := List.any_eq_true.mp matched
    exact ⟨entry.session,matched⟩
  · rintro ⟨i,matched⟩
    obtain ⟨_,_,_,_,looked,-⟩ := matchedIn_true.mp matched
    obtain ⟨entry,logged,rfl,-⟩ := (World.mem_history w).mp looked
    exact List.any_eq_true.mpr ⟨entry,logged,matched⟩

theorem read_true : reached id w .objectVerified = true ↔ ∃ i expected,
    (⟨.verifyObject expected,.ok ()⟩ : Exchange Call Call.Answer) ∈ w.history i ∧ expected.id = id := by
  constructor
  · intro read
    obtain ⟨entry,logged,read⟩ := List.any_eq_true.mp read
    obtain ⟨expected,same,named⟩ := readOf_true.mp read
    exact ⟨entry.session,expected,(World.mem_history w).mpr ⟨entry,logged,rfl,same⟩,named⟩
  · rintro ⟨i,expected,read,named⟩
    obtain ⟨entry,logged,-,same⟩ := (World.mem_history w).mp read
    exact List.any_eq_true.mpr ⟨entry,logged,readOf_true.mpr ⟨expected,same,named⟩⟩

end Exchanges

section Reached

variable {contract : Contract} {w : World} (reachable : Reachable contract w) {id : Uuid}

include reachable in
theorem upload_eq : uploadProgress contract id w = uploadView (firstIntended contract id w.sessions) (reached id w)
    (statusOf (reached id w)) (w.sessions.any (completedFor id)) := by
  rw [uploadProgress, Database.uploadStatus_eq (upload_status reachable .primary)]
  simp only [statusOf, reached, decide_eq_true_eq]

/-- The id of an upload that a completion looked at. -/
theorem looked_id (reachable : Reachable contract w) {i : Nat} {subject : Option VerifiedSubject}
    {connection : Connection} {found : PendingUpload}
    (looked : (⟨Completion.lookLeg id subject connection,.ok found⟩ : Exchange Call Call.Answer) ∈ w.history i) :
    found.id = id ∧ (w.store connection).HasUpload id := by
  obtain ⟨row,member,named,-,rfl⟩ := looked_row reachable looked
  exact ⟨named,row,member,named⟩

include reachable in
/-- An upload that is verified in a store was read before. -/
theorem verified_read {connection : Connection} (verified : (w.store connection).HasVerified id) :
    reached id w .objectVerified = true := by
  obtain ⟨row,member,rfl,done⟩ := verified
  obtain ⟨i,_,_,_,primary,_,_,_,verifying⟩ := verified_completion reachable member done
  exact read_true.mpr ⟨i,primary,verifying.read,(looked_id reachable verifying.looked).1⟩

end Reached

section Advance

variable {contract : Contract} {w : World} {id : Uuid} {i : Nat} {arrival : Arrival} {call : Call}
variable {next : call.Answer → Handler Receipt} {env : Env}

def World.answer (contract : Contract) (w : World) (i : Nat) (arrival : Arrival) (env : Env) (call : Call)
    (next : call.Answer → Handler Receipt) : World :=
  w.advance i arrival env call next (respond contract env call w.store).1 (respond contract env call w.store).2

theorem history_answer_same : (w.answer contract i arrival env call next).history i =
    ⟨call,(respond contract env call w.store).1⟩ :: w.history i := by
  simp [World.answer, World.advance, World.history]

theorem history_answer_other {j : Nat} (other : j ≠ i) :
    (w.answer contract i arrival env call next).history j = w.history j := by
  simp [World.answer, World.advance, World.history, Ne.symm other]

theorem mem_history_answer {j : Nat} {exchange : Exchange Call Call.Answer}
    (member : exchange ∈ (w.answer contract i arrival env call next).history j) :
    (j = i ∧ exchange = ⟨call,(respond contract env call w.store).1⟩) ∨ exchange ∈ w.history j := by
  by_cases same : j = i
  · subst same
    rw [history_answer_same] at member
    exact (List.mem_cons.mp member).imp_left fun equal => ⟨rfl,equal⟩
  · rw [history_answer_other same] at member
    exact .inr member

theorem history_answer_kept {j : Nat} {exchange : Exchange Call Call.Answer}
    (member : exchange ∈ w.history j) : exchange ∈ (w.answer contract i arrival env call next).history j := by
  by_cases same : j = i
  · subst same
    rw [history_answer_same]
    exact List.mem_cons_of_mem _ member
  · rwa [history_answer_other same]

variable (reachable : Reachable contract w)
variable (here : w.sessions[i]? = some ⟨arrival,.running (.call call next)⟩)

/-- No milestone is lost. -/
theorem milestone_kept {milestone : Milestone} (done : reached id w milestone = true) :
    reached id (w.answer contract i arrival env call next) milestone = true := by
  have retained := respond_retains contract env call w.store
  cases milestone with
  | primaryIntent => exact decide_eq_true ((of_decide_eq_true done : Database.HasUpload _ _).kept (retained _))
  | mirrorIntent => exact decide_eq_true ((of_decide_eq_true done : Database.HasUpload _ _).kept (retained _))
  | identityMatched =>
    obtain ⟨j,matched⟩ := matched_true.mp done
    obtain ⟨subject,subject',primary,mirror,looked,looked',same⟩ := matchedIn_true.mp matched
    exact matched_true.mpr ⟨j,matchedIn_true.mpr ⟨subject,subject',primary,mirror,history_answer_kept looked,
      history_answer_kept looked',same⟩⟩
  | objectVerified =>
    obtain ⟨j,expected,read,named⟩ := read_true.mp done
    exact read_true.mpr ⟨j,expected,history_answer_kept read,named⟩
  | mirrorVerified => exact decide_eq_true ((of_decide_eq_true done : Database.HasVerified _ _).kept (retained _))
  | primaryVerified => exact decide_eq_true ((of_decide_eq_true done : Database.HasVerified _ _).kept (retained _))

/-- The primary is looked at before anything else is done. -/
theorem Arrival.Asks.first_look {history : History} {subject : Option VerifiedSubject}
    (asks : arrival.Asks contract history (Completion.lookLeg id subject .primary)) : history = [] := by
  generalize looked : Completion.lookLeg id subject .primary = leg at asks
  cases asks with
  | create _ _ asks => cases asks <;> cases looked
  | complete _ _ asks => cases asks <;> first | rfl | cases looked

/-- The object is read after both looks. -/
theorem Arrival.Asks.reading {history : History} {expected : PendingUpload}
    (asks : arrival.Asks contract history (.verifyObject expected)) :
    ∃ (id : Uuid) (subject : Option VerifiedSubject) (mirror : PendingUpload),
      (⟨Completion.lookLeg id subject .primary,.ok expected⟩ : Exchange Call Call.Answer) ∈ history ∧
      (⟨Completion.lookLeg id subject .supabase,.ok mirror⟩ : Exchange Call Call.Answer) ∈ history ∧
      sameUploadIdentity expected mirror = true := by
  generalize read : Call.verifyObject expected = leg at asks
  cases asks with
  | create _ _ asks => cases asks <;> cases read
  | @complete other _ subject _ _ asks =>
    cases asks with
    | object found =>
      cases read
      exact ⟨other,subject,_,by simp,by simp,found.same⟩
    | _ => cases read

include reachable here

/-- Uploads appear in the order of the stores. -/
theorem intent_origin {connection : Connection} (missing : ¬(w.store connection).HasUpload id)
    (stored : ((w.answer contract i arrival env call next).store connection).HasUpload id) :
    (connection = .primary ∧ call.milestone = some .primaryIntent ∧
      (firstIntended contract id w.sessions).isSome = true) ∨
    (connection = .supabase ∧ call.milestone = some .mirrorIntent ∧ (w.store .primary).HasUpload id) := by
  have change := (answered_change (asked reachable here) env w.store).resolve_left fun quiet => by
    change ((respond contract env call w.store).2 connection).HasUpload id at stored
    rw [quiet] at stored
    exact missing stored
  rcases change.appears stored missing with ⟨sort,made,intended⟩ | ⟨sort,made,context,body,told,followed,named⟩
  · exact .inl ⟨sort,made,List.findSome?_isSome_iff.mpr ⟨_,List.mem_of_getElem? here,intended⟩⟩
  · have answered : (⟨primaryLeg .upload context body,.ok told⟩ : Exchange Call Call.Answer) ∈ w.history i := by
      rw [followed]
      exact List.mem_cons_self
    obtain ⟨row,holds⟩ := stored_row reachable answered
    exact .inr ⟨sort,made,row,holds.member,holds.id.trans named⟩

/-- The second look matches the identity. -/
theorem matched_origin (missing : reached id w .identityMatched = false)
    (done : reached id (w.answer contract i arrival env call next) .identityMatched = true) :
    call.milestone = some .identityMatched ∧ (w.store .primary).HasUpload id ∧ (w.store .supabase).HasUpload id := by
  have later : Reachable contract (w.answer contract i arrival env call next) := reachable.next (.advance env here)
  obtain ⟨j,matched⟩ := matched_true.mp done
  obtain ⟨subject,subject',primary,mirror,looked,looked',same⟩ := matchedIn_true.mp matched
  rcases mem_history_answer looked with ⟨rfl,equal⟩ | old
  · have called := congrArg Sigma.fst equal
    subst called
    have nothing := (asked reachable here).first_look
    rcases mem_history_answer looked' with ⟨-,equal'⟩ | old'
    · cases congrArg Sigma.fst equal'
    · rw [nothing] at old'
      cases old'
  · rcases mem_history_answer looked' with ⟨rfl,equal'⟩ | old'
    · have called := congrArg Sigma.fst equal'
      subst called
      refine ⟨rfl,(looked_id reachable old).2,?_⟩
      by_contra absent
      rcases intent_origin reachable here absent (looked_id later looked').2 with ⟨-,made,-⟩ | ⟨-,made,-⟩ <;>
        cases made
    · rw [matched_true.mpr ⟨j,matchedIn_true.mpr ⟨subject,subject',primary,mirror,old,old',same⟩⟩] at missing
      cases missing

theorem read_origin (missing : reached id w .objectVerified = false)
    (done : reached id (w.answer contract i arrival env call next) .objectVerified = true) :
    call.milestone = some .objectVerified ∧ (w.store .primary).HasUpload id ∧
      reached id w .identityMatched = true := by
  obtain ⟨j,expected,read,named⟩ := read_true.mp done
  rcases mem_history_answer read with ⟨rfl,equal⟩ | old
  · have called := congrArg Sigma.fst equal
    subst called
    obtain ⟨other,subject,mirror,looked,looked',same⟩ := (asked reachable here).reading
    obtain ⟨rfl,stored⟩ := looked_id reachable looked
    subst named
    exact ⟨rfl,stored,matched_true.mpr ⟨j,matchedIn_true.mpr ⟨_,_,_,_,looked,looked',same⟩⟩⟩
  · rw [read_true.mpr ⟨j,expected,old,named⟩] at missing
    cases missing

/-- A store is told that an upload is verified after the object was read, and the primary after
the mirror. -/
theorem verified_origin {connection : Connection} (missing : ¬(w.store connection).HasVerified id)
    (verified : ((w.answer contract i arrival env call next).store connection).HasVerified id) :
    (∃ (subject : Option VerifiedSubject) (body : UploadCompleteCreate),
      call = Completion.verifyLeg id subject connection body) ∧
    reached id w .objectVerified = true ∧ (connection = .primary → (w.store .supabase).HasVerified id) := by
  have change := (answered_change (asked reachable here) env w.store).resolve_left fun quiet => by
    change ((respond contract env call w.store).2 connection).HasVerified id at verified
    rw [quiet] at verified
    exact missing verified
  obtain ⟨subject,body,called⟩ := change.verifies verified missing
  refine ⟨⟨subject,body,called⟩,?_⟩
  have asks := asked reachable here
  rw [called] at asks
  cases asks with
  | create _ _ asks => exact (asks.not_verifying rfl).elim
  | complete _ _ asks =>
    obtain ⟨rfl,rfl,primary,mirror,verifying⟩ := asks.verifying rfl
    refine ⟨read_true.mpr ⟨i,primary,verifying.read,(looked_id reachable verifying.looked).1⟩,fun same => ?_⟩
    obtain ⟨row,member,named,done⟩ := verified_row reachable (verifying.mirrored same)
    exact ⟨row,member,named,done⟩

/-- What is reached by a call is the one milestone of that call, and its turn has come. -/
theorem milestone_origin {milestone : Milestone} (missing : reached id w milestone = false)
    (done : reached id (w.answer contract i arrival env call next) milestone = true) :
    call.milestone = some milestone ∧
      milestone.ready (firstIntended contract id w.sessions) (reached id w) = true := by
  have unverified (unread : reached id w .objectVerified = false) {connection : Connection} :
      ¬(w.store connection).HasVerified id := by
    intro verified
    rw [verified_read reachable verified] at unread
    cases unread
  cases milestone with
  | primaryIntent =>
    have absent : ¬(w.store .primary).HasUpload id := of_decide_eq_false missing
    rcases intent_origin reachable here absent (of_decide_eq_true done) with ⟨-,made,intended⟩ | ⟨other,-⟩
    · have pending : ¬(w.store .primary).HasVerified id := fun verified => absent verified.stored
      exact ⟨made,by simp [Milestone.ready, reached, intended, pending]⟩
    · cases other
  | mirrorIntent =>
    rcases intent_origin reachable here (of_decide_eq_false missing) (of_decide_eq_true done) with
      ⟨other,-⟩ | ⟨-,made,stored⟩
    · cases other
    · exact ⟨made,decide_eq_true stored⟩
  | identityMatched =>
    obtain ⟨made,stored,copied⟩ := matched_origin reachable here missing done
    exact ⟨made,by simp [Milestone.ready, reached, stored, copied]⟩
  | objectVerified =>
    obtain ⟨made,stored,matched⟩ := read_origin reachable here missing done
    have pending : ¬(w.store .primary).HasVerified id := unverified missing
    refine ⟨made,?_⟩
    simp only [Milestone.ready, matched, Bool.and_true]
    simp [reached, stored, pending]
  | mirrorVerified =>
    obtain ⟨⟨subject,body,rfl⟩,read,-⟩ :=
      verified_origin reachable here (of_decide_eq_false missing) (of_decide_eq_true done)
    exact ⟨rfl,read⟩
  | primaryVerified =>
    obtain ⟨⟨subject,body,rfl⟩,-,copied⟩ :=
      verified_origin reachable here (of_decide_eq_false missing) (of_decide_eq_true done)
    exact ⟨rfl,decide_eq_true (copied rfl)⟩

/-- A call reaches one milestone whose turn it is, or none. -/
theorem milestones_answer :
    reached id (w.answer contract i arrival env call next) = reached id w ∨
    ∃ milestone, reached id w milestone = false ∧
      milestone.ready (firstIntended contract id w.sessions) (reached id w) = true ∧
      reached id (w.answer contract i arrival env call next) = Function.update (reached id w) milestone true := by
  by_cases quiet : reached id (w.answer contract i arrival env call next) = reached id w
  · exact .inl quiet
  · obtain ⟨milestone,differs⟩ := Function.ne_iff.mp quiet
    have missing : reached id w milestone = false := by
      cases before : reached id w milestone with
      | false => rfl
      | true => exact absurd ((milestone_kept before).trans before.symm) differs
    have done : reached id (w.answer contract i arrival env call next) milestone = true := by
      rw [missing] at differs
      exact eq_true_of_ne_false differs
    obtain ⟨made,turn⟩ := milestone_origin reachable here missing done
    refine .inr ⟨milestone,missing,turn,funext fun other => ?_⟩
    by_cases same : other = milestone
    · rw [same, done, Function.update_self]
    · rw [Function.update_of_ne same]
      cases before : reached id w other with
      | true => exact milestone_kept before
      | false =>
        refine Bool.eq_false_iff.mpr fun after => same ?_
        exact (Option.some.inj (made.symm.trans (milestone_origin reachable here before after).1)).symm

end Advance

section Simulation

variable {contract : Contract} {w w' : World} {id : Uuid}

theorem reached_congr (store : w'.store = w.store) (log : w'.log = w.log) : reached id w' = reached id w := by
  have history (i : Nat) : w'.history i = w.history i := by rw [World.history, log, World.history]
  funext milestone
  cases milestone <;> simp only [reached, store, log, history]

theorem firstIntended_set {sessions : Sessions} {i : Nat} {arrival : Arrival}
    {old new : Progress Call Call.Answer ApiFailure Receipt} (here : sessions[i]? = some ⟨arrival,old⟩) :
    firstIntended contract id (sessions.set i ⟨arrival,new⟩) = firstIntended contract id sessions := by
  have each (l : Sessions) : firstIntended contract id l =
      (l.map Session.arrival).findSome? (Arrival.intendedAs contract id) := by
    rw [List.findSome?_map]; rfl
  rw [each, Server.map_set_arrival here, ← each]

/-- The first intent authenticates and validates. -/
theorem upload_intended (reached : Milestone → Bool) (status : Formal.UploadStatus) (issued : Bool)
    (context : SubmissionContext) : ∃ actions, actions.length ≤ 2 ∧
      Machine.Run Formal.Step (uploadView none reached status issued) actions
        (uploadView (some context) reached status issued) := by
  by_cases signed : context.subject.isSome = true
  · have validated : uploadView (some context) reached status issued = Formal.Action.effect
        (Formal.Action.effect (uploadView none reached status issued) .verifySubject) .validateRequest := by
      simp [uploadView, flags, signed, Formal.Action.effect]
    rw [validated]
    exact ⟨[.verifySubject,.validateRequest],Nat.le_refl _,.cons ⟨rfl,rfl⟩ (.cons ⟨rfl,rfl⟩ .nil)⟩
  · have validated : uploadView (some context) reached status issued = Formal.Action.effect
        (Formal.Action.effect (uploadView none reached status issued) .verifyPublicProof) .validateRequest := by
      simp [uploadView, flags, signed, Formal.Action.effect]
    rw [validated]
    exact ⟨[.verifyPublicProof,.validateRequest],Nat.le_refl _,.cons ⟨rfl,rfl⟩ (.cons ⟨rfl,rfl⟩ .nil)⟩

theorem upload_arrive (w : World) (arrival : Arrival) (program : Handler Receipt) :
    ∃ actions, actions.length ≤ 2 ∧
      Machine.Run Formal.Step (uploadProgress contract id w) actions
        (uploadProgress contract id (w.arrive arrival program)) := by
  have first : firstIntended contract id (w.arrive arrival program).sessions =
      (firstIntended contract id w.sessions).or (arrival.intendedAs contract id) := by
    rw [firstIntended, World.arrive, List.findSome?_append, firstIntended, List.findSome?_singleton]
  have issued : (w.arrive arrival program).sessions.any (completedFor id) = w.sessions.any (completedFor id) := by
    rw [World.arrive, List.any_append]
    simp [completedFor]
  have same : reached id (w.arrive arrival program) = reached id w := reached_congr rfl rfl
  rw [uploadProgress, uploadProgress, first, issued, same]
  change ∃ actions, _ ∧ Machine.Run _ _ _ (uploadView _ _ ((w.store .primary).uploadStatus id) _)
  cases firstIntended contract id w.sessions with
  | some context => exact ⟨[],Nat.zero_le _,.nil⟩
  | none =>
    cases arrival.intendedAs contract id with
    | none => exact ⟨[],Nat.zero_le _,.nil⟩
    | some context => exact upload_intended _ _ _ context

variable (reachable : Reachable contract w) {i : Nat} {arrival : Arrival}

include reachable in
theorem upload_advance {call : Call} {next : call.Answer → Handler Receipt} {env : Env}
    (here : w.sessions[i]? = some ⟨arrival,.running (.call call next)⟩) :
    ∃ actions, actions.length ≤ 1 ∧ Machine.Run Formal.Step (uploadProgress contract id w) actions
      (uploadProgress contract id (w.answer contract i arrival env call next)) := by
  have later : Reachable contract (w.answer contract i arrival env call next) := reachable.next (.advance env here)
  have issued : (w.answer contract i arrival env call next).sessions.any (completedFor id) =
      w.sessions.any (completedFor id) := any_set here rfl
  have first : firstIntended contract id (w.answer contract i arrival env call next).sessions =
      firstIntended contract id w.sessions := firstIntended_set here
  rw [upload_eq reachable, upload_eq later, issued, first]
  rcases @milestones_answer contract w id i arrival call next env reachable here with
    quiet | ⟨milestone,missing,turn,moved⟩
  · rw [quiet]
    exact ⟨[],Nat.zero_le _,.nil⟩
  · rw [moved]
    exact ⟨[milestone.action],Nat.le_refl _,.cons (milestone_step _ _ _ missing turn) .nil⟩

/-- Who got the 200 of a completion got it for a verified upload. -/
theorem completed_verified (reachable : Reachable contract w) {result : Except ApiFailure Receipt}
    (here : w.sessions[i]? = some ⟨arrival,.replied result⟩)
    (completed : completedFor id ⟨arrival,.replied result⟩ = true) : (w.store .primary).HasVerified id := by
  simp only [completedFor] at completed
  split at completed
  · next receipt progress =>
    cases progress
    have ends := replied reachable here
    generalize traced : w.history i = history at ends
    cases ends with
    | rejected _ failed => cases failed
    | create _ _ ends =>
      generalize answered : (Except.ok (Receipt.uploadCompletion receipt) : Except ApiFailure Receipt) = reply at ends
      cases ends <;> cases answered
    | complete _ _ ends =>
      cases ends with
      | verified found =>
        obtain ⟨row,member,named,done⟩ := verified_row reachable (traced ▸ List.mem_cons_self)
        exact ⟨row,member,named.trans (of_decide_eq_true completed),done⟩
  · cases completed

include reachable in
theorem upload_reply {result : Except ApiFailure Receipt}
    (here : w.sessions[i]? = some ⟨arrival,.running (.done result)⟩) :
    ∃ actions, actions.length ≤ 1 ∧ Machine.Run Formal.Step (uploadProgress contract id w) actions
      (uploadProgress contract id (w.settle i arrival (.replied result))) := by
  have later := reachable.next (.reply here)
  obtain ⟨bound,-⟩ := List.getElem?_eq_some_iff.mp here
  have there : (w.settle i arrival (.replied result)).sessions[i]? = some ⟨arrival,.replied result⟩ :=
    List.getElem?_set_self bound
  have first : firstIntended contract id (w.settle i arrival (.replied result)).sessions =
      firstIntended contract id w.sessions := firstIntended_set here
  have same : reached id (w.settle i arrival (.replied result)) = reached id w := reached_congr rfl rfl
  rw [upload_eq reachable, upload_eq later, first, same]
  by_cases completed : completedFor id ⟨arrival,.replied result⟩ = true
  · have verified : ((w.settle i arrival (.replied result)).store .primary).HasVerified id :=
      completed_verified later there completed
    change (w.store .primary).HasVerified id at verified
    have issued : (w.settle i arrival (.replied result)).sessions.any (completedFor id) = true :=
      List.any_eq_true.mpr ⟨_,List.mem_of_getElem? there,completed⟩
    rw [issued]
    cases before : w.sessions.any (completedFor id) with
    | true => exact ⟨[],Nat.zero_le _,.nil⟩
    | false =>
      refine ⟨[.issueUploadReceipt],Nat.le_refl _,.cons ⟨?_,rfl⟩ .nil⟩
      simp [Formal.Action.guard, uploadView, reached, verified]
  · have issued : (w.settle i arrival (.replied result)).sessions.any (completedFor id) =
        w.sessions.any (completedFor id) := any_set here (Bool.eq_false_iff.mpr completed)
    rw [issued]
    exact ⟨[],Nat.zero_le _,.nil⟩

include reachable in
/-- Every event is at most as many steps of the formal machine. -/
theorem upload_step (id : Uuid) {event : Event Env Arrival} (stepped : (server contract).Step w event w') :
    ∃ actions, actions.length ≤ formalSteps event ∧
      Machine.Run Formal.Step (uploadProgress contract id w) actions (uploadProgress contract id w') := by
  cases stepped with
  | arrive arrival => exact upload_arrive w arrival _
  | advance env here => exact upload_advance reachable here
  | reply here => exact upload_reply reachable here
  | @cancel i arrival program here =>
    have first : firstIntended contract id (w.settle i arrival .cancelled).sessions =
        firstIntended contract id w.sessions := firstIntended_set here
    have issued : (w.settle i arrival .cancelled).sessions.any (completedFor id) =
        w.sessions.any (completedFor id) := any_set here rfl
    have same : reached id (w.settle i arrival .cancelled) = reached id w := reached_congr rfl rfl
    refine ⟨[],Nat.zero_le _,?_⟩
    rw [uploadProgress, uploadProgress, first, issued, same]
    exact .nil

end Simulation

theorem upload_start (contract : Contract) (id : Uuid) : uploadProgress contract id (.start .empty) = Formal.init := by
  have missing : ¬Database.empty.HasUpload id := by
    rintro ⟨row,member,-⟩
    exact Table.not_mem_empty row member
  have unverified : ¬Database.empty.HasVerified id := fun verified => missing verified.stored
  rw [upload_eq Machine.Reachable.start]
  simp [uploadView, flags, firstIntended, reached, statusOf, World.start, Stores.empty, missing, unverified,
    Formal.init]

/-- The handlers of uploads refine the formal machine as it stands, in every run: each event is a
step of the machine, or two, or none, and the order of completion holds in every state. No
upload is ever rejected for good: a mismatch is answered, and nothing is kept of it. -/
theorem uploads_refine {contract : Contract} {w : World} (reachable : Reachable contract w) (id : Uuid) :
    Machine.Reachable Formal.Step Formal.init (uploadProgress contract id w) ∧
    (uploadProgress contract id w).uploadCompletionOrder = true ∧
    (uploadProgress contract id w).uploadStatus ≠ .rejected ∧
    ∀ (event : Event Env Arrival) (w' : World), (server contract).Step w event w' → ∃ actions,
      actions.length ≤ formalSteps event ∧
        Machine.Run Formal.Step (uploadProgress contract id w) actions (uploadProgress contract id w') := by
  have simulated : Machine.Reachable Formal.Step Formal.init (uploadProgress contract id w) := by
    rw [← upload_start contract id]
    apply Machine.Reachable.simulated _ reachable
    intro w event w' before stepped
    obtain ⟨actions,-,run⟩ := upload_step before id stepped
    exact ⟨actions,run⟩
  refine ⟨simulated,?_,?_,fun event w' stepped => upload_step reachable id stepped⟩
  · have safe := Formal.apiSafety_reachable simulated
    simp only [Formal.State.apiSafety, Bool.and_eq_true] at safe
    exact safe.2
  · rw [upload_eq reachable]
    simp only [uploadView, statusOf]
    split
    · decide
    · split <;> decide

namespace Sample

/-- The formal machine's view of an upload that went all the way. -/
def completedState : Formal.State where
  auth := .publicProofVerified
  requestValidated := true
  idempotencyBound := true
  digestBound := true
  uploadStatus := .verified
  uploadPrimaryIntent := true
  uploadMirrorIntent := true
  uploadIdentityMatched := true
  uploadObjectVerified := true
  uploadMirrorVerified := true
  uploadPrimaryVerified := true
  uploadReceiptIssued := true

theorem completed_upload : uploadProgress .sample 1 (outcome .sample completed) = completedState := by decide +kernel

end Sample

theorem uploads_refine_completed : Machine.Reachable Formal.Step Formal.init Sample.completedState := by
  rw [← Sample.completed_upload]
  exact (uploads_refine (reachable_outcome Sample.completed_possible.1) 1).1

end IntakeApi
