import IntakeApi.Handlers

/-! The traces of the handlers: which calls a request makes after which answers, and
which response it ends with. Proofs about runs use these and not the handlers. -/
namespace IntakeApi

open Interaction

abbrev History := List (Exchange Call Call.Answer)

/-- The context that a create request is persisted under, or why it is turned away. -/
def admitCreate (contract : Contract) (arrival : Arrival) {kind : StoredSubmissionKind} (body : Create kind) :
    Except ApiFailure SubmissionContext :=
  if contract.validate body then
    (match kind with
      | .referral => arrival.admission.requiredSubject.map some
      | _ => arrival.admission.authenticateOrVerifyPublic body.turnstileToken).bind fun subject =>
        arrival.admission.submissionContext arrival.canonicalId subject
          (contract.canonicalDigest body.input)
  else .error .invalid

theorem admitCreate_ok {contract : Contract} {arrival : Arrival} {kind : StoredSubmissionKind}
    {body : Create kind} {context : SubmissionContext} (admitted : admitCreate contract arrival body = .ok context) :
    contract.validate body = true ∧
      arrival.admission.Settled arrival.canonicalId context.subject (contract.canonicalDigest body.input)
        context := by
  unfold admitCreate at admitted
  split at admitted
  · next valid =>
    refine ⟨valid,?_⟩
    generalize (match kind with
      | .referral => arrival.admission.requiredSubject.map some
      | _ => arrival.admission.authenticateOrVerifyPublic body.turnstileToken) = subject at admitted
    cases subject with
    | error => cases admitted
    | ok subject =>
      have settled := Admission.submissionContext_ok admitted
      exact settled.subject ▸ settled
  · cases admitted

section Legs

variable (kind : StoredSubmissionKind) (context : SubmissionContext) (body : Create kind)

def primaryLeg : Call := .persist .primary (.store .primary kind context body)

def mirrorLeg (id : Uuid) : Call :=
  .persist .supabase (.store .supabaseMirror kind (context.withCanonicalId id) body)

def markLeg (id : Uuid) : Call := .persist .primary (.markMirrored kind id context.payloadSha256)

def failLeg (id : Uuid) : Call := .persist .primary (.recordMirrorFailure kind id "supabase_unavailable")

end Legs

/-- The receipt of a submission kind. Upload intents are acknowledged otherwise. -/
def submissionReceipt : (kind : StoredSubmissionKind) → Stored kind → Option SubmissionReceipt
  | .preInterest, stored => some ⟨stored.id,.preInterest,stored.acceptedAt,.stored,.stored⟩
  | .upload, _ => none
  | .application, stored => some ⟨stored.id,.application,stored.acceptedAt,.stored,.stored⟩
  | .referral, stored => some ⟨stored.id,.referral,stored.acceptedAt,.stored,.stored⟩

def uploadIntentReceipt (input : UploadIntentCreate) (stored : StoredUpload) (url : String) :
    UploadIntentReceipt :=
  ⟨stored.id,input.kind,url,stored.expiresAt,maxUploadBytes,allowedContentTypes input.kind⟩

namespace Creation

/-- The calls of an admitted create request, each with the history it follows. -/
inductive Asks : (kind : StoredSubmissionKind) → SubmissionContext → Create kind → History → Call → Prop where
  | primary : Asks kind context body [] (primaryLeg kind context body)
  | mirror {stored : Stored kind} :
      Asks kind context body [⟨primaryLeg kind context body,.ok stored⟩]
        (mirrorLeg kind context body stored.id)
  | fail {stored : Stored kind} {mirrored : Except DataError (Stored kind)}
      (unacceptable : ∀ other, mirrored = .ok other → other.id ≠ stored.id) :
      Asks kind context body
        [⟨mirrorLeg kind context body stored.id,mirrored⟩,⟨primaryLeg kind context body,.ok stored⟩]
        (failLeg kind stored.id)
  | mark {stored other : Stored kind} (same : other.id = stored.id) :
      Asks kind context body
        [⟨mirrorLeg kind context body stored.id,.ok other⟩,⟨primaryLeg kind context body,.ok stored⟩]
        (markLeg kind context stored.id)
  | sign {body : Create .upload} {stored other : Stored .upload} (same : other.id = stored.id) :
      Asks .upload context body
        [⟨markLeg .upload context stored.id,.ok ()⟩,⟨mirrorLeg .upload context body stored.id,.ok other⟩,
          ⟨primaryLeg .upload context body,.ok stored⟩]
        (.createSignedUploadUrl stored.objectKey)

/-- The responses of an admitted create request. -/
inductive Ends : (kind : StoredSubmissionKind) → SubmissionContext → Create kind → History →
    Except ApiFailure Receipt → Prop where
  | refused {error : DataError} :
      Ends kind context body [⟨primaryLeg kind context body,.error error⟩] (.error (.ofData error))
  | unmirrored {stored : Stored kind} {mirrored : Except DataError (Stored kind)}
      {recorded : Except DataError Unit}
      (unacceptable : ∀ other, mirrored = .ok other → other.id ≠ stored.id) :
      Ends kind context body
        [⟨failLeg kind stored.id,recorded⟩,⟨mirrorLeg kind context body stored.id,mirrored⟩,
          ⟨primaryLeg kind context body,.ok stored⟩] (.error (.mirrorUnavailable stored.id))
  | unmarked {stored other : Stored kind} {error : DataError} (same : other.id = stored.id) :
      Ends kind context body
        [⟨markLeg kind context stored.id,.error error⟩,⟨mirrorLeg kind context body stored.id,.ok other⟩,
          ⟨primaryLeg kind context body,.ok stored⟩] (.error (.mirrorUnavailable stored.id))
  | accepted {stored other : Stored kind} {receipt : SubmissionReceipt} (same : other.id = stored.id)
      (reported : submissionReceipt kind stored = some receipt) :
      Ends kind context body
        [⟨markLeg kind context stored.id,.ok ()⟩,⟨mirrorLeg kind context body stored.id,.ok other⟩,
          ⟨primaryLeg kind context body,.ok stored⟩] (.ok (.submission receipt))
  | unsigned {body : Create .upload} {stored other : Stored .upload} {error : ExternalError}
      (same : other.id = stored.id) :
      Ends .upload context body
        [⟨.createSignedUploadUrl stored.objectKey,.error error⟩,
          ⟨markLeg .upload context stored.id,.ok ()⟩,⟨mirrorLeg .upload context body stored.id,.ok other⟩,
          ⟨primaryLeg .upload context body,.ok stored⟩] (.error (.ofExternal error))
  | signed {body : Create .upload} {stored other : Stored .upload} {url : String}
      (same : other.id = stored.id) :
      Ends .upload context body
        [⟨.createSignedUploadUrl stored.objectKey,.ok url⟩,
          ⟨markLeg .upload context stored.id,.ok ()⟩,⟨mirrorLeg .upload context body stored.id,.ok other⟩,
          ⟨primaryLeg .upload context body,.ok stored⟩]
        (.ok (.uploadIntent (uploadIntentReceipt body.input stored url)))

def Stands (kind : StoredSubmissionKind) (context : SubmissionContext) (body : Create kind)
    (history : History) : Except ApiFailure (Stored kind) → Prop
  | .ok stored => ∃ other : Stored kind, other.id = stored.id ∧ history =
      [⟨mirrorLeg kind context body stored.id,.ok other⟩,⟨primaryLeg kind context body,.ok stored⟩]
  | .error failure => Ends kind context body history (.error failure)

theorem storeBoth_obeys (kind : StoredSubmissionKind) (context : SubmissionContext) (body : Create kind) :
    (storeBoth kind context body).Obeys (Asks kind context body) (Stands kind context body) [] := by
  refine ⟨.primary,fun answer => ?_⟩
  cases answer with
  | error error => exact Ends.refused
  | ok stored =>
    refine ⟨.mirror,fun mirrored => ?_⟩
    change (if isMirrored stored mirrored then _ else _ : Handler (Stored kind)).Obeys _ _ _
    by_cases acceptable : isMirrored stored mirrored = true
    · rw [if_pos acceptable]
      cases mirrored with
      | error error => cases acceptable
      | ok other => exact ⟨other,of_decide_eq_true acceptable,rfl⟩
    · rw [if_neg acceptable]
      have unacceptable : ∀ other, mirrored = .ok other → other.id ≠ stored.id := by
        rintro other rfl same
        exact acceptable (decide_eq_true same)
      exact ⟨.fail unacceptable,fun recorded => Ends.unmirrored unacceptable⟩

def finish : (kind : StoredSubmissionKind) → SubmissionContext → Create kind → Stored kind →
    Handler Receipt
  | .preInterest, context, _, stored => finishSubmission .preInterest context stored
  | .upload, context, body, stored => finishUploadIntent context body.input stored
  | .application, context, _, stored => finishSubmission .application context stored
  | .referral, context, _, stored => finishSubmission .referral context stored

theorem finish_obeys {kind : StoredSubmissionKind} {context : SubmissionContext} {body : Create kind}
    {stored other : Stored kind} (same : other.id = stored.id) :
    (finish kind context body stored).Obeys (Asks kind context body) (Ends kind context body)
      [⟨mirrorLeg kind context body stored.id,.ok other⟩,⟨primaryLeg kind context body,.ok stored⟩] := by
  cases kind with
  | upload =>
    refine ⟨.mark same,fun marked => ?_⟩
    cases marked with
    | error error => exact Ends.unmarked same
    | ok =>
      refine ⟨.sign same,fun signed => ?_⟩
      cases signed with
      | error error => exact Ends.unsigned same
      | ok url => exact Ends.signed same
  | _ =>
    refine ⟨.mark same,fun marked => ?_⟩
    cases marked with
    | error error => exact Ends.unmarked same
    | ok => exact Ends.accepted same rfl

theorem create_obeys (kind : StoredSubmissionKind) (context : SubmissionContext) (body : Create kind) :
    (storeBoth kind context body >>= finish kind context body).Obeys (Asks kind context body)
      (Ends kind context body) [] := by
  refine (storeBoth_obeys kind context body).bind ?_ ?_
  · rintro later stored ⟨other,same,rfl⟩
    exact finish_obeys same
  · intro later error ended
    exact ended

end Creation

namespace Completion

section Legs

variable (uploadId : Uuid) (subject : Option VerifiedSubject)

def lookLeg (connection : Connection) : Call := .persist connection (.pendingUpload uploadId subject)

def verifyLeg (connection : Connection) (body : UploadCompleteCreate) : Call :=
  .persist connection (.verifyUpload uploadId subject body.sha256)

end Legs

/-- A completion found the upload in both stores, as the same object. -/
structure Found (body : UploadCompleteCreate) (primary mirror : PendingUpload) : Prop where
  declared : body.sha256 = primary.expectedSha256
  same : sameUploadIdentity primary mirror = true

/-- The calls of an admitted completion. -/
inductive Asks (id : Uuid) (subject : Option VerifiedSubject) (body : UploadCompleteCreate) :
    History → Call → Prop where
  | primary : Asks id subject body [] (lookLeg id subject .primary)
  | mirror {primary : PendingUpload} (declared : body.sha256 = primary.expectedSha256) :
      Asks id subject body [⟨lookLeg id subject .primary,.ok primary⟩] (lookLeg id subject .supabase)
  | object {primary mirror : PendingUpload} (found : Found body primary mirror) :
      Asks id subject body
        [⟨lookLeg id subject .supabase,.ok mirror⟩,⟨lookLeg id subject .primary,.ok primary⟩]
        (.verifyObject primary)
  | verifyMirror {primary mirror : PendingUpload} (found : Found body primary mirror) :
      Asks id subject body
        [⟨.verifyObject primary,.ok ()⟩,⟨lookLeg id subject .supabase,.ok mirror⟩,
          ⟨lookLeg id subject .primary,.ok primary⟩] (verifyLeg id subject .supabase body)
  | verifyPrimary {primary mirror : PendingUpload} (found : Found body primary mirror) :
      Asks id subject body
        [⟨verifyLeg id subject .supabase body,.ok ()⟩,⟨.verifyObject primary,.ok ()⟩,
          ⟨lookLeg id subject .supabase,.ok mirror⟩,⟨lookLeg id subject .primary,.ok primary⟩]
        (verifyLeg id subject .primary body)

/-- The responses of an admitted completion. -/
inductive Ends (id : Uuid) (subject : Option VerifiedSubject) (body : UploadCompleteCreate) :
    History → Except ApiFailure Receipt → Prop where
  | stopped {history : History} {failure : ApiFailure} : Ends id subject body history (.error failure)
  | verified {primary mirror : PendingUpload} (found : Found body primary mirror) :
      Ends id subject body
        [⟨verifyLeg id subject .primary body,.ok ()⟩,⟨verifyLeg id subject .supabase body,.ok ()⟩,
          ⟨.verifyObject primary,.ok ()⟩,⟨lookLeg id subject .supabase,.ok mirror⟩,
          ⟨lookLeg id subject .primary,.ok primary⟩] (.ok (.uploadCompletion ⟨id,.verified⟩))

theorem completeAdmitted_obeys (id : Uuid) (subject : Option VerifiedSubject) (body : UploadCompleteCreate) :
    (completeAdmitted id subject body).Obeys (Asks id subject body) (Ends id subject body) [] := by
  refine ⟨.primary,fun looked => ?_⟩
  cases looked with
  | error error => exact Ends.stopped
  | ok primary =>
    change (Program.require _ _ >>= _ : Handler Receipt).Obeys _ _ _
    by_cases declared : body.sha256 = primary.expectedSha256
    · simp only [declared, decide_true, Program.require_true, Program.bind_ok]
      refine ⟨.mirror declared,fun looked => ?_⟩
      cases looked with
      | error error => exact Ends.stopped
      | ok mirror =>
        change (Program.require _ _ >>= _ : Handler Receipt).Obeys _ _ _
        cases same : sameUploadIdentity primary mirror with
        | false => exact Ends.stopped
        | true =>
          have found : Found body primary mirror := ⟨declared,same⟩
          refine ⟨.object found,fun matching => ?_⟩
          cases matching with
          | error error => exact Ends.stopped
          | ok =>
            refine ⟨.verifyMirror found,fun verified => ?_⟩
            cases verified with
            | error error => exact Ends.stopped
            | ok =>
              refine ⟨.verifyPrimary found,fun verified => ?_⟩
              cases verified with
              | error error => exact Ends.stopped
              | ok => exact Ends.verified found
    · simp only [declared, decide_false, Program.require_false, Program.bind_error]
      exact Ends.stopped

end Completion

/-- The caller that a completion acts for, or why it is turned away. -/
def admitCompletion (contract : Contract) (arrival : Arrival) (body : UploadCompleteCreate) :
    Except ApiFailure (Option VerifiedSubject) :=
  if contract.validateComplete body then
    arrival.admission.authenticateOrVerifyPublic body.turnstileToken
  else .error .invalid

namespace Arrival

variable (contract : Contract) (arrival : Arrival)

inductive Asks (history : History) (call : Call) : Prop where
  | create {kind : StoredSubmissionKind} {body : Create kind} {context : SubmissionContext}
      (requested : arrival.request = .create kind body)
      (admitted : admitCreate contract arrival body = .ok context)
      (asks : Creation.Asks kind context body history call)
  | complete {id : Uuid} {body : UploadCompleteCreate} {subject : Option VerifiedSubject}
      (requested : arrival.request = .complete id body)
      (admitted : admitCompletion contract arrival body = .ok subject)
      (asks : Completion.Asks id subject body history call)

inductive Ends (history : History) (result : Except ApiFailure Receipt) : Prop where
  | rejected {failure : ApiFailure} (untouched : history = []) (failed : result = .error failure)
      (turned : ∀ {kind : StoredSubmissionKind} (body : Create kind) (context : SubmissionContext),
        arrival.request = .create kind body → admitCreate contract arrival body ≠ .ok context)
  | create {kind : StoredSubmissionKind} {body : Create kind} {context : SubmissionContext}
      (requested : arrival.request = .create kind body)
      (admitted : admitCreate contract arrival body = .ok context)
      (ends : Creation.Ends kind context body history result)
  | complete {id : Uuid} {body : UploadCompleteCreate} {subject : Option VerifiedSubject}
      (requested : arrival.request = .complete id body)
      (admitted : admitCompletion contract arrival body = .ok subject)
      (ends : Completion.Ends id subject body history result)

end Arrival

theorem handle_create {contract : Contract} {arrival : Arrival} {kind : StoredSubmissionKind}
    {body : Create kind} (requested : arrival.request = .create kind body) :
    handle contract arrival = match admitCreate contract arrival body with
      | .error failure => .done (.error failure)
      | .ok context => storeBoth kind context body >>= Creation.finish kind context body := by
  obtain ⟨admission,id,request⟩ := arrival
  subst requested
  cases valid : contract.validate body with
  | false =>
    cases kind <;> simp [handle, createPreInterest, createUploadIntent, createApplication,
      createReferral, admitCreate, valid, Program.require_false]
  | true =>
    cases kind with
    | referral =>
      simp only [handle, createReferral, admitCreate, valid, Program.require_true, Program.bind_ok, if_true]
      cases admission.requiredSubject with
      | error => rfl
      | ok subject =>
        simp only [Except.map, Except.bind, Program.bind_ok]
        cases admission.submissionContext id (some subject) (contract.canonicalDigest body.input) <;> rfl
    | _ =>
      simp only [handle, createPreInterest, createUploadIntent, createApplication, admitCreate, valid,
        Program.require_true, Program.bind_ok, if_true]
      cases admission.authenticateOrVerifyPublic body.turnstileToken with
      | error => rfl
      | ok subject =>
        simp only [Except.bind, Program.bind_ok]
        cases admission.submissionContext id subject (contract.canonicalDigest body.input) <;> rfl

theorem handle_complete {contract : Contract} {arrival : Arrival} {id : Uuid}
    {body : UploadCompleteCreate} (requested : arrival.request = .complete id body) :
    handle contract arrival = match admitCompletion contract arrival body with
      | .error failure => .done (.error failure)
      | .ok subject => completeAdmitted id subject body := by
  simp only [handle, requested, completeUpload, admitCompletion]
  cases contract.validateComplete body with
  | false => rfl
  | true =>
    simp only [Program.require_true, Program.bind_ok, if_true]
    cases arrival.admission.authenticateOrVerifyPublic body.turnstileToken <;> rfl

/-- The trace of any request, whatever it is answered. -/
theorem handle_obeys (contract : Contract) (arrival : Arrival) :
    (handle contract arrival).Obeys (arrival.Asks contract) (arrival.Ends contract) [] := by
  cases requested : arrival.request with
  | create kind body =>
    rw [handle_create requested]
    cases admitted : admitCreate contract arrival body with
    | error failure =>
      refine Arrival.Ends.rejected rfl rfl ?_
      intro other body' context again
      cases requested.symm.trans again
      rw [admitted]
      exact nofun
    | ok context =>
      exact (Creation.create_obeys kind context body).mono
        (fun _ _ asks => .create requested admitted asks)
        (fun _ _ ends => .create requested admitted ends)
  | complete id body =>
    rw [handle_complete requested]
    cases admitted : admitCompletion contract arrival body with
    | error failure =>
      refine Arrival.Ends.rejected rfl rfl ?_
      intro other body' context again
      cases requested.symm.trans again
    | ok subject =>
      exact (Completion.completeAdmitted_obeys id subject body).mono
        (fun _ _ asks => .complete requested admitted asks)
        (fun _ _ ends => .complete requested admitted ends)

end IntakeApi
