import IntakeApi.Authentication
import IntakeApi.Changes
import IntakeApi.Sample

/-! Admission comes before every call to a store, and only a validated request of a caller that
Shared Auth vouches for, or of nobody with a proof that Turnstile accepts, is admitted. -/
namespace IntakeApi

open Interaction Service

namespace Request

def validated (contract : Contract) : Request → Bool
  | .create _ body => contract.validate body
  | .complete _ body => contract.validateComplete body

def turnstileToken : Request → Option String
  | .create _ body => body.turnstileToken
  | .complete _ body => body.turnstileToken

def isReferral : Request → Bool
  | .create .referral _ => true
  | _ => false

end Request

/-- Whom a request may act for, by its headers and the answers of both services. -/
inductive Admitted (state : AppState) (headers : HeaderMap) (request : Request) : Option VerifiedSubject → Prop where
  | bearer {token : String} {subject : VerifiedSubject} (bears : headers.Bears token)
      (vouched : state.auth.Vouches token subject) : Admitted state headers request (some subject)
  | proof {proof : String} (general : request.isReferral = false)
      (absent : headers.get "authorization" = none) (given : request.turnstileToken = some proof)
      (accepted : state.turnstile.Accepts proof) : Admitted state headers request none

def Command.subject? : Command → Option (Option VerifiedSubject)
  | .store _ _ context _ => some context.subject
  | .pendingUpload _ subject => some subject
  | .verifyUpload _ subject _ => some subject
  | .markMirrored .. => none
  | .recordMirrorFailure .. => none

section Admission

variable {state : AppState} {headers : HeaderMap} {request : Request}

theorem bearer_ok {subject : VerifiedSubject} (borne : (state.admission headers).bearer = .ok (some subject)) :
    Admitted state headers request (some subject) := by
  rcases Authenticator.optionalSubject_ok borne with ⟨missing,-⟩ | ⟨_,token,same,bears,vouched⟩
  · cases missing
  · cases same
    exact .bearer bears vouched

theorem authenticateOrVerifyPublic_ok {subject : Option VerifiedSubject} (general : request.isReferral = false)
    (settled : (state.admission headers).authenticateOrVerifyPublic request.turnstileToken = .ok subject) :
    Admitted state headers request subject := by
  unfold Admission.authenticateOrVerifyPublic at settled
  split at settled
  · cases settled
  · next verified vouched =>
    cases settled
    exact bearer_ok vouched
  · next missing =>
    split at settled
    · cases settled
    · next proof given =>
      rcases Authenticator.optionalSubject_ok missing with ⟨-,absent⟩ | ⟨_,_,same,-⟩
      · cases checked : (state.admission headers).turnstile proof with
        | error => rw [checked] at settled; cases settled
        | ok =>
          rw [checked] at settled
          cases settled
          exact .proof general absent given (TurnstileVerifier.verify_ok checked)
      · cases same

theorem requiredSubject_ok {subject : VerifiedSubject}
    (settled : (state.admission headers).requiredSubject = .ok subject) :
    Admitted state headers request (some subject) := by
  unfold Admission.requiredSubject at settled
  split at settled
  · cases settled
  · cases settled
  · next verified vouched =>
    cases settled
    exact bearer_ok vouched

end Admission

section Requests

variable {contract : Contract} {arrival : Arrival} {state : AppState} {headers : HeaderMap}

theorem Requested.admittance {kind : StoredSubmissionKind} {body : Create kind} {context : SubmissionContext}
    (requested : Requested contract arrival body context) (received : arrival.admission = state.admission headers) :
    arrival.request.validated contract = true ∧ Admitted state headers arrival.request context.subject := by
  have admitted := requested.admitted
  refine ⟨by rw [requested.request]; exact requested.valid,?_⟩
  unfold admitCreate at admitted
  rw [if_pos requested.valid, received] at admitted
  cases kind with
  | referral =>
    cases settled : (state.admission headers).requiredSubject with
    | error => rw [settled] at admitted; cases admitted
    | ok subject =>
      rw [settled] at admitted
      rw [(Admission.submissionContext_ok admitted).subject]
      exact requiredSubject_ok settled
  | _ =>
    cases settled : (state.admission headers).authenticateOrVerifyPublic body.turnstileToken with
    | error => simp only [settled] at admitted; cases admitted
    | ok subject =>
      simp only [settled] at admitted
      rw [(Admission.submissionContext_ok admitted).subject, requested.request]
      exact authenticateOrVerifyPublic_ok rfl settled

theorem Completing.admittance {id : Uuid} {subject : Option VerifiedSubject} {body : UploadCompleteCreate}
    (completing : Completing contract arrival id subject body)
    (received : arrival.admission = state.admission headers) :
    arrival.request.validated contract = true ∧ Admitted state headers arrival.request subject := by
  have admitted := completing.admitted
  rw [completing.request]
  unfold admitCompletion at admitted
  split at admitted
  · next valid =>
    rw [received] at admitted
    exact ⟨valid,@authenticateOrVerifyPublic_ok _ _ (.complete id body) _ rfl admitted⟩
  · cases admitted

/-- The commands of a creation act for its subject. -/
theorem Creation.Asks.subject {kind : StoredSubmissionKind} {context : SubmissionContext} {body : Create kind}
    {history : History} {connection : Connection} {command : Command}
    (asks : Creation.Asks kind context body history (.persist connection command)) :
    ∀ subject, command.subject? = some subject → subject = context.subject := by
  generalize equal : Call.persist connection command = call at asks
  cases asks with
  | primary => cases equal; rintro subject ⟨⟩; rfl
  | mirror => cases equal; rintro subject ⟨⟩; rfl
  | fail => cases equal; nofun
  | mark => cases equal; nofun
  | sign => cases equal

theorem Completion.Asks.subject {id : Uuid} {owner : Option VerifiedSubject} {body : UploadCompleteCreate}
    {history : History} {connection : Connection} {command : Command}
    (asks : Completion.Asks id owner body history (.persist connection command)) :
    ∀ subject, command.subject? = some subject → subject = owner := by
  generalize equal : Call.persist connection command = call at asks
  cases asks with
  | object => cases equal
  | _ => cases equal; rintro subject ⟨⟩; rfl

end Requests

/-- Every call to a store is made for a validated request and under the subject that it was
admitted for, whatever Shared Auth and Turnstile answer. -/
theorem admission_precedes_stores {contract : Contract} {w : World} (reachable : Reachable contract w)
    {session : Session Call Call.Answer Arrival ApiFailure Receipt} {entry : Entry} (logged : entry ∈ w.log)
    (here : w.sessions[entry.session]? = some session) {state : AppState} {headers : HeaderMap}
    (received : session.arrival.admission = state.admission headers) {connection : Connection}
    {command : Command} (called : entry.exchange.1 = .persist connection command) :
    session.arrival.request.validated contract = true ∧ ∃ subject,
      Admitted state headers session.arrival.request subject ∧
        ∀ other, command.subject? = some other → other = subject := by
  obtain ⟨session',here',_,_,-,asks⟩ := Server.logged (handle_obeys contract) reachable entry logged
  cases here.symm.trans here'
  rw [called] at asks
  cases asks with
  | create requested admitted asks =>
    obtain ⟨valid,admitted⟩ := Requested.admittance ⟨requested,admitted⟩ received
    exact ⟨valid,_,admitted,asks.subject⟩
  | complete requested admitted asks =>
    obtain ⟨valid,admitted⟩ := Completing.admittance ⟨requested,admitted⟩ received
    exact ⟨valid,_,admitted,asks.subject⟩

namespace Sample

def state : AppState where
  auth := ⟨"hhm-api",fun token => if token = "token-1" then .ok ⟨200,none,[.ok (asciiBytes "token-1")]⟩ else .error (),
    fun _ => some ⟨true,some "user-1",some "hhm-api",some "openid hhm:intake:write"⟩⟩
  turnstile := ⟨"intake",fun _ => .error ()⟩
  parseUrl _ := some ⟨"https",some "hhaus.org","/",none,none⟩

def headers : HeaderMap :=
  [("origin",asciiBytes "https://hhaus.org"),("authorization",asciiBytes "bearer token-1"),
    ("idempotency-key",asciiBytes "intake-key-000001")]

def actsForOwner : Call → Bool
  | .persist _ command => command.subject? = some (some owner)
  | _ => false

def authenticated : List (Event Env Arrival) :=
  [.arrive ⟨state.admission headers,1,.create .preInterest ⟨preInterest,none⟩⟩,.advance 0 (calm 10)]

end Sample

theorem admission_precedes_stores_authenticated :
    Admitted Sample.state Sample.headers (.create .preInterest ⟨Sample.preInterest,none⟩) (some Sample.owner) := by
  have facts : possible .sample Sample.authenticated = true ∧
      ((outcome .sample Sample.authenticated).log.any fun entry =>
        entry.session = 0 && Sample.actsForOwner entry.exchange.1) = true := by
    decide +kernel
  obtain ⟨ran,acted⟩ := facts
  obtain ⟨entry,logged,acts⟩ := List.any_eq_true.mp acted
  simp only [Bool.and_eq_true, decide_eq_true_eq] at acts
  obtain ⟨own,acts⟩ := acts
  have arrived := sessions_outcome ran
  obtain ⟨session,here,-⟩ := Server.logged (handle_obeys .sample) (reachable_outcome ran) entry logged
  have arrival : session.arrival = ⟨Sample.state.admission Sample.headers,1,
      .create .preInterest ⟨Sample.preInterest,none⟩⟩ := by
    have found := congrArg (fun arrivals => arrivals[entry.session]?) arrived
    simp only [List.getElem?_map, here, Option.map_some] at found
    rw [own] at found
    exact Option.some.inj found
  cases called : entry.exchange.1 with
  | persist connection command =>
    rw [called] at acts
    obtain ⟨-,subject,admitted,same⟩ := admission_precedes_stores (reachable_outcome ran) logged here
      (congrArg Arrival.admission arrival) called
    rw [same _ (of_decide_eq_true acts)]
    rw [arrival] at admitted
    exact admitted
  | createSignedUploadUrl => rw [called] at acts; cases acts
  | verifyObject => rw [called] at acts; cases acts

end IntakeApi
