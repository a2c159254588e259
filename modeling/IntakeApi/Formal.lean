import IntakeApi.Library.Machine

/-! The finite machine of `formal/intake_api.qnt`, action by action, and its safety. -/
namespace IntakeApi.Formal

open Machine

inductive AuthDecision where
  | pending
  | publicProofVerified
  | subjectVerified
  | rejected
  deriving DecidableEq, Repr

inductive UploadStatus where
  | absent
  | pending
  | verified
  | rejected
  deriving DecidableEq, Repr

structure State where
  auth : AuthDecision := .pending
  requestValidated : Bool := false
  idempotencyBound : Bool := false
  digestBound : Bool := false
  primaryStored : Bool := false
  mirrorStored : Bool := false
  mirrorFailureRecorded : Bool := false
  primaryMarkedMirrored : Bool := false
  receiptIssued : Bool := false
  uploadStatus : UploadStatus := .absent
  uploadPrimaryIntent : Bool := false
  uploadMirrorIntent : Bool := false
  uploadIdentityMatched : Bool := false
  uploadObjectVerified : Bool := false
  uploadMirrorVerified : Bool := false
  uploadPrimaryVerified : Bool := false
  uploadReceiptIssued : Bool := false
  deriving DecidableEq, Repr

def init : State := {}

inductive Action where
  | verifyPublicProof
  | verifySubject
  | rejectAuth
  | validateRequest
  | storePrimary
  | storeMirror
  | recordMirrorFailure
  | markPrimaryMirrored
  | issueSubmissionReceipt
  | exactSubmissionReplay
  | conflictingSubmissionReplay
  | createUploadPrimaryIntent
  | createUploadMirrorIntent
  | matchUploadIdentity
  | rejectUploadIdentity
  | verifyStorageObject
  | verifyUploadMirror
  | verifyUploadPrimary
  | issueUploadReceipt
  | rejectedUploadRetry
  | idle
  deriving DecidableEq, Repr

def Action.guard (s : State) : Action → Bool
  | .verifyPublicProof | .verifySubject | .rejectAuth => s.auth = .pending
  | .validateRequest => (s.auth = .publicProofVerified || s.auth = .subjectVerified) && !s.requestValidated
  | .storePrimary => s.requestValidated && !s.primaryStored
  | .storeMirror => s.primaryStored && !s.mirrorStored && !s.mirrorFailureRecorded
  | .recordMirrorFailure => s.primaryStored && !s.mirrorStored && !s.receiptIssued
  | .markPrimaryMirrored => s.primaryStored && s.mirrorStored && !s.primaryMarkedMirrored
  | .issueSubmissionReceipt => s.primaryMarkedMirrored && !s.receiptIssued
  | .exactSubmissionReplay | .conflictingSubmissionReplay => s.primaryStored
  | .createUploadPrimaryIntent => s.requestValidated && s.uploadStatus = .absent
  | .createUploadMirrorIntent => s.uploadPrimaryIntent && !s.uploadMirrorIntent
  | .matchUploadIdentity | .rejectUploadIdentity =>
    s.uploadPrimaryIntent && s.uploadMirrorIntent && !s.uploadIdentityMatched
  | .verifyStorageObject => s.uploadStatus = .pending && s.uploadIdentityMatched && !s.uploadObjectVerified
  | .verifyUploadMirror => s.uploadObjectVerified && !s.uploadMirrorVerified
  | .verifyUploadPrimary => s.uploadMirrorVerified && !s.uploadPrimaryVerified
  | .issueUploadReceipt => s.uploadPrimaryVerified && !s.uploadReceiptIssued
  | .rejectedUploadRetry => s.uploadStatus = .rejected
  | .idle => true

def Action.effect (s : State) : Action → State
  | .verifyPublicProof => { s with auth := .publicProofVerified }
  | .verifySubject => { s with auth := .subjectVerified }
  | .rejectAuth => { s with auth := .rejected }
  | .validateRequest => { s with requestValidated := true, idempotencyBound := true, digestBound := true }
  | .storePrimary => { s with primaryStored := true }
  | .storeMirror => { s with mirrorStored := true }
  | .recordMirrorFailure => { s with mirrorFailureRecorded := true }
  | .markPrimaryMirrored => { s with primaryMarkedMirrored := true }
  | .issueSubmissionReceipt => { s with receiptIssued := true }
  | .exactSubmissionReplay | .conflictingSubmissionReplay => s
  | .createUploadPrimaryIntent => { s with uploadStatus := .pending, uploadPrimaryIntent := true }
  | .createUploadMirrorIntent => { s with uploadMirrorIntent := true }
  | .matchUploadIdentity => { s with uploadIdentityMatched := true }
  | .rejectUploadIdentity => { s with uploadStatus := .rejected }
  | .verifyStorageObject => { s with uploadObjectVerified := true }
  | .verifyUploadMirror => { s with uploadMirrorVerified := true }
  | .verifyUploadPrimary => { s with uploadPrimaryVerified := true, uploadStatus := .verified }
  | .issueUploadReceipt => { s with uploadReceiptIssued := true }
  | .rejectedUploadRetry => s
  | .idle => s

/-- The action `step`, by the action it takes. -/
structure Step (s : State) (action : Action) (s' : State) : Prop where
  enabled : action.guard s = true
  moved : s' = action.effect s

namespace State

variable (s : State)

def acceptedAuthPrecedesValidation : Bool :=
  !s.requestValidated || (s.auth = .publicProofVerified || s.auth = .subjectVerified)

def requestIdentityIsAtomic : Bool := s.requestValidated = (s.idempotencyBound && s.digestBound)

def dualPersistenceOrder : Bool :=
  (!s.primaryStored || s.requestValidated) && (!s.mirrorStored || s.primaryStored) &&
    (!s.primaryMarkedMirrored || (s.primaryStored && s.mirrorStored)) &&
    (!s.receiptIssued || s.primaryMarkedMirrored) &&
    (!s.mirrorFailureRecorded || (s.primaryStored && !s.mirrorStored && !s.receiptIssued))

def uploadCompletionOrder : Bool :=
  (!s.uploadMirrorIntent || s.uploadPrimaryIntent) &&
    (!s.uploadIdentityMatched || (s.uploadPrimaryIntent && s.uploadMirrorIntent)) &&
    (!s.uploadObjectVerified ||
      ((s.uploadStatus = .pending || s.uploadStatus = .verified) && s.uploadIdentityMatched)) &&
    (!s.uploadMirrorVerified || s.uploadObjectVerified) && (!s.uploadPrimaryVerified || s.uploadMirrorVerified) &&
    (!s.uploadReceiptIssued || (s.uploadStatus = .verified && s.uploadPrimaryVerified)) &&
    (!(s.uploadStatus = .rejected) || (!s.uploadObjectVerified && !s.uploadMirrorVerified &&
      !s.uploadPrimaryVerified && !s.uploadReceiptIssued))

def apiSafety : Bool :=
  s.acceptedAuthPrecedesValidation && s.requestIdentityIsAtomic && s.dualPersistenceOrder &&
    s.uploadCompletionOrder

end State

section Safety

variable {s s' : State} {action : Action}

theorem acceptedAuth_step (safe : s.acceptedAuthPrecedesValidation = true) (step : Step s action s') :
    s'.acceptedAuthPrecedesValidation = true := by
  obtain ⟨enabled,rfl⟩ := step
  cases action <;> grind [State.acceptedAuthPrecedesValidation, Action.guard, Action.effect]

theorem requestIdentity_step (safe : s.requestIdentityIsAtomic = true) (step : Step s action s') :
    s'.requestIdentityIsAtomic = true := by
  obtain ⟨enabled,rfl⟩ := step
  cases action <;> grind [State.requestIdentityIsAtomic, Action.guard, Action.effect]

theorem dualPersistence_step (safe : s.dualPersistenceOrder = true) (step : Step s action s') :
    s'.dualPersistenceOrder = true := by
  obtain ⟨enabled,rfl⟩ := step
  cases action <;> grind [State.dualPersistenceOrder, Action.guard, Action.effect]

/-- An upload verified in the primary stays so: what makes the order of uploads inductive. -/
def State.primaryVerifiedLast (s : State) : Bool := !s.uploadPrimaryVerified || s.uploadStatus = .verified

theorem uploadCompletion_step (safe : s.uploadCompletionOrder = true) (last : s.primaryVerifiedLast = true)
    (step : Step s action s') : s'.uploadCompletionOrder = true ∧ s'.primaryVerifiedLast = true := by
  obtain ⟨enabled,rfl⟩ := step
  cases action <;> grind [State.uploadCompletionOrder, State.primaryVerifiedLast, Action.guard, Action.effect]

theorem apiSafety_reachable (reachable : Reachable Step init s) : s.apiSafety = true := by
  have sound : s.acceptedAuthPrecedesValidation = true ∧ s.requestIdentityIsAtomic = true ∧
      s.dualPersistenceOrder = true ∧ s.uploadCompletionOrder = true ∧ s.primaryVerifiedLast = true := by
    apply @Reachable.invariant _ _ Step _ _ (fun s => s.acceptedAuthPrecedesValidation = true ∧
      s.requestIdentityIsAtomic = true ∧ s.dualPersistenceOrder = true ∧ s.uploadCompletionOrder = true ∧
      s.primaryVerifiedLast = true) reachable (by decide)
    rintro s action s' ⟨auth,identity,order,uploads,last⟩ step
    exact ⟨acceptedAuth_step auth step,requestIdentity_step identity step,dualPersistence_step order step,
      uploadCompletion_step uploads last step⟩
  obtain ⟨auth,identity,order,uploads,-⟩ := sound
  simp only [State.apiSafety, auth, identity, order, uploads, Bool.and_self]

end Safety

/-- The guards with retries: a recorded failure does not keep the mirror from being tried again,
and is recorded whether or not the mirror got the row. -/
def Action.retryGuard (s : State) : Action → Bool
  | .storeMirror => s.primaryStored && !s.mirrorStored
  | .recordMirrorFailure => s.primaryStored && !s.primaryMarkedMirrored && !s.receiptIssued
  | action => action.guard s

/-- An acknowledgement withdraws the failure. -/
def Action.retryEffect (s : State) : Action → State
  | .markPrimaryMirrored => { s with primaryMarkedMirrored := true, mirrorFailureRecorded := false }
  | action => action.effect s

structure RetryStep (s : State) (action : Action) (s' : State) : Prop where
  enabled : action.retryGuard s = true
  moved : s' = action.retryEffect s

/-- What `dualPersistenceOrder` leaves of itself where failures are retried. -/
def State.retriedOrder (s : State) : Bool :=
  (!s.primaryStored || s.requestValidated) && (!s.mirrorStored || s.primaryStored) &&
    (!s.primaryMarkedMirrored || (s.primaryStored && s.mirrorStored)) &&
    (!s.receiptIssued || s.primaryMarkedMirrored) &&
    (!s.mirrorFailureRecorded || (s.primaryStored && !s.primaryMarkedMirrored && !s.receiptIssued))

section Retries

variable {s s' : State} {action : Action}

theorem RetryStep.idle (s : State) : RetryStep s .idle s := ⟨rfl,rfl⟩

theorem retriedOrder_step (safe : s.retriedOrder = true) (step : RetryStep s action s') :
    s'.retriedOrder = true := by
  obtain ⟨enabled,rfl⟩ := step
  cases action <;> grind [State.retriedOrder, Action.guard, Action.effect, Action.retryGuard, Action.retryEffect]

theorem retriedOrder_reachable (reachable : Reachable RetryStep init s) : s.retriedOrder = true :=
  reachable.invariant (by decide) fun _ _ _ safe step => retriedOrder_step safe step

/-- Where no failure is recorded, a retry is a step of the machine, unless it records a failure
of a row that the mirror has. -/
theorem RetryStep.step (step : RetryStep s action s') (unfailed : s.mirrorFailureRecorded = false)
    (missing : action = .recordMirrorFailure → s.mirrorStored = false) : Step s action s' := by
  obtain ⟨enabled,rfl⟩ := step
  cases action with
  | storeMirror => exact ⟨by simpa [Action.guard, Action.retryGuard, unfailed] using enabled,rfl⟩
  | recordMirrorFailure =>
    have absent := missing rfl
    simp only [Action.retryGuard, Bool.and_eq_true, Bool.not_eq_true'] at enabled
    exact ⟨by simp [Action.guard, enabled, absent],rfl⟩
  | markPrimaryMirrored => exact ⟨enabled,by rw [Action.retryEffect, Action.effect, ← unfailed]⟩
  | _ => exact ⟨enabled,rfl⟩

/-- Some actions lead from one state to another. Retries are among them only where a failure is
recorded, or gets recorded of a row that the mirror has. -/
structure Follows (s : State) (actions : List Action) (s' : State) : Prop where
  retried : Run RetryStep s actions s'
  plain : s.mirrorFailureRecorded = false → (s.mirrorStored = true → s'.mirrorFailureRecorded = false) →
    Run Step s actions s'

theorem Follows.stutter (s : State) : Follows s [] s := ⟨.nil,fun _ _ => .nil⟩

theorem RetryStep.follows (step : RetryStep s action s') : Follows s [action] s' where
  retried := .cons step .nil
  plain unfailed spared := by
    refine .cons (step.step unfailed ?_) .nil
    rintro rfl
    refine Bool.eq_false_iff.mpr fun copied => ?_
    have failed : s'.mirrorFailureRecorded = true := by rw [step.moved]; rfl
    rw [spared copied] at failed
    cases failed

end Retries

def State.take (s : State) (action : Action) : State := if action.guard s then action.effect s else s

def submissionPath : List Action :=
  [.verifySubject, .validateRequest, .storePrimary, .storeMirror, .markPrimaryMirrored, .issueSubmissionReceipt]

def uploadPath : List Action :=
  [.verifySubject, .validateRequest, .createUploadPrimaryIntent, .createUploadMirrorIntent, .matchUploadIdentity,
    .verifyStorageObject, .verifyUploadMirror, .verifyUploadPrimary, .issueUploadReceipt]

section Receipts

variable {s s' : State} {action : Action}

theorem take_reachable (actions : List Action) (s : State) : Reachable Step s (actions.foldl State.take s) := by
  induction actions generalizing s with
  | nil => exact .start
  | cons action actions ih =>
    by_cases enabled : action.guard s = true
    · have moved : s.take action = action.effect s := if_pos enabled
      obtain ⟨events,run⟩ := ih (s.take action)
      exact ⟨action :: events,.cons ⟨enabled,moved⟩ run⟩
    · have stays : s.take action = s := if_neg enabled
      rw [List.foldl_cons, stays]
      exact ih s

/-- The status of an upload beside its milestones. -/
def State.statusTracked (s : State) : Bool :=
  s.uploadPrimaryIntent = !(s.uploadStatus = .absent) && (!(s.uploadStatus = .verified) || s.uploadPrimaryVerified) &&
    (!s.uploadPrimaryIntent || s.requestValidated)

/-- What holds of every reachable state. -/
structure State.Sound (s : State) : Prop where
  safe : s.apiSafety = true
  last : s.primaryVerifiedLast = true
  tracked : s.statusTracked = true

theorem statusTracked_step (tracked : s.statusTracked = true) (step : Step s action s') (uploads : s.uploadCompletionOrder = true) :
    s'.statusTracked = true := by
  obtain ⟨enabled,rfl⟩ := step
  cases action <;> grind [State.statusTracked, State.uploadCompletionOrder, Action.guard, Action.effect]

theorem State.apiSafety_iff : s.apiSafety = true ↔ s.acceptedAuthPrecedesValidation = true ∧
    s.requestIdentityIsAtomic = true ∧ s.dualPersistenceOrder = true ∧ s.uploadCompletionOrder = true := by
  simp only [apiSafety, Bool.and_eq_true, and_assoc]

theorem Step.sound (step : Step s action s') (sound : s.Sound) : s'.Sound := by
  obtain ⟨safe,last,tracked⟩ := sound
  obtain ⟨auth,identity,order,uploads⟩ := State.apiSafety_iff.mp safe
  obtain ⟨uploads',last'⟩ := uploadCompletion_step uploads last step
  exact ⟨State.apiSafety_iff.mpr ⟨acceptedAuth_step auth step,requestIdentity_step identity step,
    dualPersistence_step order step,uploads'⟩,last',statusTracked_step tracked step uploads⟩

theorem sound_reachable (reachable : Reachable Step init s) : s.Sound :=
  reachable.invariant ⟨by decide,by decide,by decide⟩ fun _ _ _ sound step => step.sound sound

theorem State.Sound.take (sound : s.Sound) (action : Action) : (s.take action).Sound := by
  unfold State.take
  split
  · next enabled => exact Step.sound ⟨enabled,rfl⟩ sound
  · exact sound

/-- An action that can be taken where its flag is down raises it. -/
theorem take_flag {flag : State → Bool} (raised : flag (action.effect s) = true)
    (ready : flag s = false → action.guard s = true) : flag (s.take action) = true := by
  unfold State.take
  split
  · exact raised
  · next disabled =>
    cases lowered : flag s with
    | false => exact absurd (ready lowered) disabled
    | true => rfl

theorem take_validated (admitted : s.auth ≠ .rejected) :
    ((s.take .verifySubject).take .validateRequest).requestValidated = true := by
  refine take_flag rfl fun lowered => ?_
  cases decision : s.auth <;> simp_all [State.take, Action.guard, Action.effect]

theorem take_unfailed (unfailed : s.mirrorFailureRecorded = false) (other : action ≠ .recordMirrorFailure) :
    (s.take action).mirrorFailureRecorded = false := by
  unfold State.take
  split
  · cases action <;> first | exact unfailed | contradiction
  · exact unfailed

theorem take_unrejected (unrejected : s.uploadStatus ≠ .rejected) (other : action ≠ .rejectUploadIdentity) :
    (s.take action).uploadStatus ≠ .rejected := by
  unfold State.take
  split
  · cases action <;> first | exact unrejected | contradiction | nofun
  · exact unrejected

theorem submission_completes (admitted : s.auth ≠ .rejected) (unfailed : s.mirrorFailureRecorded = false) :
    (submissionPath.foldl State.take s).receiptIssued = true := by
  have validated := take_validated admitted
  have unfailed' : ((s.take .verifySubject).take .validateRequest).mirrorFailureRecorded = false :=
    take_unfailed (take_unfailed unfailed nofun) nofun
  simp only [submissionPath, List.foldl_cons, List.foldl_nil]
  generalize (s.take .verifySubject).take .validateRequest = s₂ at validated unfailed' ⊢
  have stored : (s₂.take .storePrimary).primaryStored = true :=
    take_flag rfl fun lowered => by simp [Action.guard, validated, lowered]
  have unfailed₃ : (s₂.take .storePrimary).mirrorFailureRecorded = false := take_unfailed unfailed' nofun
  generalize s₂.take .storePrimary = s₃ at stored unfailed₃ ⊢
  have copied : (s₃.take .storeMirror).mirrorStored = true :=
    take_flag rfl fun lowered => by simp [Action.guard, stored, unfailed₃, lowered]
  have stored₄ : (s₃.take .storeMirror).primaryStored = true := by
    unfold State.take
    split <;> exact stored
  generalize s₃.take .storeMirror = s₄ at copied stored₄ ⊢
  have marked : (s₄.take .markPrimaryMirrored).primaryMarkedMirrored = true :=
    take_flag rfl fun lowered => by simp [Action.guard, stored₄, copied, lowered]
  exact take_flag rfl fun lowered => by simp [Action.guard, marked, lowered]

theorem State.Sound.mirrorIntent (sound : s.Sound) (copied : s.uploadMirrorIntent = true) :
    s.uploadPrimaryIntent = true := by
  have uploads := (State.apiSafety_iff.mp sound.safe).2.2.2
  grind [State.uploadCompletionOrder]

/-- A matched upload whose object was not verified waits for it. -/
theorem State.Sound.pending (sound : s.Sound) (unrejected : s.uploadStatus ≠ .rejected)
    (matched : s.uploadIdentityMatched = true) (unverified : s.uploadObjectVerified = false) :
    s.uploadStatus = .pending := by
  have uploads := (State.apiSafety_iff.mp sound.safe).2.2.2
  have tracked := sound.tracked
  cases status : s.uploadStatus <;> grind [State.uploadCompletionOrder, State.statusTracked]

theorem upload_completes (sound : s.Sound) (admitted : s.auth ≠ .rejected) (unrejected : s.uploadStatus ≠ .rejected) :
    (uploadPath.foldl State.take s).uploadReceiptIssued = true := by
  have validated := take_validated admitted
  have sound₂ := (sound.take .verifySubject).take .validateRequest
  have unrejected₂ : ((s.take .verifySubject).take .validateRequest).uploadStatus ≠ .rejected :=
    take_unrejected (take_unrejected unrejected nofun) nofun
  simp only [uploadPath, List.foldl_cons, List.foldl_nil]
  generalize (s.take .verifySubject).take .validateRequest = s₂ at validated sound₂ unrejected₂ ⊢
  have intended : (s₂.take .createUploadPrimaryIntent).uploadPrimaryIntent = true := by
    refine take_flag rfl fun lowered => ?_
    have tracked := sound₂.tracked
    simp_all [State.statusTracked, Action.guard]
  have sound₃ := sound₂.take .createUploadPrimaryIntent
  have unrejected₃ : (s₂.take .createUploadPrimaryIntent).uploadStatus ≠ .rejected := take_unrejected unrejected₂ nofun
  generalize s₂.take .createUploadPrimaryIntent = s₃ at intended sound₃ unrejected₃ ⊢
  have copied : (s₃.take .createUploadMirrorIntent).uploadMirrorIntent = true :=
    take_flag rfl fun lowered => by simp [Action.guard, intended, lowered]
  have sound₄ := sound₃.take .createUploadMirrorIntent
  have unrejected₄ : (s₃.take .createUploadMirrorIntent).uploadStatus ≠ .rejected := take_unrejected unrejected₃ nofun
  generalize s₃.take .createUploadMirrorIntent = s₄ at copied sound₄ unrejected₄ ⊢
  have matched : (s₄.take .matchUploadIdentity).uploadIdentityMatched = true :=
    take_flag rfl fun lowered => by simp [Action.guard, sound₄.mirrorIntent copied, copied, lowered]
  have sound₅ := sound₄.take .matchUploadIdentity
  have unrejected₅ : (s₄.take .matchUploadIdentity).uploadStatus ≠ .rejected := take_unrejected unrejected₄ nofun
  generalize s₄.take .matchUploadIdentity = s₅ at matched sound₅ unrejected₅ ⊢
  have read : (s₅.take .verifyStorageObject).uploadObjectVerified = true :=
    take_flag rfl fun lowered => by simp [Action.guard, sound₅.pending unrejected₅ matched lowered, matched, lowered]
  generalize s₅.take .verifyStorageObject = s₆ at read ⊢
  have mirrored : (s₆.take .verifyUploadMirror).uploadMirrorVerified = true :=
    take_flag rfl fun lowered => by simp [Action.guard, read, lowered]
  generalize s₆.take .verifyUploadMirror = s₇ at mirrored ⊢
  have verified : (s₇.take .verifyUploadPrimary).uploadPrimaryVerified = true :=
    take_flag rfl fun lowered => by simp [Action.guard, mirrored, lowered]
  exact take_flag rfl fun lowered => by simp [Action.guard, verified, lowered]

/-- What no action undoes. -/
theorem Step.dead (step : Step s action s') (sound : s.Sound) : (s.auth = .rejected → s'.auth = .rejected) ∧
    (s.mirrorFailureRecorded = true → s'.mirrorFailureRecorded = true) ∧
    (s.uploadStatus = .rejected → s'.uploadStatus = .rejected) := by
  have uploads := (State.apiSafety_iff.mp sound.safe).2.2.2
  obtain ⟨enabled,rfl⟩ := step
  cases action <;> grind [State.uploadCompletionOrder, Action.guard, Action.effect]

theorem Run.dead {actions : List Action} (run : Run Step s actions s') (sound : s.Sound) : s'.Sound ∧
    (s.auth = .rejected → s'.auth = .rejected) ∧
    (s.mirrorFailureRecorded = true → s'.mirrorFailureRecorded = true) ∧
    (s.uploadStatus = .rejected → s'.uploadStatus = .rejected) := by
  induction run with
  | nil => exact ⟨sound,id,id,id⟩
  | cons step _ ih =>
    obtain ⟨auth,failure,upload⟩ := step.dead sound
    obtain ⟨sound',auth',failure',upload'⟩ := ih (step.sound sound)
    exact ⟨sound',auth' ∘ auth,failure' ∘ failure,upload' ∘ upload⟩

/-- The machine is safe in every state it reaches, and its receipts can still be issued just where
the caller was not rejected and neither a mirror failure nor a mismatch was recorded: both are the
end of the road for the model, while the handlers retry. -/
theorem receipts_attainable (reachable : Reachable Step init s) : s.apiSafety = true ∧
    ((∃ s', Reachable Step s s' ∧ s'.receiptIssued = true) ↔
      s.auth ≠ .rejected ∧ s.mirrorFailureRecorded = false) ∧
    ((∃ s', Reachable Step s s' ∧ s'.uploadReceiptIssued = true) ↔
      s.auth ≠ .rejected ∧ s.uploadStatus ≠ .rejected) := by
  have sound := sound_reachable reachable
  refine ⟨sound.safe,⟨?_,?_⟩,⟨?_,?_⟩⟩
  · rintro ⟨s',⟨actions,run⟩,issued⟩
    obtain ⟨sound',auth,failure,-⟩ := Run.dead run sound
    obtain ⟨validation,-,order,-⟩ := State.apiSafety_iff.mp sound'.safe
    refine ⟨fun rejected => ?_,Bool.eq_false_iff.mpr fun failed => ?_⟩
    · have rejected' := auth rejected
      grind [State.acceptedAuthPrecedesValidation, State.dualPersistenceOrder]
    · have failed' := failure failed
      grind [State.dualPersistenceOrder]
  · rintro ⟨admitted,unfailed⟩
    exact ⟨_,take_reachable submissionPath s,submission_completes admitted unfailed⟩
  · rintro ⟨s',⟨actions,run⟩,issued⟩
    obtain ⟨sound',auth,-,upload⟩ := Run.dead run sound
    obtain ⟨validation,-,-,uploads⟩ := State.apiSafety_iff.mp sound'.safe
    have tracked := sound'.tracked
    refine ⟨fun rejected => ?_,fun mismatched => ?_⟩
    · have rejected' := auth rejected
      grind [State.acceptedAuthPrecedesValidation, State.uploadCompletionOrder, State.statusTracked]
    · have mismatched' := upload mismatched
      grind [State.uploadCompletionOrder]
  · rintro ⟨admitted,unrejected⟩
    exact ⟨_,take_reachable uploadPath s,upload_completes sound admitted unrejected⟩

/-- A mirror failure is the end of a submission, but not of an upload. -/
theorem receipts_attainable_failed :
    ¬(∃ s', Reachable Step ([.verifySubject, .validateRequest, .storePrimary, .recordMirrorFailure].foldl State.take init)
      s' ∧ s'.receiptIssued = true) ∧
    ∃ s', Reachable Step ([.verifySubject, .validateRequest, .storePrimary, .recordMirrorFailure].foldl State.take init)
      s' ∧ s'.uploadReceiptIssued = true := by
  obtain ⟨-,submission,upload⟩ := receipts_attainable
    (take_reachable [.verifySubject, .validateRequest, .storePrimary, .recordMirrorFailure] init)
  exact ⟨fun attained => absurd (submission.mp attained).2 (by decide),upload.mpr (by decide)⟩

end Receipts

end IntakeApi.Formal
