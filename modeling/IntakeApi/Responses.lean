import IntakeApi.Acknowledgement

/-! What a response of a create request tells of both stores, where a call to a database that
fails has no effect. -/
namespace IntakeApi

open Interaction Relational Transaction Service

section Rejections

theorem ofAuth_submissionId (error : AuthError) : (ApiFailure.ofAuth error).body.submissionId = none := by
  cases error <;> rfl

theorem ofData_submissionId (error : DataError) : (ApiFailure.ofData error).body.submissionId = none := by
  cases error <;> rfl

theorem ofExternal_submissionId (error : ExternalError) :
    (ApiFailure.ofExternal error).body.submissionId = none := by
  cases error <;> rfl

variable {admission : Admission} {failure : ApiFailure}

theorem authenticate_failed {proof : Option String}
    (failed : admission.authenticateOrVerifyPublic proof = .error failure) : failure.body.submissionId = none := by
  unfold Admission.authenticateOrVerifyPublic at failed
  split at failed
  · cases failed; exact ofAuth_submissionId _
  · cases failed
  · split at failed
    · cases failed; rfl
    · next token =>
      cases checked : admission.turnstile token with
      | error => rw [checked] at failed; cases failed; exact ofExternal_submissionId _
      | ok => rw [checked] at failed; cases failed

theorem requiredSubject_failed (failed : admission.requiredSubject = .error failure) :
    failure.body.submissionId = none := by
  unfold Admission.requiredSubject at failed
  split at failed
  · cases failed; exact ofAuth_submissionId _
  · cases failed; rfl
  · cases failed

theorem submissionContext_failed {id : Uuid} {subject : Option VerifiedSubject} {digest : String}
    (failed : admission.submissionContext id subject digest = .error failure) :
    failure.body.submissionId = none := by
  have key {failure : ApiFailure} (failed : admission.checkedKey = .error failure) :
      failure.body.submissionId = none := by
    unfold Admission.checkedKey at failed
    split at failed
    · cases failed; rfl
    · split at failed <;> cases failed
      rfl
  have host {failure : ApiFailure} (failed : admission.sourceHost = .error failure) :
      failure.body.submissionId = none := by
    unfold Admission.sourceHost at failed
    split at failed
    · cases failed; rfl
    · split at failed
      · cases failed; rfl
      · split at failed
        · cases failed; rfl
        · split at failed <;> cases failed
          rfl
  unfold Admission.submissionContext at failed
  cases keyed : admission.checkedKey with
  | error => rw [keyed] at failed; cases failed; exact key keyed
  | ok =>
    cases hosted : admission.sourceHost with
    | error => rw [keyed, hosted] at failed; cases failed; exact host hosted
    | ok name =>
      rw [keyed, hosted] at failed
      simp only [Except.bind] at failed
      generalize SubmissionContext.new id subject _ digest name = built at failed
      cases built with
      | error => cases failed; exact ofData_submissionId _
      | ok => cases failed

/-- A request that is turned away is told of no submission. -/
theorem admitCreate_failed {contract : Contract} {arrival : Arrival} {kind : StoredSubmissionKind}
    {body : Create kind} (failed : admitCreate contract arrival body = .error failure) :
    failure.body.submissionId = none := by
  unfold admitCreate at failed
  split at failed
  · cases kind with
    | referral =>
      cases settled : arrival.admission.requiredSubject with
      | error => simp only [settled] at failed; cases failed; exact requiredSubject_failed settled
      | ok => simp only [settled] at failed; exact submissionContext_failed failed
    | _ =>
      cases settled : arrival.admission.authenticateOrVerifyPublic body.turnstileToken with
      | error => simp only [settled] at failed; cases failed; exact authenticate_failed settled
      | ok => simp only [settled] at failed; exact submissionContext_failed failed
  · cases failed; rfl

end Rejections

def Call.failed : (call : Call) → call.Answer → Bool
  | .persist .., answer => !answer.isOk
  | .createSignedUploadUrl _, _ => false
  | .verifyObject _, _ => false

/-- The calls of the session, where failing ones have no effect and the signed URL is what the
storage adapter makes of some response. -/
structure Clean (contract : Contract) (w : World) (i : Nat) : Prop where
  ineffective : ∀ entry ∈ w.log, entry.session = i → entry.exchange.1.failed entry.exchange.2 = true →
    (server contract).after entry = entry.before
  signed : ∀ entry ∈ w.log, entry.session = i → ∀ objectKey, entry.exchange.1 = .createSignedUploadUrl objectKey →
    ∃ storage : SupabaseStorage, entry.env.signedUrl = storage.signUpload objectKey

/-- Calls are clean where no commit is left without its acknowledgement. -/
theorem clean_of_commits {contract : Contract} {w : World} (reachable : Reachable contract w) {i : Nat}
    (told : ∀ entry ∈ w.log, entry.session = i → entry.env.faults.commit ≠ .unacknowledged)
    (signed : ∀ entry ∈ w.log, entry.session = i → ∀ objectKey,
      entry.exchange.1 = .createSignedUploadUrl objectKey →
        ∃ storage : SupabaseStorage, entry.env.signedUrl = storage.signUpload objectKey) :
    Clean contract w i := by
  refine ⟨fun entry logged own failed => ?_,signed⟩
  have sound := Server.log_sound reachable entry logged
  have acknowledged := told entry logged own
  obtain ⟨session,⟨call,answer⟩,env,before⟩ := entry
  cases call with
  | persist connection command =>
    cases answer with
    | ok value => cases failed
    | error error =>
      have failing : (run (Statement.exec env.databaseNow) .database env.faults
        (command.transaction contract env.apiNow) (before connection)).1 = .error error := sound.symm
      have ineffective := run_ineffective acknowledged failing
      change Function.update before connection (run (Statement.exec env.databaseNow) .database env.faults
        (command.transaction contract env.apiNow) (before connection)).2 = before
      rw [ineffective, Function.update_eq_self]
  | createSignedUploadUrl => cases failed
  | verifyObject => cases failed

def Unchanged (contract : Contract) (w : World) (i : Nat) : Prop :=
  ∀ entry ∈ w.log, entry.session = i → (server contract).after entry = entry.before

def Database.HoldsRequest (db : Database) (kind : StoredSubmissionKind) (id : Uuid) (context : SubmissionContext) :
    Prop :=
  ∃ row ∈ db.table kind, row.id = id ∧ row.idempotencyKey = context.idempotencyKey ∧
    row.payloadSha256 = context.payloadSha256

section Responses

variable {contract : Contract} {w : World} {i : Nat}

theorem unchanged_of_history (clean : Clean contract w i)
    (failed : ∀ exchange ∈ w.history i, exchange.1.failed exchange.2 = true) : Unchanged contract w i :=
  fun entry logged own => clean.ineffective entry logged own
    (failed entry.exchange ((World.mem_history w).mpr ⟨entry,logged,own,rfl⟩))

theorem holds_stored (reachable : Reachable contract w) {connection : Connection} {target : PersistenceTarget}
    {kind : StoredSubmissionKind} {context : SubmissionContext} {body : Create kind} {stored : Stored kind}
    (member : (⟨.persist connection (.store target kind context body),.ok stored⟩ : Exchange Call Call.Answer) ∈
      w.history i) : (w.store connection).HoldsRequest kind stored.id context := by
  obtain ⟨row,holds⟩ := stored_row reachable member
  exact ⟨row,holds.member,holds.id,holds.idempotencyKey,holds.payloadSha256⟩

theorem marked_item (reachable : Reachable contract w) {kind : StoredSubmissionKind} {context : SubmissionContext}
    {id : Uuid} (member : (⟨markLeg kind context id,.ok ()⟩ : Exchange Call Call.Answer) ∈ w.history i) :
    ∃ entry ∈ w.log, entry.session = i ∧ entry.exchange = ⟨markLeg kind context id,.ok ()⟩ ∧
      ∃ item ∈ ((server contract).after entry .primary).outbox, item.submissionKind = kind ∧
        item.submissionId = id ∧ item.mirrorStatus = .mirrored := by
  obtain ⟨entry,logged,own,same,told,-⟩ := answered reachable member
  refine ⟨entry,logged,own,same,?_⟩
  obtain ⟨db,performed,changed⟩ := respond_ok told
  change perform entry.env.databaseNow (markMirrored kind id context.payloadSha256) (entry.before .primary) =
    _ at performed
  rw [perform_markMirrored] at performed
  split at performed
  · next acknowledged =>
    cases performed
    obtain ⟨item,listed,chosen⟩ := Database.acknowledged_item acknowledged
    obtain ⟨sort,named⟩ := item.matches_names chosen
    have after : (server contract).after entry .primary =
        (entry.before .primary).mirrored kind id context.payloadSha256 := by
      unfold Server.after
      rw [same]
      exact (congrFun changed .primary).trans (Function.update_self ..)
    rw [after]
    exact ⟨item.mirrored,Database.mem_mirrored_outbox.mpr ⟨item,listed,if_pos chosen⟩,sort,named,rfl⟩
  · cases performed

end Responses

structure Truthful (contract : Contract) (w : World) (i : Nat) (arrival : Arrival) (kind : StoredSubmissionKind)
    (body : Create kind) (result : Except ApiFailure Receipt) : Prop where
  accepted : ∀ receipt, result = .ok receipt → ∃ id context, receipt.created = some (kind,id) ∧
    Requested contract arrival body context ∧ (w.store .primary).HoldsRequest kind id context ∧
    (w.store .supabase).HoldsRequest kind id context
  retained : ∀ failure id, result = .error failure → failure.body.submissionId = some id →
    failure.status = 503 ∧ failure.body.retryable = true ∧
    ∃ context, Requested contract arrival body context ∧ (w.store .primary).HoldsRequest kind id context
  otherwise : ∀ failure, result = .error failure → failure.body.submissionId = none →
    Unchanged contract w i ∨
    kind = .upload ∧ failure.status = 503 ∧ failure.body.retryable = true ∧
      (∃ entry ∈ w.log, entry.session = i ∧ ∃ objectKey error,
        entry.exchange = ⟨.createSignedUploadUrl objectKey,.error error⟩) ∧
      ∃ id context, Requested contract arrival body context ∧ (w.store .primary).HoldsRequest kind id context ∧
        (w.store .supabase).HoldsRequest kind id context ∧
        ∃ entry ∈ w.log, entry.session = i ∧ ∃ item ∈ ((server contract).after entry .primary).outbox,
          item.submissionKind = kind ∧ item.submissionId = id ∧ item.mirrorStatus = .mirrored
  refused : ∀ failure, result = .error failure → failure.status < 500 → Unchanged contract w i

section Created

variable {contract : Contract} {w : World} {i : Nat} {arrival : Arrival} {kind : StoredSubmissionKind}
variable {body : Create kind} {context : SubmissionContext}

/-- A submission that is retained is told of by its id. -/
theorem retained_truthful (reachable : Reachable contract w) (requested : Requested contract arrival body context)
    {stored : Stored kind}
    (told : (⟨primaryLeg kind context body,.ok stored⟩ : Exchange Call Call.Answer) ∈ w.history i) :
    Truthful contract w i arrival kind body (.error (.mirrorUnavailable stored.id)) where
  accepted := nofun
  retained := by
    rintro _ id ⟨⟩ named
    cases named
    exact ⟨rfl,rfl,context,requested,holds_stored reachable told⟩
  otherwise := by rintro _ ⟨⟩ nameless; cases nameless
  refused := by
    rintro _ ⟨⟩ small
    change 503 < 500 at small
    omega

theorem accepted_truthful (reachable : Reachable contract w) (requested : Requested contract arrival body context)
    {stored other : Stored kind} {receipt : Receipt} (same : other.id = stored.id)
    (created : receipt.created = some (kind,stored.id))
    (told : (⟨primaryLeg kind context body,.ok stored⟩ : Exchange Call Call.Answer) ∈ w.history i)
    (copied : (⟨mirrorLeg kind context body stored.id,.ok other⟩ : Exchange Call Call.Answer) ∈ w.history i) :
    Truthful contract w i arrival kind body (.ok receipt) where
  accepted := by
    rintro _ ⟨⟩
    have copy := holds_stored reachable copied
    rw [same] at copy
    exact ⟨stored.id,context,created,requested,holds_stored reachable told,copy⟩
  retained := nofun
  otherwise := nofun
  refused := nofun

/-- The answer of the signed-URL step is a server's error. -/
theorem unsigned_failure (reachable : Reachable contract w) (clean : Clean contract w i) {objectKey : String}
    {error : ExternalError} (told : (⟨.createSignedUploadUrl objectKey,.error error⟩ : Exchange Call Call.Answer) ∈
      w.history i) : (ApiFailure.ofExternal error).status = 503 ∧ (ApiFailure.ofExternal error).body.retryable = true ∧
      ∃ entry ∈ w.log, entry.session = i ∧ entry.exchange = ⟨.createSignedUploadUrl objectKey,.error error⟩ := by
  obtain ⟨entry,logged,own,same,answered,-⟩ := answered reachable told
  obtain ⟨storage,signed⟩ := clean.signed entry logged own objectKey (congrArg Sigma.fst same)
  have outage : error = .unavailable ∨ error = .invalidResponse := by
    change createSignedUploadUrl objectKey entry.env.signedUrl = .error error at answered
    rw [createSignedUploadUrl] at answered
    split at answered
    · rw [signed] at answered
      exact SupabaseStorage.signUpload_error answered
    · cases answered; exact .inr rfl
  refine ⟨?_,?_,entry,logged,own,same⟩
  · rcases outage with rfl | rfl <;> rfl
  · rcases outage with rfl | rfl <;> rfl

theorem unsigned_truthful {body : Create .upload} (reachable : Reachable contract w)
    (requested : Requested contract arrival body context) (clean : Clean contract w i) {stored other : Stored .upload}
    {error : ExternalError} (same : other.id = stored.id)
    (told : (⟨primaryLeg .upload context body,.ok stored⟩ : Exchange Call Call.Answer) ∈ w.history i)
    (copied : (⟨mirrorLeg .upload context body stored.id,.ok other⟩ : Exchange Call Call.Answer) ∈ w.history i)
    (marked : (⟨markLeg .upload context stored.id,.ok ()⟩ : Exchange Call Call.Answer) ∈ w.history i)
    (unsigned : (⟨.createSignedUploadUrl stored.objectKey,.error error⟩ : Exchange Call Call.Answer) ∈ w.history i) :
    Truthful contract w i arrival .upload body (.error (.ofExternal error)) := by
  obtain ⟨status,retryable,signing,logged,own,exchange⟩ := unsigned_failure reachable clean unsigned
  obtain ⟨entry,logged',own',-,item⟩ := marked_item reachable marked
  have copy := holds_stored reachable copied
  rw [same] at copy
  exact
    { accepted := nofun
      retained := by
        rintro _ id ⟨⟩ named
        rw [ofExternal_submissionId] at named
        cases named
      otherwise := by
        rintro _ ⟨⟩ -
        exact .inr ⟨rfl,status,retryable,⟨signing,logged,own,_,_,exchange⟩,stored.id,context,requested,
          holds_stored reachable told,copy,entry,logged',own',item⟩
      refused := by rintro _ ⟨⟩ small; omega }

theorem created_truthful (reachable : Reachable contract w) (requested : Requested contract arrival body context)
    (clean : Clean contract w i) {result : Except ApiFailure Receipt}
    (ends : Creation.Ends kind context body (w.history i) result) :
    Truthful contract w i arrival kind body result := by
  generalize traced : w.history i = history at ends
  cases ends with
  | @refused error =>
    have unchanged : Unchanged contract w i := by
      refine unchanged_of_history clean fun exchange member => ?_
      rw [traced, List.mem_singleton] at member
      subst member
      rfl
    exact
      { accepted := nofun
        retained := by
          rintro _ id ⟨⟩ named
          rw [ofData_submissionId] at named
          cases named
        otherwise := fun _ _ _ => .inl unchanged
        refused := fun _ _ _ => unchanged }
  | unmirrored => exact retained_truthful reachable requested (by rw [traced]; simp)
  | unmarked => exact retained_truthful reachable requested (by rw [traced]; simp)
  | @accepted _ _ _ stored other receipt same reported =>
    refine accepted_truthful reachable requested same ?_ (by rw [traced]; simp) (by rw [traced]; simp)
    cases kind <;> cases reported <;> rfl
  | unsigned same =>
    exact unsigned_truthful reachable requested clean same (by rw [traced]; simp) (by rw [traced]; simp)
      (by rw [traced]; simp) (by rw [traced]; simp)
  | signed same =>
    exact accepted_truthful reachable requested same rfl (by rw [traced]; simp) (by rw [traced]; simp)

end Created

theorem truthful_responses {contract : Contract} {w : World} (reachable : Reachable contract w) {i : Nat}
    {arrival : Arrival} {result : Except ApiFailure Receipt}
    (here : w.sessions[i]? = some ⟨arrival,.replied result⟩) {kind : StoredSubmissionKind} {body : Create kind}
    (asked : arrival.request = .create kind body) (clean : Clean contract w i) :
    Truthful contract w i arrival kind body result := by
  have ends := replied reachable here
  cases ends with
  | complete request => cases asked.symm.trans request
  | @rejected failure untouched failed turned =>
    subst failed
    have unchanged : Unchanged contract w i := by
      refine unchanged_of_history clean fun exchange member => ?_
      rw [untouched] at member
      cases member
    have stopped := @Server.ended _ _ _ _ _ _ _ (server contract) (fun _ _ _ => True)
      (fun arrival history result => history = [] → handle contract arrival = .done result)
      (fun arrival => Program.obeys_untouched _) _ _ reachable _ _ _ here untouched
    rw [handle_create asked] at stopped
    have nameless : failure.body.submissionId = none := by
      cases admitted : admitCreate contract arrival body with
      | error other => rw [admitted] at stopped; cases stopped; exact admitCreate_failed admitted
      | ok context => rw [admitted] at stopped; cases stopped
    exact
      { accepted := nofun
        retained := by rintro _ id ⟨⟩ named; cases nameless.symm.trans named
        otherwise := fun _ _ _ => .inl unchanged
        refused := fun _ _ _ => unchanged }
  | create request admitted ends =>
    cases asked.symm.trans request
    exact created_truthful reachable ⟨request,admitted⟩ clean ends

theorem truthful_responses_unmirrored : ∃ context,
    Requested .sample (Sample.anonymous 1) (⟨Sample.preInterest,some "proof-one"⟩ : Create .preInterest) context ∧
      ((outcome .sample Sample.unmirrored).store .primary).HoldsRequest .preInterest 1 context := by
  have facts : possible .sample Sample.unmirrored = true ∧
      (outcome .sample Sample.unmirrored).sessions[0]?.bind Session.reply? =
        some (.error (.mirrorUnavailable 1)) ∧
      ∀ entry ∈ (outcome .sample Sample.unmirrored).log, entry.env.faults.commit ≠ .unacknowledged ∧
        (match entry.exchange.1 with
          | .createSignedUploadUrl _ => false
          | _ => true) = true := by
    decide +kernel
  obtain ⟨ran,left,calls⟩ := facts
  have here := @session_outcome .sample Sample.unmirrored 0 (Sample.anonymous 1) _ ran rfl left
  have clean : Clean .sample (outcome .sample Sample.unmirrored) 0 := by
    refine clean_of_commits (reachable_outcome ran) (fun entry logged _ => (calls entry logged).1) ?_
    intro entry logged own objectKey signing
    have unsigned := (calls entry logged).2
    rw [signing] at unsigned
    cases unsigned
  exact ((truthful_responses (reachable_outcome ran) here rfl clean).retained _ 1 rfl rfl).2.2

end IntakeApi
