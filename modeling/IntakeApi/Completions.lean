import IntakeApi.Defences

/-! What a response to an upload completion tells of both stores, where a call to a database that
fails has no effect. -/
namespace IntakeApi

open Interaction Relational Transaction Service

namespace Completion

variable {id : Uuid} {subject : Option VerifiedSubject} {body : UploadCompleteCreate}

/-- A completion that stopped did not verify the primary's row, and the mirror's only where the
primary's refusal was its last answer. -/
theorem Stops.last {history : History} {failure : ApiFailure} (stops : Stops id subject body history failure) :
    (⟨verifyLeg id subject .primary body,.ok ()⟩ : Exchange Call Call.Answer) ∉ history ∧
    ((⟨verifyLeg id subject .supabase body,.ok ()⟩ : Exchange Call Call.Answer) ∈ history →
      ∃ error, failure = .ofData error ∧ history.head? = some ⟨verifyLeg id subject .primary body,.error error⟩) := by
  cases stops with
  | unverified => exact ⟨by simp [verifyLeg, lookLeg],fun _ => ⟨_,rfl,rfl⟩⟩
  | _ => constructor <;> simp [verifyLeg, lookLeg]

end Completion

section Failures

variable {contract : Contract} {w : World} {i : Nat} {arrival : Arrival} {id : Uuid}
variable {subject : Option VerifiedSubject} {body : UploadCompleteCreate}

/-- What changes a store in the course of a completion is a verification. -/
theorem Change.completing {env : Env} {history : History} {old stores : Stores} {call : Call}
    (change : Change contract env arrival history old call stores) (completing : Completing contract arrival id subject body) :
    ∃ connection, call = Completion.verifyLeg id subject connection body := by
  cases change with
  | accept requested => cases completing.request.symm.trans requested.request
  | copy requested => cases completing.request.symm.trans requested.request
  | mark requested => cases completing.request.symm.trans requested.request
  | fail requested => cases completing.request.symm.trans requested.request
  | verify again =>
    obtain ⟨rfl,rfl,rfl⟩ := completing.unique again
    exact ⟨_,rfl⟩

/-- A call of the session that changes a store verifies the upload there, and has its answer, which
is an error only if the effect went unacknowledged. -/
theorem completing_changes (reachable : Reachable contract w) {progress : Progress Call Call.Answer ApiFailure Receipt}
    (here : w.sessions[i]? = some ⟨arrival,progress⟩) (completing : Completing contract arrival id subject body)
    (clean : Clean contract w i) {entry : Entry} (logged : entry ∈ w.log) (own : entry.session = i)
    (changed : (server contract).after entry ≠ entry.before) :
    ∃ connection, entry.exchange = ⟨Completion.verifyLeg id subject connection body,.ok ()⟩ := by
  obtain ⟨session,there,newer,earlier,history,allowed⟩ := logged_asks reachable logged
  rw [own, here] at there
  cases there
  have effective : entry.exchange.1.failed entry.exchange.2 = false :=
    Bool.eq_false_iff.mpr fun failed => changed (clean.ineffective entry logged own failed)
  rcases answered_change allowed entry.env entry.before with quiet | change
  · exact absurd quiet changed
  · obtain ⟨connection,called⟩ := change.completing completing
    obtain ⟨i,⟨call,answer⟩,env,before⟩ := entry
    cases called
    cases answer with
    | ok => exact ⟨connection,rfl⟩
    | error => cases effective

/-- A verification of the primary's row that is refused comes too late. -/
theorem refused_late (reachable : Reachable contract w) {progress : Progress Call Call.Answer ApiFailure Receipt}
    {entry : Entry} (here : w.sessions[entry.session]? = some ⟨arrival,progress⟩)
    (completing : Completing contract arrival id subject body) (logged : entry ∈ w.log) {error : DataError}
    (refused : entry.exchange = ⟨Completion.verifyLeg id subject .primary body,.error error⟩)
    (sound : error ≠ .database) :
    error = .intakeObjectUnavailable ∧ ∃ row ∈ (w.store .primary).table .upload,
      row.id = id ∧ row.state.expiresAt ≤ entry.env.databaseNow := by
  obtain ⟨newer,older,split⟩ := List.append_of_mem logged
  obtain ⟨⟨earlier,owner,next,begun,there,store,-,grown⟩,-⟩ := Server.log_made reachable newer entry older split
  obtain ⟨session,here',same⟩ := grown.arrivals _ _ there
  rw [here] at here'
  cases here'
  cases same
  have asks := asked begun there
  have warranted := logged_warranted reachable logged refused
  have kept := before_retained reachable logged
  rw [← store] at warranted kept
  rw [congrArg Sigma.fst refused] at asks
  cases warranted with
  | outage => exact absurd rfl sound
  | unclaimed absent =>
    refine ⟨rfl,?_⟩
    cases asks with
    | create request => cases completing.request.symm.trans request
    | complete request admitted asks =>
      obtain ⟨rfl,rfl,rfl⟩ := completing.unique ⟨request,admitted⟩
      obtain ⟨-,-,primary,mirror,verifying⟩ := asks.verifying rfl
      obtain ⟨row,member,named,owned,found⟩ := looked_row begun verifying.looked
      have declared : body.sha256 = row.payload.sha256 := by rw [verifying.found.declared, found]; rfl
      obtain ⟨row',member',continues⟩ := kept .primary .upload row member
      obtain ⟨-,expiry,-⟩ := continues.state
      refine ⟨row',member',continues.id.trans named,?_⟩
      by_contra early
      rw [expiry, not_le] at early
      refine absent row member ?_ declared.symm
      simp [Row.isPending, named, owned, early, (upload_live begun member).1]

end Failures

/-- A completion that is answered with an error verified nothing in the primary, and in the mirror
only where the primary's refusal was its last call: the error is then the primary's, and unless it is a
server's error the upload had expired there. -/
theorem completion_failures {contract : Contract} {w : World} (reachable : Reachable contract w) {i : Nat}
    {arrival : Arrival} {failure : ApiFailure} (here : w.sessions[i]? = some ⟨arrival,.replied (.error failure)⟩)
    {id : Uuid} {subject : Option VerifiedSubject} {body : UploadCompleteCreate}
    (completing : Completing contract arrival id subject body) (clean : Clean contract w i) :
    (∀ entry ∈ w.log, entry.session = i → (server contract).after entry .primary = entry.before .primary) ∧
    (Unchanged contract w i ∨
      (∃ copy ∈ (w.store .supabase).table .upload, copy.id = id ∧ copy.state.status = .verified) ∧
      ∃ entry ∈ w.log, entry.session = i ∧ (w.history i).head? = some entry.exchange ∧ ∃ error,
        entry.exchange = ⟨Completion.verifyLeg id subject .primary body,.error error⟩ ∧ failure = .ofData error ∧
        (failure.status < 500 → failure = .conflict ∧ ∃ row ∈ (w.store .primary).table .upload,
          row.id = id ∧ row.state.expiresAt ≤ entry.env.databaseNow)) := by
  obtain ⟨unverified,last⟩ := (Server.ended (handle_stops contract) reachable here id subject body completing _ rfl).last
  have logged_told {entry : Entry} (logged : entry ∈ w.log) (own : entry.session = i) :
      entry.exchange ∈ w.history i := (World.mem_history w).mpr ⟨entry,logged,own,rfl⟩
  have changes {entry : Entry} (logged : entry ∈ w.log) (own : entry.session = i)
      (changed : (server contract).after entry ≠ entry.before) :
      entry.exchange = ⟨Completion.verifyLeg id subject .supabase body,.ok ()⟩ := by
    obtain ⟨connection,told⟩ := completing_changes reachable here completing clean logged own changed
    cases connection with
    | primary => exact absurd (told ▸ logged_told logged own) unverified
    | supabase => exact told
  refine ⟨fun entry logged own => ?_,?_⟩
  · by_cases changed : (server contract).after entry = entry.before
    · rw [changed]
    · have told := changes logged own changed
      have apart : Connection.primary ≠ .supabase := by decide
      unfold Server.after
      rw [told]
      change (respond contract entry.env (.persist .supabase (.verifyUpload id subject body.sha256)) entry.before).2
        .primary = entry.before .primary
      simp only [respond, Function.update_of_ne apart]
  · by_cases mirrored : (⟨Completion.verifyLeg id subject .supabase body,.ok ()⟩ : Exchange Call Call.Answer) ∈ w.history i
    · obtain ⟨error,failed,final⟩ := last mirrored
      obtain ⟨entry,logged,own,exchange⟩ := (World.mem_history w).mp (List.mem_of_head? final)
      refine .inr ⟨verified_row reachable mirrored,entry,logged,own,final.trans (congrArg some exchange.symm),error,
        exchange,failed,fun small => ?_⟩
      have sound : error ≠ .database := by
        rintro rfl
        rw [failed] at small
        change 503 < 500 at small
        omega
      rw [← own] at here
      obtain ⟨rfl,late⟩ := refused_late reachable here completing logged exchange sound
      exact ⟨failed,late⟩
    · refine .inl fun entry logged own => ?_
      by_contra changed
      exact mirrored (changes logged own changed ▸ logged_told logged own)

theorem completion_failures_late :
    (outcome .sample Sample.lateCompleted).sessions[1]?.bind Session.reply? = some (.error .conflict) ∧
    (∃ copy ∈ ((outcome .sample Sample.lateCompleted).store .supabase).table .upload,
      copy.id = 1 ∧ copy.state.status = .verified) ∧
    ∃ row ∈ ((outcome .sample Sample.lateCompleted).store .primary).table .upload,
      row.id = 1 ∧ row.state.expiresAt ≤ 10 ^ 15 := by
  have facts : possible .sample Sample.lateCompleted = true ∧
      (outcome .sample Sample.lateCompleted).sessions[1]?.bind Session.reply? = some (.error .conflict) ∧
      (∀ entry ∈ (outcome .sample Sample.lateCompleted).log, entry.session = 1 →
        entry.env.faults.commit ≠ .unacknowledged ∧ entry.env.databaseNow ≤ 10 ^ 15 ∧
        (match entry.exchange.1 with
          | .createSignedUploadUrl _ => false
          | _ => true) = true) ∧
      ∃ entry ∈ (outcome .sample Sample.lateCompleted).log, entry.session = 1 ∧
        (∃ row ∈ ((entry.before .supabase).table .upload).rows, row.state.status = .pending) ∧
        ∀ row ∈ (((server .sample).after entry .supabase).table .upload).rows, row.state.status = .verified := by
    decide +kernel
  obtain ⟨ran,left,calls,verifying,logged,own,⟨row,member,pending⟩,verified⟩ := facts
  have here := @session_outcome .sample Sample.lateCompleted 1 (Sample.completion 1 .resume) _ ran rfl left
  have clean : Clean .sample (outcome .sample Sample.lateCompleted) 1 := by
    refine clean_of_commits (reachable_outcome ran) (fun entry logged own => (calls entry logged own).1) ?_
    intro entry logged own objectKey signing
    have unsigned := (calls entry logged own).2.2
    rw [signing] at unsigned
    cases unsigned
  obtain ⟨-,unchanged | ⟨copied,entry,logged,own,-,error,exchange,failed,late⟩⟩ := completion_failures
    (reachable_outcome ran) here (⟨rfl,rfl⟩ : Completing _ _ 1 none ⟨Sample.contentDigest .resume,some "proof-two"⟩) clean
  · rw [← unchanged verifying logged own] at member
    cases pending.symm.trans (verified row member)
  · obtain ⟨-,row,member,named,expired⟩ := late (by decide)
    exact ⟨left,copied,row,member,named,expired.trans (calls entry logged own).2.1⟩

end IntakeApi
