import IntakeApi.Acknowledgement
import IntakeApi.Library.Bounds

/-! Every request is served in a few calls, and none waits for another. -/
namespace IntakeApi

open Interaction Service

def Request.limit : Request → Nat
  | .create .upload _ => 4
  | .create _ _ => 3
  | .complete _ _ => 5

theorem Creation.Asks.few {kind : StoredSubmissionKind} {context : SubmissionContext} {body : Create kind}
    {history : History} {call : Call} (asks : Creation.Asks kind context body history call) :
    history.length < (Request.create kind body).limit := by
  have three : 3 ≤ (Request.create kind body).limit := by
    cases kind <;> simp [Request.limit]
  cases asks with
  | primary => exact Nat.lt_of_lt_of_le (Nat.succ_pos 2) three
  | mirror => exact Nat.lt_of_lt_of_le (Nat.lt_succ_of_lt (Nat.lt_succ_self 1)) three
  | fail => exact Nat.lt_of_lt_of_le (Nat.lt_succ_self 2) three
  | mark => exact Nat.lt_of_lt_of_le (Nat.lt_succ_self 2) three
  | sign => exact Nat.lt_succ_self 3

theorem Completion.Asks.few {id : Uuid} {subject : Option VerifiedSubject} {body : UploadCompleteCreate}
    {history : History} {call : Call} (asks : Completion.Asks id subject body history call) :
    history.length < (Request.complete id body).limit := by
  cases asks <;> exact of_decide_eq_true rfl

theorem handle_bounded (contract : Contract) (arrival : Arrival) :
    (handle contract arrival).Obeys (fun history _ => history.length < arrival.request.limit) (fun _ _ => True) [] := by
  refine (handle_obeys contract arrival).mono (fun history call asks => ?_) fun _ _ _ => trivial
  cases asks with
  | create requested _ asks =>
    rw [requested]
    exact asks.few
  | complete requested _ asks =>
    rw [requested]
    exact asks.few

/-- A run is as long at most as its requests have calls to the stores and the storage, with an arrival
and an end each: so every run ends, once no further request arrives. As each such call is answered in
one step, a request comes to its response by itself, whatever the others do and whatever fails. -/
theorem runs_bounded {contract : Contract} {events : List (Event Env Arrival)} {w : World}
    (run : Machine.Run (server contract).Step (.start .empty) events w) :
    events.length ≤ (w.sessions.map fun session => session.arrival.request.limit + 2).sum ∧
    ∀ (i : Nat) (arrival : Arrival) (program : Handler Receipt), w.sessions[i]? = some ⟨arrival,.running program⟩ →
      ∀ env, ∃ calls w' result, (w.history i).length + calls ≤ arrival.request.limit ∧
        Machine.Run (server contract).Step w (List.replicate calls (.advance i env) ++ [.reply i]) w' ∧
        w'.sessions[i]? = some ⟨arrival,.replied result⟩ := by
  have bounded := handle_bounded contract
  have reachable : Reachable contract w := ⟨events,run⟩
  refine ⟨Server.run_bounded bounded run,fun i arrival program here env => ?_⟩
  obtain ⟨_,rfl,obeys⟩ := (Server.conform bounded reachable).sessions i _ here
  exact Server.finishes here obeys (Server.history_bounded bounded reachable i _ here) env

/-- The bound is met by a submission that is accepted. -/
theorem runs_bounded_accepted :
    Sample.accepted.length ≤ ((outcome .sample Sample.accepted).sessions.map fun session =>
      session.arrival.request.limit + 2).sum ∧
    ((outcome .sample Sample.accepted).sessions.map fun session =>
      session.arrival.request.limit + 2).sum = Sample.accepted.length := by
  have run := @run_outcome .sample [] Sample.accepted Sample.accepted_possible
  refine ⟨(runs_bounded run).1,?_⟩
  rw [Sample.accepted_sessions]
  rfl

end IntakeApi
