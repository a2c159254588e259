import IntakeApi.HandlerRules
import IntakeApi.Library.ServiceRules

/-! The running API: both stores, every request in flight and the log of its calls.
Each call meets clocks, faults and an object storage that may differ from call to
call, and any two calls may be interleaved. -/
namespace IntakeApi

open Interaction Transaction Service

/-- What a call meets: the API's clock, the clock its transaction began at, the faults
of that transaction, and the answers of the object storage. -/
structure Env where
  apiNow : Timestamp
  databaseNow : Timestamp
  faults : Faults
  signedUrl : Except ExternalError String
  object : Except ExternalError ObjectResponse

abbrev Stores := Connection → Database

def Stores.empty : Stores := fun _ => .empty

def respond (contract : Contract) (env : Env) : (call : Call) → Stores → call.Answer × Stores
  | .persist connection command, stores =>
    let outcome := run (Statement.exec env.databaseNow) .database env.faults
      (command.transaction contract env.apiNow) (stores connection)
    (outcome.1,Function.update stores connection outcome.2)
  | .createSignedUploadUrl objectKey, stores =>
    (IntakeApi.createSignedUploadUrl objectKey env.signedUrl,stores)
  | .verifyObject expected, stores => (IntakeApi.verifyObject contract expected env.object,stores)

abbrev World := Service.World Call Call.Answer Env Stores Arrival ApiFailure Receipt
abbrev Entry := Service.Entry Call Call.Answer Env Stores

def server (contract : Contract) : Server Call Call.Answer Env Stores Arrival ApiFailure Receipt where
  respond := respond contract
  handle := handle contract

/-- Both stores start empty. -/
abbrev Reachable (contract : Contract) (w : World) : Prop := (server contract).Reachable .empty w

/-- The state that a list of events leads to, where each is possible. -/
def outcome (contract : Contract) (events : List (Event Env Arrival)) : World :=
  (Machine.replay (server contract).step events (.start .empty)).getD (.start .empty)

def possible (contract : Contract) (events : List (Event Env Arrival)) : Bool :=
  (Machine.replay (server contract).step events (.start .empty)).isSome

theorem reachable_outcome {contract : Contract} {events : List (Event Env Arrival)}
    (ran : possible contract events = true) : Reachable contract (outcome contract events) := by
  obtain ⟨w,replayed⟩ := Option.isSome_iff_exists.mp ran
  have same : outcome contract events = w := by rw [outcome, replayed, Option.getD_some]
  rw [same]
  exact Server.reachable_of_replay _ replayed

/-- The first events of a possible run are possible. -/
theorem possible_append_left {contract : Contract} {first more : List (Event Env Arrival)}
    (ran : possible contract (first ++ more) = true) : possible contract first = true := by
  obtain ⟨w',replayed⟩ := Option.isSome_iff_exists.mp ran
  obtain ⟨w,begun,-⟩ := Option.bind_eq_some_iff.mp ((Machine.replay_append ..).symm.trans replayed)
  exact Option.isSome_iff_exists.mpr ⟨w,begun⟩

/-- Further events run on from where the first ones lead. -/
theorem run_outcome {contract : Contract} {first more : List (Event Env Arrival)}
    (ran : possible contract (first ++ more) = true) :
    Machine.Run (server contract).Step (outcome contract first) more (outcome contract (first ++ more)) := by
  obtain ⟨w',replayed⟩ := Option.isSome_iff_exists.mp ran
  obtain ⟨w,begun,continued⟩ := Option.bind_eq_some_iff.mp
    ((Machine.replay_append ..).symm.trans replayed)
  have here : outcome contract first = w := by rw [outcome, begun, Option.getD_some]
  have there : outcome contract (first ++ more) = w' := by rw [outcome, replayed, Option.getD_some]
  rw [here, there]
  exact (Machine.run_of_replay continued).mono fun _ _ _ => (server contract).step_sound

theorem sessions_outcome {contract : Contract} {events : List (Event Env Arrival)}
    (ran : possible contract events = true) : (outcome contract events).sessions.map Session.arrival =
      events.filterMap Event.arrival? := by
  obtain ⟨w,replayed⟩ := Option.isSome_iff_exists.mp ran
  have same : outcome contract events = w := by rw [outcome, replayed, Option.getD_some]
  rw [same]
  exact Server.replay_arrivals _ replayed

theorem length_sessions_outcome {contract : Contract} {events : List (Event Env Arrival)}
    (ran : possible contract events = true) :
    (outcome contract events).sessions.length = (events.filterMap Event.arrival?).length := by
  rw [← sessions_outcome ran, List.length_map]

/-- The session of an arrival, by what it was left with. -/
theorem session_outcome {contract : Contract} {events : List (Event Env Arrival)} {i : Nat}
    {arrival : Arrival} {result : Except ApiFailure Receipt} (ran : possible contract events = true)
    (arrived : (events.filterMap Event.arrival?)[i]? = some arrival)
    (left : (outcome contract events).sessions[i]?.bind Session.reply? = some result) :
    (outcome contract events).sessions[i]? = some ⟨arrival,.replied result⟩ := by
  obtain ⟨session,here,left⟩ := Option.bind_eq_some_iff.mp left
  have owner : ((outcome contract events).sessions.map Session.arrival)[i]? = some arrival := by
    rw [sessions_outcome ran]
    exact arrived
  rw [List.getElem?_map, here, Option.map_some] at owner
  cases owner
  rw [here, ← Session.reply?_some left]

/-- Rows of either store only continue, along any run. -/
def Stores.Retains (old new : Stores) : Prop := ∀ connection, (old connection).Retains (new connection)

theorem Stores.retains_refl (stores : Stores) : stores.Retains stores :=
  fun _ => Database.retains_refl _

theorem Stores.retains_trans (a b c : Stores) (first : a.Retains b) (second : b.Retains c) :
    a.Retains c :=
  fun connection => Database.retains_trans _ _ _ (first connection) (second connection)

theorem respond_retains (contract : Contract) (env : Env) (call : Call) (stores : Stores) :
    stores.Retains (respond contract env call stores).2 := by
  cases call with
  | persist connection command =>
    intro other
    by_cases same : other = connection
    · subst same
      simp only [respond, Function.update_self]
      exact run_retains env.databaseNow env.faults _ _
    · simp only [respond, Function.update_of_ne same]
      exact Database.retains_refl _
  | createSignedUploadUrl => exact stores.retains_refl
  | verifyObject => exact stores.retains_refl

/-- A persisted command either leaves both stores alone, or its transaction took effect
in its own store; what it reports then is its result, or only that something failed. -/
theorem respond_persist (contract : Contract) (env : Env) (connection : Connection) (command : Command)
    (stores : Stores) :
    (∃ error, respond contract env (.persist connection command) stores = (.error error,stores)) ∨
    ∃ value db, perform env.databaseNow (command.transaction contract env.apiNow) (stores connection) =
        .ok (value,db) ∧
      (respond contract env (.persist connection command) stores).2 =
        Function.update stores connection db ∧
      ∀ reported, (respond contract env (.persist connection command) stores).1 = .ok reported →
        reported = value := by
  rcases run_cases (Statement.exec env.databaseNow) .database env.faults
    (command.transaction contract env.apiNow) (stores connection) with
    ⟨error,equal⟩ | ⟨value,db,performed,equal | equal⟩
  · refine .inl ⟨error,?_⟩
    rw [respond, equal, Function.update_eq_self]
  · refine .inr ⟨value,db,performed,?_,?_⟩
    · rw [respond, equal]
    · intro reported answered
      rw [respond, equal] at answered
      cases answered
      rfl
  · refine .inr ⟨value,db,performed,?_,?_⟩
    · rw [respond, equal]
    · intro reported answered
      rw [respond, equal] at answered
      cases answered

/-- What a command that reports success did. -/
theorem respond_ok {contract : Contract} {env : Env} {connection : Connection} {command : Command}
    {stores : Stores} {value : command.Output}
    (answered : (respond contract env (.persist connection command) stores).1 = .ok value) :
    ∃ db, perform env.databaseNow (command.transaction contract env.apiNow) (stores connection) =
        .ok (value,db) ∧
      (respond contract env (.persist connection command) stores).2 =
        Function.update stores connection db := by
  rcases respond_persist contract env connection command stores with
    ⟨error,equal⟩ | ⟨result,db,performed,changed,reported⟩
  · rw [equal] at answered
    cases answered
  · obtain rfl := reported value answered
    exact ⟨db,performed,changed⟩

/-- What a command that reports an error stopped with, if nothing else failed. -/
theorem respond_failed {contract : Contract} {env : Env} {connection : Connection} {command : Command}
    {stores : Stores} {error : DataError}
    (failed : (respond contract env (.persist connection command) stores).1 = .error error) :
    error = .database ∨ perform env.databaseNow (command.transaction contract env.apiNow)
      (stores connection) = .error error :=
  run_failed failed

/-- An undisturbed command reports what it did. -/
theorem respond_clear_ok {contract : Contract} {env : Env} {connection : Connection} {command : Command}
    {stores : Stores} {value : command.Output} {db : Database} (clear : env.faults = .clear)
    (performed : perform env.databaseNow (command.transaction contract env.apiNow) (stores connection) =
      .ok (value,db)) :
    respond contract env (.persist connection command) stores =
      (.ok value,Function.update stores connection db) := by
  have ran : run (Statement.exec env.databaseNow) .database env.faults
      (command.transaction contract env.apiNow) (stores connection) = (.ok value,db) := by
    unfold perform at performed
    rw [clear, run_clear, performed]
  rw [respond, ran]

theorem respond_clear_error {contract : Contract} {env : Env} {connection : Connection}
    {command : Command} {stores : Stores} {error : DataError} (clear : env.faults = .clear)
    (performed : perform env.databaseNow (command.transaction contract env.apiNow) (stores connection) =
      .error error) :
    respond contract env (.persist connection command) stores = (.error error,stores) := by
  have ran : run (Statement.exec env.databaseNow) .database env.faults
      (command.transaction contract env.apiNow) (stores connection) =
        (.error error,stores connection) := by
    unfold perform at performed
    rw [clear, run_clear, performed]
  rw [respond, ran, Function.update_eq_self]

end IntakeApi
