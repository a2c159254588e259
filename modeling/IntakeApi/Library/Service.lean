import IntakeApi.Library.History
import IntakeApi.Library.Machine

/-! A service: any number of requests, each running its own program, take turns in
making calls against one shared store. A log keeps every exchange with the store
it met, newest first. -/
namespace Service

open Interaction Machine

/-- What a service does with a call, and the program that serves a request. -/
structure Server (Call : Type) (Answer : Call → Type) (Env σ Arrival ε α : Type) where
  respond : Env → (request : Call) → σ → Answer request × σ
  handle : Arrival → Program Call Answer ε α

inductive Progress (Call : Type) (Answer : Call → Type) (ε α : Type) where
  | running (program : Program Call Answer ε α)
  | replied (result : Except ε α)
  | cancelled

/-- A session stands at a program: it runs it, or left it with its result, or was
cancelled there. -/
def Progress.At {Call : Type} {Answer : Call → Type} (program : Program Call Answer ε α) :
    Progress Call Answer ε α → Prop
  | .running current => current = program
  | .replied result => program = .done result
  | .cancelled => True

theorem Progress.at_call {Call : Type} {Answer : Call → Type} {request : Call}
    {next : Answer request → Program Call Answer ε α} {progress : Progress Call Answer ε α}
    (stands : progress.At (.call request next)) :
    progress = .cancelled ∨ progress = .running (.call request next) := by
  cases progress with
  | running current => exact .inr (congrArg _ stands)
  | replied result => cases stands
  | cancelled => exact .inl rfl

theorem Progress.at_done {Call : Type} {Answer : Call → Type} {result : Except ε α}
    {progress : Progress Call Answer ε α} (stands : progress.At (.done result)) :
    progress = .cancelled ∨ progress = .running (.done result) ∨ progress = .replied result := by
  cases progress with
  | running current => exact .inr (.inl (congrArg _ stands))
  | replied other => cases stands; exact .inr (.inr rfl)
  | cancelled => exact .inl rfl

structure Session (Call : Type) (Answer : Call → Type) (Arrival ε α : Type) where
  arrival : Arrival
  progress : Progress Call Answer ε α

/-- The result that a session was left with. -/
def Session.reply? {Call : Type} {Answer : Call → Type} (session : Session Call Answer Arrival ε α) :
    Option (Except ε α) :=
  match session.progress with
  | .replied result => some result
  | _ => none

theorem Session.reply?_some {Call : Type} {Answer : Call → Type} {session : Session Call Answer Arrival ε α}
    {result : Except ε α} (left : session.reply? = some result) :
    session = ⟨session.arrival,.replied result⟩ := by
  obtain ⟨arrival,progress⟩ := session
  cases progress with
  | replied other => cases left; rfl
  | running => cases left
  | cancelled => cases left

structure Entry (Call : Type) (Answer : Call → Type) (Env σ : Type) where
  session : Nat
  exchange : Exchange Call Answer
  env : Env
  before : σ

structure World (Call : Type) (Answer : Call → Type) (Env σ Arrival ε α : Type) where
  store : σ
  sessions : List (Session Call Answer Arrival ε α)
  log : List (Entry Call Answer Env σ)

/-- `advance` answers the next call of a session, `reply` sends its result. A session
may be cancelled wherever it stands. -/
inductive Event (Env Arrival : Type) where
  | arrive (arrival : Arrival)
  | advance (session : Nat) (env : Env)
  | reply (session : Nat)
  | cancel (session : Nat)

def Event.arrival? : Event Env Arrival → Option Arrival
  | .arrive arrival => some arrival
  | _ => none

variable {Call : Type} {Answer : Call → Type} {Env σ Arrival ε α : Type}

namespace World

variable (w : World Call Answer Env σ Arrival ε α)

def start (store : σ) : World Call Answer Env σ Arrival ε α := ⟨store,[],[]⟩

/-- What a session has been answered so far. -/
def history (i : Nat) : List (Exchange Call Answer) :=
  (w.log.filter fun entry => entry.session = i).map Entry.exchange

def arrive (arrival : Arrival) (program : Program Call Answer ε α) :
    World Call Answer Env σ Arrival ε α :=
  { w with sessions := w.sessions ++ [⟨arrival,.running program⟩] }

def settle (i : Nat) (arrival : Arrival) (progress : Progress Call Answer ε α) :
    World Call Answer Env σ Arrival ε α :=
  { w with sessions := w.sessions.set i ⟨arrival,progress⟩ }

def advance (i : Nat) (arrival : Arrival) (env : Env) (request : Call)
    (next : Answer request → Program Call Answer ε α) (answer : Answer request) (store : σ) :
    World Call Answer Env σ Arrival ε α where
  store := store
  sessions := w.sessions.set i ⟨arrival,.running (next answer)⟩
  log := ⟨i,⟨request,answer⟩,env,w.store⟩ :: w.log

theorem mem_history {i : Nat} {exchange : Exchange Call Answer} :
    exchange ∈ w.history i ↔ ∃ entry ∈ w.log, entry.session = i ∧ entry.exchange = exchange := by
  simp only [history, List.mem_map, List.mem_filter, decide_eq_true_eq, and_assoc]

end World

namespace Server

variable (server : Server Call Answer Env σ Arrival ε α)

/-- The state of the store after an entry of the log. -/
def after (entry : Entry Call Answer Env σ) : σ :=
  (server.respond entry.env entry.exchange.1 entry.before).2

def step (w : World Call Answer Env σ Arrival ε α) :
    Event Env Arrival → Option (World Call Answer Env σ Arrival ε α)
  | .arrive arrival => some (w.arrive arrival (server.handle arrival))
  | .advance i env =>
    match w.sessions[i]? with
    | some ⟨arrival,.running (.call request next)⟩ =>
      let outcome := server.respond env request w.store
      some (w.advance i arrival env request next outcome.1 outcome.2)
    | _ => none
  | .reply i =>
    match w.sessions[i]? with
    | some ⟨arrival,.running (.done result)⟩ => some (w.settle i arrival (.replied result))
    | _ => none
  | .cancel i =>
    match w.sessions[i]? with
    | some ⟨arrival,.running _⟩ => some (w.settle i arrival .cancelled)
    | _ => none

/-- `step` as a relation, one case for each kind of event. -/
inductive Step (w : World Call Answer Env σ Arrival ε α) :
    Event Env Arrival → World Call Answer Env σ Arrival ε α → Prop where
  | arrive (arrival : Arrival) : Step w (.arrive arrival) (w.arrive arrival (server.handle arrival))
  | advance {i : Nat} {arrival : Arrival} {request : Call}
      {next : Answer request → Program Call Answer ε α} (env : Env)
      (here : w.sessions[i]? = some ⟨arrival,.running (.call request next)⟩) :
      Step w (.advance i env) (w.advance i arrival env request next
        (server.respond env request w.store).1 (server.respond env request w.store).2)
  | reply {i : Nat} {arrival : Arrival} {result : Except ε α}
      (here : w.sessions[i]? = some ⟨arrival,.running (.done result)⟩) :
      Step w (.reply i) (w.settle i arrival (.replied result))
  | cancel {i : Nat} {arrival : Arrival} {program : Program Call Answer ε α}
      (here : w.sessions[i]? = some ⟨arrival,.running program⟩) :
      Step w (.cancel i) (w.settle i arrival .cancelled)

/-- A program served alone, with what each of its calls meets. -/
def drive : Program Call Answer ε α → List Env → σ → Program Call Answer ε α × σ
  | .call request next, env :: envs, store =>
    drive (next (server.respond env request store).1) envs (server.respond env request store).2
  | program, _, store => (program,store)

theorem drive_call (request : Call) (next : Answer request → Program Call Answer ε α) (env : Env)
    (envs : List Env) (store : σ) : server.drive (.call request next) (env :: envs) store =
      server.drive (next (server.respond env request store).1) envs
        (server.respond env request store).2 := rfl

theorem step_sound {w w' : World Call Answer Env σ Arrival ε α} {event : Event Env Arrival}
    (stepped : server.step w event = some w') : server.Step w event w' := by
  cases event with
  | arrive arrival => cases stepped; exact .arrive arrival
  | advance i env =>
    simp only [step] at stepped
    split at stepped
    · next here => cases stepped; exact .advance env here
    · cases stepped
  | reply i =>
    simp only [step] at stepped
    split at stepped
    · next here => cases stepped; exact .reply here
    · cases stepped
  | cancel i =>
    simp only [step] at stepped
    split at stepped
    · next here => cases stepped; exact .cancel here
    · cases stepped

def Reachable (initial : σ) (w : World Call Answer Env σ Arrival ε α) : Prop :=
  Machine.Reachable server.Step (.start initial) w

theorem reachable_of_replay {initial : σ} {events : List (Event Env Arrival)}
    {w : World Call Answer Env σ Arrival ε α}
    (replayed : replay server.step events (.start initial) = some w) : server.Reachable initial w :=
  ⟨events,(run_of_replay replayed).mono fun _ _ _ => server.step_sound⟩

/-- A session can always be served alone for a while. -/
theorem driven {initial : σ} {w : World Call Answer Env σ Arrival ε α} {i : Nat} {arrival : Arrival}
    {program : Program Call Answer ε α} (reachable : server.Reachable initial w)
    (here : w.sessions[i]? = some ⟨arrival,.running program⟩) (envs : List Env) :
    ∃ w', server.Reachable initial w' ∧ w'.store = (server.drive program envs w.store).2 := by
  induction envs generalizing w program with
  | nil => cases program <;> exact ⟨w,reachable,rfl⟩
  | cons env envs ih =>
    cases program with
    | done result => exact ⟨w,reachable,rfl⟩
    | call request next =>
      refine ih (reachable.next (.advance env here)) ?_
      obtain ⟨bound,-⟩ := List.getElem?_eq_some_iff.mp here
      exact List.getElem?_set_self bound

/-- A step of one session keeps whose it is. -/
theorem map_set_arrival {sessions : List (Session Call Answer Arrival ε α)} {i : Nat} {arrival : Arrival}
    {old new : Progress Call Answer ε α} (here : sessions[i]? = some ⟨arrival,old⟩) :
    (sessions.set i ⟨arrival,new⟩).map Session.arrival = sessions.map Session.arrival := by
  have found : (sessions.map Session.arrival)[i]? = some arrival := by rw [List.getElem?_map, here]; rfl
  obtain ⟨bound,same⟩ := List.getElem?_eq_some_iff.mp found
  rw [List.map_set, ← same]
  exact List.set_getElem_self bound

/-- The sessions are those of the arrivals, in order. -/
theorem replay_arrivals {events : List (Event Env Arrival)} {w w' : World Call Answer Env σ Arrival ε α}
    (replayed : replay server.step events w = some w') :
    w'.sessions.map Session.arrival = w.sessions.map Session.arrival ++ events.filterMap Event.arrival? := by
  induction events generalizing w with
  | nil => cases replayed; simp
  | cons event events ih =>
    obtain ⟨middle,stepped,rest⟩ := Option.bind_eq_some_iff.mp replayed
    rw [ih rest]
    cases server.step_sound stepped with
    | arrive arrival => simp [World.arrive, Event.arrival?]
    | advance env here => exact congrArg (· ++ _) (map_set_arrival here)
    | reply here => exact congrArg (· ++ _) (map_set_arrival here)
    | cancel here => exact congrArg (· ++ _) (map_set_arrival here)

/-- How the worlds of a run grow: requests stay, and so does what was logged. -/
structure Grows (w w' : World Call Answer Env σ Arrival ε α) : Prop where
  arrivals : ∀ (i : Nat) (session : Session Call Answer Arrival ε α), w.sessions[i]? = some session →
    ∃ session', w'.sessions[i]? = some session' ∧ session'.arrival = session.arrival
  logged : ∃ newer, w'.log = newer ++ w.log

theorem grows_refl (w : World Call Answer Env σ Arrival ε α) : Grows w w :=
  ⟨fun _ session here => ⟨session,here,rfl⟩,[],rfl⟩

theorem grows_trans (a b c : World Call Answer Env σ Arrival ε α) (first : Grows a b)
    (second : Grows b c) : Grows a c := by
  refine ⟨?_,?_⟩
  · intro i session here
    obtain ⟨session',here',same⟩ := first.arrivals i session here
    obtain ⟨session'',here'',same'⟩ := second.arrivals i session' here'
    exact ⟨session'',here'',same'.trans same⟩
  · obtain ⟨newer,equal⟩ := first.logged
    obtain ⟨newest,equal'⟩ := second.logged
    exact ⟨newest ++ newer,by rw [equal', equal, List.append_assoc]⟩

theorem Grows.history {w w' : World Call Answer Env σ Arrival ε α} (grows : Grows w w') (i : Nat) :
    ∃ newer, w'.history i = newer ++ w.history i := by
  obtain ⟨newer,equal⟩ := grows.logged
  exact ⟨_,by rw [World.history, equal, List.filter_append, List.map_append]; rfl⟩

theorem set_arrivals {sessions : List (Session Call Answer Arrival ε α)} {i : Nat} {arrival : Arrival}
    {old new : Progress Call Answer ε α} (here : sessions[i]? = some ⟨arrival,old⟩) (j : Nat)
    (session : Session Call Answer Arrival ε α) (at_j : sessions[j]? = some session) :
    ∃ session', (sessions.set i ⟨arrival,new⟩)[j]? = some session' ∧
      session'.arrival = session.arrival := by
  by_cases same : i = j
  · subst same
    rw [here] at at_j
    cases at_j
    obtain ⟨bound,_⟩ := List.getElem?_eq_some_iff.mp here
    exact ⟨⟨arrival,new⟩,List.getElem?_set_self bound,rfl⟩
  · exact ⟨session,by rw [List.getElem?_set_ne same]; exact at_j,rfl⟩

theorem step_grows (w : World Call Answer Env σ Arrival ε α) (event : Event Env Arrival)
    (w' : World Call Answer Env σ Arrival ε α) (stepped : server.Step w event w') : Grows w w' := by
  cases stepped with
  | arrive arrival =>
    refine ⟨fun i session here => ⟨session,?_,rfl⟩,[],rfl⟩
    obtain ⟨bound,_⟩ := List.getElem?_eq_some_iff.mp here
    rw [World.arrive, List.getElem?_append_left bound, here]
  | advance env here => exact ⟨set_arrivals here,[_],rfl⟩
  | reply here => exact ⟨set_arrivals here,[],rfl⟩
  | cancel here => exact ⟨set_arrivals here,[],rfl⟩

end Server
end Service
