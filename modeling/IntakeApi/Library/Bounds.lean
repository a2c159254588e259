import IntakeApi.Library.ServiceRules
import Mathlib.Algebra.BigOperators.Fin
import Mathlib.Algebra.Order.BigOperators.Group.Finset

/-! How long a service whose programs make a bounded number of calls can run, and that no request
has to wait for another. -/
namespace Service

open Interaction Machine

variable {Call : Type} {Answer : Call → Type} {Env σ Arrival ε α : Type}

/-- The session takes no further step. -/
def Session.settled (session : Session Call Answer Arrival ε α) : Bool :=
  match session.progress with
  | .running _ => false
  | _ => true

namespace World

variable (w : World Call Answer Env σ Arrival ε α)

/-- One for each arrival, each answered call and each session that has come to its end. -/
def events : Nat := w.sessions.length + w.log.length + w.sessions.countP Session.settled

theorem countP_set {sessions : List (Session Call Answer Arrival ε α)} {i : Nat} {arrival : Arrival}
    {program : Program Call Answer ε α} (here : sessions[i]? = some ⟨arrival,.running program⟩)
    (progress : Progress Call Answer ε α) : (sessions.set i ⟨arrival,progress⟩).countP Session.settled =
      sessions.countP Session.settled + if Session.settled ⟨arrival,progress⟩ then 1 else 0 := by
  obtain ⟨bound,same⟩ := List.getElem?_eq_some_iff.mp here
  rw [List.countP_set bound, same]
  rfl

/-- Every entry of a log belongs to one session. -/
theorem length_log {log : List (Entry Call Answer Env σ)} {n : Nat} (entries : ∀ entry ∈ log, entry.session < n) :
    log.length = ∑ i : Fin n, (log.filter fun entry => entry.session = i.val).length := by
  induction log with
  | nil => simp
  | cons entry log ih =>
    obtain ⟨bound,rest⟩ := List.forall_mem_cons.mp entries
    have one (i : Fin n) : ((entry :: log).filter fun entry => entry.session = i.val).length =
        (log.filter fun entry => entry.session = i.val).length + if i = ⟨entry.session,bound⟩ then 1 else 0 := by
      rw [List.filter_cons]
      by_cases own : entry.session = i.val
      · simp [own]
      · have apart : i ≠ ⟨entry.session,bound⟩ := fun same => own (same ▸ rfl)
        simp [own, apart]
    rw [Finset.sum_congr rfl fun i _ => one i, Finset.sum_add_distrib, ← ih rest, List.length_cons]
    simp

end World

namespace Server

variable {server : Server Call Answer Env σ Arrival ε α}

theorem step_events {w w' : World Call Answer Env σ Arrival ε α} {event : Event Env Arrival}
    (stepped : server.Step w event w') : w'.events = w.events + 1 := by
  cases stepped with
  | arrive arrival => simp [World.events, World.arrive, Session.settled]; omega
  | advance env here =>
    simp only [World.events, World.advance, List.length_set, List.length_cons, World.countP_set here]
    simp [Session.settled]
    omega
  | reply here =>
    simp only [World.events, World.settle, List.length_set, World.countP_set here]
    simp [Session.settled]
    omega
  | cancel here =>
    simp only [World.events, World.settle, List.length_set, World.countP_set here]
    simp [Session.settled]
    omega

theorem run_events {w w' : World Call Answer Env σ Arrival ε α} {events : List (Event Env Arrival)}
    (run : Run server.Step w events w') : w'.events = w.events + events.length := by
  induction run with
  | nil => rfl
  | cons stepped _ ih =>
    rw [ih, step_events stepped, List.length_cons]
    omega

section Bounded

variable {limit : Arrival → Nat}
variable (bounded : ∀ arrival, (server.handle arrival).Obeys (fun history _ => history.length < limit arrival)
  (fun _ _ => True) [])
variable {initial : σ} {w w' : World Call Answer Env σ Arrival ε α}

include bounded in
theorem history_bounded (reachable : server.Reachable initial w) : ∀ (i : Nat)
    (session : Session Call Answer Arrival ε α), w.sessions[i]? = some session →
      (w.history i).length ≤ limit session.arrival := by
  apply @Machine.Reachable.invariant_of_reachable _ _ server.Step _ _ (fun w => ∀ (i : Nat)
    (session : Session Call Answer Arrival ε α), w.sessions[i]? = some session →
      (w.history i).length ≤ limit session.arrival) reachable
  · intro i session none
    simp [World.start] at none
  · intro w event w' before holds stepped
    cases stepped with
    | arrive arrival =>
      intro i session found
      change (w.history i).length ≤ _
      by_cases old : i < w.sessions.length
      · rw [World.arrive, List.getElem?_append_left old] at found
        exact holds i session found
      · rw [history_empty (conform bounded before).entries (Nat.not_lt.mp old)]
        exact Nat.zero_le _
    | @advance i arrival request next env here =>
      refine set_sessions ?_ ?_
      · intro j session found distinct
        have same : (w.advance i arrival env request next (server.respond env request w.store).1
            (server.respond env request w.store).2).history j = w.history j := by
          simp [World.history, World.advance, Ne.symm distinct]
        rw [same]
        exact holds j session found
      · have grown : (w.advance i arrival env request next (server.respond env request w.store).1
            (server.respond env request w.store).2).history i =
              ⟨request,(server.respond env request w.store).1⟩ :: w.history i := by
          simp [World.history, World.advance]
        rw [grown]
        exact asked bounded before here
    | @reply i arrival result here =>
      have few := holds i _ here
      exact set_sessions (fun j session found _ => holds j session found) few
    | @cancel i arrival program here =>
      have few := holds i _ here
      exact set_sessions (fun j session found _ => holds j session found) few

include bounded in
/-- A run has an event for each arrival and each end, and one for each call. -/
theorem run_bounded {events : List (Event Env Arrival)} (run : Run server.Step (.start initial) events w) :
    events.length ≤ (w.sessions.map fun session => limit session.arrival + 2).sum := by
  have reachable : server.Reachable initial w := ⟨events,run⟩
  have calls : w.log.length ≤ (w.sessions.map fun session => limit session.arrival).sum := by
    rw [World.length_log (conform bounded reachable).entries, ← Fin.sum_univ_fun_getElem]
    refine Finset.sum_le_sum fun i _ => ?_
    have few := history_bounded bounded reachable i w.sessions[i] (List.getElem?_eq_getElem i.isLt)
    rwa [World.history, List.length_map] at few
  have counted := run_events run
  have ended : w.sessions.countP Session.settled ≤ w.sessions.length := List.countP_le_length
  have total : (w.sessions.map fun session => limit session.arrival + 2).sum =
      (w.sessions.map fun session => limit session.arrival).sum + 2 * w.sessions.length := by
    rw [List.sum_map_add, List.map_const', List.sum_replicate, smul_eq_mul, Nat.mul_comm]
  rw [total]
  simp only [World.events, World.start, List.length_nil, List.countP_nil] at counted
  omega

end Bounded

/-- A program served alone comes to its end, in as many calls as are left to it. -/
theorem finishes {limit : Nat} {program : Program Call Answer ε α} {w : World Call Answer Env σ Arrival ε α}
    {i : Nat} {arrival : Arrival} (here : w.sessions[i]? = some ⟨arrival,.running program⟩)
    (obeys : program.Obeys (fun history _ => history.length < limit) (fun _ _ => True) (w.history i))
    (few : (w.history i).length ≤ limit) (env : Env) :
    ∃ calls w' result, (w.history i).length + calls ≤ limit ∧
      Run server.Step w (List.replicate calls (.advance i env) ++ [.reply i]) w' ∧
      w'.sessions[i]? = some ⟨arrival,.replied result⟩ := by
  obtain ⟨bound,-⟩ := List.getElem?_eq_some_iff.mp here
  induction program generalizing w with
  | done result =>
    exact ⟨0,_,result,few,.cons (.reply here) .nil,List.getElem?_set_self bound⟩
  | call request next ih =>
    obtain ⟨asked,continues⟩ := obeys
    have stepped : server.Step w (.advance i env) _ := .advance env here
    have grown : (w.advance i arrival env request next (server.respond env request w.store).1
        (server.respond env request w.store).2).history i =
          ⟨request,(server.respond env request w.store).1⟩ :: w.history i := by
      simp [World.history, World.advance]
    obtain ⟨calls,w',result,within,run,replied⟩ := ih (server.respond env request w.store).1
      (List.getElem?_set_self bound) (grown ▸ continues _) (by rw [grown]; exact asked)
      (by simpa [World.advance] using bound)
    rw [grown, List.length_cons] at within
    exact ⟨calls + 1,w',result,by omega,.cons stepped run,replied⟩

end Server
end Service
