import IntakeApi.Library.Machine
import Mathlib.Data.List.Basic

/-! Two parties of one machine whose steps commute: any interleaving of them ends as one of them
going first does. States count up to an equivalence, and only where an invariant holds. -/
namespace Machine

variable {S E : Type} (step : S → E → S → Prop) (Same : S → S → Prop) (J : S → Prop) (left right : E → Bool)

/-- Steps of the two parties commute, and the equivalence sees nothing of how a state came about. -/
structure Commuting : Prop where
  refl : ∀ s, Same s s
  trans : ∀ a b c, Same a b → Same b c → Same a c
  exclusive : ∀ event, left event = true → right event = false
  kept : ∀ s event s', J s → (left event || right event) = true → step s event s' → J s'
  congruent : ∀ s event s' t, (left event || right event) = true → Same s t → step s event s' →
    ∃ t', step t event t' ∧ Same s' t'
  diamond : ∀ s event s' other s'', J s → right event = true → left other = true → step s event s' →
    step s' other s'' → ∃ t t', step s other t ∧ step t event t' ∧ Same s'' t'

namespace Commuting

variable {step Same J left right} (commuting : Commuting step Same J left right)
variable {s t s' s'' : S} {events : List E}

include commuting in
theorem run_congruent (each : ∀ event ∈ events, (left event || right event) = true) (same : Same s t)
    (run : Run step s events s') : ∃ t', Run step t events t' ∧ Same s' t' := by
  induction run generalizing t with
  | nil => exact ⟨t,.nil,same⟩
  | cons here _ ih =>
    obtain ⟨middle,here',same'⟩ := commuting.congruent _ _ _ _ (each _ List.mem_cons_self) same here
    obtain ⟨t',run',same''⟩ := ih (fun event member => each event (List.mem_cons_of_mem _ member)) same'
    exact ⟨t',.cons here' run',same''⟩

include commuting in
/-- One step of the right party moves behind any steps of the left one. -/
theorem postpone {event : E} (invariant : J s) (own : right event = true) (first : step s event s')
    (others : ∀ other ∈ events, left other = true) (run : Run step s' events s'') :
    ∃ t t', Run step s events t ∧ step t event t' ∧ Same s'' t' := by
  induction events generalizing s s' s'' with
  | nil => cases run; exact ⟨s,s',.nil,first,commuting.refl _⟩
  | cons other events ih =>
    cases run with
    | cons here rest =>
      have leads := others other List.mem_cons_self
      have later : ∀ other ∈ events, left other = true :=
        fun other member => others other (List.mem_cons_of_mem _ member)
      obtain ⟨u,u',there,again,same⟩ := commuting.diamond _ _ _ _ _ invariant own leads first here
      obtain ⟨u'',run',same'⟩ := commuting.run_congruent
        (fun other member => by rw [later other member, Bool.true_or]) same rest
      obtain ⟨t,t',run'',last,same''⟩ := ih (commuting.kept _ _ _ invariant (by rw [leads, Bool.true_or]) there)
        again later run'
      exact ⟨t,t',.cons there run'',last,commuting.trans _ _ _ same' same''⟩

include commuting in
/-- Any interleaving ends as its left part followed by its right part does. -/
theorem serial (invariant : J s) (each : ∀ event ∈ events, (left event || right event) = true)
    (run : Run step s events s') :
    ∃ t, Run step s (events.filter left ++ events.filter right) t ∧ Same s' t := by
  induction run with
  | nil => exact ⟨_,.nil,commuting.refl _⟩
  | @cons s event middle events s' here rest ih =>
    have ours := each event List.mem_cons_self
    have later : ∀ event ∈ events, (left event || right event) = true :=
      fun event member => each event (List.mem_cons_of_mem _ member)
    obtain ⟨t,run',same⟩ := ih (commuting.kept _ _ _ invariant ours here) later
    cases leads : left event with
    | true =>
      rw [List.filter_cons_of_pos leads, List.filter_cons_of_neg (by rw [commuting.exclusive event leads]; nofun)]
      exact ⟨t,.cons here run',same⟩
    | false =>
      have follows : right event = true := by simpa [leads] using ours
      rw [List.filter_cons_of_neg (by rw [leads]; nofun), List.filter_cons_of_pos follows]
      obtain ⟨u,first,second⟩ := run'.split
      obtain ⟨v,v',run'',last,same'⟩ := commuting.postpone invariant follows here
        (fun other member => (List.mem_filter.mp member).2) first
      obtain ⟨t',whole,same''⟩ := commuting.run_congruent
        (fun other member => by rw [(List.mem_filter.mp member).2, Bool.or_true]) same' second
      exact ⟨t',run''.append (.cons last whole),commuting.trans _ _ _ same same''⟩

end Commuting
end Machine
