import IntakeApi.Library.Interleave
import IntakeApi.Library.Service

/-! Two requests of a service that write apart and read nothing of what the other one writes:
their calls may be taken in any order. -/
namespace Service

open Interaction Machine

variable {Call : Type} {Answer : Call → Type} {Env σ Arrival ε α : Type}

/-- The session that an event is a step of. -/
def Event.session? : Event Env Arrival → Option Nat
  | .arrive _ => none
  | .advance i _ => some i
  | .reply i => some i
  | .cancel i => some i

def Event.of (i : Nat) (event : Event Env Arrival) : Bool := event.session? = some i

theorem Event.of_exclusive {i j : Nat} (distinct : i ≠ j) (event : Event Env Arrival) (own : event.of i = true) :
    event.of j = false := by
  have owner : event.session? = some i := of_decide_eq_true own
  exact decide_eq_false fun other => distinct (Option.some.inj (owner.symm.trans other))

def World.Calls (w : World Call Answer Env σ Arrival ε α) (i : Nat) (request : Call) : Prop :=
  ∃ arrival next, w.sessions[i]? = some ⟨arrival,.running (.call request next)⟩

/-- The same requests with the same responses, over stores that count as equal. -/
structure World.Same (Even : σ → σ → Prop) (a b : World Call Answer Env σ Arrival ε α) : Prop where
  sessions : a.sessions = b.sessions
  store : Even a.store b.store

variable {server : Server Call Answer Env σ Arrival ε α} {s s' t : World Call Answer Env σ Arrival ε α}
variable {event : Event Env Arrival} {i j : Nat}

/-- A step of a session goes the same way wherever its call is answered alike. -/
theorem Server.Step.transfer {R : σ → σ → Prop} (stepped : server.Step s event s') (own : event.of i = true)
    (same : t.sessions[i]? = s.sessions[i]?) (related : R s.store t.store)
    (alike : ∀ request, s.Calls i request → ∀ env,
      (server.respond env request s.store).1 = (server.respond env request t.store).1 ∧
      R (server.respond env request s.store).2 (server.respond env request t.store).2) :
    ∃ t' session, server.Step t event t' ∧ R s'.store t'.store ∧
      s'.sessions = s.sessions.set i session ∧ t'.sessions = t.sessions.set i session := by
  have owner : event.session? = some i := of_decide_eq_true own
  cases stepped with
  | arrive arrival => cases owner
  | @advance _ arrival request next env here =>
    cases owner
    obtain ⟨answer,stores⟩ := alike request ⟨arrival,next,here⟩ env
    refine ⟨_,_,.advance env (same.trans here),stores,rfl,?_⟩
    rw [answer]
    rfl
  | reply here =>
    cases owner
    exact ⟨_,_,.reply (same.trans here),related,rfl,rfl⟩
  | cancel here =>
    cases owner
    exact ⟨_,_,.cancel (same.trans here),related,rfl,rfl⟩

theorem Server.Step.moved (stepped : server.Step s event s') (own : event.of i = true) :
    ∃ session, s'.sessions = s.sessions.set i session := by
  have owner : event.session? = some i := of_decide_eq_true own
  cases stepped with
  | arrive => cases owner
  | advance => cases owner; exact ⟨_,rfl⟩
  | reply => cases owner; exact ⟨_,rfl⟩
  | cancel => cases owner; exact ⟨_,rfl⟩

/-- A step of one session leaves the stores alone or is one of its calls. -/
theorem Server.Step.quiet_or_called (stepped : server.Step s event s') (own : event.of i = true) :
    s'.store = s.store ∨ ∃ request env, s.Calls i request ∧ s'.store = (server.respond env request s.store).2 := by
  have owner : event.session? = some i := of_decide_eq_true own
  cases stepped with
  | arrive => cases owner
  | @advance _ arrival request next env here => cases owner; exact .inr ⟨request,env,⟨arrival,next,here⟩,rfl⟩
  | reply => exact .inl rfl
  | cancel => exact .inl rfl

/-- `A` relates stores that differ only in what session `i` writes, `B` in what `j` writes. While
`J` holds, the calls of either session see nothing of what the other one writes. -/
structure Parted (server : Server Call Answer Env σ Arrival ε α) (Even A B : σ → σ → Prop)
    (J : World Call Answer Env σ Arrival ε α → Prop) (i j : Nat) : Prop where
  distinct : i ≠ j
  even : Equivalence Even
  left : Equivalence A
  right : Equivalence B
  meet : ∀ x y, A x y → B x y → Even x y
  congruent : ∀ env request x y, Even x y →
    (server.respond env request x).1 = (server.respond env request y).1 ∧
      Even (server.respond env request x).2 (server.respond env request y).2
  writes : ∀ w request env, J w → w.Calls i request → A w.store (server.respond env request w.store).2
  writes' : ∀ w request env, J w → w.Calls j request → B w.store (server.respond env request w.store).2
  clear : ∀ w request env x, J w → w.Calls i request → B w.store x →
    (server.respond env request w.store).1 = (server.respond env request x).1 ∧
      B (server.respond env request w.store).2 (server.respond env request x).2
  clear' : ∀ w request env x, J w → w.Calls j request → A w.store x →
    (server.respond env request w.store).1 = (server.respond env request x).1 ∧
      A (server.respond env request w.store).2 (server.respond env request x).2
  kept : ∀ w event w', J w → (event.of i || event.of j) = true → server.Step w event w' → J w'

namespace Parted

variable {Even A B : σ → σ → Prop} {J : World Call Answer Env σ Arrival ε α → Prop}

theorem symm (parted : Parted server Even A B J i j) : Parted server Even B A J j i where
  distinct := parted.distinct.symm
  even := parted.even
  left := parted.right
  right := parted.left
  meet x y b a := parted.meet x y a b
  congruent := parted.congruent
  writes := parted.writes'
  writes' := parted.writes
  clear := parted.clear'
  clear' := parted.clear
  kept w event w' holds own := parted.kept w event w' holds (by rwa [Bool.or_comm])

variable (parted : Parted server Even A B J i j)

include parted in
theorem step_writes (holds : J s) (own : event.of i = true) (stepped : server.Step s event s') :
    A s.store s'.store := by
  rcases stepped.quiet_or_called own with quiet | ⟨request,env,calls,called⟩
  · rw [quiet]
    exact parted.left.refl _
  · rw [called]
    exact parted.writes s request env holds calls

include parted in
theorem step_congruent (own : event.of i = true) (same : s.Same Even t) (stepped : server.Step s event s') :
    ∃ t', server.Step t event t' ∧ s'.Same Even t' := by
  obtain ⟨t',session,stepped',stores,first,second⟩ := stepped.transfer own (congrArg (·[i]?) same.sessions.symm)
    same.store fun request _ env => parted.congruent env request _ _ same.store
  exact ⟨t',stepped',by rw [first, second, same.sessions],stores⟩

include parted in
/-- A step of `i` moves before one of `j`. -/
theorem step_exchange {event' : Event Env Arrival} {s'' : World Call Answer Env σ Arrival ε α} (holds : J s)
    (own : event.of j = true) (own' : event'.of i = true) (first : server.Step s event s')
    (second : server.Step s' event' s'') :
    ∃ t t', server.Step s event' t ∧ server.Step t event t' ∧ s''.Same Even t' := by
  have holds' : J s' := parted.kept s event s' holds (by rw [own, Bool.or_true]) first
  have wrote : B s.store s'.store := parted.symm.step_writes holds own first
  obtain ⟨session,here⟩ := first.moved own
  have unmoved : s.sessions[i]? = s'.sessions[i]? := by rw [here, List.getElem?_set_ne parted.distinct.symm]
  -- The step of `i` is taken where that of `j` has not happened yet.
  obtain ⟨t,session',earlier,apart,there,moved⟩ := second.transfer own' unmoved (parted.right.symm wrote)
    fun request calls env => parted.clear s' request env _ holds' calls (parted.right.symm wrote)
  have wrote' : A s.store t.store := parted.step_writes holds own' earlier
  have holds'' : J t := parted.kept s event' t holds (by rw [own', Bool.true_or]) earlier
  have unmoved' : t.sessions[j]? = s.sessions[j]? := by rw [moved, List.getElem?_set_ne parted.distinct]
  obtain ⟨t',session'',later,apart',here',moved'⟩ := first.transfer own unmoved' wrote'
    fun request calls env => parted.clear' s request env _ holds calls wrote'
  refine ⟨t,t',earlier,later,?_,?_⟩
  · rw [there, moved', moved, here', List.set_comm _ _ parted.distinct]
  · exact parted.meet _ _ (parted.left.trans (parted.left.symm (parted.step_writes holds' own' second)) apart')
      (parted.right.trans apart (parted.symm.step_writes holds'' own later))

include parted in
theorem commuting : Commuting server.Step (World.Same Even) J (Event.of i) (Event.of j) where
  refl w := ⟨rfl,parted.even.refl _⟩
  trans _ _ _ first second := ⟨first.sessions.trans second.sessions,parted.even.trans first.store second.store⟩
  exclusive := Event.of_exclusive parted.distinct
  kept w event w' holds own stepped := parted.kept w event w' holds own stepped
  congruent w event w' x own same stepped := by
    rcases Bool.or_eq_true_iff.mp own with own | own
    · exact parted.step_congruent own same stepped
    · exact parted.symm.step_congruent own same stepped
  diamond _ _ _ _ _ holds own own' first second := parted.step_exchange holds own own' first second

include parted in
/-- Any interleaving of the two ends as either of them running first. -/
theorem serial {events : List (Event Env Arrival)} (holds : J s)
    (each : ∀ event ∈ events, event.of i = true ∨ event.of j = true) (run : Run server.Step s events s') :
    (∃ t, Run server.Step s (events.filter (Event.of i) ++ events.filter (Event.of j)) t ∧ s'.Same Even t) ∧
    ∃ t, Run server.Step s (events.filter (Event.of j) ++ events.filter (Event.of i)) t ∧ s'.Same Even t :=
  ⟨parted.commuting.serial holds (fun event member => Bool.or_eq_true_iff.mpr (each event member)) run,
    parted.symm.commuting.serial holds (fun event member => Bool.or_eq_true_iff.mpr (each event member).symm) run⟩

end Parted
end Service
