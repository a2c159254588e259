import Mathlib.Logic.Relation

/-! Runs of a labelled transition system, and the rules that carry what one step
preserves to every state of a run. -/
namespace Machine

variable {S E : Type}

/-- `Run step s events s'`: the events, each enabled where it happens, lead from
`s` to `s'`. -/
inductive Run (step : S → E → S → Prop) : S → List E → S → Prop where
  | nil : Run step s [] s
  | cons : step s event middle → Run step middle events s' → Run step s (event :: events) s'

namespace Run

variable {step : S → E → S → Prop}

theorem append (first : Run step s events middle) (second : Run step middle more s') :
    Run step s (events ++ more) s' := by
  induction first with
  | nil => exact second
  | cons here _ ih => exact .cons here (ih second)

theorem split (run : Run step s (events ++ more) s') :
    ∃ middle, Run step s events middle ∧ Run step middle more s' := by
  induction events generalizing s with
  | nil => exact ⟨s,.nil,run⟩
  | cons event events ih =>
    cases run with
    | cons here rest =>
      obtain ⟨middle,first,second⟩ := ih rest
      exact ⟨middle,.cons here first,second⟩

theorem snoc (first : Run step s events middle) (last : step middle event s') :
    Run step s (events ++ [event]) s' :=
  first.append (.cons last .nil)

/-- What every step preserves holds along every run. -/
theorem invariant {P : S → Prop} (preserved : ∀ s event s', P s → step s event s' → P s')
    (run : Run step s events s') (initial : P s) : P s' := by
  induction run with
  | nil => exact initial
  | cons here _ ih => exact ih (preserved _ _ _ initial here)

theorem related {R : S → S → Prop} (refl : ∀ s, R s s) (trans : ∀ a b c, R a b → R b c → R a c)
    (each : ∀ s event s', step s event s' → R s s') (run : Run step s events s') : R s s' := by
  induction run with
  | nil => exact refl _
  | cons here _ ih => exact trans _ _ _ (each _ _ _ here) ih

theorem mono {step' : S → E → S → Prop} (weaker : ∀ s event s', step s event s' → step' s event s')
    (run : Run step s events s') : Run step' s events s' := by
  induction run with
  | nil => exact .nil
  | cons here _ ih => exact .cons (weaker _ _ _ here) ih

end Run

def Reachable (step : S → E → S → Prop) (initial s : S) : Prop := ∃ events, Run step initial events s

namespace Reachable

variable {step : S → E → S → Prop} {initial s s' : S}

theorem start : Reachable step initial initial := ⟨[],.nil⟩

theorem next (reachable : Reachable step initial s) (here : step s event s') :
    Reachable step initial s' :=
  reachable.elim fun _ run => ⟨_,run.snoc here⟩

theorem extend (reachable : Reachable step initial s) (run : Run step s events s') :
    Reachable step initial s' :=
  reachable.elim fun _ first => ⟨_,first.append run⟩

theorem mono {step' : S → E → S → Prop} (weaker : ∀ s event s', step s event s' → step' s event s')
    (reachable : Reachable step initial s) : Reachable step' initial s :=
  reachable.elim fun events run => ⟨events,run.mono weaker⟩

theorem invariant {P : S → Prop} (reachable : Reachable step initial s) (init : P initial)
    (preserved : ∀ s event s', P s → step s event s' → P s') : P s :=
  reachable.elim fun _ run => run.invariant preserved init

/-- An invariant whose step lemma may use that the state before is reachable. -/
theorem invariant_of_reachable {P : S → Prop} (reachable : Reachable step initial s)
    (init : P initial)
    (preserved : ∀ s event s', Reachable step initial s → P s → step s event s' → P s') : P s := by
  have both : Reachable step initial s ∧ P s :=
    @invariant _ _ step initial s (fun s => Reachable step initial s ∧ P s) reachable ⟨start,init⟩
      fun s event s' holds here => ⟨holds.1.next here,preserved s event s' holds.1 holds.2 here⟩
  exact both.2

/-- Forward simulation: where every step is some steps of an abstract machine, what is reached is
seen in a state that the abstract machine reaches. -/
theorem simulated {T F : Type} {abstract : T → F → T → Prop} {view : S → T}
    (each : ∀ s event s', Reachable step initial s → step s event s' →
      ∃ actions, Run abstract (view s) actions (view s'))
    (reachable : Reachable step initial s) : Reachable abstract (view initial) (view s) := by
  apply @invariant_of_reachable _ _ step initial s (fun s => Reachable abstract (view initial) (view s)) reachable start
  intro s event s' before seen here
  obtain ⟨actions,run⟩ := each s event s' before here
  exact seen.extend run

end Reachable

/-- A step function and the list of events to feed it: the executable side of `Run`. -/
def replay (next : S → E → Option S) : List E → S → Option S
  | [], s => some s
  | event :: events, s => (next s event).bind (replay next events)

theorem replay_append (next : S → E → Option S) (first more : List E) (s : S) :
    replay next (first ++ more) s = (replay next first s).bind (replay next more) := by
  induction first generalizing s with
  | nil => rfl
  | cons event events ih =>
    simp only [List.cons_append, replay, Option.bind_assoc]
    exact congrArg _ (funext ih)

theorem run_of_replay {next : S → E → Option S} {events : List E} {s s' : S}
    (replayed : replay next events s = some s') :
    Run (fun a event b => next a event = some b) s events s' := by
  induction events generalizing s with
  | nil => cases replayed; exact .nil
  | cons event events ih =>
    obtain ⟨middle,here,rest⟩ := Option.bind_eq_some_iff.mp replayed
    exact .cons here (ih rest)

end Machine
