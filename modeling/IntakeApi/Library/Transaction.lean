import IntakeApi.Library.History

/-! Transactions as programs of statements. Any statement may fail, a transaction
dropped before its commit leaves the store as it was, and a commit may be refused
or may take effect without its acknowledgement reaching the caller. -/
namespace Transaction

open Interaction

inductive Commit where
  | acknowledged
  | refused
  | unacknowledged
  deriving DecidableEq, Repr

/-- `interrupted = some n` fails the statement after the first `n`. -/
structure Faults where
  interrupted : Option Nat
  commit : Commit
  deriving DecidableEq, Repr

def Faults.clear : Faults := ⟨none, .acknowledged⟩

section Execution

variable {Statement : Type} {Answer : Statement → Type} {ε σ α : Type}
variable (exec : (statement : Statement) → σ → Except ε (Answer statement × σ)) (outage : ε)

/-- The body of a transaction: statements run in order on a private copy, which
an error discards. -/
def execute (interrupted : Option Nat) (program : Program Statement Answer ε α) (s : σ) :
    Except ε (α × σ) :=
  match program with
  | .done (.ok value) => .ok (value, s)
  | .done (.error error) => .error error
  | .call statement next =>
    if interrupted = some 0 then .error outage
    else match exec statement s with
      | .error error => .error error
      | .ok (answer, s') => execute (interrupted.map (· - 1)) (next answer) s'

def run (faults : Faults) (program : Program Statement Answer ε α) (s : σ) : Except ε α × σ :=
  match execute exec outage faults.interrupted program s with
  | .error error => (.error error, s)
  | .ok (value, s') =>
    match faults.commit with
    | .acknowledged => (.ok value, s')
    | .refused => (.error outage, s)
    | .unacknowledged => (.error outage, s')

variable {exec outage}

@[simp] theorem execute_ok (interrupted : Option Nat) (value : α) (s : σ) :
    execute exec outage interrupted (.done (.ok value)) s = .ok (value, s) := rfl

@[simp] theorem execute_error (interrupted : Option Nat) (error : ε) (s : σ) :
    execute exec outage interrupted (.done (.error error) : Program Statement Answer ε α) s =
      .error error := rfl

theorem execute_call (statement : Statement)
    (next : Answer statement → Program Statement Answer ε α) (s : σ) :
    execute exec outage none (.call statement next) s =
      match exec statement s with
      | .error error => .error error
      | .ok (answer, s') => execute exec outage none (next answer) s' := by
  simp [execute]

/-- Bodies compose: the second runs on what the first left. -/
theorem execute_bind {β : Type} (first : Program Statement Answer ε α)
    (next : α → Program Statement Answer ε β) (s : σ) :
    execute exec outage none (first >>= next) s =
      (execute exec outage none first s).bind fun outcome =>
        execute exec outage none (next outcome.1) outcome.2 := by
  induction first generalizing s with
  | done result => cases result <;> rfl
  | call statement rest ih =>
    rw [Program.bind_call, execute_call, execute_call]
    cases exec statement s with
    | error error => rfl
    | ok outcome => exact ih outcome.1 outcome.2

theorem execute_ask (statement : Statement) (s : σ) :
    execute exec outage none (.ask statement : Program Statement Answer ε (Answer statement)) s =
      exec statement s := by
  rw [Program.ask, execute_call]
  cases exec statement s <;> rfl

theorem execute_require (condition : Bool) (error : ε) (s : σ) :
    execute exec outage none (.require condition error : Program Statement Answer ε Unit) s =
      if condition then .ok ((), s) else .error error := by
  cases condition <;> rfl

/-- A fault only ever stops a transaction: what completes under faults is what the
undisturbed transaction does. -/
theorem execute_undisturbed {interrupted : Option Nat} {program : Program Statement Answer ε α}
    {s : σ} {outcome : α × σ} (completed : execute exec outage interrupted program s = .ok outcome) :
    execute exec outage none program s = .ok outcome := by
  induction program generalizing interrupted s with
  | done result =>
    cases result with
    | ok => exact completed
    | error => cases completed
  | call statement next ih =>
    rw [execute] at completed
    rw [execute_call]
    split at completed
    · cases completed
    · split at completed
      · cases completed
      · next answered => simpa only [answered] using ih _ completed

/-- What holds between the states around every statement, reflexively and
transitively, holds between the states around the whole body. -/
theorem execute_related {R : σ → σ → Prop} (refl : ∀ s, R s s)
    (trans : ∀ a b c, R a b → R b c → R a c)
    (statement : ∀ t s answer s', exec t s = .ok (answer, s') → R s s')
    {interrupted : Option Nat} {program : Program Statement Answer ε α} {s s' : σ} {value : α}
    (completed : execute exec outage interrupted program s = .ok (value, s')) : R s s' := by
  induction program generalizing interrupted s with
  | done result =>
    cases result with
    | ok => cases completed; exact refl _
    | error => cases completed
  | call t next ih =>
    rw [execute] at completed
    split at completed
    · cases completed
    · split at completed
      · cases completed
      · next answered => exact trans _ _ _ (statement _ _ _ _ answered) (ih _ completed)

/-- A transaction either left no trace and reported an error, or its whole body
took effect; only then can it report success. -/
theorem run_cases (exec : (statement : Statement) → σ → Except ε (Answer statement × σ))
    (outage : ε) (faults : Faults) (program : Program Statement Answer ε α) (s : σ) :
    (∃ error, run exec outage faults program s = (.error error, s)) ∨
    ∃ value s', execute exec outage none program s = .ok (value, s') ∧
      (run exec outage faults program s = (.ok value, s') ∨
        run exec outage faults program s = (.error outage, s')) := by
  unfold run
  cases completed : execute exec outage faults.interrupted program s with
  | error error => exact .inl ⟨error, rfl⟩
  | ok outcome =>
    obtain ⟨value, s'⟩ := outcome
    cases faults.commit with
    | refused => exact .inl ⟨outage, rfl⟩
    | acknowledged => exact .inr ⟨value, s', execute_undisturbed completed, .inl rfl⟩
    | unacknowledged => exact .inr ⟨value, s', execute_undisturbed completed, .inr rfl⟩

theorem run_related {R : σ → σ → Prop} (refl : ∀ s, R s s)
    (trans : ∀ a b c, R a b → R b c → R a c)
    (statement : ∀ t s answer s', exec t s = .ok (answer, s') → R s s')
    (faults : Faults) (program : Program Statement Answer ε α) (s : σ) :
    R s (run exec outage faults program s).2 := by
  rcases run_cases exec outage faults program s with ⟨error, equal⟩ | ⟨v, t, completed, equal | equal⟩
  · rw [equal]; exact refl s
  all_goals rw [equal]; exact execute_related refl trans statement completed

/-- Whether a transaction takes effect, reported or not. -/
def commits (exec : (statement : Statement) → σ → Except ε (Answer statement × σ)) (outage : ε)
    (faults : Faults) (program : Program Statement Answer ε α) (s : σ) : Bool :=
  (execute exec outage faults.interrupted program s).isOk && faults.commit ≠ .refused

theorem run_committed {faults : Faults} {program : Program Statement Answer ε α} {s : σ}
    (committed : commits exec outage faults program s = true) :
    ∃ value s', execute exec outage none program s = .ok (value, s') ∧
      (run exec outage faults program s).2 = s' := by
  simp only [commits, Bool.and_eq_true, decide_eq_true_eq] at committed
  unfold run
  cases completed : execute exec outage faults.interrupted program s with
  | error error => rw [completed] at committed; cases committed.1
  | ok outcome =>
    refine ⟨outcome.1, outcome.2, execute_undisturbed completed, ?_⟩
    cases commit : faults.commit with
    | refused => exact absurd commit committed.2
    | acknowledged => rfl
    | unacknowledged => rfl

theorem run_uncommitted {faults : Faults} {program : Program Statement Answer ε α} {s : σ}
    (uncommitted : commits exec outage faults program s = false) :
    ∃ error, run exec outage faults program s = (.error error, s) := by
  simp only [commits, Bool.and_eq_false_iff, decide_eq_false_iff_not] at uncommitted
  unfold run
  cases completed : execute exec outage faults.interrupted program s with
  | error error => exact ⟨error, rfl⟩
  | ok outcome =>
    rcases uncommitted with failed | refused
    · rw [completed] at failed; cases failed
    · rw [Decidable.not_not.mp refused]; exact ⟨outage, rfl⟩

theorem execute_failed {interrupted : Option Nat} {program : Program Statement Answer ε α} {s : σ}
    {error : ε} (failed : execute exec outage interrupted program s = .error error) :
    error = outage ∨ execute exec outage none program s = .error error := by
  induction program generalizing interrupted s with
  | done result =>
    cases result with
    | ok => cases failed
    | error => exact .inr failed
  | call statement next ih =>
    rw [execute] at failed
    rw [execute_call]
    split at failed
    · cases failed; exact .inl rfl
    · split at failed
      · next refused => exact .inr (by simpa only [refused] using failed)
      · next answered => simpa only [answered] using ih _ failed

/-- An error is the outage, or the one the undisturbed body stops with. -/
theorem run_failed {faults : Faults} {program : Program Statement Answer ε α} {s : σ} {error : ε}
    (failed : (run exec outage faults program s).1 = .error error) :
    error = outage ∨ execute exec outage none program s = .error error := by
  unfold run at failed
  split at failed
  · next stopped =>
    cases failed
    exact execute_failed stopped
  · split at failed
    · cases failed
    all_goals cases failed; exact .inl rfl

/-- Where commits are never left without their acknowledgement, an error leaves no trace. -/
theorem run_ineffective {faults : Faults} {program : Program Statement Answer ε α} {s : σ} {error : ε}
    (told : faults.commit ≠ .unacknowledged) (failed : (run exec outage faults program s).1 = .error error) :
    (run exec outage faults program s).2 = s := by
  unfold run at failed ⊢
  cases completed : execute exec outage faults.interrupted program s with
  | error error => rfl
  | ok outcome =>
    rw [completed] at failed
    cases commit : faults.commit with
    | acknowledged => rw [commit] at failed; cases failed
    | refused => rfl
    | unacknowledged => exact absurd commit told

/-- Without faults the caller learns exactly what the body did. -/
theorem run_clear (program : Program Statement Answer ε α) (s : σ) :
    run exec outage .clear program s =
      match execute exec outage none program s with
      | .error error => (.error error, s)
      | .ok (value, s') => (.ok value, s') := rfl

section Respects

variable {R : σ → σ → Prop} {allowed : Statement → Prop}
variable {genuine : Exchange Statement Answer → Prop}

/-- Outcomes that cannot be told apart, in stores that `R` relates. -/
def Alike (R : σ → σ → Prop) (a b : Except ε (α × σ)) : Prop :=
  (∃ error, a = .error error ∧ b = .error error) ∨
    ∃ value s s', a = .ok (value, s) ∧ b = .ok (value, s') ∧ R s s'

theorem alike_ok {x y : α} {a b : σ} (same : x = y) (related : R a b) :
    Alike R (.ok (x, a) : Except ε (α × σ)) (.ok (y, b)) :=
  .inr ⟨x, a, b, rfl, by rw [same], related⟩

variable (respects : ∀ statement a b, allowed statement → R a b → Alike R (exec statement a) (exec statement b))
variable (answers : ∀ statement a answer a', exec statement a = .ok (answer, a') → genuine ⟨statement, answer⟩)

include respects answers in
/-- Bodies go the same way in related stores if each statement that they get to does. -/
theorem execute_respects {interrupted : Option Nat} {program : Program Statement Answer ε α}
    {history : List (Exchange Statement Answer)}
    (obeys : program.Obeys (fun history statement => (∀ exchange ∈ history, genuine exchange) → allowed statement)
      (fun _ _ => True) history)
    (told : ∀ exchange ∈ history, genuine exchange) {a b : σ} (related : R a b) :
    Alike R (execute exec outage interrupted program a) (execute exec outage interrupted program b) := by
  induction program generalizing interrupted history a b with
  | done result =>
    cases result with
    | ok value => exact .inr ⟨value, a, b, rfl, rfl, related⟩
    | error error => exact .inl ⟨error, rfl, rfl⟩
  | call statement next ih =>
    rw [execute, execute]
    split
    · exact .inl ⟨outage, rfl, rfl⟩
    · rcases respects statement a b (obeys.1 told) related with
        ⟨error, first, second⟩ | ⟨answer, a', b', first, second, related'⟩
      · rw [first, second]
        exact .inl ⟨error, rfl, rfl⟩
      · rw [first, second]
        refine ih answer (obeys.2 answer) ?_ related'
        intro exchange member
        rcases List.mem_cons.mp member with rfl | member
        · exact answers _ _ _ _ first
        · exact told exchange member

include respects answers in
theorem run_respects {faults : Faults} {program : Program Statement Answer ε α}
    (obeys : program.Obeys (fun history statement => (∀ exchange ∈ history, genuine exchange) → allowed statement)
      (fun _ _ => True) [])
    {a b : σ} (related : R a b) :
    (run exec outage faults program a).1 = (run exec outage faults program b).1 ∧
      R (run exec outage faults program a).2 (run exec outage faults program b).2 := by
  unfold run
  rcases @execute_respects _ _ _ _ _ exec outage R allowed genuine respects answers faults.interrupted program []
    obeys nofun a b related with ⟨error, first, second⟩ | ⟨value, a', b', first, second, related'⟩
  · rw [first, second]
    exact ⟨rfl, related⟩
  · rw [first, second]
    cases faults.commit with
    | acknowledged => exact ⟨rfl, related'⟩
    | refused => exact ⟨rfl, related⟩
    | unacknowledged => exact ⟨rfl, related'⟩

end Respects

end Execution
end Transaction
