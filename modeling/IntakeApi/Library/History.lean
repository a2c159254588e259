import IntakeApi.Library.Program

/-! A program logic for programs that make calls. `Obeys` says which calls a
program may make after which answers, and with what it may finish; histories are
newest first. -/
namespace Interaction

/-- A call together with the answer it got. -/
abbrev Exchange (Call : Type) (Answer : Call → Type) := (request : Call) × Answer request

namespace Program

variable {Call : Type} {Answer : Call → Type}
variable {asks asks' : List (Exchange Call Answer) → Call → Prop}

/-- Whatever the answers, each call is made only after a history that `asks` allows,
and the program finishes only as `ends` allows. -/
def Obeys (asks : List (Exchange Call Answer) → Call → Prop)
    (ends : List (Exchange Call Answer) → Except ε α → Prop) (history : List (Exchange Call Answer)) :
    Program Call Answer ε α → Prop
  | .done result => ends history result
  | .call request next =>
    asks history request ∧ ∀ answer, Obeys asks ends (⟨request,answer⟩ :: history) (next answer)

variable {ends ends' : List (Exchange Call Answer) → Except ε α → Prop}

@[simp] theorem obeys_done (history : List (Exchange Call Answer)) (result : Except ε α) :
    Obeys asks ends history (.done result : Program Call Answer ε α) ↔ ends history result := Iff.rfl

/-- The continuation starts from whatever history the first part left. -/
theorem Obeys.bind {middle : List (Exchange Call Answer) → Except ε α → Prop}
    {ends : List (Exchange Call Answer) → Except ε β → Prop} {first : Program Call Answer ε α}
    {next : α → Program Call Answer ε β} {history : List (Exchange Call Answer)}
    (begins : first.Obeys asks middle history)
    (continues : ∀ later value, middle later (.ok value) → (next value).Obeys asks ends later)
    (stops : ∀ later error, middle later (.error error) → ends later (.error error)) :
    (first >>= next).Obeys asks ends history := by
  induction first generalizing history with
  | done result =>
    cases result with
    | ok value => exact continues _ _ begins
    | error error => exact stops _ _ begins
  | call request rest ih =>
    exact ⟨begins.1,fun answer => ih answer (begins.2 answer)⟩

theorem Obeys.mono {program : Program Call Answer ε α} {history : List (Exchange Call Answer)}
    (obeys : program.Obeys asks ends history)
    (allowed : ∀ later request, asks later request → asks' later request)
    (finished : ∀ later result, ends later result → ends' later result) :
    program.Obeys asks' ends' history := by
  induction program generalizing history with
  | done result => exact finished _ _ obeys
  | call request rest ih =>
    exact ⟨allowed _ _ obeys.1,fun answer => ih answer (obeys.2 answer)⟩

/-- The history and the result of a program whose calls have these answers. -/
def follow (answer : (request : Call) → Answer request) (history : List (Exchange Call Answer)) :
    Program Call Answer ε α → List (Exchange Call Answer) × Except ε α
  | .done result => (history,result)
  | .call request next => follow answer (⟨request,answer request⟩ :: history) (next (answer request))

theorem Obeys.follow {program : Program Call Answer ε α} {history : List (Exchange Call Answer)}
    (obeys : program.Obeys asks ends history) (answer : (request : Call) → Answer request) :
    ends (program.follow answer history).1 (program.follow answer history).2 := by
  induction program generalizing history with
  | done result => exact obeys
  | call request next ih => exact ih (answer request) (obeys.2 (answer request))

/-- A program that ends before its first call was at its end. -/
theorem obeys_untouched (program : Program Call Answer ε α) :
    program.Obeys (fun _ _ => True) (fun history result => history = [] → program = .done result) [] := by
  have later (whole rest : Program Call Answer ε α) (history : List (Exchange Call Answer))
      (touched : history ≠ []) :
      rest.Obeys (fun _ _ => True) (fun history result => history = [] → whole = .done result) history := by
    induction rest generalizing history with
    | done result => exact fun empty => absurd empty touched
    | call request next ih => exact ⟨trivial,fun answer => ih answer _ nofun⟩
  cases program with
  | done result => exact fun _ => rfl
  | call request next => exact ⟨trivial,fun answer => later _ _ _ nofun⟩

end Program
end Interaction
