/-! Programs that make calls one at a time and continue with the answers. A
program is data: whoever runs it decides what each call does, what may fail and
what happens between two calls. -/
namespace Interaction

/-- A call `c` is answered by a value of `Answer c`; a finished program carries
its result or the error it stopped with. -/
inductive Program (Call : Type) (Answer : Call → Type) (ε α : Type) where
  | done (result : Except ε α)
  | call (request : Call) (next : Answer request → Program Call Answer ε α)

namespace Program

variable {Call : Type} {Answer : Call → Type}

def bind (program : Program Call Answer ε α) (next : α → Program Call Answer ε β) :
    Program Call Answer ε β :=
  match program with
  | .done (.ok value) => next value
  | .done (.error error) => .done (.error error)
  | .call request rest => .call request fun answer => (rest answer).bind next

instance : Monad (Program Call Answer ε) where
  pure value := .done (.ok value)
  bind := bind

def fail (error : ε) : Program Call Answer ε α := .done (.error error)

def ask (request : Call) : Program Call Answer ε (Answer request) :=
  .call request fun answer => .done (.ok answer)

def require (condition : Bool) (error : ε) : Program Call Answer ε Unit :=
  if condition then .done (.ok ()) else .done (.error error)

@[simp] theorem pure_done (value : α) :
    (pure value : Program Call Answer ε α) = .done (.ok value) := rfl

@[simp] theorem bind_ok (value : α) (next : α → Program Call Answer ε β) :
    (.done (.ok value) : Program Call Answer ε α) >>= next = next value := rfl

@[simp] theorem bind_error (error : ε) (next : α → Program Call Answer ε β) :
    (.done (.error error) : Program Call Answer ε α) >>= next = .done (.error error) := rfl

@[simp] theorem bind_call (request : Call) (rest : Answer request → Program Call Answer ε α)
    (next : α → Program Call Answer ε β) :
    Program.call request rest >>= next = .call request (fun answer => rest answer >>= next) := rfl

@[simp] theorem ask_bind (request : Call) (next : Answer request → Program Call Answer ε β) :
    (ask request : Program Call Answer ε (Answer request)) >>= next = .call request next := rfl

@[simp] theorem fail_bind (error : ε) (next : α → Program Call Answer ε β) :
    (fail error : Program Call Answer ε α) >>= next = .done (.error error) := rfl

theorem require_true (error : ε) :
    (require true error : Program Call Answer ε Unit) = .done (.ok ()) := rfl

theorem require_false (error : ε) :
    (require false error : Program Call Answer ε Unit) = .done (.error error) := rfl

end Program
end Interaction
