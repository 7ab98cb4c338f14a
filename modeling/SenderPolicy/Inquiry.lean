/-
Inquiries: computations that ask for TXT records.

An inquiry either is finished with a value or asks for the TXT records of a domain and goes on
with the answer.  What answers is not part of it, so an inquiry can be run against a fixed table,
against something that changes with every question, or against a network.
-/
import SenderPolicy.LookupError

namespace SenderPolicy

/-- A computation that asks for TXT records. -/
inductive Inquiry (α : Type) where
  /-- Finished with a value. -/
  | done (value : α)
  /-- Asks for the TXT records of a domain and goes on with the answer. -/
  | ask (domain : String) (next : TxtAnswer → Inquiry α)

namespace Inquiry

variable {α β σ : Type}

/-- One inquiry after another. -/
def bind : Inquiry α → (α → Inquiry β) → Inquiry β
  | done a, f => f a
  | ask domain next, f => ask domain fun answer => (next answer).bind f

instance : Monad Inquiry where
  pure := done
  bind := bind

/-- The inquiry run in a monad in which names can be looked up. -/
def runM {m : Type → Type} [Monad m] (resolve : String → m TxtAnswer) : Inquiry α → m α
  | done a => pure a
  | ask domain next => do (next (← resolve domain)).runM resolve

/-- The value of an inquiry when every name has a fixed answer. -/
def run (resolve : String → TxtAnswer) : Inquiry α → α
  | done a => a
  | ask domain next => (next (resolve domain)).run resolve

/-- The domains that an inquiry asks for, in order, when every name has a fixed answer. -/
def queries (resolve : String → TxtAnswer) : Inquiry α → List String
  | done _ => []
  | ask domain next => domain :: (next (resolve domain)).queries resolve

/-- The value of an inquiry and the final state when the answers depend on a state that every
question may change. -/
def runState (resolve : String → σ → TxtAnswer × σ) : Inquiry α → σ → α × σ
  | done a, s => (a, s)
  | ask domain next, s =>
    let (answer, s) := resolve domain s
    (next answer).runState resolve s

/-- `Run i events a`: the inquiry `i` asks the questions of `events` one after the other, is given
the answers that stand beside them, and finishes with `a`. -/
inductive Run : Inquiry α → List (String × TxtAnswer) → α → Prop where
  | done (a : α) : Run (done a) [] a
  | ask {domain : String} {next : TxtAnswer → Inquiry α} {answer : TxtAnswer}
      {events : List (String × TxtAnswer)} {a : α} (rest : Run (next answer) events a) :
      Run (ask domain next) ((domain, answer) :: events) a

@[simp] theorem pure_eq_done (a : α) : (pure a : Inquiry α) = done a := rfl

@[simp] theorem done_bind (a : α) (f : α → Inquiry β) : (done a >>= f) = f a := rfl

@[simp] theorem ask_bind (domain : String) (next : TxtAnswer → Inquiry α) (f : α → Inquiry β) :
    (ask domain next >>= f) = ask domain fun answer => next answer >>= f := rfl

end Inquiry

end SenderPolicy
