import AxiomPinpointing.Fault

/-!
# Computations that log

What the library does it also reports, in **messages** that a program may show or drop.  Messages
belong to the result of a computation rather than to the world: a `Run` holds the outcome, which may
be a fault, and next to it the messages, which are there in both cases.

* `Message` — a line of the log, with its level and topic.
* `Run` — an outcome and the messages up to it.
* `Run.note`, `Run.fail`, `Run.ofExcept` — the ways to start one; the monad joins them, and a fault
  keeps the messages logged before it.
-/

namespace AxiomPinpointing

/-! ## Messages -/

inductive Level where
  | error
  | warn
  | info
deriving DecidableEq

def Level.name : Level → String
  | error => "error"
  | warn => "warn"
  | info => "info"

inductive Topic where
  | parse
  | encode
  | extract
deriving DecidableEq

def Topic.name : Topic → String
  | parse => "parse"
  | encode => "encode"
  | extract => "extract"

structure Message where
  level : Level
  topic : Topic
  text : String
deriving DecidableEq

/-! ## Runs -/

/-- What a computation came to, and what it logged on the way. -/
structure Run (α : Type) where
  /-- The result, or the fault that ended the computation. -/
  outcome : Except Fault α
  /-- The messages, oldest first. -/
  log : List Message

namespace Run

variable {α β : Type}

/-- Carries on with a result; a fault ends the run, and keeps the log. -/
def andThen (run : Run α) (next : α → Run β) : Run β :=
  match run.outcome with
  | .error fault => ⟨.error fault, run.log⟩
  | .ok a =>
    let rest := next a
    ⟨rest.outcome, run.log ++ rest.log⟩

instance : Monad Run where
  pure a := ⟨.ok a, []⟩
  bind := andThen

def ofExcept (outcome : Except Fault α) : Run α := ⟨outcome, []⟩

def fail (fault : Fault) : Run α := ⟨.error fault, []⟩

def tell (messages : List Message) : Run Unit := ⟨.ok (), messages⟩

def note (level : Level) (topic : Topic) (text : String) : Run Unit :=
  tell [⟨level, topic, text⟩]

@[simp] theorem pure_outcome (a : α) : (pure a : Run α).outcome = .ok a := rfl

@[simp] theorem pure_log (a : α) : (pure a : Run α).log = [] := rfl

/-- The outcome of a joined run does not depend on the logs. -/
theorem bind_outcome (run : Run α) (next : α → Run β) :
    (run >>= next).outcome = run.outcome >>= fun a => (next a).outcome := by
  obtain ⟨_ | _, _⟩ := run <;> rfl

theorem bind_of_ok {run : Run α} {a : α} (h : run.outcome = .ok a) (next : α → Run β) :
    run >>= next = ⟨(next a).outcome, run.log ++ (next a).log⟩ := by
  obtain ⟨_, _⟩ := run
  subst h
  rfl

theorem bind_of_error {run : Run α} {fault : Fault} (h : run.outcome = .error fault)
    (next : α → Run β) : run >>= next = ⟨.error fault, run.log⟩ := by
  obtain ⟨_, _⟩ := run
  subst h
  rfl

end Run

end AxiomPinpointing
