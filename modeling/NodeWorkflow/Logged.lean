import NodeWorkflow.Failure

/-!
# Operations that keep a log

An operation gives a result or fails, and either way it leaves a log of warnings and errors.
-/

namespace NodeWorkflow

/-- The weight of a log line. -/
inductive LogLevel where
  | warning
  | error
  deriving DecidableEq, Repr

def LogLevel.label : LogLevel → String
  | warning => "WARNING"
  | error => "ERROR"

structure LogLine where
  level : LogLevel
  message : String
  deriving DecidableEq, Repr

/-- The outcome of an operation with the lines it left, first line first. -/
structure Logged (α : Type) where
  log : List LogLine
  outcome : Except Failure α

namespace Logged

variable {α β : Type}

def line (level : LogLevel) (message : String) : Logged Unit := ⟨[⟨level, message⟩], .ok ()⟩

def lines (log : List LogLine) : Logged Unit := ⟨log, .ok ()⟩

/-- An operation that leaves no line. -/
def ofExcept (outcome : Except Failure α) : Logged α := ⟨[], outcome⟩

/-- Ends without a result. -/
def fail (failure : Failure) : Logged α := ⟨[], .error failure⟩

/-- Goes on with the result, if there is one; the lines of both operations stay. -/
def bind (x : Logged α) (f : α → Logged β) : Logged β :=
  match x.outcome with
  | .ok a => ⟨x.log ++ (f a).log, (f a).outcome⟩
  | .error e => ⟨x.log, .error e⟩

instance : Monad Logged where
  pure a := ⟨[], .ok a⟩
  bind := bind

@[ext] theorem ext {x y : Logged α} (hlog : x.log = y.log) (houtcome : x.outcome = y.outcome) :
    x = y := by
  cases x; cases y; congr

@[simp] theorem outcome_pure (a : α) : (pure a : Logged α).outcome = .ok a := rfl

/-- The outcome of two operations in a row does not depend on the log. -/
theorem outcome_bind (x : Logged α) (f : α → Logged β) :
    (x >>= f).outcome = x.outcome >>= fun a => (f a).outcome := by
  show (bind x f).outcome = _
  cases h : x.outcome <;> simp [bind, h, Bind.bind, Except.bind]

/-- Hands the failure over to `handle`, which gives a result of its own. -/
def recover (x : Logged α) (handle : Failure → Logged α) : Logged α :=
  match x.outcome with
  | .ok a => ⟨x.log, .ok a⟩
  | .error e => ⟨x.log ++ (handle e).log, (handle e).outcome⟩

end Logged

end NodeWorkflow
