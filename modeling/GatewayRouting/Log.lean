/-!
Log lines as data: a value together with the lines written on the way to it.
-/

namespace GatewayRouting

inductive LogLevel where
  | debug
  | info
  | warn
  | error
deriving DecidableEq, Inhabited

namespace LogLevel

def name : LogLevel → String
  | debug => "DEBUG"
  | info => "INFO"
  | warn => "WARN"
  | error => "ERROR"

end LogLevel

structure LogEntry where
  level : LogLevel
  message : String
deriving DecidableEq, Inhabited

structure Logged (α : Type) where
  value : α
  log : List LogEntry

namespace Logged

variable {α β : Type}

def bind (x : Logged α) (f : α → Logged β) : Logged β :=
  let y := f x.value
  ⟨y.value, x.log ++ y.log⟩

instance : Monad Logged where
  pure a := ⟨a, []⟩
  bind := Logged.bind

@[simp] theorem value_pure (a : α) : (pure a : Logged α).value = a := rfl
@[simp] theorem log_pure (a : α) : (pure a : Logged α).log = [] := rfl
@[simp] theorem value_bind (x : Logged α) (f : α → Logged β) : (x >>= f).value = (f x.value).value := rfl
@[simp] theorem log_bind (x : Logged α) (f : α → Logged β) : (x >>= f).log = x.log ++ (f x.value).log := rfl

def write (level : LogLevel) (message : String) : Logged Unit := ⟨(), [⟨level, message⟩]⟩

def debug (message : String) : Logged Unit := write .debug message
def info (message : String) : Logged Unit := write .info message
def warn (message : String) : Logged Unit := write .warn message

/-- The results of a step on every item, absent ones left out. -/
def filterMap (f : α → Logged (Option β)) : List α → Logged (List β)
  | [] => pure []
  | a :: rest => do
    let b ← f a
    let others ← filterMap f rest
    pure (b.toList ++ others)

end Logged

end GatewayRouting
