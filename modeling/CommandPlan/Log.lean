/-! Records of what happens during a run, in order. -/
namespace CommandPlan

inductive Level where
  | info
  | warn
  | error
deriving DecidableEq, Repr

namespace Level

def text : Level → String
  | info => "INFO"
  | warn => "WARN"
  | error => "ERROR"

end Level

structure Record where
  level : Level
  message : String
deriving DecidableEq, Repr

namespace Record

def info (message : String) : Record := ⟨.info, message⟩

def warn (message : String) : Record := ⟨.warn, message⟩

end Record

/-- A value and the records that were made on the way to it. -/
structure Logged (α : Type) where
  value : α
  log : List Record := []
deriving Repr

namespace Logged

instance : Monad Logged where
  pure value := ⟨value, []⟩
  bind logged next :=
    let result := next logged.value
    ⟨result.value, logged.log ++ result.log⟩

def record (record : Record) : Logged Unit :=
  ⟨(), [record]⟩

end Logged
end CommandPlan
