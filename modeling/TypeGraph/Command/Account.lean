import TypeGraph.Command.Log
import TypeGraph.Kind
import TypeGraph.Source

/-! How a task goes: what it tells on its way, and how it ends. -/
namespace TypeGraph.Command

/-- Why a task ends without an answer. -/
inductive Failure where
  | source (error : SourceError)
  /-- The model has this many errors, and the caller does not allow any. -/
  | invalidModel (errorCount : Nat)
  | unknownKind (unknown : UnknownKind)

def Failure.message : Failure → String
  | source error => "failed to load model declarations: " ++ error.trail
  | invalidModel errorCount =>
    s!"model is invalid ({errorCount} error(s)); "
      ++ "run `tgm validate` for details or pass --allow-invalid"
  | unknownKind unknown => unknown.message

/-- An account of what was done, and the value or the failure that ends it. -/
structure Account (α : Type) where
  entries : List LogEntry
  result : Except Failure α

namespace Account
variable {α β : Type}

/-- Go on with the value of an account. -/
def next (account : Account α) (step : α → Account β) : Account β :=
  match account.result with
  | .ok value => ⟨account.entries ++ (step value).entries, (step value).result⟩
  | .error failure => ⟨account.entries, .error failure⟩

instance : Monad Account where
  pure value := ⟨[], .ok value⟩
  bind := next

def tell (entries : List LogEntry) : Account Unit := ⟨entries, .ok ()⟩

def fail (failure : Failure) : Account α := ⟨[], .error failure⟩

end Account

end TypeGraph.Command
