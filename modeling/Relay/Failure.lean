namespace Relay

/-- A failure, as the messages of its causes from the outermost to the root. -/
structure Failure where
  message : String
  causes : List String
  deriving DecidableEq, Repr

namespace Failure

def ofMessage (message : String) : Failure := ⟨message, []⟩

/-- The failure with these messages, outermost first; none of no message. -/
def ofChain? : List String → Option Failure
  | [] => none
  | message :: causes => some ⟨message, causes⟩

def chain (f : Failure) : List String := f.message :: f.causes

def root (f : Failure) : String := f.causes.getLastD f.message

def rendered (f : Failure) : String := ": ".intercalate f.chain

/-- Puts a message in front that says what was being attempted. -/
def under (f : Failure) (message : String) : Failure := ⟨message, f.chain⟩

end Failure

/-- A message that says what is attempted; a deferred one is only made for a failure. -/
structure Context where
  message : String
  deferred : Bool
  deriving DecidableEq, Repr

/-- Adds contexts to a result in order, and counts the deferred messages that were made. -/
def explain {α : Type} (result : Except Failure α) (contexts : List Context) : Except Failure α × Nat :=
  contexts.foldl (fun (result, made) context =>
    match result with
    | .ok a => (.ok a, made)
    | .error f => (.error (f.under context.message), if context.deferred then made + 1 else made))
    (result, 0)

/-- A result from a value that may be absent: the first context becomes the failure itself. -/
def required {α : Type} (value : Option α) : List Context → Option (Except Failure α × Nat)
  | [] => value.map fun a => (.ok a, 0)
  | context :: contexts =>
    match value with
    | some a => some (.ok a, 0)
    | none => some (explain (.error (Failure.ofMessage context.message)) contexts)

end Relay
