import MessageTemplate.Token

/-!
Tokens that stay in a message as they are written, and why.
-/

namespace MessageTemplate

/-- Why a token stays as it is written. -/
inductive Reason where
  | unknownIdentifier
  | missingRequiredContext
  | unsupportedParameters
  | handlerFailure (failure : String)
  | recursionLimit
  deriving DecidableEq, Repr

/-- A token that stays: its identifier in lower case, and the reason. -/
structure Unresolved where
  identifier : String
  reason : Reason
  deriving DecidableEq, Repr

/-- The wording of an unresolved token. -/
def Unresolved.message (u : Unresolved) : String :=
  let subject := "placeholder '" ++ u.identifier ++ "'"
  match u.reason with
  | .unknownIdentifier => "unknown " ++ subject
  | .missingRequiredContext => subject ++ " requires a player context"
  | .unsupportedParameters => subject ++ " does not accept parameters"
  | .handlerFailure failure => subject ++ " failed: " ++ failure
  | .recursionLimit => subject ++ " is beyond the recursion limit"

/-- What to do about it, where there is advice to give. -/
def Reason.help? : Reason → Option String
  | .unknownIdentifier => some "register it before parsing, or check the spelling"
  | .missingRequiredContext => some "parse this message with a player"
  | .unsupportedParameters => some "remove the `:params` part"
  | .recursionLimit => some "raise `max_depth` in the [resolver] config"
  | .handlerFailure _ => none

/-- An unresolved token and the bytes it takes in its message. -/
structure Diagnostic where
  span : Span
  unresolved : Unresolved
  deriving DecidableEq, Repr

end MessageTemplate
