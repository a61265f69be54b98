import MessageTemplate.Token.Segment
import MessageTemplate.Unresolved
import MessageTemplate.World

/-!
Expanding messages. Every token that names a registered placeholder, and passes its gates, is
replaced by the value the handler gives; the value is expanded in turn, one level deeper. A message
that is reached at the bound stays as it is, so the bound ends every chain of values. A token that
cannot be resolved stays as it is written, and nothing here fails.

Checking a message takes the same steps and reports the tokens that stay, where expanding it writes
the text.
-/

namespace MessageTemplate

variable {σ C : Type}

/-- The placeholder that a token names, if its gates let the token pass. A token is looked up under its
identifier in lower case, and every refusal names it that way; looking up lowers it once more, as any
look-up does, which finds the same placeholder (`Registry.lookup?_lowercase`). The order of the gates
decides which refusal is given where several apply: first the name, then the context, and then the
parameters. -/
def Registry.gate (registry : Registry σ C) (context : Option C) (token : Token) :
    Except Unresolved (Placeholder σ C) :=
  let identifier := Text.lowercase token.identifier
  match registry.lookup? identifier with
  | none => .error ⟨identifier, .unknownIdentifier⟩
  | some p =>
    if p.requiresContext && context.isNone then .error ⟨identifier, .missingRequiredContext⟩
    else if token.params.isSome && !p.supportsParameters then
      .error ⟨identifier, .unsupportedParameters⟩
    else .ok p

/-- Invokes a placeholder for a token and records the invocation, before the handler does anything. The
value may be expanded by so many more levels. To the token an error and a crash are the same, a message
that says why there is no value; a crash goes no further, but what the handler did before it stays done. -/
def invoke (context : Option C) (levels : Nat) (token : Token) (p : Placeholder σ C) :
    Run σ C (Except String String) := do
  modify fun world =>
    let invocation := {
      identifier := Text.lowercase token.identifier, placeholder := p, context,
      params := token.params, levels, registry := world.registry }
    { world with invocations := world.invocations.push invocation }
  return (← (p.handler context token.params).run).result

/-- Resolves a token: its gates, its handler, and the expansion of the value. The last is passed in as
`expandValue`, so that this one step serves for expanding a message and for checking it, and says nothing
of the depth. A value is expanded only where there is one, and what comes of that is never an error: a token
that stays within a value does not make the token around it stay. -/
def resolve (expandValue : String → Run σ C String) (context : Option C) (levels : Nat)
    (token : Token) : Run σ C (Except Unresolved String) := do
  match (← get).registry.gate context token with
  | .error unresolved => return .error unresolved
  | .ok p =>
    match ← invoke context levels token p with
    | .error failure => return .error ⟨Text.lowercase token.identifier, .handlerFailure failure⟩
    | .ok value => return .ok (← expandValue value)

/-- Writes the segments of a message with every token resolved that can be. They are taken from left to
right, each in the world that those before it leave, so a handler can change what a later token of the same
message names. Why a token stays is of no interest here; it is what `diagnose` keeps. -/
def substitute (resolveToken : Token → Run σ C (Except Unresolved String)) :
    List Segment → Run σ C String
  | [] => return ""
  | .text s :: rest => do
    return s ++ (← substitute resolveToken rest)
  | .token t _ :: rest => do
    let written := match ← resolveToken t with
      | .ok value => value
      | .error _ => t.raw
    return written ++ (← substitute resolveToken rest)

/-- Expands a message that is reached at a depth. The depth goes up by one with each value, and a
message that is reached at the bound stays as it is. That is all that ends a circle of values that name one
another: the recursion is on the levels that are left, and not on anything about the message. -/
def expandAt (context : Option C) (maxDepth depth : Nat) (message : String) : Run σ C String :=
  if depth < maxDepth then
    substitute
      (resolve (expandAt context maxDepth (depth + 1)) context (maxDepth - (depth + 1)))
      (scan message)
  else return message
termination_by maxDepth - depth

/-- Expands a message. Values are nested at most as deep as the bound says. -/
def expand (context : Option C) (maxDepth : Nat) (message : String) : Run σ C String :=
  expandAt context maxDepth 0 message

/-- Expands messages one after the other, in one world. -/
def expandAll (context : Option C) (maxDepth : Nat) : List String → Run σ C (List String)
  | [] => return []
  | message :: rest => do
    let text ← expand context maxDepth message
    return text :: (← expandAll context maxDepth rest)

/-- Reports the tokens among the segments that cannot be resolved. The others are resolved all the same,
since what their handlers do may decide about the tokens behind them; only the text is dropped. -/
def diagnose (resolveToken : Token → Run σ C (Except Unresolved String)) :
    List Segment → Run σ C (List Diagnostic)
  | [] => return []
  | .text _ :: rest => diagnose resolveToken rest
  | .token t span :: rest => do
    match ← resolveToken t with
    | .ok _ => diagnose resolveToken rest
    | .error unresolved => return ⟨span, unresolved⟩ :: (← diagnose resolveToken rest)

/-- Reports the tokens of a message itself that expanding it leaves as they are. When the bound allows
no expansion at all, these are all of them. -/
def check (context : Option C) (maxDepth : Nat) (message : String) : Run σ C (List Diagnostic) :=
  if maxDepth = 0 then
    return (tokens message).map fun (t, span) => ⟨span, Text.lowercase t.identifier, .recursionLimit⟩
  else
    diagnose (resolve (expandAt context maxDepth 1) context (maxDepth - 1)) (scan message)

end MessageTemplate
