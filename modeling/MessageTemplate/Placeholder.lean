import MessageTemplate.Text.Record

/-!
Placeholders: a name, two gates and a handler that produces the text for a token of that name.

A handler may do more than compute a text. It can keep state between invocations, change the set of
registered placeholders while a message is being expanded, fail, or crash. What one invocation does
is written down as a script, a tree of steps that branches on what each step finds; `σ` is the type
of the state that handlers share and `C` the type of the context a message is expanded for.
-/

namespace MessageTemplate

/-- Why a handler could not produce a text. -/
inductive HandlerError where
  | failed (message : String)
  | invalidParameter (param reason : String)
  deriving DecidableEq, Repr

/-- The wording of a handler's error. -/
def HandlerError.message : HandlerError → String
  | .failed message => message
  | .invalidParameter param reason => "invalid parameter '" ++ param ++ "': " ++ reason

/-- How an invocation ends: with a text, with an error, or by a crash that may leave a message. -/
inductive Outcome where
  | value (text : String)
  | failure (error : HandlerError)
  | crash (message : Option String)
  deriving DecidableEq, Repr

/-- The text that was produced, or what went wrong in words. -/
def Outcome.result : Outcome → Except String String
  | .value text => .ok text
  | .failure error => .error error.message
  | .crash message => .error (message.getD "handler panicked")

/-- What an invocation does, step by step. -/
inductive Script (σ C : Type) where
  /-- Ends. -/
  | done (outcome : Outcome)
  /-- Goes on with the shared state. -/
  | read (next : σ → Script σ C)
  /-- Replaces the shared state. -/
  | write (state : σ) (next : Script σ C)
  /-- Goes on with the registered identifiers. -/
  | list (next : List String → Script σ C)
  /-- Registers a placeholder and goes on with whether its identifier was free. -/
  | register (identifier : String) (requiresContext supportsParameters : Bool)
      (handler : Option C → Option String → Script σ C) (next : Bool → Script σ C)
  /-- Takes a placeholder out and goes on with whether it was there. -/
  | unregister (identifier : String) (next : Bool → Script σ C)

/-- Asks a question that may read the shared state and change it, and goes on with the answer. -/
def Script.ask {σ C α : Type} (question : StateM σ α) (next : α → Script σ C) : Script σ C :=
  .read fun state =>
    .write (question.run state).2 (next (question.run state).1)

/-- Ends with the text that a question is answered by. -/
def Script.answer {σ C : Type} (question : StateM σ String) : Script σ C :=
  .ask question fun text => .done (.value text)

/-- A handler answers an optional context and the parameters of a token, if it has any. -/
abbrev Handler (σ C : Type) := Option C → Option String → Script σ C

/-- A named handler. It is invoked without a context only if it does not require one, and for a
token with parameters only if it supports them. -/
structure Placeholder (σ C : Type) where
  identifier : String
  requiresContext : Bool := false
  supportsParameters : Bool := false
  handler : Handler σ C

namespace Placeholder

variable {σ C : Type}

/-- A placeholder that reads the context. Invoked without one it produces nothing. -/
def contextual (identifier : String) (handler : C → Option String → Script σ C) :
    Placeholder σ C where
  identifier := identifier
  requiresContext := true
  handler
    | some context, params => handler context params
    | none, _ => .done (.value "")

/-- A placeholder that does not look at the context. -/
def contextFree (identifier : String) (handler : Option String → Script σ C) :
    Placeholder σ C where
  identifier := identifier
  handler _ params := handler params

/-- A placeholder with a fixed value. -/
def constant (identifier value : String) : Placeholder σ C :=
  contextFree identifier fun _ => .done (.value value)

/-- The placeholder's name and gates in one line. -/
def summary (p : Placeholder σ C) : String :=
  Text.openRecord "FnPlaceholder" [("identifier", Text.quoted p.identifier),
    ("requires_context", toString p.requiresContext),
    ("supports_parameters", toString p.supportsParameters)]

end Placeholder

end MessageTemplate
