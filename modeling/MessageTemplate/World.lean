import MessageTemplate.Registry

/-!
The state that expanding messages reads and changes: the registry, the state shared by handlers, and
a record of what has happened. Every change of the registry goes through `tryRegister` and
`unregister`, which also log it, so the log tells what the registry holds.
-/

namespace MessageTemplate

/-- What is worth logging. -/
inductive Event where
  | registered (identifier : String)
  | rejected (identifier : String)
  | unregistered (identifier : String)
  | defaultsSkipped
  | textsRegistered (colors texts : Nat)
  | defaultsRegistered (player server total : Nat)
  deriving DecidableEq, Repr

/-- The wording of an event. -/
def Event.message : Event → String
  | .registered _ => "registered placeholder"
  | .rejected _ => "rejected duplicate placeholder"
  | .unregistered _ => "unregistered placeholder"
  | .defaultsSkipped => "placeholder defaults already registered, skipping"
  | .textsRegistered .. => "registered color and text placeholders"
  | .defaultsRegistered .. => "registered default placeholders"

/-- What an event is about, by name. -/
def Event.fields : Event → List (String × String)
  | .registered identifier => [("identifier", identifier)]
  | .rejected identifier => [("identifier", identifier)]
  | .unregistered identifier => [("identifier", identifier)]
  | .defaultsSkipped => []
  | .textsRegistered colors texts => [("colors", toString colors), ("text", toString texts)]
  | .defaultsRegistered player server total =>
    [("player", toString player), ("server", toString server), ("total", toString total)]

/-- One invocation of a handler: which placeholder, with what, and when. -/
structure Invocation (σ C : Type) where
  /-- The identifier by which it was found, in lower case. -/
  identifier : String
  placeholder : Placeholder σ C
  context : Option C
  params : Option String
  /-- How many more levels the value may be expanded by. -/
  levels : Nat
  /-- The registry at that moment. -/
  registry : Registry σ C

/-- The registry, the state of the handlers, the log and the record of invocations, both in order. -/
structure World (σ C : Type) where
  registry : Registry σ C
  state : σ
  log : Array Event
  invocations : Array (Invocation σ C)

/-- A computation that reads and changes the world. -/
abbrev Run (σ C : Type) := StateM (World σ C)

variable {σ C : Type}

/-- The world before anything has happened. -/
def World.initial (state : σ) : World σ C :=
  ⟨.empty, state, #[], #[]⟩

/-- Adds an event to the log. -/
def logEvent (event : Event) : Run σ C Unit :=
  modify fun world => { world with log := world.log.push event }

/-- Registers a placeholder. A taken identifier changes nothing but the log. Looking whether it is taken
and adding the placeholder are one step, and so are the change and its entry in the log. -/
def tryRegister (p : Placeholder σ C) : Run σ C (Except RegistryError Unit) := do
  match (← get).registry.register p with
  | .error (.duplicate key) =>
    logEvent (.rejected key)
    return .error (.duplicate key)
  | .ok registry =>
    logEvent (.registered (Text.lowercase p.identifier))
    modify fun world => { world with registry }
    return .ok ()

/-- Registers a placeholder; gives whether its identifier was free. -/
def register (p : Placeholder σ C) : Run σ C Bool := do
  return (← tryRegister p).isOk

/-- Takes out a placeholder; gives whether it was there. -/
def unregister (identifier : String) : Run σ C Bool := do
  match (← get).registry.unregister? identifier with
  | none => return false
  | some registry =>
    modify fun world => { world with registry }
    logEvent (.unregistered (Text.lowercase identifier))
    return true

/-- Registers placeholders one after the other; gives how many of them were new. Those that come later
find the earlier ones registered, so of several with one name in lower case the first is added and
counted. -/
def registerAll : List (Placeholder σ C) → Run σ C Nat
  | [] => return 0
  | p :: rest => do
    let added ← register p
    let more ← registerAll rest
    return if added then more + 1 else more

/-- Carries out what a script says. These steps are all that a handler can do to a world: it cannot see the
record of invocations, and it can add to the log only by registering and unregistering. -/
def Script.run : Script σ C → Run σ C Outcome
  | .done outcome => return outcome
  | .read next => do (next (← get).state).run
  | .write state next => do
    modify fun world => { world with state }
    next.run
  | .list next => do (next (← get).registry.identifiers).run
  | .register identifier requiresContext supportsParameters handler next => do
    let added ← MessageTemplate.register ⟨identifier, requiresContext, supportsParameters, handler⟩
    (next added).run
  | .unregister identifier next => do
    let removed ← MessageTemplate.unregister identifier
    (next removed).run

end MessageTemplate
