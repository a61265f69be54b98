import MessageTemplate.Engine

/-!
What an engine can be asked, and its answers. A session is a sequence of requests served by one
engine.
-/

namespace MessageTemplate

/-- What an engine can be asked. Where a bound on the expansion can be given, the engine's own one
holds otherwise. -/
inductive Request (σ : Type) (C : Type := Player) where
  | init (server : ServerSource σ)
  | initWithoutHost
  | isInitialized
  | isEmpty
  | register (p : Placeholder σ C)
  | tryRegister (p : Placeholder σ C)
  | unregister (identifier : String)
  | contains (identifier : String)
  | lookup (identifier : String) (player : Option C) (params : Option String)
  | identifiers
  | registerPlayer
  | registerServer (server : ServerSource σ)
  | registerColors
  | registerTexts (entries : List (String × String))
  | parse (message : String) (player : Option C) (maxDepth : Option Nat)
  | parseColors (message : String)
  | parseAll (messages : List String) (player : Option C)
  | check (message : String) (player : Option C) (maxDepth : Option Nat)
  | maxDepth
  | palette
  | characterGradient (text : String) (colors : List String)
  | wordGradient (text : String) (colors : List String)
  | revert (text : String)
  | summary (maxDepth : Option Nat)

/-- An engine's answers. -/
inductive Reply (σ : Type) (C : Type := Player) where
  | flag (answer : Bool)
  | number (n : Nat)
  | text (s : String)
  | texts (l : List String)
  | registration (outcome : Except RegistryError Unit)
  | invocation (found : Option (Placeholder σ C × Outcome))
  | diagnostics (l : List Diagnostic)
  | palette (p : Palette)

variable {σ C : Type} [PlayerSource σ C]

/-- Serves one request. -/
def Request.serve : Request σ C → Session σ C (Reply σ C)
  | .init server => return .flag (← Session.init server)
  | .initWithoutHost => return .flag (← Session.initWithoutHost)
  | .isInitialized => return .flag (← get).initialized
  | .isEmpty => return .flag ((← get).world.registry.count == 0)
  | .register p => return .flag (← Session.inWorld (MessageTemplate.register p))
  | .tryRegister p => return .registration (← Session.inWorld (MessageTemplate.tryRegister p))
  | .unregister identifier =>
    return .flag (← Session.inWorld (MessageTemplate.unregister identifier))
  | .contains identifier => return .flag ((← get).world.registry.contains identifier)
  | .lookup identifier player params => do
    match (← get).world.registry.lookup? identifier with
    | none => return .invocation none
    | some p => return .invocation (some (p, ← Session.inWorld (p.handler player params).run))
  | .identifiers => return .texts (← get).world.registry.identifiers
  | .registerPlayer => return .number (← Session.inWorld (registerAll playerPlaceholders))
  | .registerServer server =>
    return .number (← Session.inWorld (registerAll (serverPlaceholders server)))
  | .registerColors => do
    let palette := (← get).palette
    return .number (← Session.inWorld (registerAll (colorPlaceholders palette)))
  | .registerTexts entries =>
    return .number (← Session.inWorld (registerAll (textPlaceholders entries)))
  | .parse message player bound => do
    let levels := bound.getD (← get).maxDepth
    return .text (← Session.inWorld (expand player levels message))
  | .parseColors message => do
    let levels := (← get).maxDepth
    return .text (← Session.inWorld (expand none levels message))
  | .parseAll messages player => do
    let levels := (← get).maxDepth
    return .texts (← Session.inWorld (expandAll player levels messages))
  | .check message player bound => do
    let levels := bound.getD (← get).maxDepth
    return .diagnostics (← Session.inWorld (MessageTemplate.check player levels message))
  | .maxDepth => return .number (← get).maxDepth
  | .palette => return .palette (← get).palette
  | .characterGradient text colors =>
    return .text ((← get).palette.characterGradient colors text)
  | .wordGradient text colors => return .text ((← get).palette.wordGradient colors text)
  | .revert text => return .text ((← get).palette.revert text)
  | .summary bound => do
    let engine ← get
    return .text (engine.summary (bound.getD engine.maxDepth))

/-- Serves requests one after the other. -/
def serveAll : List (Request σ C) → Session σ C (List (Reply σ C))
  | [] => return []
  | request :: rest => do
    let reply ← request.serve
    return reply :: (← serveAll rest)

end MessageTemplate
