import ShadowTraffic.Proofs.Scenario.Draining
import ShadowTraffic.Scenario.Machine

/-! # A scenario under other tokens

The tokens of a scenario stand in the configurations that its steps bring along. Putting others in
their place gives another scenario; here is what the parts of the one correspond to in the other,
and what cannot be told apart of the answers they give.
-/

namespace ShadowTraffic

variable {ρ : TokenRenaming}

/-! ## Routing -/

def Mediator.masked (m : Mediator) : Mediator :=
  { m with identity := m.identity.masked, config := m.config.masked }

@[simp] theorem Mediator.masked_rename (m : Mediator) : (m.rename ρ).masked = m.masked := by
  simp only [masked, rename, Identity.masked_rename, Descriptor.masked_rename]

namespace DispatchError

variable {ε : Type}

def rename (ρ : TokenRenaming) : DispatchError ε → DispatchError ε
  | shadow identity e => .shadow (identity.rename ρ) e
  | business e => .business e
  | switchedOff => .switchedOff
  | substituted e => .substituted e
  | configuration e => .configuration e

/-- The error with the token of its identity behind the stars. -/
def masked : DispatchError ε → DispatchError ε
  | shadow identity e => .shadow identity.masked e
  | e => e

@[simp] theorem masked_rename (e : DispatchError ε) : (e.rename ρ).masked = e.masked := by
  cases e <;> simp [rename, masked]

/-- An error reads the same with its token behind the stars. -/
theorem message_masked (wording : ε → String) (e : DispatchError ε) :
    e.masked.message wording = e.message wording := by
  cases e with
  | shadow identity e =>
    exact congrArg ("Test-path failure on shadow resource " ++ ·) identity.redacted_masked
  | _ => rfl

end DispatchError

/-- What a dispatch ended with, under other tokens. -/
def Dispatched.renameResult {α ε : Type} (ρ : TokenRenaming) :
    Except (DispatchError ε) (Dispatched α) → Except (DispatchError ε) (Dispatched α)
  | .ok d => .ok d
  | .error e => .error (e.rename ρ)

def DispatchPhase.rename {α ε : Type} (ρ : TokenRenaming) :
    DispatchPhase α ε → DispatchPhase α ε
  | consulting => .consulting
  | calling route target mediator =>
    .calling route target (mediator.map (Identity.rename ρ))
  | ended result => .ended (Dispatched.renameResult ρ result)

namespace Scenario

/-! ## Steps -/

def RegistryCommand.rename (ρ : TokenRenaming) : RegistryCommand → RegistryCommand
  | lookup name config keptAs => .lookup name (config.map (Descriptor.rename ρ)) keptAs
  | invalidate name config => .invalidate name (config.map (Descriptor.rename ρ))
  | isBuiltFrom name config => .isBuiltFrom name (config.map (Descriptor.rename ρ))
  | create name => .create name
  | share name keptAs => .share name keptAs
  | forget name => .forget name
  | size name => .size name
  | stats name => .stats name
  | release what => .release what
  | mediator name => .mediator name
  | same a b => .same a b
  | factory name f => .factory name f
  | rows handle => .rows handle

def Command.rename (ρ : TokenRenaming) : Command → Command
  | registry c => .registry (c.rename ρ)
  | context c => .context c
  | marker c => .marker c
  | carrier c => .carrier c
  | scope c => .scope c
  | frame c => .frame c
  | router c => .router c
  | report c => .report c

def FetchStep.rename (ρ : TokenRenaming) (s : FetchStep) : FetchStep :=
  { s with
    config := s.config.map (Descriptor.rename ρ)
    identityOf := s.identityOf.map (Except.map (Descriptor.rename ρ)) }

def DispatchStep.rename (ρ : TokenRenaming) (s : DispatchStep) : DispatchStep :=
  { s with config := s.config.map (Descriptor.rename ρ) }

def InterceptStep.rename (ρ : TokenRenaming) (s : InterceptStep) : InterceptStep :=
  { s with config := s.config.map (Descriptor.rename ρ) }

mutual

/-- A step with other tokens in all configurations, those of its body included. -/
def Step.rename (ρ : TokenRenaming) : Step → Step
  | .refused r => .refused r
  | .command c => .command (c.rename ρ)
  | .block b body => .block b (Step.renameAll ρ body)
  | .task t => .task t
  | .fetch s => .fetch (s.rename ρ)
  | .dispatch s body => .dispatch (s.rename ρ) (Step.renameAll ρ body)
  | .intercept s body => .intercept (s.rename ρ) (Step.renameAll ρ body)

def Step.renameAll (ρ : TokenRenaming) : List Step → List Step
  | [] => []
  | s :: rest => Step.rename ρ s :: Step.renameAll ρ rest

end

mutual

theorem Step.count_rename : (s : Step) → (s.rename ρ).count = s.count
  | .refused _ => rfl
  | .command _ => rfl
  | .block _ body => congrArg (· + 1) (Step.countAll_rename body)
  | .task _ => rfl
  | .fetch _ => rfl
  | .dispatch _ body => congrArg (· + 1) (Step.countAll_rename body)
  | .intercept _ body => congrArg (· + 1) (Step.countAll_rename body)

theorem Step.countAll_rename : (steps : List Step) →
    Step.countAll (Step.renameAll ρ steps) = Step.countAll steps
  | [] => rfl
  | s :: rest => congrArg₂ (· + ·) (Step.count_rename s) (Step.countAll_rename rest)

end

/-! ## Tasks -/

def Envelope.rename (ρ : TokenRenaming) (e : Envelope) : Envelope :=
  { e with phase := e.phase.rename ρ }

def Ending.rename (ρ : TokenRenaming) : Ending → Ending
  | call path e => .call path (e.rename ρ)
  | task => .task
  | done path => .done path
  | caught path => .caught path
  | thread path => .thread path
  | guarded path stack t => .guarded path stack t

def Activation.rename (ρ : TokenRenaming) (a : Activation) : Activation :=
  { a with ending := a.ending.rename ρ, rest := Step.renameAll ρ a.rest }

def Fetching.rename (ρ : TokenRenaming) (f : Fetching) : Fetching :=
  { f with request := f.request.rename ρ, phase := f.phase.rename ρ }

def Focus.rename (ρ : TokenRenaming) : Focus → Focus
  | fetching f => .fetching (f.rename ρ)
  | stepping => .stepping
  | waiting path gate => .waiting path gate
  | joining path other => .joining path other
  | settling path => .settling path

def Task.rename (ρ : TokenRenaming) (t : Task) : Task :=
  { t with activations := t.activations.map (Activation.rename ρ), focus := t.focus.rename ρ }

def Continuation.rename (ρ : TokenRenaming) (c : Continuation) : Continuation :=
  { c with body := Step.renameAll ρ c.body }

/-! ## Answers -/

/-- An answer with the tokens that it holds behind the stars. -/
def Reply.masked : Reply → Reply
  | mediator m => .mediator (m.map Mediator.masked)
  | dispatched (.error e) => .dispatched (.error e.masked)
  | building factory number config => .building factory number config.masked
  | reply => reply

/-- One answer but for tokens. -/
abbrev Reply.Alike (reply reply' : Reply) : Prop :=
  reply'.masked = reply.masked

/-- The text of an error that is answered. -/
def Reply.failure? : Reply → Option String
  | dispatched (.error e) => some (e.message id)
  | unresolved e => some e.message
  | _ => .none

/-- The text of an error does not tell a token. -/
theorem Reply.failure?_masked (reply : Reply) : reply.masked.failure? = reply.failure? := by
  cases reply with
  | dispatched result =>
    cases result with
    | ok d => rfl
    | error e => exact congrArg some (e.message_masked id)
  | _ => rfl

/-- What a release answers. -/
def Reply.isCount : Reply → Bool
  | count _ => true
  | _ => false

/-- Entries that cannot be told apart: they have one origin, they answer the same but for tokens
behind the stars, with the same text when they fail, and they report what reads the same. What a
release reports of the mediators that it closes may come in another order. -/
structure Entry.Alike (e e' : Entry) : Prop where
  origin : e'.origin = e.origin
  reply : e.reply.Alike e'.reply
  failure : e'.reply.failure? = e.reply.failure?
  events : shown e'.events = shown e.events ∨
    e.reply.isCount = true ∧ Reordered e.events e'.events

structure Record.Alike (r r' : Record) : Prop where
  entries : List.Forall₂ Entry.Alike r.entries.toList r'.entries.toList
  panic : r'.panic = r.panic
  traceIds : r'.traceIds = r.traceIds

end Scenario

end ShadowTraffic
