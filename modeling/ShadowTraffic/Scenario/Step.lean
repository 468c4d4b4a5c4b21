import ShadowTraffic.Scenario.Command

/-! # Steps of a scenario

Besides commands there are steps that hold a body of further steps, steps that hand work to other
tasks or take it back, and calls that may be suspended inside the library.
-/

namespace ShadowTraffic.Scenario

inductive Block where
  /-- In a new frame with a named context, or an empty one. -/
  | withContext (context : Option (Arg String))
  /-- In a snapshot of the current frame. -/
  | carry
  /-- Up to the first panic. -/
  | catching
  /-- If the guard accepts the attempt. -/
  | guarded (stack : Option String) (boundary : Arg String) (policy : Arg Policy)
  /-- Later, when its callback is called, in a snapshot of the frame taken now. -/
  | bind (name : Arg String)
  /-- Later, when it is awaited, in a snapshot of the frame taken now. -/
  | carryLater (name : Arg String)
  /-- As another task. -/
  | spawn (name : Arg String) (carry : Bool)

inductive TaskStep where
  /-- Runs a kept callback, here or on another thread. -/
  | callback (name : Arg String) (thread : Bool)
  /-- Runs a kept continuation. -/
  | await (name : Arg String)
  | join (name : Arg String) (abort : Bool)
  /-- Lets the others run until all of them wait. -/
  | settle
  | wait (gate : Arg String)
  | openGate (gate : Arg String)
  | panics (message : String)

structure FetchStep where
  registry : Arg String
  factory : Arg String
  config : Arg Descriptor
  /-- What the identity is resolved from, if not from the configuration. -/
  identityOf : Option (Arg Descriptor)
  business : Handle
  keptAs : Option String

structure CallScript where
  /-- The call fails with that message. -/
  fail : Option String
  /-- What a call that does not fail writes to its handle. -/
  write : String

structure DispatchStep where
  dispatcher : Arg String
  registry : Arg String
  factory : Arg String
  config : Arg Descriptor
  substitute : Option (Arg SubstituteRecipe)
  context : Option (Arg String)
  /-- The mediator that the look-up gives, if not that of the configuration. -/
  mediator : Option String
  resource : Option String
  business : Handle
  script : CallScript

structure InterceptStep where
  service : Arg String
  factory : Arg String
  config : Arg Descriptor
  boundary : Arg String
  policy : Option (Arg Policy)
  substitute : Option (Arg SubstituteRecipe)
  resource : Option String
  business : Handle
  script : CallScript

inductive Step where
  /-- Not a step. -/
  | refused (r : Refusal)
  | command (c : Command)
  | block (b : Block) (body : List Step)
  | task (t : TaskStep)
  | fetch (f : FetchStep)
  | dispatch (d : DispatchStep) (body : List Step)
  | intercept (i : InterceptStep) (body : List Step)

instance : Inhabited Step := ⟨.refused .misfit⟩

mutual

/-- The number of steps in a step, itself included. -/
def Step.count : Step → Nat
  | .block _ body => Step.countAll body + 1
  | .dispatch _ body => Step.countAll body + 1
  | .intercept _ body => Step.countAll body + 1
  | _ => 1

def Step.countAll : List Step → Nat
  | [] => 0
  | s :: rest => Step.count s + Step.countAll rest

end

end ShadowTraffic.Scenario
