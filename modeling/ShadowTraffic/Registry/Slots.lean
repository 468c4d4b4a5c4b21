import ShadowTraffic.Telemetry.Effect

/-! # The mediator registry

For each identity the registry holds one slot. The first caller to find a slot vacant builds its
mediator while later ones queue; when the builder gives up, the head of the queue takes over.
Slots are numbered as they are opened and never reused, so a slot that has left the map stays
told apart from a later one of the same identity. A mediator is what its slot was filled with.
-/

namespace ShadowTraffic

abbrev CallerId := Nat

/-- Slots are numbered in the order they are opened. -/
abbrev SlotId := Nat

/-- The handles of one resource. The business handle belongs to the application; the shadow is
owned and closed once, when the mediator is released. -/
structure Mediator where
  identity : Identity
  config : Descriptor
  business : Handle
  shadow : Option Handle
  released : Bool := false
deriving DecidableEq

namespace Mediator

/-- The shadow, until the mediator is released. -/
def liveShadow? (m : Mediator) : Option Handle :=
  if m.released then none else m.shadow

def builtFrom (m : Mediator) (config : Descriptor) : Bool :=
  m.config == config

def description (m : Mediator) : String :=
  let flag (b : Bool) := if b then "true" else "false"
  "Mediator \x7b identity: " ++ m.identity.description ++ ", has_shadow: " ++
    flag m.shadow.isSome ++ ", released: " ++ flag m.released ++ " \x7d"

end Mediator

inductive Cell where
  | vacant
  /-- One caller may build; the others wait in order. -/
  | building (holder : CallerId) (queue : List CallerId)
  | built (m : Mediator)
deriving DecidableEq, Inhabited

/-- All slots ever opened, and the map from identity keys to slots. -/
structure Registry where
  cells : Array Cell := #[]
  slots : Dictionary SlotId := .empty
deriving DecidableEq, Inhabited

structure RegistryStats where
  mediators : Nat
  withShadow : Nat
  pending : Nat
deriving DecidableEq

namespace Registry

/-- What a slot holds; a slot never opened is vacant. -/
def cell (r : Registry) (slot : SlotId) : Cell :=
  r.cells[slot]?.getD .vacant

def mediator? (r : Registry) (slot : SlotId) : Option Mediator :=
  match r.cell slot with
  | .built m => some m
  | _ => none

def setCell (r : Registry) (slot : SlotId) (c : Cell) : Registry :=
  { r with cells := r.cells.setIfInBounds slot c }

def slot? (r : Registry) (i : Identity) : Option SlotId :=
  r.slots.get? i.key

/-- The slot in the map for an identity, if it has been filled. -/
def lookup (r : Registry) (i : Identity) : Option SlotId :=
  (r.slot? i).filter fun slot => (r.mediator? slot).isSome

/-- The slot in the map for an identity, opened if there is none. -/
def slotFor (r : Registry) (i : Identity) : SlotId × Registry :=
  match r.slot? i with
  | some slot => (slot, r)
  | none =>
    (r.cells.size,
      { cells := r.cells.push .vacant, slots := r.slots.insert i.key r.cells.size })

/-- Whether a slot is the one in the map for an identity. -/
def owns (r : Registry) (i : Identity) (slot : SlotId) : Bool :=
  r.slot? i == some slot

def markReleased (r : Registry) (slot : SlotId) : Registry :=
  match r.cell slot with
  | .built m => r.setCell slot (.built { m with released := true })
  | _ => r

def remove (r : Registry) (i : Identity) : Registry :=
  { r with slots := r.slots.erase i.key }

def size (r : Registry) : Nat :=
  r.slots.size

def stats (r : Registry) : RegistryStats :=
  let ms := r.slots.entries.map fun e => r.mediator? e.2
  { mediators := (ms.filter Option.isSome).length
    withShadow := (ms.filter fun m => (m.bind Mediator.liveShadow?).isSome).length
    pending := (ms.filter Option.isNone).length }

def active (r : Registry) : Nat :=
  r.stats.mediators

end Registry

end ShadowTraffic
