namespace Authorship

/-- An entity has a key, and a new one is made from its key alone. -/
class Entity (α : Type) where
  key : α → String
  create : String → α

structure Handle (α : Type) where
  place : Nat
deriving Repr, DecidableEq

structure Registry (α : Type) where
  items : List α
deriving Repr

namespace Registry

variable {α : Type}

def empty : Registry α := ⟨[]⟩

def size (registry : Registry α) : Nat :=
  registry.items.length

def get? (registry : Registry α) (handle : Handle α) : Option α :=
  registry.items[handle.place]?

def handles (registry : Registry α) : List (Handle α) :=
  (List.range registry.size).map Handle.mk

variable [Entity α]

def keys (registry : Registry α) : List String :=
  registry.items.map Entity.key

def find? (registry : Registry α) (key : String) : Option (Handle α) :=
  (registry.items.findIdx? (Entity.key · == key)).map Handle.mk

/-- The entity of a key, made if there is none. -/
def request (registry : Registry α) (key : String) : Handle α × Registry α :=
  match registry.find? key with
  | some handle => (handle, registry)
  | none => (⟨registry.size⟩, ⟨registry.items ++ [Entity.create key]⟩)

omit [Entity α] in
def modify (registry : Registry α) (handle : Handle α) (change : α → α) : Registry α :=
  ⟨registry.items.modify handle.place change⟩

end Registry

end Authorship
