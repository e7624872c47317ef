import OptionalContainers.Search

namespace OptionalContainers

/-- Whether two handles lead to one and the same object; the objects' values do not matter. -/
class Identity (H : Type) where
  same : H → H → Bool

structure Reference where
  address : Nat
  deriving DecidableEq, Repr

structure Span where
  address : Nat
  length : Nat
  deriving DecidableEq, Repr

instance : Identity Reference where
  same a b := a.address == b.address

instance : Identity Span where
  same a b := a.address == b.address && a.length == b.length

instance {H : Type} [Identity H] : Identity (Option H) where
  same
    | none, none => true
    | some a, some b => Identity.same a b
    | _, _ => false

variable {H : Type} [Identity H]

def hasInstance (handles : Option (List H)) (probe : H) : Bool × Option (List H) :=
  let (found, rest) := seekIn (Identity.same · probe) handles
  (found.isSome, rest)

def isOneInstance : Option (List H) → Bool × Option (List H)
  | none => (false, none)
  | some [] => (false, some [])
  | some (first :: others) =>
      let (differing, rest) := seek (fun h => !Identity.same h first) others
      (differing.isNone, some rest)

end OptionalContainers
