import OptionalContainers.Enumeration.Lookahead

namespace OptionalContainers

inductive AnyEnumeration (α : Type) where
  | listed (enumeration : Lookahead (List α) α)
  | replayed (enumeration : Lookahead (Replay α) α)
  | scripted (enumeration : Counted (Script α))

namespace AnyEnumeration

variable {α : Type}

def hasMore : AnyEnumeration α → Bool × AnyEnumeration α
  | .listed e => ((Enumeration.hasMore e).1, .listed (Enumeration.hasMore e).2)
  | .replayed e => ((Enumeration.hasMore e).1, .replayed (Enumeration.hasMore e).2)
  | .scripted e => ((Enumeration.hasMore e).1, .scripted (Enumeration.hasMore e).2)

def next : AnyEnumeration α → Option α × AnyEnumeration α
  | .listed e => ((Enumeration.next e).1, .listed (Enumeration.next e).2)
  | .replayed e => ((Enumeration.next e).1, .replayed (Enumeration.next e).2)
  | .scripted e => ((Enumeration.next e).1, .scripted (Enumeration.next e).2)

def bound : AnyEnumeration α → Nat
  | .listed e => FiniteEnumeration.bound e
  | .replayed e => FiniteEnumeration.bound e
  | .scripted e => FiniteEnumeration.bound e

instance : FiniteEnumeration (AnyEnumeration α) α where
  hasMore := hasMore
  next := next
  bound := bound
  bound_next e h hs := by
    cases e with
    | listed e => exact FiniteEnumeration.bound_next e h hs
    | replayed e => exact FiniteEnumeration.bound_next e h hs
    | scripted e => exact FiniteEnumeration.bound_next e h hs

def inspect? [Inspect α] : AnyEnumeration α → Option String
  | .listed e => some (inspect e)
  | _ => none

def counts? : AnyEnumeration α → Option (Nat × Nat)
  | .scripted e => some (e.hasMoreCalls, e.nextCalls)
  | _ => none

end AnyEnumeration

end OptionalContainers
