import OptionalContainers.AnyContainer
import OptionalContainers.Atom.Written

namespace OptionalContainers

class Inspect (α : Type) where
  inspect : α → String

export Inspect (inspect)

instance : Inspect (Option Atom) where
  inspect := Atom.inspected

def listed (texts : List String) : String :=
  ", ".intercalate texts

def bracketed (texts : List String) : String :=
  "[" ++ listed texts ++ "]"

def braced (texts : List String) : String :=
  "\x7b" ++ listed texts ++ "\x7d"

def tagged (tag content : String) : String :=
  tag ++ "(" ++ content ++ ")"

variable {α κ ν : Type}

instance [Inspect α] : Inspect (SequenceView α) where
  inspect v := bracketed (v.elements.map inspect)

instance [Inspect α] : Inspect (TraversalView α) where
  inspect v := bracketed (v.elements.map inspect)

instance [Inspect α] : Inspect (SetView α) where
  inspect v := braced (v.elements.map inspect)

instance [BEq κ] [Inspect κ] [Inspect ν] : Inspect (MappingView κ ν) where
  inspect v := braced (v.entries.map fun e => inspect e.1 ++ ": " ++ inspect e.2)

instance [Inspect α] : Inspect (ShapedView α) where
  inspect
    | .sequence v => tagged "Sequence" (inspect v)
    | .set v => tagged "Set" (inspect v)
    | .traversal v => tagged "Iterable" (inspect v)

instance [BEq α] [Inspect α] : Inspect (Shaped α) where
  inspect
    | .sequence xs => tagged "Sequence" (bracketed (xs.map inspect))
    | .set s => tagged "Set" (braced (s.elements.map inspect))
    | .traversal _ => tagged "Iterable" ".."

def AnyContainer.inspect? [BEq α] [Inspect α] [Inspect ν] : AnyContainer α ν → Option String
  | .sequenceView v => some (inspect v)
  | .setView v => some (inspect v)
  | .mappingView v => some (inspect v)
  | .traversalView v => some (inspect v)
  | .shapedView v => some (inspect v)
  | _ => none

end OptionalContainers
