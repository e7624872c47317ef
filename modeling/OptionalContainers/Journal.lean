namespace OptionalContainers

inductive Event where
  | setBuilt (size refused : Nat)
  | setConcatenated (appended size : Nat)
  | arrayMerged (offered changed : Nat)
  | propertiesMerged (copied skipped : Nat)
  deriving DecidableEq, Repr

namespace Event

def message : Event → String
  | .setBuilt _ _ => "built immutable set"
  | .setConcatenated _ _ => "concatenated set"
  | .arrayMerged _ _ => "merged array into collection"
  | .propertiesMerged _ _ => "merged properties into map"

def fields : Event → List (String × Nat)
  | .setBuilt size refused => [("len", size), ("duplicates", refused)]
  | .setConcatenated appended size => [("appended", appended), ("len", size)]
  | .arrayMerged offered changed => [("offered", offered), ("changed", changed)]
  | .propertiesMerged copied skipped => [("copied", copied), ("skipped", skipped)]

end Event

structure Journal where
  nextCell : Nat
  events : List Event
  deriving DecidableEq, Repr

namespace Journal

def start : Journal :=
  ⟨0, []⟩

def extended (journal : Journal) (events : List Event) : Journal :=
  { journal with events := journal.events ++ events }

theorem extended_nil (journal : Journal) : journal.extended [] = journal := by
  rw [extended, List.append_nil]

end Journal

abbrev Journaled := StateM Journal

def report (event : Event) : Journaled Unit :=
  modify fun journal => { journal with events := journal.events ++ [event] }

def freshCell : Journaled Nat :=
  modifyGet fun journal => (journal.nextCell, { journal with nextCell := journal.nextCell + 1 })

end OptionalContainers
