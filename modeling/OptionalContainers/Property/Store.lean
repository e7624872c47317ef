import OptionalContainers.Container.Sorted
import OptionalContainers.Enumeration.Lookahead
import OptionalContainers.Property.Value

namespace OptionalContainers.Property

abbrev Table := HashedMap String Value

/-- A primary table over tables of defaults, the nearest of them first. -/
structure Store where
  primary : Table
  defaults : List Table

namespace Store

def empty : Store :=
  ⟨.empty, []⟩

def ofList (entries : List (String × Value)) : Store :=
  ⟨.ofList entries, []⟩

def overlay (s : Store) : Store :=
  ⟨.empty, s.primary :: s.defaults⟩

def defaults? (s : Store) : Option Store :=
  match s.defaults with
  | [] => none
  | nearest :: rest => some ⟨nearest, rest⟩

def layers (s : Store) : List Table :=
  s.primary :: s.defaults

def length (s : Store) : Nat :=
  s.primary.entries.length

def isEmpty (s : Store) : Bool :=
  s.primary.entries.isEmpty

def insert (s : Store) (name : String) (value : Value) : Option Value × Store :=
  ((s.primary.insert name value).1, { s with primary := (s.primary.insert name value).2 })

def setText (s : Store) (name text : String) : Option Value × Store :=
  s.insert name (.text text)

def get? (s : Store) (name : String) : Option Value :=
  s.primary.get? name

def textIn (name : String) : List Table → Option String
  | [] => none
  | table :: rest =>
      match (table.get? name).bind Value.text? with
      | some text => some text
      | none => textIn name rest

def text? (s : Store) (name : String) : Option String :=
  textIn name s.layers

def textOr (s : Store) (name fallback : String) : String :=
  (s.text? name).getD fallback

/-- A text found through the defaults comes before a primary value of another kind. -/
def resolve (s : Store) (name : String) : Option Value :=
  match s.text? name with
  | some text => some (.text text)
  | none => s.get? name

def insertNames (names : SortedSet String) (new : List String) : SortedSet String :=
  new.foldl (fun names name => (names.insert name).2) names

def collectNames : List Table → SortedSet String
  | [] => .empty
  | table :: inner => insertNames (collectNames inner) table.keys

def names (s : Store) : List String :=
  (collectNames s.layers).elements

def nameEnumeration (s : Store) : Lookahead (List String) String :=
  .of s.names

instance : BEq Store where
  beq a b := a.primary == b.primary && a.defaults == b.defaults

instance : Sized Store where
  size := length

def inspectTable (table : Table) : String :=
  braced (table.entries.map fun e => Text.quoted Text.inspected e.1 ++ ": " ++ inspect e.2)

def inspectLayers (table : Table) : List Table → String
  | [] => "Properties \x7b entries: " ++ inspectTable table ++ ", defaults: None \x7d"
  | nearest :: rest =>
      "Properties \x7b entries: " ++ inspectTable table ++ ", defaults: " ++
        tagged "Some" (inspectLayers nearest rest) ++ " \x7d"

instance : Inspect Store where
  inspect s := inspectLayers s.primary s.defaults

theorem text?_overlay (s : Store) (name : String) : s.overlay.text? name = s.text? name := by
  simp [overlay, text?, layers, textIn, HashedMap.get?, HashedMap.empty, lookup]

end Store

end OptionalContainers.Property
