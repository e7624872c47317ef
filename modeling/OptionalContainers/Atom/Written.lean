import OptionalContainers.Atom.Basic
import OptionalContainers.Text.Quoted

namespace OptionalContainers

namespace Atom

def writtenFloat (x : Binary64) : String :=
  Text.quoted Text.exchange (String.ofList (Text.hexDigits 16 x.writtenBits))

def field (name value : String) : String :=
  "\x7b" ++ Text.quoted Text.exchange name ++ ":" ++ value ++ "\x7d"

mutual

def written : Atom → String
  | .boolean true => "true"
  | .boolean false => "false"
  | .integer a => toString a.toInt
  | .float a => field "f" (writtenFloat a)
  | .text a => Text.quoted Text.exchange a
  | .caseless a => field "ci" (Text.quoted Text.exchange a)
  | .list a => "[" ++ writtenItems a ++ "]"

def writtenItem : Option Atom → String
  | none => "null"
  | some a => written a

def writtenItems : List (Option Atom) → String
  | [] => ""
  | [a] => writtenItem a
  | a :: b :: rest => writtenItem a ++ "," ++ writtenItems (b :: rest)

end

def inspected : Option Atom → String
  | none => "None"
  | some a => "Some(" ++ written a ++ ")"

/-- Equal atoms may differ in spelling; the text decides between them. -/
def precedes (a b : Option Atom) : Bool :=
  match orderItem a b with
  | .lt => true
  | .gt => false
  | .eq => writtenItem a ≤ writtenItem b

def arranged (items : List (Option Atom)) : List (Option Atom) :=
  items.mergeSort precedes

theorem arranged_perm (items : List (Option Atom)) : (arranged items).Perm items :=
  List.mergeSort_perm items precedes

end Atom

end OptionalContainers
