import OptionalContainers.Text.Extender
import OptionalContainers.Text.Ignorable
import OptionalContainers.Text.Unprinted

namespace OptionalContainers.Text

abbrev Style := Char → Option String

def hexDigit (n : Nat) : Char :=
  if n < 10 then Char.ofNat ('0'.toNat + n) else Char.ofNat ('a'.toNat + (n - 10))

def hexDigits : Nat → Nat → List Char
  | 0, _ => []
  | places + 1, n => hexDigits places (n / 16) ++ [hexDigit (n % 16)]

def written (style : Style) (c : Char) : List Char :=
  match style c with
  | some escape => escape.toList
  | none => [c]

def quoted (style : Style) (s : String) : String :=
  String.ofList ('"' :: s.toList.flatMap (written style) ++ ['"'])

def paired (c : Char) : Option String :=
  match c with
  | '"' => some "\\\""
  | '\\' => some "\\\\"
  | '\n' => some "\\n"
  | '\r' => some "\\r"
  | '\t' => some "\\t"
  | _ => none

def exchange : Style := fun c =>
  match paired c with
  | some escape => some escape
  | none =>
      if c = '\x08' then some "\\b"
      else if c = '\x0c' then some "\\f"
      else if c.toNat < 32 then some (String.ofList ('\\' :: 'u' :: hexDigits 4 c.toNat))
      else none

/-- The halfwidth sound marks extend the character before them, in a cell of their own. -/
def hasOwnCell (c : Char) : Bool :=
  !isExtender c || c = '\uff9e' || c = '\uff9f'

def showsAlone (c : Char) : Bool :=
  hasOwnCell c && !isUnprinted c && !isIgnorable c

def inspected : Style := fun c =>
  match paired c with
  | some escape => some escape
  | none =>
      if c.toNat = 0 then some "\\0"
      else if showsAlone c then none
      else some (String.ofList ('\\' :: 'u' :: '\x7b' :: Nat.toDigits 16 c.toNat ++ ['\x7d']))

end OptionalContainers.Text
