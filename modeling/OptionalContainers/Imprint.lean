namespace OptionalContainers

/-- The bytes a value gives to a hash. Two values hash alike when these are the same. -/
class Imprint (α : Type) where
  imprint : α → List UInt8

export Imprint (imprint)

namespace Imprint

def word (n : UInt64) : List UInt8 :=
  (List.range 8).map fun place => (n >>> (8 * place).toUInt64).toUInt8

/-- No text holds the closing byte. -/
def text (s : String) : List UInt8 :=
  s.toUTF8.toList ++ [0xff]

end Imprint

variable {α β : Type}

instance [Imprint α] : Imprint (Option α) where
  imprint
    | none => Imprint.word 0
    | some x => Imprint.word 1 ++ imprint x

instance [Imprint α] : Imprint (List α) where
  imprint xs := Imprint.word xs.length.toUInt64 ++ xs.flatMap imprint

def hashesAlike [Imprint α] [Imprint β] (x : α) (y : β) : Bool :=
  imprint x == imprint y

end OptionalContainers
