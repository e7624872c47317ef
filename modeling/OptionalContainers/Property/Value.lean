import OptionalContainers.Decimal.Layout
import OptionalContainers.Text.Quoted
import OptionalContainers.Inspected

namespace OptionalContainers.Property

inductive Value where
  | text (value : String)
  | integer (value : Int64)
  | float (value : Binary64)
  | boolean (value : Bool)
  deriving Repr

namespace Value

def same : Value → Value → Bool
  | .text a, .text b => a == b
  | .integer a, .integer b => a == b
  | .float a, .float b => a == b
  | .boolean a, .boolean b => a == b
  | _, _ => false

instance : BEq Value where
  beq := same

def text? : Value → Option String
  | .text value => some value
  | _ => none

def booleanText (value : Bool) : String :=
  if value then "true" else "false"

def display : Value → String
  | .text value => value
  | .integer value => toString value.toInt
  | .float value => Decimal.plain.write value
  | .boolean value => booleanText value

instance : Inspect Value where
  inspect
    | .text value => tagged "Text" (Text.quoted Text.inspected value)
    | .integer value => tagged "Integer" (toString value.toInt)
    | .float value => tagged "Float" (Decimal.inspected.write value)
    | .boolean value => tagged "Boolean" (booleanText value)

theorem beq_def (a b : Value) : (a == b) = same a b := rfl

theorem beq_symm (a b : Value) : (a == b) = (b == a) := by
  cases a <;> cases b <;> simp [beq_def, same, BEq.comm, Binary64.beq_symm]

theorem beq_trans {a b c : Value} (hab : (a == b) = true) (hbc : (b == c) = true) :
    (a == c) = true := by
  cases a <;> cases b <;> cases c <;> simp_all [beq_def, same]
  exact Binary64.beq_trans hab hbc

theorem beq_self_iff (a : Value) : (a == a) = true ↔ ∀ x, a = .float x → x.isNaN = false := by
  cases a <;> simp [beq_def, same, Binary64.beq_self_iff]

theorem text?_eq_some_iff {a : Value} {text : String} : a.text? = some text ↔ a = .text text := by
  cases a <;> simp [text?]

theorem text?_eq_of_beq {a b : Value} (h : (a == b) = true) : a.text? = b.text? := by
  cases a <;> cases b <;> simp_all [beq_def, same, text?]

end Value

end OptionalContainers.Property
