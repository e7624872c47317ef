import OptionalContainers.Text.Quoted

namespace OptionalContainers

inductive Fault where
  | absentTarget (argument : String)
  | unsupported (operation target : String)
  deriving DecidableEq, Repr

namespace Fault

def message : Fault → String
  | .absentTarget argument => argument ++ " must not be absent"
  | .unsupported operation target => operation ++ " is not supported by " ++ target

def record (kind : String) (fields : List (String × String)) : String :=
  kind ++ " \x7b " ++
    ", ".intercalate (fields.map fun f => f.1 ++ ": " ++ Text.quoted Text.inspected f.2) ++ " \x7d"

def inspected : Fault → String
  | .absentTarget argument => record "InvalidArgument" [("argument", argument)]
  | .unsupported operation target =>
      record "UnsupportedOperation" [("operation", operation), ("target", target)]

def isAbsentTarget : Fault → Bool
  | .absentTarget _ => true
  | .unsupported _ _ => false

def isUnsupported : Fault → Bool
  | .absentTarget _ => false
  | .unsupported _ _ => true

def cause : Fault → Option Fault
  | _ => none

theorem isAbsentTarget_eq_not_isUnsupported (f : Fault) :
    f.isAbsentTarget = !f.isUnsupported := by
  cases f <;> rfl

end Fault

end OptionalContainers
