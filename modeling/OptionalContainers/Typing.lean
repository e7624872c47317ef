namespace OptionalContainers

variable {τ : Type} {El : τ → Type}

structure Typed {τ : Type} (El : τ → Type) where
  type : τ
  value : El type

/-- An element that hides its type, and that is null when it has no content. -/
class Erased (H : Type) {τ : outParam Type} (El : outParam (τ → Type)) where
  content : H → Option (Typed El)

structure Pointer (H : Type) where
  target : H

instance : Erased (Typed El) El where
  content x := some x

instance {H : Type} [Erased H El] : Erased (Pointer H) El where
  content p := Erased.content p.target

instance {H : Type} [Erased H El] : Erased (Option H) El where
  content h := h.bind Erased.content

variable {H : Type} [Erased H El]

def runtimeType (h : H) : Option τ :=
  (Erased.content h).map Typed.type

variable [DecidableEq τ]

def Typed.as? (t : τ) (x : Typed El) : Option (El t) :=
  if h : x.type = t then some (h ▸ x.value) else none

def onlyValue (t : τ) (found : Option (El t)) : List H → Option (El t)
  | [] => found
  | h :: rest =>
      match (Erased.content h).bind (Typed.as? t), found with
      | none, _ => onlyValue t found rest
      | some value, none => onlyValue t (some value) rest
      | some _, some _ => none

def valueOfType (t : τ) (elements : Option (List H)) : Option (El t) :=
  elements.bind (onlyValue t none)

def valueOfTypes (elements : Option (List H)) (types : List τ) : Option (Typed El) :=
  types.findSome? fun t => (valueOfType t elements).map (Typed.mk t)

def commonTypeFrom (common : Option τ) : List H → Option τ × List H
  | [] => (common, [])
  | h :: rest =>
      match runtimeType h, common with
      | none, _ => commonTypeFrom common rest
      | some t, none => commonTypeFrom (some t) rest
      | some t, some c => if t = c then commonTypeFrom (some c) rest else (none, rest)

def commonType (elements : Option (List H)) : Option τ × Option (List H) :=
  match elements with
  | none => (none, none)
  | some xs => ((commonTypeFrom none xs).1, some (commonTypeFrom none xs).2)

end OptionalContainers
