import OptionalContainers.Binary64
import OptionalContainers.Imprint

namespace OptionalContainers

/-- A plain value. The items of a list may be null; an element of a container of atoms is an
`Option Atom`, whose `none` is the null element. -/
inductive Atom where
  | boolean (value : Bool)
  | integer (value : Int64)
  | float (value : Binary64)
  | text (value : String)
  | caseless (spelling : String)
  | list (items : List (Option Atom))
  deriving Repr

namespace Atom

def folded (spelling : String) : String :=
  spelling.map Char.toLower

mutual

def same : Atom → Atom → Bool
  | .boolean a, .boolean b => a == b
  | .integer a, .integer b => a == b
  | .float a, .float b => a == b
  | .text a, .text b => a == b
  | .caseless a, .caseless b => folded a == folded b
  | .list a, .list b => sameItems a b
  | _, _ => false

def sameItem : Option Atom → Option Atom → Bool
  | none, none => true
  | some a, some b => same a b
  | _, _ => false

def sameItems : List (Option Atom) → List (Option Atom) → Bool
  | [], [] => true
  | a :: as, b :: bs => sameItem a b && sameItems as bs
  | _, _ => false

end

instance : BEq Atom where
  beq := same

mutual

/-- A caseless text leaves its length alone, so equally long spellings always collide. -/
def imprinted : Atom → List UInt8
  | .boolean a => [a.toUInt8]
  | .integer a => Imprint.word a.toUInt64
  | .float a => Imprint.word a.settledBits
  | .text a => Imprint.text a
  | .caseless a => Imprint.word (folded a).utf8ByteSize.toUInt64
  | .list a => Imprint.word a.length.toUInt64 ++ imprintedItems a

def imprintedItem : Option Atom → List UInt8
  | none => Imprint.word 0
  | some a => Imprint.word 1 ++ imprinted a

def imprintedItems : List (Option Atom) → List UInt8
  | [] => []
  | a :: as => imprintedItem a ++ imprintedItems as

end

instance : Imprint Atom where
  imprint := imprinted

instance : Hashable Atom where
  hash a := hash (imprinted a)

def rank : Atom → Nat
  | .boolean _ => 0
  | .integer _ => 1
  | .float _ => 2
  | .text _ => 3
  | .caseless _ => 4
  | .list _ => 5

mutual

def order : Atom → Atom → Ordering
  | .boolean a, .boolean b => compare a b
  | .integer a, .integer b => compare a b
  | .float a, .float b => compare a b
  | .text a, .text b => compare a b
  | .caseless a, .caseless b => compare (folded a) (folded b)
  | .list a, .list b => orderItems a b
  | a, b => compare a.rank b.rank

def orderItem : Option Atom → Option Atom → Ordering
  | none, none => .eq
  | none, some _ => .lt
  | some _, none => .gt
  | some a, some b => order a b

def orderItems : List (Option Atom) → List (Option Atom) → Ordering
  | [], [] => .eq
  | [], _ :: _ => .lt
  | _ :: _, [] => .gt
  | a :: as, b :: bs => (orderItem a b).then (orderItems as bs)

end

instance : Ord Atom where
  compare := order

theorem imprint_item (a : Option Atom) : imprint a = imprintedItem a := by
  cases a <;> rfl

theorem imprint_items (items : List (Option Atom)) :
    imprint items = imprinted (.list items) := by
  have h : items.flatMap imprint = imprintedItems items := by
    induction items with
    | nil => rfl
    | cons a as ih => simp only [List.flatMap_cons, imprintedItems, imprint_item, ih]
  simp only [imprint, imprinted] at h ⊢
  rw [h]

theorem length_eq_of_sameItems :
    ∀ {as bs : List (Option Atom)}, sameItems as bs = true → as.length = bs.length
  | [], [], _ => rfl
  | [], _ :: _, h => by simp [sameItems] at h
  | _ :: _, [], h => by simp [sameItems] at h
  | _ :: as, _ :: bs, h => by
      simp only [sameItems, Bool.and_eq_true] at h
      simp [length_eq_of_sameItems h.2]

mutual

theorem imprinted_eq_of_same : ∀ a b : Atom, same a b = true → imprinted a = imprinted b
  | .boolean a, b => by cases b <;> simp_all [same, imprinted]
  | .integer a, b => by cases b <;> simp_all [same, imprinted]
  | .float a, b => by
      cases b <;> simp only [same, imprinted, Bool.false_eq_true, false_implies]
      exact fun h => congrArg Imprint.word (Binary64.hash_eq_of_beq h)
  | .text a, b => by cases b <;> simp_all [same, imprinted]
  | .caseless a, b => by cases b <;> simp_all [same, imprinted]
  | .list a, .list b => fun h => by
      have hitems : sameItems a b = true := by simpa only [same] using h
      simp only [imprinted, length_eq_of_sameItems hitems,
        imprintedItems_eq_of_sameItems a b hitems]
  | .list a, .boolean _ => by simp [same]
  | .list a, .integer _ => by simp [same]
  | .list a, .float _ => by simp [same]
  | .list a, .text _ => by simp [same]
  | .list a, .caseless _ => by simp [same]

theorem imprintedItem_eq_of_sameItem :
    ∀ a b : Option Atom, sameItem a b = true → imprintedItem a = imprintedItem b
  | none, none => fun _ => rfl
  | none, some _ => by simp [sameItem]
  | some _, none => by simp [sameItem]
  | some a, some b => fun h => by
      simp only [imprintedItem, imprinted_eq_of_same a b (by simpa only [sameItem] using h)]

theorem imprintedItems_eq_of_sameItems :
    ∀ as bs : List (Option Atom), sameItems as bs = true → imprintedItems as = imprintedItems bs
  | [], [] => fun _ => rfl
  | [], _ :: _ => by simp [sameItems]
  | _ :: _, [] => by simp [sameItems]
  | a :: as, b :: bs => fun h => by
      simp only [sameItems, Bool.and_eq_true] at h
      simp only [imprintedItems, imprintedItem_eq_of_sameItem a b h.1,
        imprintedItems_eq_of_sameItems as bs h.2]

end

instance : LawfulHashable Atom where
  hash_eq a b h := congrArg (hash : List UInt8 → UInt64) (imprinted_eq_of_same a b h)

end Atom

end OptionalContainers
