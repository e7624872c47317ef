import OptionalContainers.AnyContainer
import OptionalContainers.Proofs.Container.HashedEquality
import OptionalContainers.Proofs.View.SetMembership

namespace OptionalContainers

variable {α κ ν : Type}

def SameItems [BEq α] (xs ys : List α) : Prop :=
  Covers xs ys ∧ Covers ys xs

section

variable [BEq α]

theorem sameItems_iff_scan [EquivBEq α] {xs ys : List α} :
    SameItems xs ys ↔ ∀ x, scan xs x = scan ys x :=
  mutual_covers_iff

theorem sameItems_self [ReflBEq α] (xs : List α) : SameItems xs xs :=
  ⟨covers_self xs, covers_self xs⟩

theorem sameItems_firstOccurrences [EquivBEq α] (xs : List α) :
    SameItems (firstOccurrences xs) xs :=
  sameItems_iff_scan.mpr (scan_firstOccurrences xs)

theorem Covers.eq_nil {ys : List α} (h : Covers [] ys) : ys = [] :=
  List.eq_nil_iff_forall_not_mem.mpr fun y hy => Bool.false_ne_true (h y hy)

theorem SameItems.eq_nil_iff {xs ys : List α} (h : SameItems xs ys) : xs = [] ↔ ys = [] := by
  constructor
  · rintro rfl
    exact h.1.eq_nil
  · rintro rfl
    exact h.2.eq_nil

end

-- Look-ups by order compare from the side of what is sought, scans from that of what is stored.
theorem compare_beq_eq_beq_comm [BEq α] [Ord α] [Std.LawfulBEqOrd α] [PartialEquivBEq α]
    (x y : α) : (compare x y == .eq) = (y == x) :=
  Std.LawfulBEqOrd.compare_beq_eq_beq.trans BEq.comm

namespace SortedSet

variable [BEq α] [Ord α] [Std.LawfulBEqOrd α]

theorem contains_eq_scan [PartialEquivBEq α] (s : SortedSet α) (x : α) :
    s.contains x = scan s.elements x := by
  simp only [contains, scan, compare_beq_eq_beq_comm]

variable [EquivBEq α]

theorem scan_place (x : α) (xs : List α) (y : α) :
    scan (place x xs).2 y = (x == y || scan xs y) := by
  induction xs with
  | nil => rfl
  | cons z rest ih =>
      simp only [place]
      split
      next => rfl
      next hxz =>
        have hsame : (x == y) = (z == y) :=
          BEq.congr_left (Std.LawfulBEqOrd.compare_eq_iff_beq.mp hxz)
        rw [hsame]
        simp [scan]
      next =>
        have hcons : ∀ more, scan (z :: more) y = (z == y || scan more y) := fun _ => rfl
        rw [hcons, hcons, ih, Bool.or_left_comm]

theorem scan_ofList (xs : List α) (y : α) : scan (ofList xs).elements y = scan xs y := by
  suffices h : ∀ s : SortedSet α, scan (xs.foldl (fun s x => (s.insert x).2) s).elements y =
      (scan s.elements y || scan xs y) from h empty
  induction xs with
  | nil => exact fun s => (Bool.or_false _).symm
  | cons x rest ih =>
      intro s
      have hinsert : scan (s.insert x).2.elements y = (x == y || scan s.elements y) :=
        scan_place x s.elements y
      have hcons : scan (x :: rest) y = (x == y || scan rest y) := rfl
      rw [List.foldl_cons, ih, hinsert, hcons, Bool.or_assoc, Bool.or_left_comm]

theorem sameItems_ofList (xs : List α) : SameItems (ofList xs).elements xs :=
  sameItems_iff_scan.mpr (scan_ofList xs)

end SortedSet

namespace SortedMap

variable [Ord κ]

theorem isSome_get? [BEq κ] [Std.LawfulBEqOrd κ] [PartialEquivBEq κ] (m : SortedMap κ ν) (k : κ) :
    (m.get? k).isSome = scan m.keys k := by
  have hlookup : m.get? k = lookup m.entries k := by
    simp only [get?, lookup, compare_beq_eq_beq_comm]
  rw [hlookup, isSome_lookup]
  rfl

theorem keys_ofList (entries : List (κ × ν)) :
    (ofList entries).keys = (SortedSet.ofList (entries.map (·.1))).elements := by
  have hstep : ∀ (m : SortedMap κ ν) (e : κ × ν),
      ((⟨m.keys⟩ : SortedSet κ).insert e.1).2 = ⟨(m.insert e.1 e.2).2.keys⟩ := by
    intro m e
    rw [keys_insert]
    rfl
  rw [SortedSet.ofList, List.foldl_map]
  exact congrArg SortedSet.elements
    (List.foldl_hom (fun m : SortedMap κ ν => (⟨m.keys⟩ : SortedSet κ)) hstep).symm

theorem sameItems_ofList [BEq κ] [Std.LawfulBEqOrd κ] [EquivBEq κ] (entries : List (κ × ν)) :
    SameItems (ofList entries).keys (entries.map (·.1)) := by
  rw [keys_ofList]
  exact SortedSet.sameItems_ofList _

end SortedMap

theorem HashedSet.sameItems_ofList [BEq α] [EquivBEq α] (xs : List α) :
    SameItems (ofList xs).elements xs := by
  rw [elements_ofList]
  exact sameItems_firstOccurrences xs

namespace HashedMap

variable [BEq κ]

theorem keys_ofList (entries : List (κ × ν)) :
    (ofList entries).keys = firstOccurrences (entries.map (·.1)) := by
  rw [firstOccurrences, List.foldl_map]
  exact (List.foldl_hom keys fun m e => (m.keys_insert e.1 e.2).symm).symm

theorem sameItems_ofList [EquivBEq κ] (entries : List (κ × ν)) :
    SameItems (ofList entries).keys (entries.map (·.1)) := by
  rw [keys_ofList]
  exact sameItems_firstOccurrences _

end HashedMap

theorem MappingView.containsKey_eq_scan [BEq κ] (v : MappingView κ ν) (k : κ) :
    v.containsKey k = scan v.keys k := by
  obtain ⟨stored, filled⟩ := v
  cases stored with
  | empty => rfl
  | held cell m => exact isSome_lookup m.entries k

section

variable [BEq α] [Hashable α]

-- How a set view was put together decides whether it tells its members right; a container of any
-- other kind may be any value of its type.
def SetView.Constructed (v : SetView α) : Prop :=
  ∃ journal later xs, Made journal v later xs

theorem SetView.Constructed.contains_eq_scan [LawfulHashable α] {v : SetView α}
    (h : v.Constructed) (x : α) : v.contains x = scan v.elements x := by
  obtain ⟨_, _, _, made⟩ := h
  exact contains_eq_any made.sound x

def ShapedView.Constructed : ShapedView α → Prop
  | .set v => v.Constructed
  | _ => True

theorem ShapedView.Constructed.hasMember_eq_scan [LawfulHashable α] {v : ShapedView α}
    (h : v.Constructed) (x : α) : v.hasMember x = scan v.elements x := by
  cases v with
  | sequence v => rfl
  | set v => exact SetView.Constructed.contains_eq_scan h x
  | traversal v => rfl

end

namespace AnyContainer

variable [BEq α] [Hashable α]

def Constructed : AnyContainer α ν → Prop
  | .setView v => v.Constructed
  | .shapedView v => v.Constructed
  | _ => True

structure Holds (c : AnyContainer α ν) (xs : List α) : Prop where
  constructed : c.Constructed
  items : SameItems c.elements xs

section

variable [Ord α]

theorem size_eq (c : AnyContainer α ν) : size c = c.elements.length := by
  cases c with
  | window c => rfl
  | vector c => exact c.length_toList.symm
  | array c => exact c.length_toList.symm
  | deque c => exact c.length_eq
  | chain c => rfl
  | hashedSet c => rfl
  | sortedSet c => rfl
  | hashedMap c => exact (List.length_map _).symm
  | sortedMap c => exact (List.length_map _).symm
  | sequenceView c => rfl
  | setView c => rfl
  | mappingView c => exact (List.length_map _).symm
  | traversalView c => rfl
  | shapedView c => exact c.length_eq
  | limited c => rfl

variable [Std.LawfulBEqOrd α] [PartialEquivBEq α] [LawfulHashable α]

theorem hasMember_eq_scan {c : AnyContainer α ν} (h : c.Constructed) (x : α) :
    hasMember c x = scan c.elements x := by
  cases c with
  | window c => rfl
  | vector c => rfl
  | array c => rfl
  | deque c => rfl
  | chain c => rfl
  | hashedSet c => rfl
  | sortedSet c => exact c.contains_eq_scan x
  | hashedMap c => exact isSome_lookup c.entries x
  | sortedMap c => exact c.isSome_get? x
  | sequenceView c => rfl
  | setView c => exact SetView.Constructed.contains_eq_scan h x
  | mappingView c => exact c.containsKey_eq_scan x
  | traversalView c => rfl
  | shapedView c => exact ShapedView.Constructed.hasMember_eq_scan h x
  | limited c => rfl

end

theorem holds_of_elements {c : AnyContainer α ν} {xs ys : List α}
    (constructed : c.Constructed) (h : c.elements = ys) (items : SameItems ys xs) : c.Holds xs :=
  ⟨constructed, h ▸ items⟩

theorem holds_of_elements_eq [ReflBEq α] {c : AnyContainer α ν} {xs : List α}
    (constructed : c.Constructed) (h : c.elements = xs) : c.Holds xs :=
  holds_of_elements constructed h (sameItems_self xs)

variable [EquivBEq α] [LawfulHashable α]

theorem holds_setView {xs : List α} {journal later : Journal} {v : SetView α}
    (made : SetView.Made journal v later xs) : (.setView v : AnyContainer α ν).Holds xs :=
  holds_of_elements ⟨journal, later, xs, made⟩ made.elements_eq (sameItems_firstOccurrences xs)

variable [Ord α] [Std.LawfulBEqOrd α]

theorem Holds.hasMember_eq {c : AnyContainer α ν} {xs : List α} (h : c.Holds xs) (x : α) :
    hasMember c x = scan xs x := by
  rw [hasMember_eq_scan h.constructed, sameItems_iff_scan.mp h.items]

theorem holds_ofElements (xs : List α) (kind : ElementKind) (journal : Journal) :
    ((ofElements xs kind : Journaled (AnyContainer α ν)).run journal).1.Holds xs := by
  cases kind with
  | window => exact holds_of_elements_eq trivial (Window.toList_whole xs)
  | vector => exact holds_of_elements_eq trivial rfl
  | array => exact holds_of_elements_eq trivial rfl
  | deque => exact holds_of_elements_eq trivial (Deque.toList_ofList xs)
  | chain => exact holds_of_elements_eq trivial rfl
  | hashedSet => exact ⟨trivial, HashedSet.sameItems_ofList xs⟩
  | sortedSet => exact ⟨trivial, SortedSet.sameItems_ofList xs⟩
  | sequenceView =>
      exact holds_of_elements_eq trivial (SequenceView.elements_ofList xs journal)
  | setView => exact holds_setView (SetView.made_collect xs journal)
  | traversalView =>
      exact holds_of_elements_eq trivial (TraversalView.elements_ofList xs journal)
  | shapedSequence =>
      exact holds_of_elements_eq trivial (SequenceView.elements_ofList xs journal)
  | shapedSet =>
      let s := HashedSet.ofList xs
      have made := SetView.made_collect s.elements journal
      have helements := SetView.elements_collect_of_distinct s.distinct journal
      exact holds_of_elements ⟨journal, _, _, made⟩ helements (HashedSet.sameItems_ofList xs)
  | shapedTraversal =>
      exact holds_of_elements_eq trivial (TraversalView.elements_ofList xs journal)

omit [LawfulHashable α] in
theorem holds_ofEntries (entries : List (α × ν)) (kind : MapKind) (journal : Journal) :
    ((ofEntries entries kind).run journal).1.Holds (entries.map (·.1)) := by
  cases kind with
  | hashed => exact ⟨trivial, HashedMap.sameItems_ofList entries⟩
  | sorted => exact ⟨trivial, SortedMap.sameItems_ofList entries⟩
  | view =>
      have hkeys := congrArg (List.map Prod.fst)
        (MappingView.entries_ofMap (HashedMap.ofList entries) journal)
      exact holds_of_elements trivial hkeys (HashedMap.sameItems_ofList entries)

end AnyContainer

end OptionalContainers
