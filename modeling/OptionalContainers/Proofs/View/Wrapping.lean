import OptionalContainers.Proofs.Container.Deduplicating
import OptionalContainers.Proofs.View.Emptiness
import OptionalContainers.Proofs.View.SetEvents

namespace OptionalContainers

variable {α : Type} [BEq α]

theorem Distinct.count_eq [PartialEquivBEq α] {xs : List α} (h : Distinct xs) (x : α) :
    xs.count x = if scan xs x then 1 else 0 := by
  induction xs with
  | nil => rfl
  | cons y rest ih =>
      obtain ⟨hhead, hrest⟩ := List.pairwise_cons.mp h
      rw [List.count_cons, ih hrest]
      cases hy : y == x with
      | false => simp [scan, hy]
      | true =>
          -- What follows the head is unequal to it, and so to what the head equals.
          have hnone : scan rest x = false := by
            rw [scan, List.any_eq_false]
            intro z hz hzx
            have hyz : (y == z) = true := PartialEquivBEq.trans hy (BEq.symm hzx)
            exact Bool.false_ne_true ((hhead z hz).symm.trans hyz)
          have hfound : scan (y :: rest) x = true :=
            scan_eq_true_iff.mpr ⟨y, List.mem_cons_self, hy⟩
          simp [hnone, hfound]

namespace Draft

omit [BEq α] in
theorem events_build (d : Draft α) (journal : Journal) :
    (d.build.run journal).2.events = journal.events ++ [.setBuilt d.length d.refused] := by
  simp only [build, StateT.run_bind]
  split <;> rfl

theorem answers_withCapacity_of_distinct [Hashable α] (capacity : Nat) {xs : List α}
    (h : Distinct xs) : (withCapacity capacity).answers xs = List.replicate xs.length true := by
  have hrefused : ((withCapacity capacity).answers xs).count false = 0 := by
    rw [← refused_extend_withCapacity]
    exact (extend_withCapacity_of_distinct capacity h).2
  have hlength : ((withCapacity capacity).answers xs).length = xs.length := by
    rw [← List.count_true_add_count_false, count_answers]
  refine List.eq_replicate_iff.mpr ⟨hlength, fun answer hanswer => ?_⟩
  cases answer with
  | true => rfl
  | false => exact absurd hanswer (List.count_eq_zero.mp hrefused)

end Draft

namespace SetView

section

variable [Hashable α]

theorem events_collect_of_distinct {xs : List α} (h : Distinct xs) (journal : Journal) :
    ((collect xs).run journal).2.events = journal.events ++ [.setBuilt xs.length 0] := by
  obtain ⟨helements, hrefused⟩ := Draft.extend_withCapacity_of_distinct xs.length h
  rw [collect, collectWith, Draft.events_build, Draft.length_eq, helements, hrefused]

structure Lossless (s : HashedSet α) (journal : Journal) (v : SetView α) (later : Journal) :
    Prop where
  bare : (wrap (some s)).run journal = (some v, later)
  tagged : (ShapedView.wrap (some (.set s))).run journal = (some (.set v), later)
  length_eq : v.length = size s
  elements_eq : v.elements = s.elements
  count_eq (x : α) : v.elements.count x = if hasMember s x then 1 else 0
  answers_eq : (Draft.withCapacity (size s)).answers s.elements = List.replicate (size s) true
  events_eq : later.events = journal.events ++ [.setBuilt (size s) 0]
  hasMember_eq {β : Type} [Probe α β] [BEq β] [Hashable β] [LawfulProbe α β] [LawfulHashable β]
    (probe : β) : hasMember v probe = s.elements.any (Probe.form · == probe)

theorem lossless_collect [PartialEquivBEq α] [LawfulHashable α] (s : HashedSet α)
    (journal : Journal) :
    Lossless s journal ((collect s.elements).run journal).1
      ((collect s.elements).run journal).2 := by
  have made := made_collect s.elements journal
  have helements := elements_collect_of_distinct s.distinct journal
  exact {
    bare := rfl
    tagged := rfl
    length_eq := congrArg List.length helements
    elements_eq := helements
    count_eq := fun x => by rw [helements]; exact s.distinct.count_eq x
    answers_eq := Draft.answers_withCapacity_of_distinct (size s) s.distinct
    events_eq := events_collect_of_distinct s.distinct journal
    hasMember_eq := fun probe => (contains_eq_any made.sound probe).trans (by rw [helements]) }

end

namespace Handle

inductive Wraps (s : HashedSet α) (journal : Journal) : Handle α → Journal → Prop
  | bare [Hashable α] [LawfulHashable α] {v : SetView α} {later : Journal}
      (h : (wrap (some s)).run journal = (some v, later)) : Wraps s journal ⟨s.elements, v⟩ later
  | tagged [Hashable α] [LawfulHashable α] {v : SetView α} {later : Journal}
      (h : (ShapedView.wrap (some (.set s))).run journal = (some (.set v), later)) :
      Wraps s journal ⟨s.elements, v⟩ later

variable {s t : HashedSet α} {journal middle between later : Journal} {a b : Handle α}

theorem Wraps.inputs_eq (h : Wraps s journal a later) : a.inputs = s.elements := by
  cases h <;> rfl

theorem Wraps.session {handles : List (Handle α)} (h : Wraps s journal a later)
    (session : Session journal handles) : Session later (a :: handles) := by
  cases h with
  | bare h => exact .make session (.wrapped s h)
  | tagged h => exact .make session (.shaped s h)

theorem Wraps.equals_iff [EquivBEq α] (ha : Wraps s journal a middle)
    (hle : middle.nextCell ≤ between.nextCell) (hb : Wraps t between b later) :
    (a.equals b = true ↔ (s == t) = true) ∧ (b.equals a = true ↔ (s == t) = true) := by
  have session : Session later [b, a] :=
    hb.session (.elsewhere (ha.session (.start journal)) hle)
  have hab := session.equals_iff_inputs (a := a) (b := b) (by simp) (by simp)
  have hba := session.equals_iff_inputs (a := b) (b := a) (by simp) (by simp)
  rw [hab, hba, HashedSet.beq_iff_scan, ha.inputs_eq, hb.inputs_eq]
  exact ⟨.rfl, ⟨fun h x => (h x).symm, fun h x => (h x).symm⟩⟩

end Handle

end SetView

theorem HashedSet.beq_of_perm [EquivBEq α] {s t : HashedSet α}
    (h : s.elements.Perm t.elements) : (s == t) = true :=
  (beq_iff_scan s t).mpr fun x => scan_eq_of_perm h x

namespace ShapedView

inductive Mirrors : Shaped α → ShapedView α → Prop
  | sequence {xs : List α} {v : SequenceView α} (h : v.elements = xs) :
      Mirrors (.sequence xs) (.sequence v)
  | set {s : HashedSet α} {v : SetView α} (h : v.elements = s.elements) :
      Mirrors (.set s) (.set v)
  | traversal {xs : List α} {v : TraversalView α} (h : v.elements = xs) :
      Mirrors (.traversal xs) (.traversal v)

variable {c : Shaped α} {v : ShapedView α}

theorem Mirrors.shape_eq (h : Mirrors c v) : v.shape = c.shape := by
  cases h <;> rfl

theorem Mirrors.elements_eq (h : Mirrors c v) : v.elements = c.elements := by
  cases h <;> assumption

variable [Hashable α] [LawfulHashable α]

theorem mirrors_ofShaped (c : Shaped α) (journal : Journal) :
    Mirrors c ((ofShaped c).run journal).1 := by
  cases c with
  | sequence xs => exact .sequence (SequenceView.elements_ofList xs journal)
  | set s => exact .set (SetView.elements_collect_of_distinct s.distinct journal)
  | traversal xs => exact .traversal (TraversalView.elements_ofList xs journal)

omit [LawfulHashable α] in
theorem constructed_ofShaped (c : Shaped α) (journal : Journal) :
    ((ofShaped c).run journal).1.Constructed := by
  cases c with
  | sequence xs => trivial
  | set s => exact ⟨journal, _, s.elements, SetView.made_collect s.elements journal⟩
  | traversal xs => trivial

end ShapedView

theorem wrapping_keeps_elements [EquivBEq α] :
    (∀ [Hashable α] [LawfulHashable α] (s : HashedSet α) (journal : Journal),
        ∃ v later, SetView.Lossless s journal v later) ∧
      (∀ (s t : HashedSet α) (journal middle between later : Journal) (a b : SetView.Handle α),
        a.Wraps s journal middle → middle.nextCell ≤ between.nextCell → b.Wraps t between later →
          (a.equals b = true ↔ (s == t) = true) ∧ (b.equals a = true ↔ (s == t) = true) ∧
            (s.elements.Perm t.elements → a.equals b = true ∧ b.equals a = true)) ∧
      ∀ [Hashable α] [LawfulHashable α] (c : Shaped α) (journal : Journal),
        ∃ v later, (ShapedView.wrap (some c)).run journal = (some v, later) ∧
          v.shape = c.shape ∧ ShapedView.Mirrors c v ∧ ∀ x, hasMember v x = scan c.elements x := by
  refine ⟨fun s journal => ⟨_, _, SetView.lossless_collect s journal⟩, ?_, fun c journal => ?_⟩
  · intro s t journal middle between later a b ha hle hb
    obtain ⟨hab, hba⟩ := ha.equals_iff hle hb
    refine ⟨hab, hba, fun hperm => ?_⟩
    have hsame : (s == t) = true := HashedSet.beq_of_perm hperm
    exact ⟨hab.mpr hsame, hba.mpr hsame⟩
  · have mirrors := ShapedView.mirrors_ofShaped c journal
    refine ⟨_, _, rfl, mirrors.shape_eq, mirrors, fun x => ?_⟩
    rw [← mirrors.elements_eq]
    exact (ShapedView.constructed_ofShaped c journal).hasMember_eq_scan x

theorem wrapped_in_two_orders :
    let upwards : HashedSet Nat := ⟨List.range 10, distinct_of_nodup List.nodup_range⟩
    let downwards : HashedSet Nat := HashedSet.ofList (3 :: (List.range 10).reverse)
    ∃ (a b : SetView.Handle Nat) (middle later : Journal),
      a.Wraps upwards .start middle ∧ b.Wraps downwards middle later ∧
        a.view.elements = [0, 1, 2, 3, 4, 5, 6, 7, 8, 9] ∧
        b.view.elements = [3, 9, 8, 7, 6, 5, 4, 2, 1, 0] ∧ a.equals b = true := by
  intro upwards downwards
  obtain ⟨hkept, hequal, -⟩ := wrapping_keeps_elements (α := Nat)
  obtain ⟨v, middle, hv⟩ := hkept upwards .start
  have ha : SetView.Handle.Wraps upwards .start ⟨upwards.elements, v⟩ middle := .bare hv.bare
  have hupwards : v.elements = [0, 1, 2, 3, 4, 5, 6, 7, 8, 9] := hv.elements_eq
  let _colliding : Hashable Nat := ⟨fun _ => 0⟩
  have _lawful : LawfulHashable Nat := ⟨fun _ _ _ => rfl⟩
  obtain ⟨w, later, hw⟩ := hkept downwards middle
  have hb : SetView.Handle.Wraps downwards middle ⟨downwards.elements, w⟩ later :=
    .tagged hw.tagged
  have hperm : upwards.elements.Perm downwards.elements := by decide
  obtain ⟨-, -, hsame⟩ := hequal _ _ _ _ _ _ _ _ ha (Nat.le_refl _) hb
  exact ⟨_, _, middle, later, ha, hb, hupwards, hw.elements_eq, (hsame hperm).1⟩

end OptionalContainers
