import OptionalContainers.Container.Sorted
import OptionalContainers.Proofs.Container.HashedEquality
import OptionalContainers.Proofs.View.Equality
import OptionalContainers.View.Mapping

namespace OptionalContainers

variable {σ κ ν β : Type}

inductive Alike (agree : β → β → Prop) (same : σ → σ → Prop) :
    EStateM.Result Fault σ β → EStateM.Result Fault σ β → Prop
  | ok {answer answer' : β} {m m' : σ} (h : agree answer answer') (hm : same m m') :
      Alike agree same (.ok answer m) (.ok answer' m')
  | error {fault : Fault} {m m' : σ} (hm : same m m') :
      Alike agree same (.error fault m) (.error fault m')

def PutsRespect [BEq ν] [MappingTarget σ κ ν] (same : σ → σ → Prop) : Prop :=
  ∀ ⦃m m' : σ⦄, same m m' → ∀ (k : κ) ⦃v v' : ν⦄, (v == v') = true →
    Alike (Option.Rel fun x y => (x == y) = true) same (MappingTarget.put k v m)
      (MappingTarget.put k v' m')

theorem HashedMap.puts_respect_beq [BEq κ] [EquivBEq κ] [BEq ν] :
    PutsRespect fun m m' : HashedMap κ ν => (m == m') = true := by
  intro m m' hm k v v' hv
  have hrel := agree_iff_rel.mp ((beq_iff_agree m m').mp hm)
  refine .ok ?_ ((beq_iff_agree _ _).mpr (agree_iff_rel.mpr fun name => ?_))
  · rw [insert_fst, insert_fst]
    exact hrel k
  · rw [get?_insert, get?_insert]
    split
    · exact .some hv
    · exact hrel name

theorem entry_beq_iff [BEq κ] [BEq ν] {e e' : κ × ν} :
    (e == e') = true ↔ (e.1 == e'.1) = true ∧ (e.2 == e'.2) = true := by
  rw [← Bool.and_eq_true]
  rfl

namespace SortedMap

variable [Ord κ] [Std.TransOrd κ] [BEq κ] [Std.LawfulBEqOrd κ] [BEq ν]

theorem placeEntry_pointwise (k : κ) {v v' : ν} (hv : (v == v') = true)
    {entries entries' : List (κ × ν)} (h : Pointwise entries entries') :
    Option.Rel (fun x y => (x == y) = true) (placeEntry k v entries).1
        (placeEntry k v' entries').1 ∧
      Pointwise (placeEntry k v entries).2 (placeEntry k v' entries').2 := by
  have hplaced : ((k, v) == (k, v')) = true := entry_beq_iff.mpr ⟨BEq.rfl, hv⟩
  induction h with
  | nil => exact ⟨.none, .cons hplaced .nil⟩
  | @cons e e' rest rest' he hrest ih =>
      obtain ⟨key, held⟩ := e
      obtain ⟨key', held'⟩ := e'
      obtain ⟨hkey, hheld⟩ := entry_beq_iff.mp he
      have hcompare : compare k key = compare k key' :=
        Std.TransCmp.congr_right (Std.LawfulBEqCmp.compare_eq_iff_beq.mpr hkey)
      simp only [placeEntry, hcompare]
      split
      · exact ⟨.none, .cons hplaced (.cons he hrest)⟩
      · exact ⟨.some hheld, .cons (entry_beq_iff.mpr ⟨hkey, hv⟩) hrest⟩
      · exact ⟨ih.1, .cons he ih.2⟩

theorem puts_respect_beq : PutsRespect fun m m' : SortedMap κ ν => (m == m') = true := by
  intro m m' hm k v v' hv
  have hentries : Pointwise m.entries m'.entries := (beq_iff_pointwise _ _).mp hm
  obtain ⟨hanswers, hplaced⟩ := placeEntry_pointwise k hv hentries
  exact .ok hanswers ((beq_iff_pointwise _ _).mpr hplaced)

end SortedMap

theorem MappingView.puts_respect [BEq κ] [BEq ν]
    (same : MappingView κ ν → MappingView κ ν → Prop) : PutsRespect same :=
  fun _ _ hm _ _ _ _ => .error hm

end OptionalContainers
