import OptionalContainers.Container.Sequence
import OptionalContainers.Proofs.View.SetEquality

namespace OptionalContainers.SetView

variable {α : Type}

def Gives (make : Journaled (SetView α)) (xs : List α) : Prop :=
  ∀ journal, (make.run journal).1.elements = xs

theorem Gives.bind {make : Journaled (SetView α)} {next : SetView α → Journaled (SetView α)}
    {xs ys : List α} (h : Gives make xs) (hnext : ∀ v, v.elements = xs → Gives (next v) ys) :
    Gives (make >>= next) ys :=
  fun journal => hnext _ (h journal) _

variable [BEq α] [Hashable α]

theorem gives_build {d : Draft α} {kept : List α} (h : d.Holds kept) : Gives d.build kept := by
  intro journal
  rw [elements_build, h.elements]

variable [LawfulHashable α]

theorem gives_build_toDraft (v : SetView α) :
    Gives v.toDraft.build (firstOccurrences v.elements) :=
  gives_build (Draft.holds_extend_withCapacity v.length v.elements)

theorem gives_build_extend_toDraft (v : SetView α) (xs : List α) :
    Gives (v.toDraft.extend xs).build (firstOccurrences (v.elements ++ xs)) := by
  refine gives_build ?_
  rw [toDraft, ← Draft.extend_append]
  exact Draft.holds_extend_withCapacity v.length (v.elements ++ xs)

variable {σ ρ τ : Type} [Items σ α] [Items ρ α] [Items τ α]

theorem gives_ofContainer (container : Option σ) :
    Gives (ofContainer container) (firstOccurrences (offered container)) := by
  intro journal
  exact (Made.copied container rfl).elements_eq

theorem gives_concatWith (expected : Nat) (container : Option σ) (appended : Option ρ) :
    Gives (concatWith expected container appended)
      (firstOccurrences (offered container ++ offered appended)) := by
  intro journal
  exact (Made.concatenated expected container appended rfl).elements_eq

theorem gives_concatWith_twice (expected again : Nat) (container : Option σ)
    (appended : Option ρ) (further : Option τ) :
    Gives (concatWith expected container appended >>= fun v => concatWith again (some v) further)
      (firstOccurrences (offered container ++ (offered appended ++ offered further))) := by
  refine (gives_concatWith expected container appended).bind fun v hv => ?_
  have hfirst : offered (some v) = firstOccurrences (offered container ++ offered appended) := hv
  have htwice := gives_concatWith again (some v) further
  rw [hfirst, firstOccurrences_firstOccurrences_append, List.append_assoc] at htwice
  exact htwice

theorem extensions_agree (expected again : Nat) (container : Option σ) (appended : Option ρ)
    (further : Option τ) :
    (Gives (concatWith expected container appended)
          (firstOccurrences (offered container ++ offered appended)) ∧
        Gives (ofContainer (some (offered container ++ offered appended)))
          (firstOccurrences (offered container ++ offered appended))) ∧
      ∀ (journal : Journal) (handles : List (Handle α)), Session journal handles →
        ∀ h ∈ handles,
          let s := h.view
          let grown := firstOccurrences (s.elements ++ offered appended)
          let whole := firstOccurrences (s.elements ++ (offered appended ++ offered further))
          (Gives (s.toDraft.extend (offered appended)).build grown ∧
            Gives (concatWith expected (some s) appended) grown ∧
            s.elements <+: grown) ∧
          (Gives (concatWith expected (some s) appended >>= fun t =>
              concatWith again (some t) further) whole ∧
            Gives (concatWith expected (some s) (some (offered appended ++ offered further)))
              whole) ∧
          (EquivBEq α →
            Gives (concatWith expected (some s) (some s.elements)) s.elements ∧
            Gives (ofContainer (some s)) s.elements ∧
            Gives s.toDraft.build s.elements) := by
  refine ⟨⟨gives_concatWith expected container appended, gives_ofContainer (some _)⟩, ?_⟩
  intro journal handles session h hh s grown whole
  have hdistinct : Distinct s.elements := session.distinct_elements hh
  have hself : firstOccurrences s.elements = s.elements := firstOccurrences_of_distinct hdistinct
  refine ⟨⟨?_, ?_, ?_⟩, ⟨?_, ?_⟩, fun _ => ⟨?_, ?_, ?_⟩⟩
  · exact gives_build_extend_toDraft s (offered appended)
  · exact gives_concatWith expected (some s) appended
  · exact prefix_firstOccurrences_append hdistinct (offered appended)
  · exact gives_concatWith_twice expected again (some s) appended further
  · exact gives_concatWith expected (some s) (some (offered appended ++ offered further))
  · have hconcat := gives_concatWith expected (some s) (some s.elements)
    have htwice : firstOccurrences (offered (some s) ++ offered (some s.elements)) = s.elements :=
      firstOccurrences_append_self hdistinct
    rw [htwice] at hconcat
    exact hconcat
  · have hcopy := gives_ofContainer (some s)
    have hsame : firstOccurrences (offered (some s)) = s.elements := hself
    rw [hsame] at hcopy
    exact hcopy
  · have hrebuilt := gives_build_toDraft s
    rw [hself] at hrebuilt
    exact hrebuilt

theorem extensions_of_nine_digits :
    let digits := List.range 9
    let s := ((collectWith 0 digits).run .start).1
    let _colliding : Hashable Nat := ⟨fun _ => 0⟩
    Gives (concatWith 0 (some s) (some [9, 3, 9])) (List.range 10) ∧
      Gives (concatWith 0 (some s) (some [9, 3, 9]) >>= fun t =>
        concatWith 0 (some t) (some [10, 9])) (List.range 11) ∧
      Gives (concatWith 0 (some s) (some s.elements)) s.elements := by
  intro digits s
  have made := made_collectWith 0 digits .start
  have session : Session ((collectWith 0 digits).run .start).2 [⟨digits, s⟩] :=
    .make (.start .start) made
  have helements : s.elements = digits := made.elements_eq
  intro colliding
  have lawful : LawfulHashable Nat := ⟨fun _ _ _ => rfl⟩
  obtain ⟨-, hextend⟩ :=
    extensions_agree 0 0 (none : Option (List Nat)) (some [9, 3, 9]) (some [10, 9])
  obtain ⟨⟨-, hgrown, -⟩, ⟨hwhole, -⟩, hself⟩ := hextend _ _ session _ List.mem_cons_self
  simp only [helements] at hgrown hwhole
  exact ⟨hgrown, hwhole, (hself inferInstance).1⟩

end OptionalContainers.SetView
