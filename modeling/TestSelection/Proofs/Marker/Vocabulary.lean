import TestSelection.Marker.Parse
import TestSelection.Marker.Registry
import TestSelection.Proofs.Except

/-!
# The vocabulary

A name belongs to the vocabulary in three ways: the registry lists it, reading a marker knows it, and
the marker that is read is one of the five kinds with a condition. The three agree.
-/
namespace TestSelection.Marker

theorem standard_contains_iff {name : String} : MarkerRegistry.standard.contains name ↔
    name = destructiveName ∨ name = expensiveName ∨ name = needsRootName ∨
      name = needsBinariesName ∨ name = needsNetworkName := by
  simp only [MarkerRegistry.contains, MarkerRegistry.get?, List.find?_isSome, beq_iff_eq]
  simp only [MarkerRegistry.standard, List.mem_cons, List.not_mem_nil, or_false,
    exists_eq_or_imp, exists_eq_left, @eq_comm _ _ name]

/-- What a name says about the marker that is read from it: each name of the vocabulary has a kind
of its own, and any other name is kept as it is. -/
theorem parse_cases {name : String} {args : List MarkerValue} {kwargs : Keywords} {m : Marker}
    (h : parse name args kwargs = .ok m) :
    (name = destructiveName ∧ m = destructive) ∨ (name = expensiveName ∧ m = expensive) ∨
    (name = needsRootName ∧ m = needsRoot) ∨
    (name = needsBinariesName ∧ ∃ binaries checkAll message,
      m = needsBinaries binaries checkAll message) ∨
    (name = needsNetworkName ∧ ∃ onlyLocal, m = needsNetwork onlyLocal) ∨
    (¬MarkerRegistry.standard.contains name ∧ m = unregistered name) := by
  unfold parse at h
  split at h
  · cases h
  split at h
  · obtain ⟨_, -, hm⟩ := bind_eq_ok_iff.mp h
    exact .inl ⟨‹_›, (pure_eq_ok_iff.mp hm).symm⟩
  right; split at h
  · obtain ⟨_, -, hm⟩ := bind_eq_ok_iff.mp h
    exact .inl ⟨‹_›, (pure_eq_ok_iff.mp hm).symm⟩
  right; split at h
  · obtain ⟨_, -, hm⟩ := bind_eq_ok_iff.mp h
    exact .inl ⟨‹_›, (pure_eq_ok_iff.mp hm).symm⟩
  right; split at h
  · obtain ⟨_, -, hm⟩ := bind_eq_ok_iff.mp h
    obtain ⟨_, -, hm⟩ := bind_eq_ok_iff.mp hm
    exact .inl ⟨‹_›, _, _, _, (pure_eq_ok_iff.mp hm).symm⟩
  right; split at h
  · split at h
    · cases h
    · obtain ⟨_, -, hm⟩ := bind_eq_ok_iff.mp h
      exact .inl ⟨‹_›, _, (pure_eq_ok_iff.mp hm).symm⟩
  · cases h
    exact .inr ⟨by simp [standard_contains_iff, *], rfl⟩

variable {name : String} {args : List MarkerValue} {kwargs : Keywords} {m : Marker}

theorem name_of_parse (h : parse name args kwargs = .ok m) : m.name = name := by
  rcases parse_cases h with ⟨rfl, rfl⟩ | ⟨rfl, rfl⟩ | ⟨rfl, rfl⟩ | ⟨rfl, _, _, _, rfl⟩ |
    ⟨rfl, _, rfl⟩ | ⟨_, rfl⟩ <;> rfl

theorem isRegistered_of_parse (h : parse name args kwargs = .ok m) :
    m.isRegistered = MarkerRegistry.standard.contains name := by
  rcases parse_cases h with ⟨rfl, rfl⟩ | ⟨rfl, rfl⟩ | ⟨rfl, rfl⟩ | ⟨rfl, _, _, _, rfl⟩ |
    ⟨rfl, _, rfl⟩ | ⟨hn, rfl⟩
  · rfl
  · rfl
  · rfl
  · rfl
  · rfl
  · exact (Bool.eq_false_iff.mpr hn).symm

end TestSelection.Marker
