import Mathlib.Data.List.Perm.Subperm
import TestSelection.Proofs.Except
import TestSelection.Manifest.Read

/-!
# Valid manifests

Validation goes through a manifest with a memory of the names it met, and accepts the manifests that are
valid by a condition without order (`validate_eq_ok_iff`). What it accepts of the network settings is
just what the probes can use, so nothing is refused of them afterwards (`ofNetwork_eq_error_iff`).
-/
namespace TestSelection

/-! ## Tests -/

/-- The name and the path of a test hold more than blanks. -/
structure TestEntry.IsNamed (t : TestEntry) : Prop where
  name : Text.isBlankText t.name = false
  path : Text.isBlankText t.path = false

theorem validateTests_eq_ok_iff {seen : List String} {tests : List TestEntry} :
    validateTests seen tests = .ok () ↔
      (∀ t ∈ tests, t.IsNamed) ∧ (tests.map (·.name)).Nodup ∧ ∀ t ∈ tests, t.name ∉ seen := by
  induction tests generalizing seen with
  | nil => simp [validateTests]
  | cons t rest ih =>
      have hnamed : t.IsNamed ↔ ¬Text.isBlankText t.name ∧ ¬Text.isBlankText t.path := by
        simp only [Bool.not_eq_true]
        exact ⟨fun h => ⟨h.name, h.path⟩, fun h => ⟨h.1, h.2⟩⟩
      simp only [List.forall_mem_cons, List.map_cons, List.nodup_cons, hnamed, validateTests]
      split
      · simp [*]
      · split
        · simp [*]
        · split
          · simp [*]
          · -- A name is new behind this test if it is new and not the name of this test.
            rw [ih]
            simp only [List.mem_cons, List.mem_map, not_exists, not_and, not_or, forall_and]
            grind

/-! ## Settings -/

/-- Network settings that can be probed. -/
structure NetworkSettings.IsUsable (n : NetworkSettings) : Prop where
  ports : n.localPorts.length = 2
  addresses : n.externalAddresses ≠ []
  timeout : n.connectTimeout ≠ 0

theorem NetworkSettings.validate_eq_ok_iff {n : NetworkSettings} :
    n.validate = .ok () ↔ n.IsUsable := by
  constructor
  · intro h
    unfold validate at h
    split at h
    · cases h
    · split at h
      · cases h
      · split at h
        · cases h
        · exact ⟨not_not.mp ‹_›, ‹_›, ‹_›⟩
  · intro h
    simp [validate, h.ports, h.addresses, h.timeout]

/-- The probes refuse what validation refuses, for the same reason. -/
theorem ofNetwork_eq_error_iff {network : Option NetworkSettings} {e : ValidationError} :
    ProbeSettings.ofNetwork network = .error e ↔ validateNetwork network = .error e := by
  cases network with
  | none => simp [ProbeSettings.ofNetwork, validateNetwork]
  | some n =>
      rw [ProbeSettings.ofNetwork, validateNetwork]
      cases hv : n.validate with
      | error e' => simp [bind_eq_error_iff]
      | ok _ =>
          obtain ⟨first, second, hports⟩ :=
            List.length_eq_two.mp (NetworkSettings.validate_eq_ok_iff.mp hv).ports
          rw [hports]
          exact ⟨nofun, nofun⟩

theorem ofNetwork_some {n : NetworkSettings} {probes : ProbeSettings}
    (h : ProbeSettings.ofNetwork (some n) = .ok probes) :
    ∃ first second, n.localPorts = [first, second] ∧
      probes = ⟨(first, second), n.externalAddresses, n.externalPort, .ofMillis n.connectTimeout⟩ := by
  obtain ⟨_, -, hp⟩ := bind_eq_ok_iff.mp h
  split at hp
  · exact ⟨_, _, ‹_›, (pure_eq_ok_iff.mp hp).symm⟩
  · cases hp

/-- Validation counts the ports itself, so it never comes to ports that make no pair. -/
theorem validateNetwork_ne_unpairedPorts (network : Option NetworkSettings) :
    validateNetwork network ≠ .error .unpairedPorts := by
  cases network with
  | none => nofun
  | some n =>
      simp only [validateNetwork, NetworkSettings.validate]
      split
      · nofun
      · split
        · nofun
        · split <;> nofun

theorem exists_ofNetwork_eq_ok {network : Option NetworkSettings} (h : validateNetwork network = .ok ()) :
    ∃ probes, ProbeSettings.ofNetwork network = .ok probes := by
  cases hp : ProbeSettings.ofNetwork network with
  | ok probes => exact ⟨probes, rfl⟩
  | error e =>
      rw [ofNetwork_eq_error_iff.mp hp] at h
      cases h

theorem validateNetwork_eq_ok_iff {network : Option NetworkSettings} :
    validateNetwork network = .ok () ↔ ∀ n ∈ network, n.IsUsable := by
  cases network with
  | none => simp [validateNetwork]
  | some n => simp [validateNetwork, NetworkSettings.validate_eq_ok_iff]

theorem validateCategories_eq_ok_iff {categories : Option (List CategoryRule)} :
    validateCategories categories = .ok () ↔
      ∀ rules ∈ categories, ∀ r ∈ rules, Text.isBlankText r.suite = false := by
  cases categories with
  | none => simp [validateCategories]
  | some rules =>
      simp only [validateCategories, Option.mem_some_iff, forall_eq']
      split
      · next h =>
        obtain ⟨r, hr, hb⟩ := List.any_eq_true.mp h
        simp only [reduceCtorEq, false_iff, not_forall]
        exact ⟨r, hr, by simp [hb]⟩
      · next h => simpa using h

/-! ## Manifests -/

namespace Manifest

/-- A manifest of the known version, with named tests of different names, usable network settings and
named suites. -/
structure IsValid (m : Manifest) : Prop where
  version : m.version = knownVersion
  named : ∀ t ∈ m.tests, t.IsNamed
  distinct : (m.tests.map (·.name)).Nodup
  network : ∀ n ∈ m.settings.network, n.IsUsable
  categories : ∀ rules ∈ m.settings.categories, ∀ r ∈ rules, Text.isBlankText r.suite = false

theorem validate_eq_ok_iff {m : Manifest} : m.validate = .ok () ↔ m.IsValid := by
  unfold validate
  split
  · next hv =>
      constructor
      · intro h
        obtain ⟨_, h, -⟩ := bind_eq_ok_iff.mp h
        cases h
      · exact fun h => absurd h.version hv
  · next hv =>
      constructor
      · intro h
        obtain ⟨_, ht, h⟩ := bind_eq_ok_iff.mp h
        obtain ⟨_, hn, hc⟩ := bind_eq_ok_iff.mp h
        obtain ⟨hnamed, hdistinct, -⟩ := validateTests_eq_ok_iff.mp ht
        exact ⟨not_not.mp hv, hnamed, hdistinct, validateNetwork_eq_ok_iff.mp hn,
          validateCategories_eq_ok_iff.mp hc⟩
      · intro h
        have ht := validateTests_eq_ok_iff.mpr ⟨h.named, h.distinct, fun t _ => List.not_mem_nil⟩
        have hn := validateNetwork_eq_ok_iff.mpr h.network
        exact bind_eq_ok_iff.mpr ⟨(), ht, bind_eq_ok_iff.mpr ⟨(), hn,
          validateCategories_eq_ok_iff.mpr h.categories⟩⟩

/-- Tests may be left out of a valid manifest and change places. -/
theorem IsValid.of_subperm {m : Manifest} (h : m.IsValid) {tests : List TestEntry}
    (ht : tests.Subperm m.tests) : { m with tests }.IsValid where
  version := h.version
  named t hmem := h.named t (ht.subset hmem)
  distinct := by
    obtain ⟨kept, hperm, hsub⟩ := ht
    exact (hperm.map _).nodup_iff.mp (h.distinct.sublist (hsub.map _))
  network := h.network
  categories := h.categories

/-- A manifest that was read is valid, however its document was read. -/
theorem isValid_of_readWith {read : String → Except YamlError Manifest} {vars : Variables}
    {text : String} {m : Manifest} (h : readWith read vars text = .ok m) : m.IsValid := by
  obtain ⟨resolved, -, h⟩ := bind_eq_ok_iff.mp h
  obtain ⟨m', -, h⟩ := bind_eq_ok_iff.mp h
  obtain ⟨_, hv, h⟩ := bind_eq_ok_iff.mp h
  cases pure_eq_ok_iff.mp h
  exact validate_eq_ok_iff.mp (mapError_eq_ok_iff.mp hv)

end Manifest

end TestSelection
