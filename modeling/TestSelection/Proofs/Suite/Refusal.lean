import TestSelection.Proofs.Command.Machine
import TestSelection.Proofs.Manifest.Validation
import TestSelection.Proofs.Suite.Item

/-!
# What may still be refused

A manifest that was read is valid, and from then on only a marker can be in the way: an entry that cannot
be read, or in a strict run one outside the vocabulary. A manifest that was never validated is refused for
its network settings when all its entries are accepted, and for no other part of it
(`refuses_of_readWith`).
-/
namespace TestSelection.Suite

/-- An entry that can be read and, in a strict run, belongs to the vocabulary. -/
def Accepts (strict : Bool) (entry : MarkerEntry) : Prop :=
  ∃ marker, entry.marker = .ok marker ∧ (strict = true → entry.isRegistered = true)

/-- The failures for which an entry of a test can be refused. -/
inductive Refuses (strict : Bool) (t : TestEntry) : ManifestError → Prop
  | unreadable {entry : MarkerEntry} {source : MarkerError} : entry ∈ t.markers →
      entry.marker = .error source → Refuses strict t (.marker t.name source)
  | unregistered {entry : MarkerEntry} {marker : Marker} : entry ∈ t.markers → strict = true →
      entry.marker = .ok marker → entry.isRegistered = false →
      Refuses strict t (.unknownMarker t.name entry.name)

theorem refuses_of_readEntry {strict : Bool} {t : TestEntry} {entry : MarkerEntry} {e : ManifestError}
    (hmem : entry ∈ t.markers) (h : (readEntry strict t.name entry).1 = .error e) :
    Refuses strict t e := by
  unfold readEntry at h
  split at h
  · cases h
    exact .unreadable hmem ‹_›
  · next marker hm =>
      split at h
      · cases h
      · next hc =>
          split at h
          · next hs =>
              cases h
              rw [(MarkerEntry.of_marker hm).1] at hc ⊢
              exact .unregistered hmem hs hm (Bool.eq_false_iff.mpr hc)
          · cases h

theorem refuses_of_itemOf {strict : Bool} {classifier : Classifier} {t : TestEntry} {e : ManifestError}
    (h : itemOf strict classifier t = .error e) : Refuses strict t e := by
  rcases bind_eq_error_iff.mp h with h | ⟨_, -, h⟩
  · obtain ⟨entry, hmem, he⟩ := exists_of_mapM_eq_error h
    exact refuses_of_readEntry hmem he
  · cases h

theorem exists_itemOf_eq_ok_iff {strict : Bool} {classifier : Classifier} {t : TestEntry} :
    (∃ item, itemOf strict classifier t = .ok item) ↔ ∀ entry ∈ t.markers, Accepts strict entry := by
  simp only [itemOf, bind_eq_ok_iff, pure_eq_ok_iff, Accepts, ← @readEntry_eq_ok_iff strict t.name,
    ← exists_mapM_eq_ok_iff]
  constructor
  · rintro ⟨_, markers, hm, -⟩
    exact ⟨markers, hm⟩
  · rintro ⟨markers, hm⟩
    exact ⟨_, markers, hm, rfl⟩

variable {m : Manifest} {strict : Bool}

/-- The ways in which the suite of a manifest cannot be built: a test is refused, or all entries are
accepted and the network settings cannot be probed. -/
theorem build_eq_error {e : ManifestError} (h : (build m strict).1 = .error e) :
    (∃ t ∈ m.tests, Refuses (strict || m.settings.strictMarkers) t e) ∨
    ((∀ t ∈ m.tests, ∀ entry ∈ t.markers, Accepts (strict || m.settings.strictMarkers) entry) ∧
      ∃ v, validateNetwork m.settings.network = .error v ∧ e = .invalid v) := by
  rw [build_eq, andThen_fst, collect_fst, bind_eq_error_iff] at h
  rcases h with h | ⟨items, hitems, h⟩
  · obtain ⟨t, hmem, ht⟩ := exists_of_mapM_eq_error h
    exact .inl ⟨t, hmem, refuses_of_itemOf ht⟩
  · -- The settings are looked at last, so all tests have their items by then.
    right
    constructor
    · intro t hmem
      exact exists_itemOf_eq_ok_iff.mp (exists_mapM_eq_ok_iff.mp ⟨items, hitems⟩ t hmem)
    · exact ofItems_eq_error_iff.mp h

theorem build_eq_invalid_iff {v : ValidationError} : (build m strict).1 = .error (.invalid v) ↔
    (∀ t ∈ m.tests, ∀ entry ∈ t.markers, Accepts (strict || m.settings.strictMarkers) entry) ∧
      validateNetwork m.settings.network = .error v := by
  constructor
  · intro h
    rcases build_eq_error h with ⟨t, -, ht⟩ | ⟨hall, v', hv, he⟩
    · cases ht
    · cases he
      exact ⟨hall, hv⟩
  · rintro ⟨hall, hv⟩
    have hitem : ∀ t ∈ m.tests, ∃ item, itemOf (strict || m.settings.strictMarkers)
        (Classifier.ofCategories m.settings.categories) t = .ok item :=
      fun t hmem => exists_itemOf_eq_ok_iff.mpr (hall t hmem)
    obtain ⟨items, hitems⟩ := exists_mapM_eq_ok_iff.mpr hitem
    rw [build_eq, andThen_fst, collect_fst, bind_eq_error_iff]
    exact .inr ⟨items, hitems, ofItems_eq_error_iff.mpr ⟨v, hv, rfl⟩⟩

/-- What validation accepts is not refused later. The settings of a manifest that was read can be probed,
and its suite fails for an entry that is refused and for nothing else; probing by a manifest never fails for
its settings, and settings of a wrong number of ports are never taken for valid ones. The suite of any
manifest, read or not, fails for its network settings just when all entries are accepted and the settings
are refused. -/
theorem refuses_of_readWith :
    (∀ (read : String → Except YamlError Manifest) (vars : Variables) (text : String) (m : Manifest),
      Manifest.readWith read vars text = .ok m →
        (∃ probes, ProbeSettings.ofNetwork m.settings.network = .ok probes) ∧
        ∀ strict e, (build m strict).1 = .error e →
          ∃ t ∈ m.tests, Refuses (strict || m.settings.strictMarkers) t e) ∧
    (∀ network, ProbeSettings.ofNetwork network ≠ .error .unpairedPorts) ∧
    (∀ {σ : Type} (machine : Command.Machine (StateM σ)) (path format : String) (s : σ),
      ∀ failure ∈ (Command.outcome machine path (.probe format) s).failure,
        failure.context ≠ "Invalid network settings") ∧
    ∀ (m : Manifest) (strict : Bool) (v : ValidationError),
      (build m strict).1 = .error (.invalid v) ↔
        (∀ t ∈ m.tests, ∀ entry ∈ t.markers,
          Accepts (strict || m.settings.strictMarkers) entry) ∧
        validateNetwork m.settings.network = .error v := by
  refine ⟨?_, ?_, ?_, fun m strict v => build_eq_invalid_iff⟩
  · intro read vars text m h
    have hn := validateNetwork_eq_ok_iff.mpr (Manifest.isValid_of_readWith h).network
    refine ⟨exists_ofNetwork_eq_ok hn, fun strict e he => ?_⟩
    rcases build_eq_error he with ht | ⟨-, v, hv, -⟩
    · exact ht
    · rw [hn] at hv
      cases hv
  · intro network h
    exact validateNetwork_ne_unpairedPorts network (ofNetwork_eq_error_iff.mp h)
  · intro σ machine path format s failure hf hc
    have hmem := Command.yields_probe_context machine path format s failure hf
    rw [hc, Command.Format.context_unknown, List.mem_pair] at hmem
    rcases hmem with hmem | hmem
    · exact Command.append_ne_of_take (by decide) hmem.symm
    · exact Command.append_ne_of_take (by decide) hmem.symm

/-- A manifest that was read and is strict itself, with an unregistered marker. -/
def strictText : String :=
  "version: 1.0\nsettings: {strict_markers: true}\ntests: [{name: a, path: b, markers: [slow]}]\n"

/-- A manifest that was never validated, with one port. -/
def onePort : Manifest where
  version := Manifest.knownVersion
  settings := { network := some { localPorts := [18000] } }
  tests := [{ name := "a", path := "b", markers := [.bare "slow"] }]

theorem refuses_of_readWith_strict :
    (∃ m, Manifest.readWith Manifest.ofYaml (fun _ => none) strictText = .ok m ∧
      (build m false).1 = .error (.unknownMarker "a" "slow") ∧
      ∃ t ∈ m.tests, Refuses true t (.unknownMarker "a" "slow")) ∧
    (build onePort false).1 = .error (.invalid (.portCount 1)) := by
  obtain ⟨hread, -, -, hbuild⟩ := refuses_of_readWith
  constructor
  · have hrefused : ((Manifest.readWith Manifest.ofYaml (fun _ => none) strictText).toOption.map
        fun m => (m.settings.strictMarkers, (build m false).1.map Suite.items)) =
        some (true, .error (.unknownMarker "a" "slow")) := by
      decide +kernel
    obtain ⟨m, hm, hrefused⟩ := Option.map_eq_some_iff.mp hrefused
    obtain ⟨hs, hb⟩ := Prod.mk.inj hrefused
    replace hm := toOption_eq_some_iff.mp hm
    replace hb := map_eq_error_iff.mp hb
    have ht := (hread _ _ _ m hm).2 false _ hb
    rw [hs] at ht
    exact ⟨m, hm, hb, ht⟩
  · refine (hbuild onePort false (.portCount 1)).mpr ⟨?_, rfl⟩
    simp only [onePort, List.forall_mem_singleton]
    exact ⟨.unregistered "slow", rfl, nofun⟩

end TestSelection.Suite
