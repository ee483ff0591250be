import TestSelection.Proofs.Command.Machine
import TestSelection.Proofs.Suite.Item

/-!
# What a suite holds of its manifest

Nothing of a manifest is lost, moved or repeated in its suite: the items stand for the tests one by one,
their markers for the entries one by one, and the settings are those of the manifest, with the standard
ones only where a section is absent (`build_mirrors`).
-/
namespace TestSelection

/-- The arguments of an entry; a bare name has none. -/
def MarkerEntry.arguments : MarkerEntry → List MarkerValue × Keywords
  | bare _ => ([], .empty)
  | call _ args kwargs => (args, kwargs)

theorem MarkerEntry.marker_eq (e : MarkerEntry) :
    e.marker = Marker.parse e.name e.arguments.1 e.arguments.2 := by
  cases e <;> rfl

namespace Suite

/-- A marker is read from the name and the arguments of an entry, and it has that name. -/
structure ReadFrom (entry : MarkerEntry) (marker : Marker) : Prop where
  parse : Marker.parse entry.name entry.arguments.1 entry.arguments.2 = .ok marker
  name : marker.name = entry.name

/-- An item has the name and the path of a test, a marker for each of its entries and the tags of its
path. -/
structure Mirrors (classifier : Classifier) (t : TestEntry) (item : TestItem) : Prop where
  name : item.name = t.name
  path : item.path = t.path
  markers : List.Forall₂ ReadFrom t.markers item.markers
  tags : item.tags = classifier.classify t.path

/-- A suite has the settings of a manifest. The standard probes and the standard rules stand in for a
section that is absent, and for no other. -/
structure HasSettings (settings : Settings) (suite : Suite) : Prop where
  runDestructive : suite.runConfiguration.runDestructive = settings.runDestructive
  runExpensive : suite.runConfiguration.runExpensive = settings.runExpensive
  standardProbes : settings.network = none → suite.probes = .standard
  probes : ∀ n, settings.network = some n → ∃ first second, n.localPorts = [first, second] ∧
    suite.probes = ⟨(first, second), n.externalAddresses, n.externalPort, .ofMillis n.connectTimeout⟩
  standardRules : settings.categories = none → suite.classifier = .standard
  rules : ∀ rules, settings.categories = some rules →
    suite.classifier = ⟨rules.map fun r => ⟨r.suite, r.subsystems⟩⟩

theorem mirrors_of_itemOf {strict : Bool} {classifier : Classifier} {t : TestEntry} {item : TestItem}
    (h : itemOf strict classifier t = .ok item) : Mirrors classifier t item := by
  obtain ⟨hname, hpath, htags, hmarkers⟩ := itemOf_eq_ok_iff.mp h
  refine ⟨hname, hpath, hmarkers.imp fun entry marker hm => ?_, htags⟩
  exact ⟨entry.marker_eq ▸ hm.1, (MarkerEntry.of_marker hm.1).1⟩

theorem hasSettings_of_ofItems {m : Manifest} {items : List TestItem} {suite : Suite}
    (h : ofItems m items = .ok suite) : HasSettings m.settings suite := by
  obtain ⟨probes, hprobes, rfl⟩ := ofItems_eq_ok_iff.mp h
  constructor
  case runDestructive => rfl
  case runExpensive => rfl
  case standardProbes =>
      intro hn
      rw [hn] at hprobes
      exact (Except.ok.inj hprobes).symm
  case probes =>
      intro n hn
      rw [hn] at hprobes
      exact ofNetwork_some hprobes
  case standardRules =>
      intro hc
      simp only [hc, Classifier.ofCategories]
  case rules =>
      intro rules hc
      simp only [hc, Classifier.ofCategories]
      rfl

theorem Mirrors.classifiedLine {classifier : Classifier} {t : TestEntry} {item : TestItem}
    (h : Mirrors classifier t item) : Command.classifiedLine classifier item.path =
      item.path ++ ": " ++ Command.listText item.tags := by
  rw [Command.classifiedLine, h.tags, h.path]

theorem forall₂_mirrors {m : Manifest} {strict : Bool} {suite : Suite}
    (h : (build m strict).1 = .ok suite) :
    suite.classifier = Classifier.ofCategories m.settings.categories ∧
      List.Forall₂ (Mirrors suite.classifier) m.tests suite.items := by
  obtain ⟨hitems, hs⟩ := build_eq_ok_iff.mp h
  have hclassifier : suite.classifier = Classifier.ofCategories m.settings.categories := by
    obtain ⟨_, -, hs⟩ := ofItems_eq_ok_iff.mp hs
    rw [hs]
  exact ⟨hclassifier, hitems.imp fun t item ht => hclassifier ▸ mirrors_of_itemOf ht⟩

/-- If the suite of a manifest can be built, its items mirror the tests one by one, its settings are those
of the manifest, and classifying the paths of any of its items by that manifest prints the tags that they
have. -/
theorem build_mirrors {m : Manifest} {strict : Bool} {suite : Suite}
    (h : (build m strict).1 = .ok suite) :
    List.Forall₂ (Mirrors suite.classifier) m.tests suite.items ∧
    suite.name = m.name ∧ HasSettings m.settings suite ∧
    (m.settings.categories = some [] →
      suite.classifier.rules = [] ∧ ∀ item ∈ suite.items, item.tags = []) ∧
    ∀ {σ : Type} (machine : Command.Machine (StateM σ)) (path : String)
      (content : Except FileError String) (s : σ),
      machine.Shows path true content → Manifest.ofContent machine.vars content = .ok m →
        ∀ items ⊆ suite.items, Command.outcome machine path (.classify (items.map (·.path))) s =
          { lines := items.map fun item => item.path ++ ": " ++ Command.listText item.tags } := by
  obtain ⟨hclassifier, hmirrors⟩ := forall₂_mirrors h
  obtain ⟨-, hs⟩ := build_eq_ok_iff.mp h
  have hname : suite.name = m.name := by
    obtain ⟨_, -, hs⟩ := ofItems_eq_ok_iff.mp hs
    rw [hs]
  have htest {item : TestItem} (hitem : item ∈ suite.items) :
      ∃ t, Mirrors suite.classifier t item := by
    obtain ⟨t, -, ht⟩ := exists_mem_of_forall₂ hmirrors.flip hitem
    exact ⟨t, ht⟩
  refine ⟨hmirrors, hname, hasSettings_of_ofItems hs, ?_, ?_⟩
  · intro hc
    have hrules : suite.classifier.rules = [] := by rw [hclassifier, hc]; rfl
    refine ⟨hrules, fun item hitem => ?_⟩
    obtain ⟨t, ht⟩ := htest hitem
    rw [ht.tags, Classifier.classify, hrules]
    rfl
  · intro σ machine path content s hshows hm items hsub
    rw [Command.outcome_classify hshows, Command.optionalManifest, hm]
    simp only [↓reduceIte, Command.classified, Option.bind_some, ← hclassifier, List.map_map]
    congr 1
    refine List.map_congr_left fun item hitem => ?_
    obtain ⟨t, ht⟩ := htest (hsub hitem)
    exact ht.classifiedLine

/-- A manifest of one test with an unregistered marker. -/
def oneTestText : String :=
  "version: 1.0\ntests: [{name: a, path: t/unit/a, markers: [slow, skip_if_not_root]}]\n"

theorem build_mirrors_oneTest :
    let w := Command.World.holding oneTestText
    let item : TestItem := ⟨"a", "t/unit/a", [.unregistered "slow", .needsRoot], ["unit"]⟩
    ∃ m suite, w.machine.Shows Command.defaultManifest true (.ok oneTestText) ∧
      Manifest.ofText w.vars oneTestText = .ok m ∧
      (build m false).1 = .ok suite ∧ suite.items = [item] ∧
      List.Forall₂ (Mirrors suite.classifier) m.tests suite.items ∧
      Command.outcome w.machine Command.defaultManifest (.classify [item.path]) [] =
        { lines := ["t/unit/a: unit"] } := by
  intro w item
  have hbuilt : ((Manifest.ofText w.vars oneTestText).toOption.bind fun m =>
      (build m false).1.toOption).map Suite.items = some [item] := by
    decide +kernel
  obtain ⟨suite, hs, hitems⟩ := Option.map_eq_some_iff.mp hbuilt
  obtain ⟨m, hm, hs⟩ := Option.bind_eq_some_iff.mp hs
  replace hs := toOption_eq_some_iff.mp hs
  replace hm := toOption_eq_some_iff.mp hm
  obtain ⟨hmirrors, -, -, -, hclassify⟩ := build_mirrors hs
  have hshows := Command.World.shows_holding oneTestText
  refine ⟨m, suite, hshows, hm, hs, hitems, hmirrors, ?_⟩
  exact hclassify w.machine Command.defaultManifest (.ok oneTestText) [] hshows hm [item]
    (by simp [hitems])

end Suite

end TestSelection
