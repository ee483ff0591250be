import Mathlib.Data.List.Forall2
import Mathlib.Data.List.Infix
import TestSelection.Classifier
import TestSelection.Proofs.Distinct

/-!
# Segments of a path

A path is a list of segments with a slash of either kind between them. A rule looks for its names
with a slash on both sides, and that finds exactly the names whose segments stand one behind the other
inside the path, neither at its start nor at its end. So the tags of a path are said by its segments
(`classify_eq_of_occurs`).
-/
namespace TestSelection.Classifier

/-! ## Names in a path -/

def isSlash (c : Char) : Bool :=
  c = '/' || c = '\\'

/-- The segments of a path without the first and the last one. -/
def innerSegments (path : String) : List (List Char) :=
  (path.toList.splitOnP isSlash).tail.dropLast

/-- The segments of a name stand in a path, one behind the other, between two others. -/
def Occurs (name path : String) : Prop :=
  '\\' ∉ name.toList ∧ name.toList.splitOn '/' <:+: innerSegments path

instance (name path : String) : Decidable (Occurs name path) :=
  inferInstanceAs (Decidable (_ ∧ _))

/-- The names of a rule that occur in a path: the suite and the first subsystem. -/
def namesOfRule (path : String) (rule : SuiteRule) : List String :=
  if Occurs rule.suite path then
    rule.suite :: (rule.subsystems.find? fun name => Occurs name path).toList
  else []

/-- Two paths differ in nothing but the kinds of their slashes. -/
def SamePath (path path' : String) : Prop :=
  List.Forall₂ (fun c d => c = d ∨ (isSlash c ∧ isSlash d)) path.toList path'.toList

/-! ## Texts between separators -/

section Separators

variable {s : Char}

theorem intercalate_append {as bs : List (List Char)} (ha : as ≠ []) (hb : bs ≠ []) :
    [s].intercalate (as ++ bs) = [s].intercalate as ++ s :: [s].intercalate bs := by
  induction as with
  | nil => exact absurd rfl ha
  | cons a rest ih =>
      cases rest with
      | nil => simp [List.intercalate_cons_of_ne_nil hb]
      | cons a' rest =>
          have hr : a' :: rest ++ bs ≠ [] := by simp
          rw [List.cons_append, List.intercalate_cons_of_ne_nil hr, ih (List.cons_ne_nil _ _),
            List.intercalate_cons_cons]
          simp

theorem eq_ends_of_tail_dropLast {pieces inner : List (List Char)} (h : pieces.tail.dropLast = inner)
    (hne : inner ≠ []) : ∃ first last, pieces = first :: (inner ++ [last]) := by
  cases pieces with
  | nil => exact absurd h.symm hne
  | cons first rest =>
      have hr : rest ≠ [] := by
        rintro rfl
        exact hne h.symm
      refine ⟨first, rest.getLast hr, ?_⟩
      rw [← h, List.tail_cons, List.dropLast_append_getLast hr]

/-- A text stands between two separators where its pieces stand one behind the other, with at least one
piece before them and one behind. -/
theorem infix_separated_iff {name text : List Char} :
    s :: name ++ [s] <:+: text ↔ name.splitOn s <:+: (text.splitOn s).tail.dropLast := by
  have hn := List.splitOn_ne_nil s name
  constructor
  · rintro ⟨front, back, rfl⟩
    have ht : front ++ (s :: name ++ [s]) ++ back = front ++ s :: (name ++ s :: back) := by simp
    rw [ht, List.splitOn_append_cons_self, List.splitOn_append_cons_self,
      List.tail_append_of_ne_nil (List.splitOn_ne_nil s front), ← List.append_assoc,
      List.dropLast_append_of_ne_nil (List.splitOn_ne_nil s back)]
    exact ⟨_, _, rfl⟩
  · rintro ⟨front, back, h⟩
    obtain ⟨first, last, hs⟩ := eq_ends_of_tail_dropLast h.symm (by simp [hn])
    have ht : [s].intercalate (text.splitOn s) = text := List.intercalate_splitOn s
    have hp : text.splitOn s = (first :: front) ++ (name.splitOn s ++ (back ++ [last])) := by
      simp [hs]
    rw [hp, intercalate_append (List.cons_ne_nil _ _) (by simp [hn]),
      intercalate_append hn (by simp), List.intercalate_splitOn] at ht
    exact ⟨[s].intercalate (first :: front), [s].intercalate (back ++ [last]), by simpa using ht⟩

end Separators

theorem occurs_iff_infix {pattern text : List Char} : Text.occurs pattern text ↔ pattern <:+: text := by
  induction text with
  | nil => simp [Text.occurs]
  | cons c rest ih =>
      rw [Text.occurs, Bool.or_eq_true, List.isPrefixOf_iff_prefix, ih, List.infix_cons_iff]

/-! ## Normalized paths -/

theorem slash_eq_iff {c : Char} : (if c = '\\' then '/' else c) = '/' ↔ isSlash c := by
  by_cases h : c = '\\' <;> simp [isSlash, h]

theorem splitOn_normalize (path : String) :
    (normalize path).splitOn '/' = path.toList.splitOnP isSlash := by
  rw [normalize, List.splitOn]
  induction path.toList with
  | nil => rfl
  | cons c rest ih =>
      rw [List.map_cons, List.splitOnP_cons_eq_if_modifyHead, List.splitOnP_cons_eq_if_modifyHead, ih]
      simp only [beq_iff_eq, slash_eq_iff]
      by_cases hc : isSlash c
      · simp [hc]
      · have hb : c ≠ '\\' := by
          rintro rfl
          exact hc rfl
        simp [hc, hb]

theorem backslash_not_mem_normalize (path : String) : '\\' ∉ normalize path := by
  simp only [normalize, List.mem_map, not_exists, not_and]
  intro c _
  split
  · decide
  · assumption

theorem hasSegment_normalize_iff {path name : String} :
    hasSegment (normalize path) name ↔ Occurs name path := by
  rw [hasSegment, occurs_iff_infix, infix_separated_iff, splitOn_normalize, Occurs, innerSegments]
  refine ⟨fun h => ⟨fun hb => ?_, h⟩, And.right⟩
  rw [← splitOn_normalize, ← infix_separated_iff] at h
  exact backslash_not_mem_normalize path (h.subset (by simp [hb]))

theorem normalize_eq_of_samePath {path path' : String} (h : SamePath path path') :
    normalize path = normalize path' := by
  rw [normalize, normalize, ← List.forall₂_eq_eq_eq, List.forall₂_map_left_iff,
    List.forall₂_map_right_iff]
  refine h.imp fun c d hcd => ?_
  rcases hcd with rfl | ⟨hc, hd⟩
  · rfl
  · rw [slash_eq_iff.mpr hc, slash_eq_iff.mpr hd]

/-! ## Tags -/

theorem tagsOfRule_normalize (path : String) (rule : SuiteRule) :
    tagsOfRule (normalize path) rule = namesOfRule path rule := by
  have hs : hasSegment (normalize path) = fun name => decide (Occurs name path) := by
    funext name
    rw [Bool.eq_iff_iff, decide_eq_true_eq, hasSegment_normalize_iff]
  simp only [tagsOfRule, namesOfRule, hs, decide_eq_true_eq]

theorem occurs_of_mem_namesOfRule {path tag : String} {rule : SuiteRule}
    (h : tag ∈ namesOfRule path rule) : Occurs tag path := by
  unfold namesOfRule at h
  split at h
  · rcases List.mem_cons.mp h with rfl | h
    · assumption
    · simpa using List.find?_some (Option.mem_toList.mp h)
  · cases h

/-- The tags of a path are the names of the rules that occur in it, in the order of the rules, each at
its first place. So no tag is there twice, the kind of a slash does not matter, and a tag without
slashes is a whole segment inside the path. -/
theorem classify_eq_of_occurs (c : Classifier) (path : String) :
    c.classify path = (c.rules.flatMap (namesOfRule path)).eraseDups ∧
    (c.classify path).Nodup ∧
    (∀ path', SamePath path path' → c.classify path' = c.classify path) ∧
    ∀ tag ∈ c.classify path, '/' ∉ tag.toList → tag.toList ∈ innerSegments path := by
  have hr : tagsOfRule (normalize path) = namesOfRule path := funext (tagsOfRule_normalize path)
  refine ⟨?_, nodup_distinct _, fun path' h => ?_, fun tag ht hs => ?_⟩
  · rw [classify, hr, distinct_eq_eraseDups]
  · rw [classify, classify, normalize_eq_of_samePath h]
  · rw [classify, hr, distinct_eq_eraseDups, List.mem_eraseDups] at ht
    obtain ⟨rule, _, ht⟩ := List.mem_flatMap.mp ht
    have ho := (occurs_of_mem_namesOfRule ht).2
    rwa [List.splitOn_eq_singleton hs, List.singleton_infix_iff] at ho

/-- A name of two segments and a name inside it, in a path with both kinds of slashes. -/
theorem classify_overlapping :
    let c : Classifier := ⟨[⟨"tests/unit", ["units", "unit", "tests"]⟩]⟩
    SamePath "a/tests\\unit/b" "a\\tests/unit\\b" ∧
      c.classify "a/tests\\unit/b" = ["tests/unit", "unit"] ∧
      c.classify "a\\tests/unit\\b" = c.classify "a/tests\\unit/b" ∧
      "unit".toList ∈ innerSegments "a/tests\\unit/b" := by
  intro c
  have hp : SamePath "a/tests\\unit/b" "a\\tests/unit\\b" := by
    simp [SamePath, isSlash]
  have hc : c.classify "a/tests\\unit/b" = ["tests/unit", "unit"] := by decide
  obtain ⟨-, -, hsame, hseg⟩ := classify_eq_of_occurs c "a/tests\\unit/b"
  exact ⟨hp, hc, hsame _ hp, hseg "unit" (by simp [hc]) (by decide)⟩

end TestSelection.Classifier
