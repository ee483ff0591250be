import TestSelection.Proofs.Distinct
import TestSelection.TestItem

/-!
# Tagging in several passes

Repeated tags are dropped in two places: while the rules are gone through, and where the tags of a path
meet the tags that an item has already. Both keep the first occurrence, so it makes no difference
whether rules are applied in one pass or in several (`tagBy_append`).
-/
namespace TestSelection

namespace Classifier

theorem classify_append (first second : List SuiteRule) (path : String) :
    classify ⟨first ++ second⟩ path = classify ⟨first⟩ path ++
      (classify ⟨second⟩ path).filter (· ∉ classify ⟨first⟩ path) := by
  simp only [classify, List.flatMap_append]
  exact distinct_append _ _

theorem nodup_classify (c : Classifier) (path : String) : (c.classify path).Nodup :=
  nodup_distinct _

end Classifier

namespace TestItem

/-- Tags offered one by one touch nothing else of an item. -/
theorem foldl_addTag (tags : List String) (item : TestItem) :
    tags.foldl addTag item = { item with tags := tags.foldl addDistinct item.tags } := by
  induction tags generalizing item with
  | nil => rfl
  | cons tag rest ih => exact ih (item.addTag tag)

theorem tagBy_eq (item : TestItem) (c : Classifier) :
    item.tagBy c = { item with
      tags := item.tags ++ (c.classify item.path).filter (· ∉ item.tags) } := by
  rw [tagBy, foldl_addTag, foldl_addDistinct_of_nodup (c.nodup_classify item.path)]

theorem tagBy_tagBy (first second : List SuiteRule) (item : TestItem) :
    (item.tagBy ⟨first⟩).tagBy ⟨second⟩ = item.tagBy ⟨first ++ second⟩ := by
  -- What the rules find is offered twice, first to the list of the pass and then to the item; only
  -- what the item has decides.
  simp only [tagBy, foldl_addTag, Classifier.classify, foldl_addDistinct_distinct,
    List.flatMap_append, List.foldl_append]

/-- A pass that finds nothing new changes nothing. -/
theorem tagBy_of_tagged {item : TestItem} {c : Classifier}
    (h : ∀ tag ∈ c.classify item.path, tag ∈ item.tags) : item.tagBy c = item := by
  have hnew : (c.classify item.path).filter (· ∉ item.tags) = [] :=
    List.filter_eq_nil_iff.mpr fun tag htag => by simp [h tag htag]
  rw [tagBy_eq, hnew, List.append_nil]

theorem tagBy_self (item : TestItem) (c : Classifier) : (item.tagBy c).tagBy c = item.tagBy c := by
  refine tagBy_of_tagged fun tag htag => ?_
  rw [tagBy_eq] at htag ⊢
  by_cases hold : tag ∈ item.tags
  · exact List.mem_append_left _ hold
  · exact List.mem_append_right _ (List.mem_filter.mpr ⟨htag, by simpa using hold⟩)

/-- Rules in one list tag as in two. The tags of a path under both parts are those under the first and
behind them the new ones under the second; an item tagged by one part and then by the other, whatever
it had before, is as if tagged by both in one pass, and a second pass with the same rules changes
nothing. The tags of before stay where they are, with the new ones behind them. -/
theorem tagBy_append (first second : List SuiteRule) :
    (∀ path, Classifier.classify ⟨first ++ second⟩ path =
      Classifier.classify ⟨first⟩ path ++ (Classifier.classify ⟨second⟩ path).filter
        (· ∉ Classifier.classify ⟨first⟩ path)) ∧
    ∀ item : TestItem,
      (item.tagBy ⟨first⟩).tagBy ⟨second⟩ = item.tagBy ⟨first ++ second⟩ ∧
      (item.tagBy ⟨first⟩).tagBy ⟨first⟩ = item.tagBy ⟨first⟩ ∧
      item.tagBy ⟨first⟩ = { item with
        tags := item.tags ++
          (Classifier.classify ⟨first⟩ item.path).filter (· ∉ item.tags) } := by
  refine ⟨Classifier.classify_append first second, fun item => ⟨?_, ?_, ?_⟩⟩
  · exact tagBy_tagBy first second item
  · exact tagBy_self item ⟨first⟩
  · exact tagBy_eq item ⟨first⟩

end TestItem

end TestSelection
