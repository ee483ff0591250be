import TestSelection.Proofs.TestItem.Tagging

/-!
# What an item has been through

An item starts bare and is changed by any number of operations. One operation adds its marker and
offers its tags (`Operation.apply_eq`), so a run of them has all markers in order and, of all the tags
that were offered, the first occurrence of each (`run_bare`).
-/
namespace TestSelection.TestItem

/-- One change of an item. It is the same change whether the item itself is changed or a changed item
is given back. -/
inductive Operation
  | addMarker (marker : Marker)
  | addTag (tag : String)
  | tagBy (classifier : Classifier)

namespace Operation

def apply (item : TestItem) : Operation → TestItem
  | addMarker marker => item.addMarker marker
  | addTag tag => item.addTag tag
  | tagBy classifier => item.tagBy classifier

def marker? : Operation → Option Marker
  | addMarker marker => some marker
  | _ => none

/-- The tags that are offered to an item with a path, those included that it has already. -/
def offered (path : String) : Operation → List String
  | addMarker _ => []
  | addTag tag => [tag]
  | tagBy classifier => classifier.classify path

/-- All that one operation does. -/
theorem apply_eq (item : TestItem) (op : Operation) : op.apply item = { item with
    markers := item.markers ++ op.marker?.toList
    tags := (op.offered item.path).foldl addDistinct item.tags } := by
  cases op with
  | addMarker marker => rfl
  | addTag tag => simp [apply, TestItem.addTag, marker?, offered]
  | tagBy classifier => simp [apply, TestItem.tagBy, foldl_addTag, marker?, offered]

end Operation

def run (item : TestItem) (ops : List Operation) : TestItem :=
  ops.foldl Operation.apply item

theorem run_eq (item : TestItem) (ops : List Operation) : run item ops = { item with
    markers := item.markers ++ ops.filterMap Operation.marker?
    tags := (ops.flatMap (Operation.offered item.path)).foldl addDistinct item.tags } := by
  induction ops generalizing item with
  | nil => simp [run]
  | cons op rest ih =>
      have hstep : run item (op :: rest) = run (op.apply item) rest := rfl
      rw [hstep, ih, Operation.apply_eq]
      cases hm : op.marker? <;> simp [hm, List.foldl_append]

theorem run_append (item : TestItem) (ops more : List Operation) :
    run item (ops ++ more) = run (run item ops) more :=
  List.foldl_append

theorem tags_prefix_run (item : TestItem) (ops : List Operation) :
    item.tags <+: (run item ops).tags := by
  rw [run_eq, foldl_addDistinct]
  exact List.prefix_append _ _

/-- After any operations an item has its name and its path, the attached markers in order, and each
offered tag at its first place; its tags come first whatever is done to it later. It has just the tags
that were ever offered and the names of the markers that were attached. -/
theorem run_bare (name path : String) (ops : List Operation) :
    let item := run { name, path } ops
    let attached := ops.filterMap Operation.marker?
    let offered := ops.flatMap (Operation.offered path)
    item.name = name ∧ item.path = path ∧
    item.markers = attached ∧
    item.tags = offered.eraseDups ∧ item.tags.Nodup ∧
    (∀ more, item.tags <+: (run { name, path } (ops ++ more)).tags) ∧
    (∀ tag, item.hasTag tag ↔ tag ∈ offered) ∧
    ∀ markerName, item.hasMarker markerName ↔ ∃ marker ∈ attached, marker.name = markerName := by
  intro item attached offered
  have hitem : item = { name, path, markers := attached, tags := distinct offered } :=
    run_eq { name, path } ops
  refine ⟨by rw [hitem], by rw [hitem], by rw [hitem], ?_, ?_, fun more => ?_, fun tag => ?_,
    fun markerName => ?_⟩
  · rw [hitem, distinct_eq_eraseDups]
  · rw [hitem]
    exact nodup_distinct offered
  · rw [run_append]
    exact tags_prefix_run item more
  · rw [hitem, hasTag, distinct_eq_eraseDups, decide_eq_true_eq, List.mem_eraseDups]
  · simp only [hitem, hasMarker, List.any_eq_true, beq_iff_eq]

end TestSelection.TestItem
