import TestSelection.Distinct

/-!
# What is left of a repeated value

Building a list without repetition keeps the first occurrence of every value.
-/
namespace TestSelection

variable {α : Type} [DecidableEq α]

/-- What is there already stays in front, and what it has is not added. -/
theorem foldl_addDistinct (values seen : List α) :
    values.foldl addDistinct seen = seen ++ (values.filter (· ∉ seen)).eraseDups := by
  induction values generalizing seen with
  | nil => simp
  | cons v rest ih =>
      rw [List.foldl_cons, ih, addDistinct]
      by_cases hv : v ∈ seen
      · simp [hv]
      · simp only [hv, ↓reduceIte, not_false_eq_true, decide_true, List.filter_cons_of_pos,
          List.eraseDups_cons, List.filter_filter, List.append_assoc, List.singleton_append]
        congr 3
        refine List.filter_congr fun w _ => ?_
        by_cases hw : w = v <;> simp [hw]

theorem distinct_eq_eraseDups (values : List α) : distinct values = values.eraseDups := by
  rw [distinct, foldl_addDistinct, List.nil_append, List.filter_eq_self.mpr]
  simp

theorem distinct_eq_nil_iff {values : List α} : distinct values = [] ↔ values = [] := by
  rw [distinct_eq_eraseDups]
  cases values <;> simp [List.eraseDups_cons]

theorem nodup_addDistinct {values : List α} (h : values.Nodup) (value : α) :
    (addDistinct values value).Nodup := by
  unfold addDistinct
  split
  · exact h
  · next hv =>
      refine List.nodup_append.mpr ⟨h, List.pairwise_singleton _ value, fun v hm w hw => ?_⟩
      rw [List.mem_singleton.mp hw]
      exact fun he => hv (he ▸ hm)

theorem nodup_foldl_addDistinct (values : List α) {seen : List α} (h : seen.Nodup) :
    (values.foldl addDistinct seen).Nodup := by
  induction values generalizing seen with
  | nil => exact h
  | cons v rest ih => exact ih (nodup_addDistinct h v)

theorem nodup_distinct (values : List α) : (distinct values).Nodup :=
  nodup_foldl_addDistinct values List.nodup_nil

theorem distinct_eq_self {values : List α} (h : values.Nodup) : distinct values = values := by
  rw [distinct_eq_eraseDups]
  induction values with
  | nil => rfl
  | cons v rest ih =>
      obtain ⟨hv, hrest⟩ := List.nodup_cons.mp h
      have hf : (rest.filter fun w => !w == v) = rest :=
        List.filter_eq_self.mpr fun w hw => by simpa using ne_of_mem_of_not_mem hw hv
      rw [List.eraseDups_cons, hf, ih hrest]

theorem filter_addDistinct (p : α → Bool) (values : List α) (value : α) :
    (addDistinct values value).filter p =
      if p value then addDistinct (values.filter p) value else values.filter p := by
  unfold addDistinct
  by_cases hp : p value <;> by_cases hv : value ∈ values <;> simp [List.filter_append, hp, hv]

/-- It is the same to offer some of the values only, or to leave out the others at the end. -/
theorem filter_distinct (p : α → Bool) (values : List α) :
    (distinct values).filter p = distinct (values.filter p) := by
  have hfold (seen : List α) : (values.foldl addDistinct seen).filter p =
      (values.filter p).foldl addDistinct (seen.filter p) := by
    induction values generalizing seen with
    | nil => rfl
    | cons v rest ih =>
        rw [List.foldl_cons, ih, filter_addDistinct]
        by_cases hv : p v <;> simp [hv]
  exact hfold []

/-- Nothing changes where repeated values are left out before they are offered. -/
theorem foldl_addDistinct_distinct (values seen : List α) :
    (distinct values).foldl addDistinct seen = values.foldl addDistinct seen := by
  calc (distinct values).foldl addDistinct seen
    _ = seen ++ distinct (distinct (values.filter (· ∉ seen))) := by
        rw [foldl_addDistinct, filter_distinct, ← distinct_eq_eraseDups]
    _ = seen ++ distinct (values.filter (· ∉ seen)) := by
        rw [distinct_eq_self (nodup_distinct _)]
    _ = values.foldl addDistinct seen := by rw [distinct_eq_eraseDups, ← foldl_addDistinct]

theorem foldl_addDistinct_of_nodup {values : List α} (h : values.Nodup) (seen : List α) :
    values.foldl addDistinct seen = seen ++ values.filter (· ∉ seen) := by
  rw [foldl_addDistinct, ← distinct_eq_eraseDups, distinct_eq_self (h.filter _)]

theorem distinct_append (values more : List α) :
    distinct (values ++ more) = distinct values ++ (distinct more).filter (· ∉ distinct values) := by
  calc distinct (values ++ more)
    _ = more.foldl addDistinct (distinct values) := List.foldl_append
    _ = distinct values ++ distinct (more.filter (· ∉ distinct values)) := by
        rw [foldl_addDistinct, distinct_eq_eraseDups (more.filter _)]
    _ = distinct values ++ (distinct more).filter (· ∉ distinct values) := by rw [filter_distinct]

end TestSelection
