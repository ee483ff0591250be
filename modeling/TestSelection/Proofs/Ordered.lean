import TestSelection.Ordered

/-!
# Tables in order

A list of entries whose names grow is its own table (`ofList_eq_self`). Entries of different names make
the same table in any order (`ofList_eq_of_perm`), and the first entry of a kind in it is the one with the
least name (`findSome?_eq_some_iff`).
-/
namespace TestSelection.Ordered

variable {α : Type}

theorem insert_eq_append {name : String} {value : α} {entries : List (String × α)}
    (h : ∀ e ∈ entries, e.1 < name) : insert name value entries = entries ++ [(name, value)] := by
  induction entries with
  | nil => rfl
  | cons e entries ih =>
      have he : e.1 < name := h e List.mem_cons_self
      rw [insert, if_neg (String.lt_asymm he), if_neg (String.ne_of_lt he).symm,
        ih fun e' he' => h e' (List.mem_cons_of_mem e he')]
      rfl

theorem foldl_insert_eq_append {table entries : List (String × α)} (h : IsOrdered (table ++ entries)) :
    entries.foldl (fun table e => insert e.1 e.2 table) table = table ++ entries := by
  induction entries generalizing table with
  | nil => rw [List.foldl_nil, List.append_nil]
  | cons e entries ih =>
      have hbehind : ∀ e' ∈ table, e'.1 < e.1 := fun e' he' =>
        (List.pairwise_append.mp h).2.2 e' he' e List.mem_cons_self
      rw [List.append_cons] at h ⊢
      rw [List.foldl_cons, insert_eq_append hbehind, ih h]

theorem ofList_eq_self {entries : List (String × α)} (h : IsOrdered entries) :
    ofList entries = entries :=
  foldl_insert_eq_append h

theorem not_mem_names_of_isOrdered {e : String × α} {rest : List (String × α)}
    (h : IsOrdered (e :: rest)) : e.1 ∉ rest.map Prod.fst := by
  intro hmem
  obtain ⟨e', hmem', he⟩ := List.mem_map.mp hmem
  exact String.lt_irrefl _ (he ▸ (List.pairwise_cons.mp h).1 e' hmem')

/-! ## The names of the entries -/

theorem mem_names_insert {name n : String} {value : α} {entries : List (String × α)} :
    n ∈ (insert name value entries).map Prod.fst ↔ n = name ∨ n ∈ entries.map Prod.fst := by
  fun_induction insert name value entries with
  | case1 => simp
  | case2 n' v rest _ => simp
  | case3 v rest _ => simp
  | case4 n' v rest _ _ ih =>
      rw [List.map_cons, List.mem_cons, ih, List.map_cons, List.mem_cons, or_left_comm]

theorem mem_names_foldl_insert {n : String} {table entries : List (String × α)} :
    n ∈ (entries.foldl (fun table e => insert e.1 e.2 table) table).map Prod.fst ↔
      n ∈ table.map Prod.fst ∨ n ∈ entries.map Prod.fst := by
  induction entries generalizing table with
  | nil => simp
  | cons e rest ih =>
      rw [List.foldl_cons, ih, mem_names_insert, List.map_cons, List.mem_cons, or_assoc, or_left_comm]

/-- A table has the names of the entries that were put. -/
theorem mem_names_ofList {n : String} {entries : List (String × α)} :
    n ∈ (ofList entries).map Prod.fst ↔ n ∈ entries.map Prod.fst := by
  rw [ofList, mem_names_foldl_insert, List.map_nil]
  exact or_iff_right List.not_mem_nil

/-! ## The order of the entries -/

theorem perm_insert {name : String} {value : α} {entries : List (String × α)}
    (h : name ∉ entries.map Prod.fst) : (insert name value entries).Perm ((name, value) :: entries) := by
  fun_induction insert name value entries with
  | case1 => exact .refl _
  | case2 n v rest _ => exact .refl _
  | case3 v rest _ => simp at h
  | case4 n v rest _ _ ih =>
      rw [List.map_cons, List.mem_cons, not_or] at h
      exact ((ih h.2).cons (n, v)).trans (.swap (name, value) (n, v) rest)

theorem perm_foldl_insert {table entries : List (String × α)}
    (h : ((table ++ entries).map Prod.fst).Nodup) :
    (entries.foldl (fun table e => insert e.1 e.2 table) table).Perm (table ++ entries) := by
  induction entries generalizing table with
  | nil => rw [List.foldl_nil, List.append_nil]
  | cons e rest ih =>
      have hperm : (table ++ e :: rest).Perm ((e :: table) ++ rest) := List.perm_middle
      have hnew : e.1 ∉ table.map Prod.fst := by
        intro hmem
        rw [List.map_append, List.map_cons] at h
        exact (List.nodup_append.mp h).2.2 e.1 hmem e.1 List.mem_cons_self rfl
      have hins : (insert e.1 e.2 table ++ rest).Perm ((e :: table) ++ rest) :=
        (perm_insert hnew).append_right rest
      rw [List.foldl_cons]
      refine (ih ?_).trans (hins.trans hperm.symm)
      exact ((hins.trans hperm.symm).map Prod.fst).nodup_iff.mpr h

theorem perm_ofList {entries : List (String × α)} (h : (entries.map Prod.fst).Nodup) :
    (ofList entries).Perm entries :=
  perm_foldl_insert h

/-- The order in which entries of different names are put does not matter. -/
theorem ofList_eq_of_perm {entries entries' : List (String × α)} (h : entries.Perm entries')
    (hd : (entries.map Prod.fst).Nodup) : ofList entries = ofList entries' := by
  have hd' : (entries'.map Prod.fst).Nodup := (h.map Prod.fst).nodup_iff.mp hd
  have hperm : (ofList entries).Perm (ofList entries') :=
    (perm_ofList hd).trans (h.trans (perm_ofList hd').symm)
  refine hperm.eq_of_pairwise (fun a b _ _ hab hba => ?_) (isOrdered_ofList entries)
    (isOrdered_ofList entries')
  exact absurd hba (String.lt_asymm hab)

/-- In a table the first entry that gives a result is the one of the least name. -/
theorem findSome?_eq_some_iff {β : Type} {f : String × α → Option β} {b : β}
    {entries : List (String × α)} (h : IsOrdered entries) : entries.findSome? f = some b ↔
      ∃ e ∈ entries, f e = some b ∧ ∀ e' ∈ entries, e'.1 < e.1 → f e' = none := by
  rw [List.findSome?_eq_some_iff]
  constructor
  · rintro ⟨front, e, back, rfl, hb, hfront⟩
    obtain ⟨-, hback, -⟩ := List.pairwise_append.mp h
    refine ⟨e, List.mem_append_right front List.mem_cons_self, hb, fun e' hmem hlt => ?_⟩
    rcases List.mem_append.mp hmem with hmem | hmem
    · exact hfront e' hmem
    · rcases List.mem_cons.mp hmem with rfl | hmem
      · exact absurd hlt (String.lt_irrefl _)
      · exact absurd hlt (String.lt_asymm ((List.pairwise_cons.mp hback).1 e' hmem))
  · rintro ⟨e, hmem, hb, hleast⟩
    obtain ⟨front, back, rfl⟩ := List.append_of_mem hmem
    refine ⟨front, e, back, rfl, hb, fun e' hfront => ?_⟩
    exact hleast e' (List.mem_append_left _ hfront)
      ((List.pairwise_append.mp h).2.2 e' hfront e List.mem_cons_self)

end TestSelection.Ordered
