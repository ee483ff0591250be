/-!
# Lists of named values

A table is kept as the list of its entries in the order of their names, which is the order of the
code points; each name occurs once. Main statement: putting an entry keeps that order
(`isOrdered_insert`).
-/
namespace TestSelection.Ordered

variable {α : Type}

/-- The names of the entries grow strictly. -/
def IsOrdered (entries : List (String × α)) : Prop :=
  entries.Pairwise fun a b => a.1 < b.1

/-- Puts an entry at its place; an entry of that name is replaced. -/
def insert (name : String) (value : α) : List (String × α) → List (String × α)
  | [] => [(name, value)]
  | (n, v) :: rest =>
    if name < n then (name, value) :: (n, v) :: rest
    else if name = n then (name, value) :: rest
    else (n, v) :: insert name value rest

/-- The table of a list of entries, in which a later entry replaces an earlier one of its name. -/
def ofList (entries : List (String × α)) : List (String × α) :=
  entries.foldl (fun table e => insert e.1 e.2 table) []

theorem mem_insert {name : String} {value : α} {e : String × α} {entries : List (String × α)}
    (h : e ∈ insert name value entries) : e = (name, value) ∨ e ∈ entries := by
  fun_induction insert name value entries with
  | case1 => simpa using h
  | case2 n v rest _ => simpa using h
  | case3 v rest _ => grind
  | case4 n v rest _ _ ih => grind

theorem isOrdered_insert {name : String} {value : α} {entries : List (String × α)}
    (h : IsOrdered entries) : IsOrdered (insert name value entries) := by
  unfold IsOrdered at *
  fun_induction insert name value entries with
  | case1 => simp
  | case2 n v rest hlt =>
    refine List.pairwise_cons.2 ⟨fun e he => ?_, h⟩
    rcases List.mem_cons.1 he with rfl | he
    · exact hlt
    · exact String.lt_trans hlt ((List.pairwise_cons.1 h).1 e he)
  | case3 v rest _ =>
    exact List.pairwise_cons.2 ⟨(List.pairwise_cons.1 h).1, (List.pairwise_cons.1 h).2⟩
  | case4 n v rest hlt hne ih =>
    refine List.pairwise_cons.2 ⟨fun e he => ?_, ih (List.pairwise_cons.1 h).2⟩
    rcases mem_insert he with rfl | he
    · exact Std.lt_of_le_of_ne (String.not_lt.1 hlt) (Ne.symm hne)
    · exact (List.pairwise_cons.1 h).1 e he

theorem isOrdered_foldl_insert (entries : List (String × α)) {table : List (String × α)}
    (h : IsOrdered table) :
    IsOrdered (entries.foldl (fun table e => insert e.1 e.2 table) table) := by
  induction entries generalizing table with
  | nil => exact h
  | cons e rest ih => exact ih (isOrdered_insert h)

theorem isOrdered_ofList (entries : List (String × α)) : IsOrdered (ofList entries) :=
  isOrdered_foldl_insert entries List.Pairwise.nil

end TestSelection.Ordered
