import TestSelection.Proofs.Marker.Argument
import TestSelection.Proofs.Text.ByteOrder

/-!
# The argument that is blamed

Arguments are read in their order: the positional ones, and behind them the keywords in the order of
their bytes. A marker that cannot be read is refused for the first argument that does not fit, and each
argument before that one does (`parse_eq_error_iff`).
-/
namespace TestSelection.Marker

/-- The values before a place are texts, and the one at the place is not. -/
def FirstNotText (values : List MarkerValue) (i : Nat) : Prop :=
  (∃ v, values[i]? = some v ∧ ∀ s, v ≠ .text s) ∧ ∀ j < i, ∃ s, values[j]? = some (.text s)

/-- The positional arguments are what a marker takes: texts or one list of texts where it needs binaries,
and none elsewhere. -/
def PositionalFit (name : String) (args : List MarkerValue) : Prop :=
  if name = needsBinariesName then ∃ binaries, ListsBinaries args binaries else args = []

/-- The keyword that is blamed is unknown or of another kind, and those of smaller bytes fit. -/
inductive BlamesKeyword (name : String) (entries : List (String × MarkerValue)) : MarkerError → Prop
  | unknown {key : String} {v : MarkerValue} (hgiven : (key, v) ∈ entries)
      (hkind : keywordKind? name key = none)
      (hleast : ∀ e ∈ entries, Text.bytes e.1 < Text.bytes key → KeywordFits name e) :
      BlamesKeyword name entries (.unexpectedArgument name (.keyword key))
  | misfit {key : String} {v : MarkerValue} {kind : ArgumentKind} (hgiven : (key, v) ∈ entries)
      (hkind : keywordKind? name key = some kind) (hvalue : ¬kind.admits v)
      (hleast : ∀ e ∈ entries, Text.bytes e.1 < Text.bytes key → KeywordFits name e) :
      BlamesKeyword name entries (.invalidArgument name (.keyword key) kind)

/-- What a marker of the vocabulary is refused for. -/
inductive Blames (name : String) (args : List MarkerValue) (kwargs : Keywords) : MarkerError → Prop
  | positional (hname : MarkerRegistry.standard.contains name) (hother : name ≠ needsBinariesName)
      (hargs : args ≠ []) : Blames name args kwargs (.unexpectedArgument name (.positional 0))
  | binary {i : Nat} (hname : name = needsBinariesName) (hargs : ∀ items, args ≠ [.list items])
      (hfirst : FirstNotText args i) :
      Blames name args kwargs (.invalidArgument name (.positional i) .binaryName)
  | listed {items : List MarkerValue} {i : Nat} (hname : name = needsBinariesName)
      (hargs : args = [.list items]) (hfirst : FirstNotText items i) :
      Blames name args kwargs (.invalidArgument name (.listed i) .binaryName)
  | keyword {e : MarkerError} (hname : MarkerRegistry.standard.contains name)
      (hargs : PositionalFit name args) (hblames : BlamesKeyword name kwargs.entries e) :
      Blames name args kwargs e

variable {name : String} {args : List MarkerValue} {kwargs : Keywords} {m : Marker} {e : MarkerError}

/-! ## The first value that is no text -/

theorem firstNotText_cons {v : MarkerValue} {rest : List MarkerValue} {i : Nat} :
    FirstNotText (v :: rest) i ↔
      (i = 0 ∧ v.text? = none) ∨ ∃ j, i = j + 1 ∧ (∃ s, v = .text s) ∧ FirstNotText rest j := by
  cases i with
  | zero => cases v <;> simp [FirstNotText, MarkerValue.text?]
  | succ i =>
      simp only [FirstNotText, Nat.forall_lt_succ_left, List.getElem?_cons_succ,
        List.getElem?_cons_zero, Option.some.injEq]
      grind

theorem readBinaries_eq_error_iff {place : Nat → ArgumentPlace} {n : Nat} {values : List MarkerValue} :
    readBinaries place n values = .error e ↔ ∃ i, FirstNotText values i ∧
      e = .invalidArgument needsBinariesName (place (n + i)) .binaryName := by
  induction values generalizing n with
  | nil => simp [readBinaries, FirstNotText]
  | cons v rest ih =>
      simp only [firstNotText_cons]
      rw [readBinaries]
      cases hv : v.text? with
      | none =>
          have htext : ¬∃ s, v = .text s := by
            rintro ⟨s, rfl⟩
            cases hv
          simp [htext, eq_comm]
      | some s =>
          simp only [map_eq_error_iff, ih]
          constructor
          · rintro ⟨i, hfirst, rfl⟩
            refine ⟨i + 1, .inr ⟨i, rfl, ⟨s, MarkerValue.text?_eq_some_iff.mp hv⟩, hfirst⟩, ?_⟩
            rw [Nat.add_right_comm n 1 i, Nat.add_assoc]
          · rintro ⟨_, ⟨-, hnone⟩ | ⟨i, rfl, -, hfirst⟩, rfl⟩
            · cases hnone
            · exact ⟨i, hfirst, by rw [Nat.add_right_comm n 1 i, Nat.add_assoc]⟩

theorem readBinaryArguments_eq_error_iff : readBinaryArguments args = .error e ↔
    (∃ i, (∀ items, args ≠ [.list items]) ∧ FirstNotText args i ∧
      e = .invalidArgument needsBinariesName (.positional i) .binaryName) ∨
    ∃ items i, args = [.list items] ∧ FirstNotText items i ∧
      e = .invalidArgument needsBinariesName (.listed i) .binaryName := by
  by_cases h : ∃ items, args = [.list items]
  · obtain ⟨items, rfl⟩ := h
    rw [readBinaryArguments_list, readBinaries_eq_error_iff]
    simp
  · rw [readBinaryArguments_of_ne (not_exists.mp h), readBinaries_eq_error_iff]
    simp [not_exists.mp h]

/-! ## The first keyword that does not fit -/

theorem findSome?_complaint?_iff : kwargs.entries.findSome? (complaint? name) = some e ↔
    BlamesKeyword name kwargs.entries e := by
  rw [Ordered.findSome?_eq_some_iff kwargs.ordered]
  simp only [complaint?_eq_none_iff, Text.lt_iff_bytes_lt]
  constructor
  · rintro ⟨⟨key, v⟩, hgiven, he, hleast⟩
    unfold complaint? at he
    cases hkind : keywordKind? name key with
    | none =>
        rw [hkind] at he
        cases he
        exact .unknown hgiven hkind hleast
    | some kind =>
        rw [hkind] at he
        simp only [Option.ite_none_left_eq_some] at he
        obtain ⟨hvalue, he⟩ := he
        cases he
        exact .misfit hgiven hkind hvalue hleast
  · intro h
    cases h with
    | @unknown key v hgiven hkind hleast => exact ⟨(key, v), hgiven, by simp [complaint?, hkind], hleast⟩
    | @misfit key v kind hgiven hkind hvalue hleast =>
        exact ⟨(key, v), hgiven, by simp [complaint?, hkind, hvalue], hleast⟩

/-! ## The argument of a marker -/

theorem blames_iff_of_ne (hname : MarkerRegistry.standard.contains name)
    (hother : name ≠ needsBinariesName) : Blames name args kwargs e ↔
      (args ≠ [] ∧ e = .unexpectedArgument name (.positional 0)) ∨
      (args = [] ∧ BlamesKeyword name kwargs.entries e) := by
  constructor
  · intro h
    cases h with
    | positional _ _ hargs => exact .inl ⟨hargs, rfl⟩
    | binary hbinaries => exact absurd hbinaries hother
    | listed hbinaries => exact absurd hbinaries hother
    | keyword _ hargs hblames =>
        rw [PositionalFit, if_neg hother] at hargs
        exact .inr ⟨hargs, hblames⟩
  · rintro (⟨hargs, rfl⟩ | ⟨hargs, hblames⟩)
    · exact .positional hname hother hargs
    · refine .keyword hname ?_ hblames
      rw [PositionalFit, if_neg hother]
      exact hargs

theorem blames_needsBinaries_iff : Blames needsBinariesName args kwargs e ↔
    readBinaryArguments args = .error e ∨
    ((∃ binaries, ListsBinaries args binaries) ∧
      BlamesKeyword needsBinariesName kwargs.entries e) := by
  rw [readBinaryArguments_eq_error_iff]
  constructor
  · intro h
    cases h with
    | positional _ hother => exact absurd rfl hother
    | binary _ hargs hfirst => exact .inl (.inl ⟨_, hargs, hfirst, rfl⟩)
    | listed _ hargs hfirst => exact .inl (.inr ⟨_, _, hargs, hfirst, rfl⟩)
    | keyword _ hargs hblames =>
        rw [PositionalFit, if_pos rfl] at hargs
        exact .inr ⟨hargs, hblames⟩
  · rintro ((⟨i, hargs, hfirst, rfl⟩ | ⟨items, i, hargs, hfirst, rfl⟩) | ⟨hargs, hblames⟩)
    · exact .binary rfl hargs hfirst
    · exact .listed rfl hargs hfirst
    · refine .keyword rfl ?_ hblames
      rw [PositionalFit, if_pos rfl]
      exact hargs

theorem not_blames (hname : ¬MarkerRegistry.standard.contains name) :
    ¬Blames name args kwargs e := by
  intro h
  cases h with
  | positional hcontains => exact hname hcontains
  | binary hbinaries => exact hname (hbinaries ▸ rfl)
  | listed hbinaries => exact hname (hbinaries ▸ rfl)
  | keyword hcontains => exact hname hcontains

/-! ## What reading says -/

theorem parse_plain_eq_error_iff (h : Plain name m) :
    parse name args kwargs = .error e ↔ Blames name args kwargs e := by
  rw [parse_of_plain h, bind_eq_error_iff, blames_iff_of_ne h.contains h.ne_needsBinariesName,
    rejectArguments_eq_error_iff h, findSome?_complaint?_iff]
  exact or_iff_left (by rintro ⟨_, -, hm⟩; cases hm)

theorem parse_needsBinaries_eq_error_iff :
    parse needsBinariesName args kwargs = .error e ↔ Blames needsBinariesName args kwargs e := by
  rw [parse_needsBinaries, bind_eq_error_iff, blames_needsBinaries_iff]
  refine or_congr_right ?_
  simp only [readBinaryArguments_eq_ok_iff, bind_eq_error_iff, readBinaryKeywords_eq_error_iff,
    findSome?_complaint?_iff]
  constructor
  · rintro ⟨binaries, hargs, hblames | ⟨_, -, hm⟩⟩
    · exact ⟨⟨binaries, hargs⟩, hblames⟩
    · cases hm
  · rintro ⟨⟨binaries, hargs⟩, hblames⟩
    exact ⟨binaries, hargs, .inl hblames⟩

theorem parse_needsNetwork_eq_error_iff :
    parse needsNetworkName args kwargs = .error e ↔ Blames needsNetworkName args kwargs e := by
  rw [blames_iff_of_ne rfl (by decide)]
  cases args with
  | cons v rest =>
      rw [parse_needsNetwork_cons]
      simp [eq_comm]
  | nil =>
      rw [parse_needsNetwork, bind_eq_error_iff, readNetworkKeywords_eq_error_iff,
        findSome?_complaint?_iff]
      simp [pure, Except.pure]

theorem parse_eq_error_iff_blames (h : name ≠ "") :
    parse name args kwargs = .error e ↔ Blames name args kwargs e := by
  rcases name_cases name with hempty | ⟨m, hname⟩ | rfl | rfl | ⟨hempty, hname⟩
  · exact absurd hempty h
  · exact parse_plain_eq_error_iff hname
  · exact parse_needsBinaries_eq_error_iff
  · exact parse_needsNetwork_eq_error_iff
  · rw [parse_of_not_contains hempty hname]
    exact iff_of_false nofun (not_blames hname)

theorem not_blames_emptyName : ¬Blames name args kwargs .emptyName := by
  intro h
  cases h with
  | keyword _ _ hblames => cases hblames

theorem parse_ofList_eq_of_perm {entries entries' : List (String × MarkerValue)}
    (h : entries.Perm entries') (hd : (entries.map Prod.fst).Nodup) :
    parse name args (.ofList entries) = parse name args (.ofList entries') :=
  congrArg (parse name args) (Keywords.ext (Ordered.ofList_eq_of_perm h hd))

/-- An empty name is refused as such, whatever the arguments, and nothing else is. Any other name is
refused for the first argument that does not fit it, and only where there is one. The order in which the
keywords were put into their table does not matter. -/
theorem parse_eq_error_iff (name : String) (args : List MarkerValue) (kwargs : Keywords) :
    (parse name args kwargs = .error .emptyName ↔ name = "") ∧
    (name ≠ "" → ∀ e, parse name args kwargs = .error e ↔ Blames name args kwargs e) ∧
    ∀ entries entries' : List (String × MarkerValue), entries.Perm entries' →
      (entries.map Prod.fst).Nodup →
      parse name args (.ofList entries) = parse name args (.ofList entries') := by
  refine ⟨⟨fun h => ?_, ?_⟩, fun hname e => parse_eq_error_iff_blames hname, fun entries entries' =>
    parse_ofList_eq_of_perm⟩
  · by_contra hname
    exact not_blames_emptyName ((parse_eq_error_iff_blames hname).mp h)
  · rintro rfl
    rfl

/-- Three keywords do not fit, and the least of them is blamed in whatever order they were put. No keyword
is blamed where a listed binary is no name. -/
theorem parse_eq_error_iff_three :
    let entries : List (String × MarkerValue) :=
      [("message", .bool true), ("check_all", .text "yes"), ("zeta", .integer 1)]
    let error := MarkerError.invalidArgument needsBinariesName (.keyword "check_all") .boolean
    let listed := MarkerError.invalidArgument needsBinariesName (.listed 1) .binaryName
    needsBinariesName ≠ "" ∧ entries.Perm entries.reverse ∧ (entries.map Prod.fst).Nodup ∧
      parse needsBinariesName [.text "git"] (.ofList entries) = .error error ∧
      parse needsBinariesName [.text "git"] (.ofList entries.reverse) = .error error ∧
      Blames needsBinariesName [.text "git"] (.ofList entries) error ∧
      Blames needsBinariesName [.list [.text "git", .list [], .bool true]] (.ofList entries) listed ∧
      listed.message = "marker 'skip_if_binaries_missing' expects a binary name for argument " ++
        "'args[0][1]'" := by
  intro entries error listed
  have hname : needsBinariesName ≠ "" := by decide
  have hperm : entries.Perm entries.reverse := (List.reverse_perm entries).symm
  have hnodup : (entries.map Prod.fst).Nodup := by decide
  have hread : parse needsBinariesName [.text "git"] (.ofList entries) = .error error := rfl
  obtain ⟨-, hblames, horder⟩ :=
    parse_eq_error_iff needsBinariesName [.text "git"] (.ofList entries)
  obtain ⟨-, hblames', -⟩ := parse_eq_error_iff needsBinariesName
    [.list [.text "git", .list [], .bool true]] (.ofList entries)
  refine ⟨hname, hperm, hnodup, hread, ?_, (hblames hname error).mp hread,
    (hblames' hname listed).mp rfl, by decide⟩
  rw [← horder entries entries.reverse hperm hnodup, hread]

end TestSelection.Marker
