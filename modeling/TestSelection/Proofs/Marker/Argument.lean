import TestSelection.Proofs.Marker.Vocabulary
import TestSelection.Proofs.Ordered

/-!
# What the arguments of a marker have to be

The vocabulary as a table: which keywords a marker knows and what each has to be, and which markers take
nothing. Each reader is held against it, with the value that it gives and with the argument at which it
stops.
-/
namespace TestSelection

/-- The values of a kind. -/
def ArgumentKind.admits : ArgumentKind → MarkerValue → Bool
  | boolean, .bool _ | text, .text _ | binaryName, .text _ => true
  | _, _ => false

theorem MarkerValue.text?_eq_some_iff {v : MarkerValue} {s : String} :
    v.text? = some s ↔ v = .text s := by
  cases v <;> simp [text?]

namespace Marker

/-! ## The table -/

/-- The markers without arguments and their names. -/
inductive Plain : String → Marker → Prop
  | destructive : Plain destructiveName .destructive
  | expensive : Plain expensiveName .expensive
  | needsRoot : Plain needsRootName .needsRoot

/-- What a keyword of a marker has to be, none when the marker does not know it. -/
def keywordKind? (name key : String) : Option ArgumentKind :=
  if name = needsBinariesName then
    if key = "check_all" then some .boolean else if key = "message" then some .text else none
  else if name = needsNetworkName then
    if key = "only_local_network" then some .boolean else none
  else none

/-- A keyword is known to the marker and has a value of its kind. -/
def KeywordFits (name : String) (e : String × MarkerValue) : Prop :=
  ∃ kind, keywordKind? name e.1 = some kind ∧ kind.admits e.2

/-- What is said against a keyword. -/
def complaint? (name : String) (e : String × MarkerValue) : Option MarkerError :=
  match keywordKind? name e.1 with
  | none => some (.unexpectedArgument name (.keyword e.1))
  | some kind => if kind.admits e.2 then none else some (.invalidArgument name (.keyword e.1) kind)

/-- The arguments list some binaries: they are all texts, or a single list of texts. -/
def ListsBinaries (args : List MarkerValue) (binaries : List String) : Prop :=
  args = binaries.map .text ∨ args = [.list (binaries.map .text)]

theorem Plain.contains {name : String} {m : Marker} (h : Plain name m) :
    MarkerRegistry.standard.contains name := by
  cases h <;> rfl

theorem Plain.ne_needsBinariesName {name : String} {m : Marker} (h : Plain name m) :
    name ≠ needsBinariesName := by
  cases h <;> decide

theorem name_cases (name : String) : name = "" ∨ (∃ m, Plain name m) ∨ name = needsBinariesName ∨
    name = needsNetworkName ∨ (name ≠ "" ∧ ¬MarkerRegistry.standard.contains name) := by
  by_cases hempty : name = ""
  · exact .inl hempty
  by_cases hname : MarkerRegistry.standard.contains name
  · rcases standard_contains_iff.mp hname with rfl | rfl | rfl | rfl | rfl
    · exact .inr (.inl ⟨_, .destructive⟩)
    · exact .inr (.inl ⟨_, .expensive⟩)
    · exact .inr (.inl ⟨_, .needsRoot⟩)
    · exact .inr (.inr (.inl rfl))
    · exact .inr (.inr (.inr (.inl rfl)))
  · exact .inr (.inr (.inr (.inr ⟨hempty, hname⟩)))

/-! ## Reading by name -/

variable {name : String} {args : List MarkerValue} {kwargs : Keywords} {m : Marker}

theorem parse_of_plain (h : Plain name m) : parse name args kwargs = do
    rejectArguments name args kwargs
    return m := by
  cases h <;> rfl

theorem parse_needsBinaries : parse needsBinariesName args kwargs = do
    let binaries ← readBinaryArguments args
    let (checkAll, message) ← readBinaryKeywords false none kwargs.entries
    return needsBinaries binaries checkAll message :=
  rfl

theorem parse_needsNetwork_cons (v : MarkerValue) : parse needsNetworkName (v :: args) kwargs =
    .error (.unexpectedArgument needsNetworkName (.positional 0)) :=
  rfl

theorem parse_needsNetwork : parse needsNetworkName [] kwargs = do
    let onlyLocal ← readNetworkKeywords false kwargs.entries
    return needsNetwork onlyLocal :=
  rfl

theorem parse_of_not_contains (hempty : name ≠ "")
    (hname : ¬MarkerRegistry.standard.contains name) :
    parse name args kwargs = .ok (unregistered name) := by
  simp only [standard_contains_iff, not_or] at hname
  simp only [parse, hempty, hname, ↓reduceIte]

theorem rejectArguments_eq_ok_iff {u : Unit} :
    rejectArguments name args kwargs = .ok u ↔ args = [] ∧ kwargs.entries = [] := by
  unfold rejectArguments
  split <;> simp_all

/-! ## Positional arguments -/

theorem readBinaries_eq_ok_iff {place : Nat → ArgumentPlace} {n : Nat} {values : List MarkerValue}
    {binaries : List String} :
    readBinaries place n values = .ok binaries ↔ values = binaries.map .text := by
  induction values generalizing n binaries with
  | nil => simp [readBinaries, eq_comm]
  | cons v rest ih =>
      rw [readBinaries]
      cases hv : v.text? with
      | none =>
          constructor
          · exact nofun
          · intro h
            cases binaries with
            | nil => cases h
            | cons s _ =>
                rw [(List.cons.inj h).1] at hv
                cases hv
      | some s =>
          rw [MarkerValue.text?_eq_some_iff.mp hv, map_eq_ok_iff]
          constructor
          · rintro ⟨names, hnames, rfl⟩
            rw [ih.mp hnames]
            rfl
          · intro h
            cases binaries with
            | nil => cases h
            | cons s' names =>
                obtain ⟨hs, hnames⟩ := List.cons.inj h
                cases hs
                exact ⟨names, ih.mpr hnames, rfl⟩

theorem readBinaryArguments_list (items : List MarkerValue) :
    readBinaryArguments [.list items] = readBinaries .listed 0 items :=
  rfl

theorem readBinaryArguments_of_ne (h : ∀ items, args ≠ [.list items]) :
    readBinaryArguments args = readBinaries .positional 0 args := by
  unfold readBinaryArguments
  split
  · exact absurd rfl (h _)
  · rfl

theorem readBinaryArguments_eq_ok_iff {binaries : List String} :
    readBinaryArguments args = .ok binaries ↔ ListsBinaries args binaries := by
  by_cases h : ∃ items, args = [.list items]
  · obtain ⟨items, rfl⟩ := h
    rw [readBinaryArguments_list, readBinaries_eq_ok_iff]
    constructor
    · rintro rfl
      exact .inr rfl
    · rintro (h | h)
      · cases binaries <;> cases h
      · cases h
        rfl
  · rw [readBinaryArguments_of_ne (not_exists.mp h), readBinaries_eq_ok_iff]
    constructor
    · exact .inl
    · rintro (h' | h')
      · exact h'
      · exact absurd ⟨_, h'⟩ h

/-! ## Keywords -/

theorem keywordKind?_of_plain (h : Plain name m) (key : String) : keywordKind? name key = none := by
  cases h <;> rfl

theorem keywordKind?_needsBinaries (key : String) : keywordKind? needsBinariesName key =
    if key = "check_all" then some .boolean else if key = "message" then some .text else none :=
  if_pos rfl

theorem keywordKind?_needsNetwork (key : String) : keywordKind? needsNetworkName key =
    if key = "only_local_network" then some .boolean else none := by
  rw [keywordKind?, if_neg (by decide), if_pos rfl]

theorem complaint?_eq_none_iff {e : String × MarkerValue} :
    complaint? name e = none ↔ KeywordFits name e := by
  unfold complaint? KeywordFits
  cases keywordKind? name e.1 <;> simp

theorem admits_boolean_iff {v : MarkerValue} :
    ArgumentKind.boolean.admits v ↔ ∃ b, v = .bool b := by
  cases v <;> simp [ArgumentKind.admits]

theorem admits_text_iff {v : MarkerValue} : ArgumentKind.text.admits v ↔ ∃ s, v = .text s := by
  cases v <;> simp [ArgumentKind.admits]

theorem keywordFits_needsBinaries {e : String × MarkerValue} : KeywordFits needsBinariesName e ↔
    (e.1 = "check_all" ∧ ∃ b, e.2 = .bool b) ∨ (e.1 = "message" ∧ ∃ s, e.2 = .text s) := by
  rw [KeywordFits, keywordKind?_needsBinaries]
  split_ifs with hall hmessage
  · simp [hall, admits_boolean_iff]
  · simp [hmessage, admits_text_iff]
  · simp [hall, hmessage]

theorem keywordFits_needsNetwork {e : String × MarkerValue} : KeywordFits needsNetworkName e ↔
    e.1 = "only_local_network" ∧ ∃ b, e.2 = .bool b := by
  rw [KeywordFits, keywordKind?_needsNetwork]
  split_ifs with hlocal
  · simp [hlocal, admits_boolean_iff]
  · simp [hlocal]

theorem readBinaryKeywords_eq_error_iff {checkAll : Bool} {message : Option String}
    {entries : List (String × MarkerValue)} {e : MarkerError} :
    readBinaryKeywords checkAll message entries = .error e ↔
      entries.findSome? (complaint? needsBinariesName) = some e := by
  induction entries generalizing checkAll message with
  | nil => simp [readBinaryKeywords]
  | cons entry rest ih =>
      obtain ⟨key, v⟩ := entry
      rw [readBinaryKeywords, List.findSome?_cons, complaint?, keywordKind?_needsBinaries]
      split_ifs with hall hmessage
      · subst hall
        cases v with
        | bool b => exact ih
        | integer n | text s | list items => simp [MarkerValue.bool?, ArgumentKind.admits]
      · cases v with
        | text s => exact ih
        | bool b | integer n | list items => simp [MarkerValue.text?, ArgumentKind.admits]
      · simp

theorem readNetworkKeywords_eq_error_iff {onlyLocal : Bool} {entries : List (String × MarkerValue)}
    {e : MarkerError} : readNetworkKeywords onlyLocal entries = .error e ↔
      entries.findSome? (complaint? needsNetworkName) = some e := by
  induction entries generalizing onlyLocal with
  | nil => simp [readNetworkKeywords]
  | cons entry rest ih =>
      obtain ⟨key, v⟩ := entry
      rw [readNetworkKeywords, List.findSome?_cons, complaint?, keywordKind?_needsNetwork]
      split_ifs with hlocal
      · cases v with
        | bool b => exact ih
        | integer n | text s | list items => simp [MarkerValue.bool?, ArgumentKind.admits]
      · simp

/-- A reader that stops at the first complaint succeeds where there is none. -/
theorem exists_eq_ok_of_keywordFits {β : Type} {x : Except MarkerError β}
    {entries : List (String × MarkerValue)}
    (hx : ∀ e, x = .error e → entries.findSome? (complaint? name) = some e)
    (h : ∀ e ∈ entries, KeywordFits name e) : ∃ b, x = .ok b := by
  cases x with
  | ok b => exact ⟨b, rfl⟩
  | error e =>
      obtain ⟨entry, hmem, he⟩ := List.exists_of_findSome?_eq_some (hx e rfl)
      rw [complaint?_eq_none_iff.mpr (h entry hmem)] at he
      cases he

theorem rejectArguments_eq_error_iff (h : Plain name m) {e : MarkerError} :
    rejectArguments name args kwargs = .error e ↔
      (args ≠ [] ∧ e = .unexpectedArgument name (.positional 0)) ∨
      (args = [] ∧ kwargs.entries.findSome? (complaint? name) = some e) := by
  cases args with
  | cons v rest => simp [rejectArguments, eq_comm]
  | nil =>
      cases hk : kwargs.entries with
      | nil => simp [rejectArguments, hk]
      | cons e rest => simp [rejectArguments, hk, complaint?, keywordKind?_of_plain h]

/-- The values read are those of the keywords, and those from before where a keyword is absent. -/
theorem readBinaryKeywords_eq_ok_iff {entries : List (String × MarkerValue)}
    (h : Ordered.IsOrdered entries) {checkAll checkAll' : Bool} {message message' : Option String} :
    readBinaryKeywords checkAll message entries = .ok (checkAll', message') ↔
      (∀ e ∈ entries, KeywordFits needsBinariesName e) ∧
      (checkAll' = true ↔ ("check_all", .bool true) ∈ entries ∨
        (checkAll = true ∧ "check_all" ∉ entries.map Prod.fst)) ∧
      (∀ s, message' = some s ↔ ("message", .text s) ∈ entries ∨
        (message = some s ∧ "message" ∉ entries.map Prod.fst)) := by
  simp only [keywordFits_needsBinaries]
  induction entries generalizing checkAll message with
  | nil =>
      have hall : checkAll = checkAll' ↔ (checkAll' = true ↔ checkAll = true) := by
        rw [← Bool.eq_iff_iff, eq_comm]
      have hmessage : message = message' ↔ ∀ s, message' = some s ↔ message = some s := by
        rw [eq_comm, Option.ext_iff]
      simp [readBinaryKeywords, hall, hmessage]
  | cons e rest ih =>
      obtain ⟨key, v⟩ := e
      have hnew := Ordered.not_mem_names_of_isOrdered h
      have hrest := (List.pairwise_cons.mp h).2
      rw [readBinaryKeywords]
      split_ifs with hall hmessage
      · -- the value of this keyword counts, for it does not come again
        subst hall
        cases v with
        | bool b =>
            simp only [MarkerValue.bool?, ih hrest]
            grind
        | integer n | text s | list items => simp [MarkerValue.bool?]
      · subst hmessage
        cases v with
        | text s =>
            simp only [MarkerValue.text?, ih hrest]
            grind
        | bool b | integer n | list items => simp [MarkerValue.text?]
      · simp [hall, hmessage]

theorem readNetworkKeywords_eq_ok_iff {entries : List (String × MarkerValue)}
    (h : Ordered.IsOrdered entries) {onlyLocal onlyLocal' : Bool} :
    readNetworkKeywords onlyLocal entries = .ok onlyLocal' ↔
      (∀ e ∈ entries, KeywordFits needsNetworkName e) ∧
      (onlyLocal' = true ↔ ("only_local_network", .bool true) ∈ entries ∨
        (onlyLocal = true ∧ "only_local_network" ∉ entries.map Prod.fst)) := by
  simp only [keywordFits_needsNetwork]
  induction entries generalizing onlyLocal with
  | nil =>
      have honly : onlyLocal = onlyLocal' ↔ (onlyLocal' = true ↔ onlyLocal = true) := by
        rw [← Bool.eq_iff_iff, eq_comm]
      simp [readNetworkKeywords, honly]
  | cons e rest ih =>
      obtain ⟨key, v⟩ := e
      have hnew := Ordered.not_mem_names_of_isOrdered h
      have hrest := (List.pairwise_cons.mp h).2
      rw [readNetworkKeywords]
      split_ifs with hlocal
      · subst hlocal
        cases v with
        | bool b =>
            simp only [MarkerValue.bool?, ih hrest]
            grind
        | integer n | text s | list items => simp [MarkerValue.bool?]
      · simp [hlocal]

end Marker

end TestSelection
