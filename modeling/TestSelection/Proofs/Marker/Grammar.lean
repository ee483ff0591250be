import TestSelection.Proofs.Marker.Argument

/-!
# How markers are written

Each marker of the vocabulary is written in its own way, and any other name with any arguments. What is
read is what was written (`parse_eq_ok_iff`). A marker that needs binaries may have them in one list
instead, and errors then name a place in the list.
-/
namespace TestSelection

/-- The place of an argument when all of them are put into a list. -/
def ArgumentPlace.inList : ArgumentPlace → ArgumentPlace
  | positional index => listed index
  | place => place

/-- The error about arguments when all of them are put into a list. -/
def MarkerError.inList : MarkerError → MarkerError
  | emptyName => emptyName
  | invalidArgument marker place expected => invalidArgument marker place.inList expected
  | unexpectedArgument marker place => unexpectedArgument marker place.inList

namespace Marker

/-- The names with arguments that are markers. -/
inductive Grammatical (name : String) (args : List MarkerValue) (kwargs : Keywords) : Prop
  | plain {m : Marker} (hname : Plain name m) (hargs : args = []) (hkwargs : kwargs.entries = [])
  | needsBinaries {binaries : List String} (hname : name = needsBinariesName)
      (hargs : ListsBinaries args binaries)
      (hkwargs : ∀ e ∈ kwargs.entries,
        (e.1 = "check_all" ∧ ∃ b, e.2 = .bool b) ∨ (e.1 = "message" ∧ ∃ s, e.2 = .text s))
  | needsNetwork (hname : name = needsNetworkName) (hargs : args = [])
      (hkwargs : ∀ e ∈ kwargs.entries, e.1 = "only_local_network" ∧ ∃ b, e.2 = .bool b)
  | unregistered (hempty : name ≠ "") (hname : ¬MarkerRegistry.standard.contains name)

/-- A marker has the binaries and the values that it was given, and no other ones. -/
inductive Carries (name : String) (args : List MarkerValue) (kwargs : Keywords) : Marker → Prop
  | plain {m : Marker} (hname : Plain name m) : Carries name args kwargs m
  | needsBinaries {binaries : List String} {checkAll : Bool} {message : Option String}
      (hname : name = needsBinariesName) (hargs : ListsBinaries args binaries)
      (hall : checkAll = true ↔ ("check_all", .bool true) ∈ kwargs.entries)
      (hmessage : ∀ s, message = some s ↔ ("message", .text s) ∈ kwargs.entries) :
      Carries name args kwargs (.needsBinaries binaries checkAll message)
  | needsNetwork {onlyLocal : Bool} (hname : name = needsNetworkName)
      (hlocal : onlyLocal = true ↔ ("only_local_network", .bool true) ∈ kwargs.entries) :
      Carries name args kwargs (.needsNetwork onlyLocal)
  | unregistered (hname : ¬MarkerRegistry.standard.contains name) :
      Carries name args kwargs (.unregistered name)

variable {name : String} {args : List MarkerValue} {kwargs : Keywords} {m : Marker}

/-! ## Reading what is written -/

theorem exists_parse_of_grammatical (h : Grammatical name args kwargs) :
    ∃ m, parse name args kwargs = .ok m := by
  cases h with
  | @plain m hname hargs hkwargs =>
      refine ⟨m, ?_⟩
      rw [parse_of_plain hname, bind_eq_ok_iff]
      exact ⟨(), rejectArguments_eq_ok_iff.mpr ⟨hargs, hkwargs⟩, rfl⟩
  | @needsBinaries binaries hname hargs hkwargs =>
      subst hname
      have hfits : ∀ e ∈ kwargs.entries, KeywordFits needsBinariesName e := fun e he =>
        keywordFits_needsBinaries.mpr (hkwargs e he)
      obtain ⟨⟨checkAll, message⟩, hread⟩ :=
        exists_eq_ok_of_keywordFits (fun _ => readBinaryKeywords_eq_error_iff.mp) hfits
      refine ⟨.needsBinaries binaries checkAll message, ?_⟩
      rw [parse_needsBinaries, readBinaryArguments_eq_ok_iff.mpr hargs, hread]
      rfl
  | needsNetwork hname hargs hkwargs =>
      subst hname hargs
      have hfits : ∀ e ∈ kwargs.entries, KeywordFits needsNetworkName e := fun e he =>
        keywordFits_needsNetwork.mpr (hkwargs e he)
      obtain ⟨onlyLocal, hread⟩ :=
        exists_eq_ok_of_keywordFits (fun _ => readNetworkKeywords_eq_error_iff.mp) hfits
      refine ⟨.needsNetwork onlyLocal, ?_⟩
      rw [parse_needsNetwork, hread]
      rfl
  | unregistered hempty hname => exact ⟨_, parse_of_not_contains hempty hname⟩

theorem grammatical_and_carries_of_parse (h : parse name args kwargs = .ok m) :
    Grammatical name args kwargs ∧ Carries name args kwargs m := by
  rcases name_cases name with rfl | ⟨m', hname⟩ | rfl | rfl | ⟨hempty, hname⟩
  · cases h
  · rw [parse_of_plain hname] at h
    obtain ⟨_, hreject, hm⟩ := bind_eq_ok_iff.mp h
    obtain ⟨hargs, hkwargs⟩ := rejectArguments_eq_ok_iff.mp hreject
    exact ⟨.plain hname hargs hkwargs, pure_eq_ok_iff.mp hm ▸ .plain hname⟩
  · rw [parse_needsBinaries] at h
    obtain ⟨binaries, hargs, h⟩ := bind_eq_ok_iff.mp h
    obtain ⟨⟨checkAll, message⟩, hread, hm⟩ := bind_eq_ok_iff.mp h
    obtain ⟨hfits, hall, hmessage⟩ := (readBinaryKeywords_eq_ok_iff kwargs.ordered).mp hread
    have hlists := readBinaryArguments_eq_ok_iff.mp hargs
    rw [← pure_eq_ok_iff.mp hm]
    exact ⟨.needsBinaries rfl hlists fun e he => keywordFits_needsBinaries.mp (hfits e he),
      .needsBinaries rfl hlists (by simpa using hall) (by simpa using hmessage)⟩
  · cases args with
    | cons v rest =>
        rw [parse_needsNetwork_cons] at h
        cases h
    | nil =>
        rw [parse_needsNetwork] at h
        obtain ⟨onlyLocal, hread, hm⟩ := bind_eq_ok_iff.mp h
        obtain ⟨hfits, hlocal⟩ := (readNetworkKeywords_eq_ok_iff kwargs.ordered).mp hread
        rw [← pure_eq_ok_iff.mp hm]
        exact ⟨.needsNetwork rfl rfl fun e he => keywordFits_needsNetwork.mp (hfits e he),
          .needsNetwork rfl (by simpa using hlocal)⟩
  · rw [parse_of_not_contains hempty hname] at h
    cases h
    exact ⟨.unregistered hempty hname, .unregistered hname⟩

/-! ## Arguments in a list -/

theorem readBinaries_listed (n : Nat) (values : List MarkerValue) :
    readBinaries .listed n values =
      (readBinaries .positional n values).mapError MarkerError.inList := by
  induction values generalizing n with
  | nil => rfl
  | cons v rest ih =>
      rw [readBinaries, readBinaries]
      cases v.text? with
      | none => rfl
      | some s =>
          simp only [ih (n + 1)]
          cases readBinaries .positional (n + 1) rest <;> rfl

/-- Errors about keywords name no place in a list. -/
theorem readBinaryKeywords_inList (checkAll : Bool) (message : Option String)
    (entries : List (String × MarkerValue)) :
    (readBinaryKeywords checkAll message entries).mapError MarkerError.inList =
      readBinaryKeywords checkAll message entries := by
  induction entries generalizing checkAll message with
  | nil => rfl
  | cons e rest ih =>
      obtain ⟨key, v⟩ := e
      rw [readBinaryKeywords]
      split_ifs
      · cases v.bool? with
        | none => rfl
        | some b => exact ih b message
      · cases v.text? with
        | none => rfl
        | some s => exact ih checkAll (some s)
      · rfl

theorem parse_list (h : ∀ items, args ≠ [.list items]) :
    parse needsBinariesName [.list args] kwargs =
      (parse needsBinariesName args kwargs).mapError MarkerError.inList := by
  rw [parse_needsBinaries, parse_needsBinaries, readBinaryArguments_list,
    readBinaryArguments_of_ne h, readBinaries_listed]
  cases readBinaries .positional 0 args with
  | error e => rfl
  | ok binaries =>
      have hkeywords := readBinaryKeywords_inList false none kwargs.entries
      cases hread : readBinaryKeywords false none kwargs.entries with
      | ok r => rfl
      | error e =>
          rw [hread] at hkeywords
          have he : e.inList = e := Except.error.inj hkeywords
          exact congrArg Except.error he.symm

/-- A marker is read from just what is one, and it has the texts and the keyword values that it was given,
with the defaults for absent keywords. Binaries may be listed one by one or in one list, with the same
marker or the same error but for the place in the list; a list in a list is none of them. -/
theorem parse_eq_ok_iff (name : String) (args : List MarkerValue) (kwargs : Keywords) :
    ((∃ m, parse name args kwargs = .ok m) ↔ Grammatical name args kwargs) ∧
    (∀ m, parse name args kwargs = .ok m → Carries name args kwargs m) ∧
    ((∀ items, args ≠ [.list items]) →
      parse needsBinariesName [.list args] kwargs =
        (parse needsBinariesName args kwargs).mapError MarkerError.inList) ∧
    ∀ items, parse needsBinariesName [.list [.list items]] kwargs =
      .error (.invalidArgument needsBinariesName (.listed 0) .binaryName) := by
  refine ⟨⟨?_, exists_parse_of_grammatical⟩, fun m h => (grammatical_and_carries_of_parse h).2,
    parse_list, fun _ => rfl⟩
  rintro ⟨m, h⟩
  exact (grammatical_and_carries_of_parse h).1

/-- The keywords are given in another order than that of their names. -/
theorem parse_eq_ok_iff_tools :
    let kwargs : Keywords := .ofList [("message", .text "tools"), ("check_all", .bool true)]
    let tools : List MarkerValue := [.text "git", .text "make"]
    let marker := needsBinaries ["git", "make"] true (some "tools")
    parse needsBinariesName tools kwargs = .ok marker ∧
      Grammatical needsBinariesName tools kwargs ∧
      Carries needsBinariesName tools kwargs marker ∧
      (∀ items, tools ≠ [.list items]) ∧
      parse needsBinariesName [.list tools] kwargs = .ok marker := by
  intro kwargs tools marker
  have hread : parse needsBinariesName tools kwargs = .ok marker := rfl
  have hlist : ∀ items, tools ≠ [.list items] := by simp [tools]
  obtain ⟨hgrammar, hcarries, hlisted, -⟩ := parse_eq_ok_iff needsBinariesName tools kwargs
  refine ⟨hread, hgrammar.mp ⟨marker, hread⟩, hcarries marker hread, hlist, ?_⟩
  rw [hlisted hlist, hread]
  rfl

end Marker

end TestSelection
