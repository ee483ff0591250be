import TestSelection.Host.Environment

/-!
# Hosts that change

A host may answer a question another way when it is asked again. Here it is given by what it says at
each moment, where a moment is the number of the questions before it, and its questions are recorded.
What a program gives and asks then depends on the moment of its first question.
-/
namespace TestSelection

/-- The host that answers its `n`-th question as `host n` does, with a record of its questions. -/
def HostEnvironment.changing (host : Nat → HostAnswers) :
    HostEnvironment (StateM (List HostCall)) where
  effectiveUserId := do (host (← get).length).recording.effectiveUserId
  which b := do (host (← get).length).recording.which b
  hasLocalNetwork := do (host (← get).length).recording.hasLocalNetwork
  hasExternalNetwork := do (host (← get).length).recording.hasExternalNetwork

/-- A host with fixed answers is one that never changes. -/
theorem HostAnswers.recording_eq_changing (host : HostAnswers) :
    host.recording = .changing fun _ => host :=
  rfl

/-- Behind `n` questions a program gives a value and adds some questions to the record. -/
def GivesAt {α : Type} (n : Nat) (x : StateM (List HostCall) α) (a : α) (asked : List HostCall) :
    Prop :=
  ∀ calls, calls.length = n → x.run calls = (a, calls ++ asked)

namespace GivesAt

variable {α β : Type} {n : Nat} {x : StateM (List HostCall) α} {a : α} {asked : List HostCall}

theorem pure (a : α) : GivesAt n (pure a) a [] := by
  intro calls _
  rw [List.append_nil]
  rfl

theorem bind {f : α → StateM (List HostCall) β} {b : β} {more : List HostCall}
    (hx : GivesAt n x a asked) (hf : GivesAt (n + asked.length) (f a) b more) :
    GivesAt n (x >>= f) b (asked ++ more) := by
  intro calls hn
  have h : (x >>= f).run calls = (f (x.run calls).1).run (x.run calls).2 := rfl
  rw [h, hx calls hn, hf (calls ++ asked) (by rw [List.length_append, hn]), List.append_assoc]

theorem bind_pure {f : α → StateM (List HostCall) β} {b : β} (hx : GivesAt n x a asked)
    (hf : f a = Pure.pure b) : GivesAt n (x >>= f) b asked := by
  have h : GivesAt (n + asked.length) (f a) b [] := hf ▸ .pure b
  rw [← List.append_nil asked]
  exact hx.bind h

theorem map (hx : GivesAt n x a asked) (f : α → β) : GivesAt n (do return f (← x)) (f a) asked :=
  hx.bind_pure rfl

theorem mapM {γ : Type} {f : γ → StateM (List HostCall) β} {g : γ → β} {asked : γ → List HostCall}
    (h : ∀ n c, GivesAt n (f c) (g c) (asked c)) (l : List γ) :
    GivesAt n (l.mapM f) (l.map g) (l.flatMap asked) := by
  induction l generalizing n with
  | nil => exact .pure []
  | cons c rest ih =>
      rw [List.mapM_cons, List.map_cons, List.flatMap_cons]
      exact (h n c).bind (ih.map (g c :: ·))

end GivesAt

/-! ## Questions -/

variable (host : Nat → HostAnswers) (n : Nat)

theorem givesAt_userId :
    GivesAt n (HostEnvironment.changing host).effectiveUserId (host n).userId [.userId] := by
  rintro calls rfl
  rfl

theorem givesAt_which (b : String) :
    GivesAt n ((HostEnvironment.changing host).which b) ((host n).which b) [.which b] := by
  rintro calls rfl
  rfl

theorem givesAt_localNetwork : GivesAt n (HostEnvironment.changing host).hasLocalNetwork
    (host n).localNetwork [.localNetwork] := by
  rintro calls rfl
  rfl

theorem givesAt_externalNetwork : GivesAt n (HostEnvironment.changing host).hasExternalNetwork
    (host n).externalNetwork [.externalNetwork] := by
  rintro calls rfl
  rfl

/-! ## Searches for binaries -/

/-- The answer about a binary at some moment ends a search: no path where every binary is needed, and a
path where one of them is enough. -/
def endsSearch (checkAll : Bool) (asked : String × Nat) : Bool :=
  ((host asked.2).which asked.1).isNone == checkAll

/-- The questions of a search that starts at moment `n`: for the binaries up to the first one with an
answer that ends the search, or for all of them. -/
def searchCalls (checkAll : Bool) (binaries : List String) : List HostCall :=
  (binaries.take ((binaries.zipIdx n).findIdx (endsSearch host checkAll) + 1)).map .which

theorem searchCalls_cons (checkAll : Bool) (b : String) (rest : List String) :
    searchCalls host n checkAll (b :: rest) =
      .which b :: if endsSearch host checkAll (b, n) then []
        else searchCalls host (n + 1) checkAll rest := by
  cases h : endsSearch host checkAll (b, n) <;> simp [searchCalls, List.findIdx_cons, h]

/-- On a host with fixed answers it does not matter when a search starts. -/
theorem searchCalls_fixed (host : HostAnswers) (checkAll : Bool) (binaries : List String) :
    searchCalls (fun _ => host) n checkAll binaries =
      searchCalls (fun _ => host) 0 checkAll binaries := by
  induction binaries generalizing n with
  | nil => rfl
  | cons b rest ih =>
      rw [searchCalls_cons, searchCalls_cons, ih (n + 1), ih (0 + 1)]
      rfl

theorem searchCalls_of_not_any {checkAll : Bool} {binaries : List String}
    (h : (binaries.zipIdx n).any (endsSearch host checkAll) = false) :
    searchCalls host n checkAll binaries = binaries.map .which := by
  have hi : (binaries.zipIdx n).findIdx (endsSearch host checkAll) = binaries.length := by
    rw [List.findIdx_eq_length.mpr (by simpa using h), List.length_zipIdx]
  rw [searchCalls, hi, List.take_of_length_le (Nat.le_succ _)]

theorem getLast?_searchCalls {checkAll : Bool} {binaries : List String} {b : String} {k : Nat}
    (h : (binaries.zipIdx n).find? (endsSearch host checkAll) = some (b, k)) :
    (searchCalls host n checkAll binaries).getLast? = some (.which b) := by
  induction binaries generalizing n with
  | nil => cases h
  | cons c rest ih =>
      rw [List.zipIdx_cons, List.find?_cons] at h
      rw [searchCalls_cons, List.getLast?_cons]
      cases hs : endsSearch host checkAll (c, n) with
      | true =>
          rw [hs] at h
          cases h
          rfl
      | false =>
          rw [hs] at h
          simp [ih (n + 1) h]

theorem isNone_findSome?_which (binaries : List String) :
    ((binaries.zipIdx n).findSome? fun (b, k) => (host k).which b).isNone =
      !(binaries.zipIdx n).any (endsSearch host false) := by
  have h : endsSearch host false = fun (b, k) => ((host k).which b).isSome := by
    funext ⟨b, k⟩
    cases h : (host k).which b <;> simp [endsSearch, h]
  rw [h, ← Option.not_isSome, List.isSome_findSome?]

theorem givesAt_firstMissing (binaries : List String) :
    GivesAt n ((HostEnvironment.changing host).firstMissing binaries)
      (((binaries.zipIdx n).find? (endsSearch host true)).map Prod.fst)
      (searchCalls host n true binaries) := by
  induction binaries generalizing n with
  | nil => exact .pure none
  | cons b rest ih =>
      have hb := givesAt_which host n b
      unfold HostEnvironment.firstMissing
      cases h : (host n).which b with
      | some path =>
          have hs : endsSearch host true (b, n) = false := by simp [endsSearch, h]
          rw [h] at hb
          rw [searchCalls_cons, List.zipIdx_cons, List.find?_cons_of_neg (by simp [hs])]
          simp only [hs]
          exact hb.bind (ih (n + 1))
      | none =>
          have hs : endsSearch host true (b, n) = true := by simp [endsSearch, h]
          rw [h] at hb
          rw [searchCalls_cons, List.zipIdx_cons, List.find?_cons_of_pos hs]
          simp only [hs]
          exact hb.bind_pure rfl

theorem givesAt_whichAny (binaries : List String) :
    GivesAt n ((HostEnvironment.changing host).whichAny binaries)
      ((binaries.zipIdx n).findSome? fun (b, k) => (host k).which b)
      (searchCalls host n false binaries) := by
  induction binaries generalizing n with
  | nil => exact .pure none
  | cons b rest ih =>
      have hb := givesAt_which host n b
      unfold HostEnvironment.whichAny
      cases h : (host n).which b with
      | some path =>
          have hs : endsSearch host false (b, n) = true := by simp [endsSearch, h]
          rw [h] at hb
          rw [searchCalls_cons, List.zipIdx_cons, List.findSome?_cons]
          simp only [hs, h]
          exact hb.bind_pure rfl
      | none =>
          have hs : endsSearch host false (b, n) = false := by simp [endsSearch, h]
          rw [h] at hb
          rw [searchCalls_cons, List.zipIdx_cons, List.findSome?_cons]
          simp only [hs, h]
          exact hb.bind (ih (n + 1))

end TestSelection
