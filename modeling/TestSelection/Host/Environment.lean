/-!
# The host as tests see it

What a decision may ask the host, in any monad: a description of a host answers from a record, a
real host runs its probes. `HostAnswers.recording` gives fixed answers and writes down each question,
so a run shows what was asked and in which order.
-/
namespace TestSelection

/-- The questions to a host. -/
structure HostEnvironment (m : Type → Type) where
  /-- The effective user, none where there are no users. -/
  effectiveUserId : m (Option UInt32)
  /-- The path of a binary. -/
  which : String → m (Option String)
  hasLocalNetwork : m Bool
  hasExternalNetwork : m Bool

namespace HostEnvironment

variable {m : Type → Type} [Monad m]

/-- The path of the first of some binaries that has one; the ones behind it are not asked for. -/
def whichAny (host : HostEnvironment m) : List String → m (Option String)
  | [] => return none
  | b :: rest => do
    match ← host.which b with
    | some path => return some path
    | none => host.whichAny rest

/-- The first of some binaries that has no path; the ones behind it are not asked for. -/
def firstMissing (host : HostEnvironment m) : List String → m (Option String)
  | [] => return none
  | b :: rest => do
    match ← host.which b with
    | some _ => host.firstMissing rest
    | none => return some b

end HostEnvironment

/-- One question. -/
inductive HostCall
  | userId
  | which (binary : String)
  | localNetwork
  | externalNetwork
  deriving DecidableEq

/-- A host that gives the same answer whenever it is asked. -/
structure HostAnswers where
  userId : Option UInt32
  /-- The path of each binary that has one. -/
  which : String → Option String
  localNetwork : Bool
  externalNetwork : Bool

namespace HostAnswers

/-- Answers and adds the question to the record. -/
def answer {α : Type} (call : HostCall) (a : α) : StateM (List HostCall) α := do
  modify fun calls => calls ++ [call]
  return a

/-- The host with a record of its questions. -/
def recording (h : HostAnswers) : HostEnvironment (StateM (List HostCall)) where
  effectiveUserId := answer .userId h.userId
  which b := answer (.which b) (h.which b)
  hasLocalNetwork := answer .localNetwork h.localNetwork
  hasExternalNetwork := answer .externalNetwork h.externalNetwork

end HostAnswers

/-- A host described by what is there. -/
structure HostFacts where
  userId : Option UInt32 := none
  /-- The names of the binaries that have a path. -/
  binaries : List String := []
  localNetwork : Bool := false
  externalNetwork : Bool := false

namespace HostFacts

/-- The answers of the described host; a binary has its name as its path. -/
def answers (h : HostFacts) : HostAnswers where
  userId := h.userId
  which b := if b ∈ h.binaries then some b else none
  localNetwork := h.localNetwork
  externalNetwork := h.externalNetwork

/-- The described host with a record of its questions. -/
def recording (h : HostFacts) : HostEnvironment (StateM (List HostCall)) :=
  h.answers.recording

end HostFacts

end TestSelection
