import TestSelection.RunConfiguration

/-!
# Command lines

Reads the words of a command line from left to right. Options stand before and behind the name of the
command, each at most once on either side; the manifest and the verbosity may be given on both, and
then those behind the name count. A word with a hyphen at its front is never the value of an option.
-/
namespace TestSelection.Command

/-! ## Commands -/

/-- What to do. The format of a report is kept as it is written. -/
inductive Action
  | markers
  | classify (paths : List String)
  | validate (strict : Bool)
  | evaluate (flags : RunConfiguration) (tag : Option String) (format : String)
  | probe (format : String)
  deriving DecidableEq

/-- An action with the manifest it works on and how much it logs. -/
structure Invocation where
  action : Action
  manifest : String
  verbosity : Nat
  deriving DecidableEq

/-- Why a command line names nothing to do. -/
inductive Stop
  | misuse
  | version
  | help
  deriving DecidableEq

def defaultManifest : String := "gate.yaml"

def defaultFormat : String := "table"

/-! ## Options -/

inductive OptionName
  | manifest
  | verbose
  | help
  | version
  | strict
  | runDestructive
  | runExpensive
  | tag
  | format
  deriving DecidableEq

/-- How an option is written. -/
structure OptionForm where
  name : OptionName
  long : String
  short : Option Char := none
  takesValue : Bool := false
  deriving DecidableEq

namespace OptionForm

/-- Options on both sides of the name of a command. -/
def shared : List OptionForm := [
  { name := .manifest, long := "manifest", short := some 'c', takesValue := true },
  { name := .verbose, long := "verbose", short := some 'v' },
  { name := .help, long := "help", short := some 'h' }]

/-- Options before the name of a command. -/
def general : List OptionForm :=
  { name := .version, long := "version", short := some 'V' } :: shared

def format : OptionForm :=
  { name := .format, long := "format", short := some 'f', takesValue := true }

def validate : List OptionForm :=
  { name := .strict, long := "strict", short := some 's' } :: shared

def evaluate : List OptionForm := [
  { name := .runDestructive, long := "run-destructive" },
  { name := .runExpensive, long := "run-expensive" },
  { name := .tag, long := "tag", short := some 'm', takesValue := true },
  format] ++ shared

def probe : List OptionForm :=
  format :: shared

end OptionForm

/-! ## Reading words -/

/-- What was read on one side of the name of a command. -/
structure Reading where
  /-- The options with their values; an option that takes none has an empty one. -/
  options : List (OptionName × String) := []
  positionals : List String := []
  /-- The option whose value comes next. -/
  pending : Option OptionName := none
  /-- Two hyphens alone end the options. -/
  optionsEnded : Bool := false

namespace Reading

def count (r : Reading) (name : OptionName) : Nat :=
  (r.options.filter fun o => o.1 = name).length

def has (r : Reading) (name : OptionName) : Bool :=
  r.options.any fun o => o.1 = name

def value? (r : Reading) (name : OptionName) : Option String :=
  r.options.lookup name

/-- Takes note of an option. Only the verbosity may be repeated, and no manifest has an empty
path. -/
def addOption (r : Reading) (name : OptionName) (value : String) : Except Stop Reading :=
  match name with
  | .version => .error .version
  | .help => .error .help
  | name =>
    if r.has name && name != .verbose then .error .misuse
    else if name = .manifest ∧ value = "" then .error .misuse
    else .ok { r with options := r.options ++ [(name, value)] }

/-- An option in its long form, with its value behind an equals sign or in the next word. -/
def addLong (forms : List OptionForm) (r : Reading) (word : List Char) : Except Stop Reading :=
  let long := String.ofList (word.takeWhile (· != '='))
  let attached := (word.dropWhile (· != '=')).tail?
  match forms.find? (·.long == long), attached with
  | none, _ => .error .misuse
  | some form, some value =>
    if form.takesValue then r.addOption form.name (String.ofList value) else .error .misuse
  | some form, none =>
    if form.takesValue then .ok { r with pending := some form.name } else r.addOption form.name ""

/-- Options in their short forms, one letter each. The one that takes a value has what follows its
letter, or the next word. -/
def addShort (forms : List OptionForm) (r : Reading) : List Char → Except Stop Reading
  | [] => .ok r
  | letter :: rest =>
    match forms.find? (·.short == some letter) with
    | none => .error .misuse
    | some form =>
      if form.takesValue then
        match rest with
        | [] => .ok { r with pending := some form.name }
        | '=' :: value => r.addOption form.name (String.ofList value)
        | value => r.addOption form.name (String.ofList value)
      else
        match r.addOption form.name "" with
        | .ok r => addShort forms r rest
        | .error stop => .error stop

/-- The kinds of words. -/
inductive Word
  | separator
  | long (text : List Char)
  | short (text : List Char)
  | plain

/-- The kind of a word; a hyphen alone is a plain word. -/
def Word.ofText (word : String) : Word :=
  match word.toList with
  | ['-', '-'] => .separator
  | '-' :: '-' :: text => .long text
  | ['-'] => .plain
  | '-' :: text => .short text
  | _ => .plain

/-- Whether a word is the value of a pending option or a positional. -/
def takesPlain (r : Reading) (word : String) : Bool :=
  match Word.ofText word with
  | .plain => true
  | _ => r.optionsEnded

/-- Reads a word. -/
def add (forms : List OptionForm) (r : Reading) (word : String) : Except Stop Reading :=
  match r.pending with
  | some name =>
    if r.takesPlain word then { r with pending := none }.addOption name word else .error .misuse
  | none =>
    if r.takesPlain word then .ok { r with positionals := r.positionals ++ [word] }
    else
      match Word.ofText word with
      | .separator => .ok { r with optionsEnded := true }
      | .long text => r.addLong forms text
      | .short text => r.addShort forms text
      | .plain => .ok r

/-- The reading of all words, if no option waits for its value. -/
def finished (r : Reading) : Except Stop Reading :=
  if r.pending.isSome then .error .misuse else .ok r

def ofWords (forms : List OptionForm) (words : List String) : Except Stop Reading := do
  (← words.foldlM (add forms) {}).finished

end Reading

/-! ## Reading the command line -/

/-- The reading of the words behind the name of a command that takes no positionals. -/
def readOptions (forms : List OptionForm) (words : List String) : Except Stop Reading := do
  let r ← Reading.ofWords forms words
  if r.positionals ≠ [] then throw .misuse
  return r

/-- Reads the words behind the name of a command. -/
def readAction (name : String) (words : List String) : Except Stop (Action × Reading) := do
  match name with
  | "markers" =>
    let r ← readOptions OptionForm.shared words
    return (.markers, r)
  | "classify" =>
    let r ← Reading.ofWords OptionForm.shared words
    if r.positionals = [] then throw .misuse
    return (.classify r.positionals, r)
  | "validate" =>
    let r ← readOptions OptionForm.validate words
    return (.validate (r.has .strict), r)
  | "evaluate" =>
    let r ← readOptions OptionForm.evaluate words
    let flags : RunConfiguration :=
      { runDestructive := r.has .runDestructive, runExpensive := r.has .runExpensive }
    return (.evaluate flags (r.value? .tag) ((r.value? .format).getD defaultFormat), r)
  | "probe" =>
    let r ← readOptions OptionForm.probe words
    return (.probe ((r.value? .format).getD defaultFormat), r)
  | "help" => throw .help
  | _ => throw .misuse

/-- Reads words up to the name of a command, which is the first positional, and then those behind
it. -/
def readFrom (general : Reading) : List String → Except Stop Invocation
  | [] => .error .misuse
  | word :: rest =>
    if general.pending.isNone && !general.optionsEnded && general.takesPlain word then do
      let (action, specific) ← readAction word rest
      return {
        action
        manifest := (specific.value? .manifest).getD
          ((general.value? .manifest).getD defaultManifest)
        verbosity :=
          if specific.has .verbose then specific.count .verbose else general.count .verbose }
    else
      match general.add OptionForm.general word with
      | .error stop => .error stop
      | .ok general => readFrom general rest

/-- What a command line asks for. -/
def Invocation.ofArguments (words : List String) : Except Stop Invocation :=
  readFrom {} words

end TestSelection.Command
