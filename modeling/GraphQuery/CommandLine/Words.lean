import GraphQuery.CommandLine.Usage
import GraphQuery.Graph.Traversal
import GraphQuery.Text.Integer

/-!
# Words of a command line

A command has options, which start with two dashes and may stand anywhere, and arguments, which are told
by their place.  A value follows its option as the next word or after an equals sign; a word of two
dashes ends the options.  `CommandForm.read` checks the words against the form of a command: the options
that are given come first, in order, then the arguments, and what is left over last.
-/

namespace GraphQuery

/-- What the words of a parameter stand for. -/
inductive WordKind where
  | text
  | integer
  /-- A number of steps, or all. -/
  | depth
  | oneOf (choices : List String)
  /-- The path of something that is there. -/
  | existingPath
deriving DecidableEq, Repr

/-- The value that a word gives to a parameter. -/
inductive WordValue where
  | switch (on : Bool)
  | text (s : String)
  | integer (n : Int)
  | depth (limit : DepthLimit)
deriving DecidableEq, Repr

namespace WordKind

def depthOf (word : String) : Except WordFault DepthLimit :=
  if word = "all" then .ok .unlimited
  else
    match Text.integer? word with
    | none => .error (.notDepth word)
    | some n => if n < 0 then .error (.negativeDepth n) else .ok (.ofInt n)

/-- The value of a word; `isThere` says which paths lead to something. -/
def read (isThere : String → Bool) (kind : WordKind) (word : String) : Except WordFault WordValue :=
  match kind with
  | text => .ok (.text word)
  | integer =>
    match Text.integer? word with
    | some n => .ok (.integer n)
    | none => .error (.notInteger word)
  | depth => (depthOf word).map .depth
  | oneOf choices => if choices.contains word then .ok (.text word) else .error (.notListed word choices)
  | existingPath => if isThere word then .ok (.text word) else .error (.absentPath word)

end WordKind

/-- What giving an option does. -/
inductive OptionRole where
  | switch (on : Bool)
  | valued (kind : WordKind)
deriving DecidableEq, Repr

structure OptionForm where
  spelling : String
  /-- The parameter that the option sets. -/
  parameter : String
  role : OptionRole
deriving DecidableEq, Repr

/-- What a command takes. -/
structure CommandForm where
  options : List OptionForm
  /-- The arguments in order, each under the name that messages use. -/
  arguments : List (String × WordKind)
deriving DecidableEq, Repr

/-! ## Telling options from arguments -/

/-- An option as it is given, with its word if it takes one. -/
structure GivenOption where
  form : OptionForm
  word : Option String
deriving DecidableEq, Repr

/-- The words of a command line, sorted. -/
structure SortedWords where
  options : List GivenOption
  rest : List String
deriving DecidableEq, Repr

namespace OptionForm

/-- The spelling and the attached value of a word that is read as an option. -/
def splitWord (word : String) : String × Option String :=
  let cs := word.toList
  match cs.dropWhile (· ≠ '=') with
  | [] => (word, none)
  | _ :: value => (String.ofList (cs.takeWhile (· ≠ '=')), some (String.ofList value))

/-- Whether a word is read as an option: it starts with a dash and has more than that. -/
def isOptionWord (word : String) : Bool :=
  match word.toList with
  | '-' :: _ :: _ => true
  | _ => false

/-- How a message names the option that a word fails to be: with two dashes the whole spelling, else the
first letter. -/
def unknownSpelling (word : String) : String :=
  match word.toList with
  | '-' :: '-' :: _ => (splitWord word).1
  | cs => String.ofList (cs.take 2)

/-- The option of a word, with the value attached to it. -/
def ofWord (options : List OptionForm) (word : String) :
    Except UsageFault (OptionForm × Option String) :=
  let (spelling, attached) := splitWord word
  match options.find? (·.spelling = spelling) with
  | some form => .ok (form, attached)
  | none => .error (.noSuchOption (unknownSpelling word))

end OptionForm

namespace SortedWords

def addOption (given : GivenOption) (words : SortedWords) : SortedWords :=
  { words with options := given :: words.options }

def addArgument (word : String) (words : SortedWords) : SortedWords :=
  { words with rest := word :: words.rest }

/-- Sorts words into options and others.  Unless options may stand anywhere, the first other word ends
them. -/
def ofWords (options : List OptionForm) (anywhere : Bool) :
    List String → Except UsageFault SortedWords
  | [] => .ok ⟨[], []⟩
  | word :: rest =>
    if word = "--" then .ok ⟨[], rest⟩
    else if !OptionForm.isOptionWord word then
      if anywhere then (ofWords options anywhere rest).map (addArgument word)
      else .ok ⟨[], word :: rest⟩
    else
      match OptionForm.ofWord options word with
      | .error fault => .error fault
      | .ok (form, attached) =>
        match form.role, attached with
        | .switch _, some _ => .error (.takesNoValue form.spelling)
        | .switch _, none => (ofWords options anywhere rest).map (addOption ⟨form, none⟩)
        | .valued _, some value =>
          (ofWords options anywhere rest).map (addOption ⟨form, some value⟩)
        | .valued _, none =>
          match rest with
          | [] => .error (.needsValue form.spelling)
          | value :: rest => (ofWords options anywhere rest).map (addOption ⟨form, some value⟩)

end SortedWords

/-! ## Checking values -/

/-- Parameters with their values. -/
abbrev WordValues := List (String × WordValue)

namespace WordValues

def get? (values : WordValues) (parameter : String) : Option WordValue :=
  (values.find? (·.1 = parameter)).map (·.2)

def switch? (values : WordValues) (parameter : String) : Option Bool :=
  match get? values parameter with
  | some (.switch on) => some on
  | _ => none

def text? (values : WordValues) (parameter : String) : Option String :=
  match get? values parameter with
  | some (.text s) => some s
  | _ => none

def integer? (values : WordValues) (parameter : String) : Option Int :=
  match get? values parameter with
  | some (.integer n) => some n
  | _ => none

def depth? (values : WordValues) (parameter : String) : Option DepthLimit :=
  match get? values parameter with
  | some (.depth limit) => some limit
  | _ => none

end WordValues

namespace GivenOption

/-- The value of an option as it is given. -/
def value (isThere : String → Bool) (given : GivenOption) : Except UsageFault WordValue :=
  match given.form.role with
  | .switch on => .ok (.switch on)
  | .valued kind =>
    match kind.read isThere (given.word.getD "") with
    | .ok v => .ok v
    | .error fault => .error (.badWord (Text.quoted given.form.spelling) fault)

/-- Adds an option: one that sets a known parameter takes the place of the one before. -/
def settle : List GivenOption → GivenOption → List GivenOption
  | [], given => [given]
  | first :: rest, given =>
    if first.form.parameter = given.form.parameter then given :: rest else first :: settle rest given

/-- The options that count: of those that set the same parameter the last, at the place of the first. -/
def settled (options : List GivenOption) : List GivenOption := options.foldl settle []

end GivenOption

namespace CommandForm

/-- The values of arguments in order, and the words that are left over. -/
def readArguments (isThere : String → Bool) :
    List (String × WordKind) → List String → Except UsageFault (WordValues × List String)
  | [], words => .ok ([], words)
  | (name, _) :: _, [] => .error (.missingArgument name)
  | (name, kind) :: others, word :: words =>
    match kind.read isThere word with
    | .error fault => .error (.badWord ("'" ++ name ++ "'") fault)
    | .ok v => (readArguments isThere others words).map fun (values, left) => ((name, v) :: values, left)

/-- The values that the words of a command give to its parameters. -/
def read (isThere : String → Bool) (form : CommandForm) (words : List String) :
    Except UsageFault WordValues := do
  let sorted ← SortedWords.ofWords form.options true words
  let options ← (GivenOption.settled sorted.options).mapM fun given => do
    return (given.form.parameter, ← given.value isThere)
  let (arguments, left) ← readArguments isThere form.arguments sorted.rest
  if left.isEmpty then return options ++ arguments else throw (.unexpected left)

end CommandForm
end GraphQuery
