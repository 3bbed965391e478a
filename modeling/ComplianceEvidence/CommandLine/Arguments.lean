/-!
Contract: what the words on a command line ask for.

Owns: the two commands with their options, the grammar of options, and the ways in which a command
line is refused.

An option's value is taken over when the next option or the end of the line is reached, so a fault
in an unknown word comes before a fault in the value before it.
-/

set_option autoImplicit false

namespace ComplianceEvidence.CommandLine

/-! ## Commands -/

inductive Verb where
  | check
  | enrich
deriving DecidableEq, Repr

def Verb.name : Verb → String
  | check => "check"
  | enrich => "enrich"

def Verb.all : List Verb := [check, enrich]

def Verb.named? (name : String) : Option Verb :=
  all.find? fun verb => verb.name = name

def helpWord : String := "help"

/-- The command to run, with what it is told. -/
structure Command where
  verb : Verb
  configuration : Option String
  catalogs : List String
  isVerbose : Bool
  /-- The name of the evidence; it matters to the command that enriches. -/
  input : String
deriving DecidableEq, Repr

def standardInput : String := "-"

inductive Topic where
  | program
  | verb (verb : Verb)
  | help
deriving DecidableEq, Repr

inductive Refusal where
  | helpAsked (topic : Topic)
  | versionAsked (topic : Topic)
  | commandMissing
  | unknownCommand
  | unknownArgument
  | valueRefused
  | valueUnneeded
  | repeated
deriving DecidableEq, Repr

/-! ## Options -/

inductive Choice where
  | configuration
  | catalog
  | verbose
  | input
  | help
  | version
deriving DecidableEq, Repr

namespace Choice

def long : Choice → String
  | configuration => "config"
  | catalog => "catalog"
  | verbose => "verbose"
  | input => "input"
  | help => "help"
  | version => "version"

def short? : Choice → Option Char
  | configuration => some 'c'
  | catalog => none
  | verbose => some 'v'
  | input => some 'i'
  | help => some 'h'
  | version => some 'V'

def takesValue : Choice → Bool
  | configuration | catalog | input => true
  | _ => false

end Choice

def Verb.choices : Verb → List Choice
  | check => [.configuration, .catalog, .verbose, .help, .version]
  | enrich => [.configuration, .catalog, .verbose, .input, .help, .version]

def programChoices : List Choice := [.help, .version]

def longChoice? (choices : List Choice) (name : List Char) : Option Choice :=
  choices.find? fun choice => choice.long.toList = name

def shortChoice? (choices : List Choice) (character : Char) : Option Choice :=
  choices.find? fun choice => choice.short? = some character

inductive Word where
  | escape
  | long (name : List Char) (value : Option (List Char))
  | short (characters : List Char)
  | bare
deriving DecidableEq, Repr

/-- The part before the first equals sign, and the part behind it if there is one. -/
def splitValue (text : List Char) : List Char × Option (List Char) :=
  let name := text.takeWhile fun character => character ≠ '='
  match text.drop name.length with
  | _ :: value => (name, some value)
  | [] => (name, none)

def Word.of (word : String) : Word :=
  match word.toList with
  | ['-', '-'] => escape
  | '-' :: '-' :: rest => long (splitValue rest).1 (splitValue rest).2
  | ['-'] => bare
  | '-' :: rest => short rest
  | _ => bare

/-! ## The words behind a command -/

/-- What was read of the words behind a command. -/
structure Draft where
  configuration : Option String := none
  catalogs : List String := []
  isVerbose : Bool := false
  input : Option String := none
  /-- An option whose value is to come or was not taken over yet. -/
  pending : Option (Choice × Option String) := none
  isEscaped : Bool := false
deriving DecidableEq, Repr

namespace Draft

def store (draft : Draft) (choice : Choice) (value : String) : Except Refusal Draft :=
  match choice with
  | .configuration =>
      if draft.configuration.isSome then .error .repeated
      else if value = "" then .error .valueRefused
      else .ok { draft with configuration := some value }
  | .catalog =>
      if value = "" then .error .valueRefused
      else .ok { draft with catalogs := draft.catalogs ++ [value] }
  | .input =>
      if draft.input.isSome then .error .repeated
      else .ok { draft with input := some value }
  | _ => .ok draft

/-- Takes over the value that was not taken over yet. -/
def settle (draft : Draft) : Except Refusal Draft :=
  match draft.pending with
  | none => .ok draft
  | some (_, none) => .error .valueRefused
  | some (choice, some value) => ({ draft with pending := none }).store choice value

def flag (verb : Verb) (draft : Draft) (choice : Choice) : Except Refusal Draft := do
  let settled ← draft.settle
  match choice with
  | .help => .error (.helpAsked (.verb verb))
  | .version => .error (.versionAsked (.verb verb))
  | _ =>
      if settled.isVerbose then .error .repeated else return { settled with isVerbose := true }

/-- An option that takes a value, which may stand with it. -/
def option (draft : Draft) (choice : Choice) (value : Option (List Char)) :
    Except Refusal Draft := do
  let settled ← draft.settle
  match value with
  | some attached => settled.store choice (String.ofList attached)
  | none => return { settled with pending := some (choice, none) }

def long (verb : Verb) (draft : Draft) (name : List Char) (value : Option (List Char)) :
    Except Refusal Draft :=
  match longChoice? verb.choices name with
  | none => .error .unknownArgument
  | some choice =>
      if choice.takesValue then draft.option choice value
      else if value.isSome then .error .valueUnneeded
      else draft.flag verb choice

/-- The value that stands right behind a letter, with or without an equals sign. -/
def attachedValue : List Char → Option (List Char)
  | [] => none
  | '=' :: rest => some rest
  | rest => some rest

/-- Letters behind one dash. The first one that takes a value takes the rest of the word. -/
def short (verb : Verb) (draft : Draft) : List Char → Except Refusal Draft
  | [] => .ok draft
  | head :: rest =>
      match shortChoice? verb.choices head with
      | none => .error .unknownArgument
      | some choice =>
          if choice.takesValue then draft.option choice (attachedValue rest)
          else do
            let next ← draft.flag verb choice
            short verb next rest

/-- A word that is no option: the value that is to come, or else one too many. -/
def bare (draft : Draft) (word : String) : Except Refusal Draft :=
  match draft.pending with
  | some (choice, none) => .ok { draft with pending := some (choice, some word) }
  | _ => .error .unknownArgument

def read (verb : Verb) (draft : Draft) (word : String) : Except Refusal Draft :=
  if draft.isEscaped then .error .unknownArgument
  else
    match Word.of word with
    | .escape => .ok { draft with isEscaped := true }
    | .long name value => draft.long verb name value
    | .short characters => draft.short verb characters
    | .bare => draft.bare word

def readAll (verb : Verb) (draft : Draft) : List String → Except Refusal Draft
  | [] => .ok draft
  | word :: rest => do
      let next ← draft.read verb word
      readAll verb next rest

/-- The configuration that the environment names counts where no option names one. -/
def withEnvironment (draft : Draft) (ambient : Option String) : Except Refusal Draft :=
  match draft.configuration, ambient with
  | none, some value => draft.store .configuration value
  | _, _ => .ok draft

def command (draft : Draft) (verb : Verb) : Command :=
  { verb := verb
    configuration := draft.configuration
    catalogs := draft.catalogs
    isVerbose := draft.isVerbose
    input := draft.input.getD standardInput }

end Draft

def readCommand (verb : Verb) (ambient : Option String) (words : List String) :
    Except Refusal Command := do
  let draft ← Draft.readAll verb {} words
  let settled ← draft.settle
  let complete ← settled.withEnvironment ambient
  return complete.command verb

/-! ## The whole line -/

def helpTopic : List String → Refusal
  | [] => .helpAsked .program
  | name :: rest =>
      match Verb.named? name with
      | some verb => if rest.isEmpty then .helpAsked (.verb verb) else .unknownCommand
      | none =>
          if name = helpWord && rest.isEmpty then .helpAsked .help else .unknownCommand

def Choice.refusal : Choice → Refusal
  | version => .versionAsked .program
  | _ => .helpAsked .program

def refusalOf (word : String) (rest : List String) : Refusal :=
  match Word.of word with
  | .escape =>
      match rest with
      | [] => .commandMissing
      | next :: _ =>
          if (Verb.named? next).isSome || next = helpWord then .unknownArgument
          else .unknownCommand
  | .long name value =>
      match longChoice? programChoices name with
      | none => .unknownArgument
      | some choice => if value.isSome then .valueUnneeded else choice.refusal
  | .short characters =>
      match (characters.head?).bind (shortChoice? programChoices) with
      | none => .unknownArgument
      | some choice => choice.refusal
  | .bare => .unknownCommand

/-- The command that a line asks for, in an environment that may name a configuration. -/
def parse (ambient : Option String) : List String → Except Refusal Command
  | [] => .error .commandMissing
  | word :: rest =>
      match Verb.named? word with
      | some verb => readCommand verb ambient rest
      | none => .error (if word = helpWord then helpTopic rest else refusalOf word rest)

end ComplianceEvidence.CommandLine
