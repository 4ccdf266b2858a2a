/-!
# Arguments of a command line

A command takes flags, options with a value and words, or has commands under it. Reading goes
through the arguments from left to right. A word and the value of an option are taken note of only
when the next argument has come, so a fault in an argument can be told before one in the argument
before it.

* `Command` says what a command takes.
* `Command.read` gives what was given to a command and to those under it that were named, or why
  reading halts.
-/

namespace CampaignFetch.Cli

/-- An option that takes a value. -/
structure ValueOption where
  name : String
  /-- Whether a text is a value of the option. -/
  accepts : String → Bool

/-- What a command takes. A command with others under it takes no words. -/
structure Command where
  name : String
  /-- Whether the command tells the version of the program. -/
  tellsVersion : Bool
  flags : List String
  options : List ValueOption
  /-- How many words the command needs. -/
  words : Nat
  subcommands : List Command

/-- Why reading halts before it is known what to do. -/
inductive Halt where
  | missingWord
  | missingValue
  /-- A text is no value of the option it is given for. -/
  | badValue
  /-- A flag has a value. -/
  | surplusValue
  /-- A flag or an option is given twice. -/
  | repeated
  /-- An argument is nothing that the command takes. -/
  | unknownArgument
  | unknownCommand
  | missingCommand
  /-- Nothing at all is given where a command has to be. -/
  | nothingGiven
  | help
  | version
  deriving DecidableEq, Repr

/-- What was given to a command. -/
structure Given where
  command : String
  flags : List String
  values : List (String × String)
  words : List String
  deriving DecidableEq, Repr

namespace Given

def value? (g : Given) (option : String) : Option String := g.values.lookup option

def hasFlag (g : Given) (flag : String) : Bool := g.flags.contains flag

end Given

/-! ## Forms of arguments -/

/-- What an argument is by its form. -/
inductive Form where
  | word
  /-- What follows are words. -/
  | separator
  | long (name : String) (value : Option String)
  | short (letter : Char)
  deriving DecidableEq, Repr

/-- A name and, after the first equals sign, a value. -/
def Form.ofLong (cs : List Char) : Form :=
  let name := String.ofList (cs.takeWhile (· ≠ '='))
  match cs.dropWhile (· ≠ '=') with
  | [] => .long name none
  | _ :: value => .long name (some (String.ofList value))

def Form.of (arg : String) : Form :=
  match arg.toList with
  | ['-', '-'] => .separator
  | '-' :: '-' :: cs => .ofLong cs
  | '-' :: c :: _ => .short c
  | _ => .word

/-! ## What a command takes -/

/-- A flag by what it does. -/
inductive Flag where
  | help
  | version
  | own (name : String)

namespace Command

/-- The command that tells about the commands beside it. -/
def helpCommand : Command := ⟨"help", false, [], [], 0, []⟩

/-- Whether the command has others under it. -/
def isGroup (c : Command) : Bool := !c.subcommands.isEmpty

def find? (c : Command) (name : String) : Option Command :=
  if c.isGroup then (c.subcommands ++ [helpCommand]).find? fun sub => sub.name = name else none

def longFlag? (c : Command) (name : String) : Option Flag :=
  if name = "help" then some .help
  else if name = "version" && c.tellsVersion then some .version
  else if c.flags.contains name then some (.own name)
  else none

def shortFlag? (c : Command) (letter : Char) : Option Flag :=
  if letter = 'h' then some .help
  else if letter = 'V' && c.tellsVersion then some .version
  else none

def option? (c : Command) (name : String) : Option ValueOption :=
  c.options.find? fun option => option.name = name

/-- Why reading halts when help is asked for about the commands that the words name. -/
def helpAbout (c : Command) : List String → Halt
  | [] => .help
  | name :: rest =>
    match c.find? name with
    | some sub => sub.helpAbout rest
    | none => .unknownCommand

end Command

/-! ## Reading -/

/-- What has come but is not taken note of yet. -/
inductive Pending where
  | word (text : String)
  | value (option : ValueOption) (text : Option String)

/-- How far reading a command has come. -/
structure Progress where
  given : Given
  pending : Option Pending
  /-- Whether all that follows are words. -/
  wordsOnly : Bool

namespace Progress

/-- Nothing of a command is read. -/
def start (c : Command) : Progress := ⟨⟨c.name, [], [], []⟩, none, false⟩

/-- The option whose value has to come next. -/
def awaiting? (p : Progress) : Option ValueOption :=
  match p.pending with
  | some (.value option none) => some option
  | _ => none

def wordCount (p : Progress) : Nat :=
  p.given.words.length + match p.pending with
    | some (.word _) => 1
    | _ => 0

def store (p : Progress) (option : ValueOption) (text : String) : Except Halt Progress :=
  if (p.given.value? option.name).isSome then .error .repeated
  else if option.accepts text then
    .ok { p with given := { p.given with values := (option.name, text) :: p.given.values } }
  else .error .badValue

/-- Takes note of what is pending. -/
def settle (p : Progress) : Except Halt Progress :=
  let settled := { p with pending := none }
  match p.pending with
  | none => .ok settled
  | some (.word text) =>
    .ok { settled with given := { p.given with words := p.given.words ++ [text] } }
  | some (.value _ none) => .error .missingValue
  | some (.value option (some text)) => settled.store option text

def flag (p : Progress) (f : Flag) : Except Halt Progress := do
  let p ← p.settle
  match f with
  | .help => throw .help
  | .version => throw .version
  | .own name =>
    if p.given.hasFlag name then throw .repeated
    return { p with given := { p.given with flags := name :: p.given.flags } }

/-- The progress with a flag or an option that is given by its long name. -/
def long (c : Command) (p : Progress) (name : String) (value : Option String) :
    Except Halt Progress := do
  match c.longFlag? name, c.option? name, value with
  | some _, _, some _ => throw .surplusValue
  | some f, _, none => p.flag f
  | none, some option, some text => (← p.settle).store option text
  | none, some option, none => return { ← p.settle with pending := some (.value option none) }
  | none, none, _ => throw .unknownArgument

/-- The progress with an argument that may be a word. -/
def word (c : Command) (p : Progress) (text : String) : Except Halt Progress := do
  if p.wordCount < c.words then return { ← p.settle with pending := some (.word text) }
  else if !c.isGroup || (p.wordsOnly && (c.find? text).isSome) then throw .unknownArgument
  else throw .unknownCommand

/-- The progress with an argument that names no command. -/
def argument (c : Command) (p : Progress) (arg : String) : Except Halt Progress :=
  if p.wordsOnly then p.word c arg
  else match Form.of arg, p.awaiting? with
    | .separator, _ => .ok { p with wordsOnly := true }
    | .long name value, _ => p.long c name value
    | .short letter, _ =>
      match c.shortFlag? letter with
      | some f => p.flag f
      | none => .error .unknownArgument
    | .word, some option => .ok { p with pending := some (.value option (some arg)) }
    | .word, none => p.word c arg

/-- The command that an argument names, unless it has to be something else. -/
def command? (c : Command) (p : Progress) (arg : String) : Option Command :=
  if p.wordsOnly || p.awaiting?.isSome then none else c.find? arg

/-- What was given when there are no more arguments. -/
def finish (c : Command) (p : Progress) : Except Halt Given := do
  let p ← p.settle
  if c.isGroup then throw (if p.given.flags.isEmpty then .nothingGiven else .missingCommand)
  if p.given.words.length < c.words then throw .missingWord
  return p.given

end Progress

namespace Command

/-- Reads the rest of the arguments for a command. -/
def readFrom (c : Command) (p : Progress) : List String → Except Halt (List Given)
  | [] => (p.finish c).map fun g => [g]
  | arg :: rest =>
    match p.command? c arg with
    | some sub =>
      if sub.name = helpCommand.name then .error (c.helpAbout rest)
      else do
        let p ← p.settle
        return p.given :: (← sub.readFrom (.start sub) rest)
    | none => do c.readFrom (← p.argument c arg) rest

/-- What was given to the command and to those under it, from the outermost to the innermost. -/
def read (c : Command) (args : List String) : Except Halt (List Given) := c.readFrom (.start c) args

end Command

end CampaignFetch.Cli
