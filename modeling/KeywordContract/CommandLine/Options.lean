import KeywordContract.CommandLine.Value

/-!
# The arguments of the command line

A command line is a command with its arguments. Options may stand anywhere: those that every
command has also before the command. A long option takes its value behind `=` or as the next
argument, a short one also without anything between; short flags can share one dash. After `--`
there are no options.

## Main definitions

* `Request`: what is asked for.
* `Request.parse?`: the request of a list of arguments; there is none when they are misused.
-/

namespace KeywordContract.CommandLine

/-- The places where options are read: before the command, or after one. -/
inductive Level where
  | main
  | libraries
  | list
  | describe
  | run
  | check
deriving DecidableEq

namespace Level

/-- The commands by their words. -/
def commands : List (String × Level) :=
  [("libraries", libraries), ("list", list), ("show", describe), ("run", run), ("check", check)]

/-- The command that a word stands for. After a command there is no other. -/
def command? (level : Level) (word : String) : Option Level :=
  if level = main then commands.lookup word else none

/-- How many words a level takes, if there is a limit. -/
def capacity : Level → Option Nat
  | describe => some 1
  | run => none
  | _ => some 0

end Level

inductive Switch where
  | library
  | strict
  | verbose
  | named
  | json
  | help
  | version
deriving DecidableEq

namespace Switch

def all : List Switch := [library, strict, verbose, named, json, help, version]

def long : Switch → String
  | library => "library"
  | strict => "strict"
  | verbose => "verbose"
  | named => "named"
  | json => "json"
  | help => "help"
  | version => "version"

def short? : Switch → Option Char
  | library => some 'l'
  | verbose => some 'v'
  | named => some 'n'
  | help => some 'h'
  | version => some 'V'
  | strict | json => none

def takesValue : Switch → Bool
  | library | named => true
  | _ => false

/-- Whether a level has the option. -/
def isAt (level : Level) : Switch → Bool
  | library | strict | verbose | help => true
  | named => level = .run
  | json => level = .run || level = .check
  | version => level = .main

def ofLong? (level : Level) (name : String) : Option Switch :=
  all.find? fun s => s.isAt level && s.long == name

def ofShort? (level : Level) (c : Char) : Option Switch :=
  all.find? fun s => s.isAt level && s.short? == some c

end Switch

/-- What was read at one level. -/
structure Gathered where
  library : Option String := none
  strict : Bool := false
  verbose : Bool := false
  named : List (String × Json) := []
  json : Bool := false
  words : List String := []

namespace Gathered

/-- Gives an option its value. Only names with values can be given more than once. -/
def set? (g : Gathered) (s : Switch) (text : String) : Option Gathered :=
  match s with
  | .library => if g.library.isSome then none else some { g with library := some text }
  | .named => (namedValue? text).map fun pair => { g with named := g.named ++ [pair] }
  | _ => none

/-- Marks a flag, which can be given once. -/
def mark? (g : Gathered) (s : Switch) : Option Gathered :=
  match s with
  | .strict => if g.strict then none else some { g with strict := true }
  | .verbose => if g.verbose then none else some { g with verbose := true }
  | .json => if g.json then none else some { g with json := true }
  | _ => none

/-- Adds a word, as long as the level takes one more. -/
def word? (level : Level) (g : Gathered) (word : String) : Option Gathered :=
  if level.capacity.all (g.words.length < ·) then some { g with words := g.words ++ [word] }
  else none

/-- After the keyword to run, numbers below zero are values and not options. -/
def takesNumbers (level : Level) (g : Gathered) : Bool := level = .run && !g.words.isEmpty

end Gathered

/-- What an argument looks like. -/
inductive Shape where
  | endOfOptions
  | long (name : String) (value? : Option String)
  /-- What follows a single dash. -/
  | short (cs : List Char)
  | word

/-- The shape of an argument. A dash on its own is a word. -/
def Shape.of (arg : String) : Shape :=
  match arg.toList with
  | ['-', '-'] => .endOfOptions
  | '-' :: '-' :: cs =>
    match Text.cutFirst '=' cs with
    | some (name, value) => .long (String.ofList name) (some (String.ofList value))
    | none => .long (String.ofList cs) none
  | '-' :: c :: cs => .short (c :: cs)
  | _ => .word

/-- Whether the rest of a text is that of a number: after `point` there is no other point, and
after `power` neither a point nor another `e`; an `e`, large or small, is not the last
character. -/
def isNumberRest (point power : Bool) : List Char → Bool
  | [] => true
  | c :: cs =>
    if c.isDigit then isNumberRest point power cs
    else if c = '.' then !point && !power && isNumberRest true power cs
    else if c = 'e' ∨ c = 'E' then !power && !cs.isEmpty && isNumberRest point true cs
    else false

/-- Digits with at most one point and one exponent, each not in front. -/
def isNumber : List Char → Bool
  | [] => true
  | c :: cs => c.isDigit && isNumberRest false false cs

/-- What becomes of the letters behind one dash. -/
inductive Cluster where
  | flags (g : Gathered)
  /-- The last letter is an option whose value is the next argument. -/
  | awaits (s : Switch) (g : Gathered)
  | help
  | version

/-- Reads the letters behind one dash; what follows an option with a value is the value. -/
def Cluster.read? (level : Level) (g : Gathered) : List Char → Option Cluster
  | [] => some (.flags g)
  | c :: cs =>
    match Switch.ofShort? level c with
    | none => none
    | some .help => some .help
    | some .version => some .version
    | some s =>
      if s.takesValue then
        match cs with
        | [] => some (.awaits s g)
        | '=' :: value => (g.set? s (String.ofList value)).map .flags
        | value => (g.set? s (String.ofList value)).map .flags
      else match g.mark? s with
        | some g => Cluster.read? level g cs
        | none => none

/-- Whether an argument can be the value of the option before it. -/
def canBeValue (level : Level) (g : Gathered) (arg : String) : Bool :=
  match Shape.of arg with
  | .word => true
  | .short cs => Gathered.takesNumbers level g && isNumber cs
  | .endOfOptions | .long _ _ => false

/-- Where the reading of a level ends. -/
inductive Scan where
  | finished (g : Gathered)
  | command (g : Gathered) (level : Level) (rest : List String)
  | help
  | version

/-- The commands that help is asked for: at most one. -/
def Scan.helpFor? : List String → Option Scan
  | [] => some .help
  | [word] => if word = "help" || (Level.command? .main word).isSome then some .help else none
  | _ => none

/-- Reads the arguments of a level up to a command. -/
def Scan.read? (level : Level) (g : Gathered) (args : List String) : Option Scan :=
  match args with
  | [] => some (.finished g)
  | arg :: rest =>
    match level.command? arg with
    | some next => some (.command g next rest)
    | none =>
      if level = .main && arg = "help" then Scan.helpFor? rest
      else match Shape.of arg with
        | .endOfOptions => (rest.foldlM (Gathered.word? level) g).map .finished
        | .word => (g.word? level arg).bind fun g => Scan.read? level g rest
        | .long name value? =>
          match Switch.ofLong? level name, value? with
          | none, _ => none
          | some s, some value => (g.set? s value).bind fun g => Scan.read? level g rest
          | some .help, none => some .help
          | some .version, none => some .version
          | some s, none =>
            if s.takesValue then awaited s g rest
            else (g.mark? s).bind fun g => Scan.read? level g rest
        | .short cs =>
          if Gathered.takesNumbers level g && isNumber cs then
            (g.word? level arg).bind fun g => Scan.read? level g rest
          else match Cluster.read? level g cs with
            | none => none
            | some .help => some .help
            | some .version => some .version
            | some (.flags g) => Scan.read? level g rest
            | some (.awaits s g) => awaited s g rest
termination_by args.length
where
  /-- Reads on with the next argument as the value of an option. -/
  awaited (s : Switch) (g : Gathered) (args : List String) : Option Scan :=
    match args with
    | [] => none
    | arg :: rest =>
      if canBeValue level g arg then
        (g.set? s arg).bind fun g => Scan.read? level g rest
      else none
  termination_by args.length

inductive Command where
  | libraries
  | list
  | describe (keyword : String)
  | run (keyword : String) (args : List String) (named : List (String × Json)) (json : Bool)
  | check (json : Bool)

/-- The command of a level, unless the name of the keyword is missing. -/
def Command.of? (level : Level) (g : Gathered) : Option Command :=
  match level, g.words with
  | .libraries, _ => some .libraries
  | .list, _ => some .list
  | .describe, keyword :: _ => some (.describe keyword)
  | .run, keyword :: args => some (.run keyword args g.named g.json)
  | .check, _ => some (.check g.json)
  | _, _ => none

/-- The options that every command has. -/
structure Options where
  library : Option String
  strict : Bool
  verbose : Bool

inductive Request where
  | perform (options : Options) (command : Command)
  | help
  | version

/-- The request of a list of arguments. Where an option stands both before and after the
command, the one after it counts. -/
def Request.parse? (args : List String) : Option Request := do
  match ← Scan.read? .main {} args with
  | .finished _ => none
  | .help => some .help
  | .version => some .version
  | .command before level rest =>
    match ← Scan.read? level {} rest with
    | .finished after =>
      let command ← Command.of? level after
      let options : Options := {
        library := after.library <|> before.library
        strict := after.strict || before.strict
        verbose := after.verbose || before.verbose }
      some (.perform options command)
    | .help => some .help
    | .version | .command _ _ _ => none

end KeywordContract.CommandLine
