import FormRules.Calendar.Reading
import FormRules.Command.Basic
import FormRules.Declaration

/-!
# Arguments

A command line names a command and its options.  An option is written with two
hyphens and its name, or with one hyphen and its letter; letters may share a
hyphen.  A value is attached to the option, or follows it; an option that takes
several values takes all words up to the next one that starts with a hyphen.

An option is settled when the next one starts or the line ends: it has to have a
value if it takes one, it may be repeated only if it takes several, and its
value has to be fit.
-/

namespace FormRules.Command

/-! ## Options -/

inductive Arity where
  | none
  | one
  | many
deriving DecidableEq, Repr

inductive Key where
  | verbose
  | help
  | version
  | pointer
  | filter
  | input
  | action
  | out
  | name
  | data
  | lineByLine
  | today
deriving DecidableEq, Repr

namespace Key

def long : Key → String
  | .verbose => "verbose"
  | .help => "help"
  | .version => "version"
  | .pointer => "json-pointer"
  | .filter => "jq-expr"
  | .input => "input"
  | .action => "action"
  | .out => "out"
  | .name => "name"
  | .data => "data"
  | .lineByLine => "ndjson"
  | .today => "today"

def letter? : Key → Option Char
  | .verbose => some 'v'
  | .help => some 'h'
  | .version => some 'V'
  | .input => some 'i'
  | .out => some 'o'
  | .data => some 'd'
  | _ => none

def arity : Key → Arity
  | .verbose => .none
  | .help => .none
  | .version => .none
  | .lineByLine => .none
  | .input => .many
  | .data => .many
  | _ => .one

def wanted? : Key → Option UsageFault
  | .help => some .helpWanted
  | .version => some .versionWanted
  | _ => none

def fault? (key : Key) (value : String) : Option UsageFault :=
  match key with
  | .today => if (Calendar.argument? value.toList).isNone then some .badValue else none
  | .out => if value = "" then some .missingValue else none
  | _ => none

end Key

/-! ## Reading -/

structure Reading where
  known : List Key
  settled : List (Key × List String)
  pending : Option (Key × List String)
  /-- Whether the next word is a value of the option that has started last. -/
  wantsValue : Bool

namespace Reading

def start (known : List Key) : Reading :=
  { known, settled := [], pending := none, wantsValue := false }

def accept (r : Reading) (key : Key) (values : List String) : Except UsageFault Reading :=
  if key.arity ≠ .none && values.isEmpty then .error .missingValue
  else if key.arity ≠ .many && r.settled.any (·.1 = key) then .error .repeatedOption
  else
    match values.findSome? key.fault? with
    | some fault => .error fault
    | none =>
      .ok { r with
        settled := r.settled ++ [(key, values)], pending := none, wantsValue := false }

/-- Settle the option that has started last. -/
def settle (r : Reading) : Except UsageFault Reading :=
  match r.pending with
  | none => .ok r
  | some (key, values) => r.accept key values

def take (r : Reading) (key : Key) (values : List String) : Except UsageFault Reading := do
  let r ← r.settle
  match key.wanted? with
  | some fault => .error fault
  | none => r.accept key values

def expect (r : Reading) (key : Key) : Except UsageFault Reading := do
  let r ← r.settle
  return { r with pending := some (key, []), wantsValue := true }

def long (r : Reading) (name : String) (value : Option String) : Except UsageFault Reading :=
  match r.known.find? fun key => key.long = name with
  | none => .error .unknownArgument
  | some key =>
    match key.arity, value with
    | .none, some _ => .error .surplusValue
    | .none, none => r.take key []
    | _, some v => r.take key [v]
    | _, none => r.expect key

/-- Take options by their letters; what follows the letter of an option that takes a value
is its value, without an equals sign in front. -/
def letters (r : Reading) : List Char → Except UsageFault Reading
  | [] => .ok r
  | c :: rest =>
    match r.known.find? fun key => key.letter? = some c with
    | none => .error .unknownArgument
    | some key =>
      match key.arity, rest with
      | .none, _ => (r.take key []).bind fun r => r.letters rest
      | _, [] => r.expect key
      | _, '=' :: value => r.take key [String.ofList value]
      | _, value => r.take key [String.ofList value]

/-- Take a word as a value of the option that has started last. -/
def word (r : Reading) (s : String) : Except UsageFault Reading :=
  match r.pending with
  | none => .error .unknownArgument
  | some (key, values) =>
    if r.wantsValue then
      .ok { r with pending := some (key, values ++ [s]), wantsValue := key.arity = .many }
    else .error .unknownArgument

def argument (r : Reading) (s : String) : Except UsageFault Reading :=
  match s.toList with
  | '-' :: '-' :: cs =>
    match Text.splitFirst '=' cs with
    | some (name, value) => r.long (String.ofList name) (some (String.ofList value))
    | none => r.long (String.ofList cs) none
  | '-' :: c :: cs => r.letters (c :: cs)
  | _ => r.word s

/-- Read the options of a command; two hyphens end them, and nothing may follow. -/
def options (r : Reading) : List String → Except UsageFault Reading
  | [] => r.settle
  | s :: rest =>
    if s = "--" then (if rest.isEmpty then r.settle else .error .unknownArgument)
    else (r.argument s).bind fun r => r.options rest

def values (r : Reading) (key : Key) : List String :=
  r.settled.flatMap fun e => if e.1 = key then e.2 else []

def value? (r : Reading) (key : Key) : Option String :=
  (r.values key).head?

def has (r : Reading) (key : Key) : Bool :=
  r.settled.any fun e => e.1 = key

end Reading

/-! ## Commands -/

inductive Verb where
  | ir
  | types
  | check
deriving DecidableEq, Repr

def Verb.ofName? (s : String) : Option Verb :=
  if s = "ir" then some .ir
  else if s = "types" then some .types
  else if s = "check" then some .check
  else none

def Verb.keys (verb : Verb) : List Key :=
  [.verbose, .help, .pointer, .filter, .input] ++
    match verb with
    | .ir => [.action, .out]
    | .types => [.name, .out]
    | .check => [.data, .lineByLine, .today]

def Verb.required : Verb → List Key
  | .check => [.input, .data]
  | _ => [.input]

def Verb.command (verb : Verb) (r : Reading) : Command :=
  let rules : Selection :=
    { inputs := r.values .input, pointer := r.value? .pointer, filter := r.value? .filter }
  match verb with
  | .ir => .ir rules (r.value? .action) (r.value? .out)
  | .types => .types rules ((r.value? .name).getD Declaration.defaultName) (r.value? .out)
  | .check =>
    .check rules (r.values .data) (r.has .lineByLine)
      ((r.value? .today).bind fun s => Calendar.argument? s.toList)

def Verb.read (verb : Verb) (args : List String) : Except UsageFault Command := do
  let r ← (Reading.start verb.keys).options args
  if verb.required.all r.has then return verb.command r else .error .missingOption

/-- What a request for help leads to: there is help for every command. -/
def helpFault : List String → UsageFault
  | [] => .helpWanted
  | [s] => if s = "help" || (Verb.ofName? s).isSome then .helpWanted else .unknownCommand
  | _ => .unknownCommand

/-- What two hyphens before any command lead to. -/
def afterHyphens (fault : UsageFault) : List String → UsageFault
  | [] => fault
  | s :: _ =>
    if s = "help" || (Verb.ofName? s).isSome then .unknownArgument else .unknownCommand

/-- Read the options up to the command, and then the command. -/
def Reading.command (r : Reading) : List String → Except UsageFault Command
  | [] => .error (if r.settled.isEmpty then .nothingGiven else .missingCommand)
  | s :: rest =>
    if s = "--" then
      .error (afterHyphens (if r.settled.isEmpty then .nothingGiven else .missingCommand) rest)
    else if s ≠ "-" && s.toList.head? = some '-' then
      (r.argument s).bind fun r => r.command rest
    else if s = "help" then .error (helpFault rest)
    else
      match Verb.ofName? s with
      | some verb => verb.read rest
      | none => .error .unknownCommand

def ofArguments (args : List String) : Except UsageFault Command :=
  (Reading.start [.verbose, .help, .version]).command args

end FormRules.Command
