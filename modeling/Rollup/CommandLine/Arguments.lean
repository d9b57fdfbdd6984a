import Rollup.Statement.Compile
/-!
Arguments of the command line: options in front of a command or behind it, and operands of the
command. Reading stops at the first argument that asks for help or makes no sense.
-/
namespace Rollup.CommandLine

/-- The options that take a value. -/
inductive Opt where
  | apiUrl
  | format
  | timeColumn
  | output
  deriving Repr, DecidableEq

inductive CommandName where
  | compile
  | query
  | config
  deriving Repr, DecidableEq

/-- What help can be about. -/
inductive Topic where
  | program
  | command (name : CommandName)
  | help
  deriving Repr, DecidableEq

namespace Opt

def long : Opt → String
  | apiUrl => "api-url"
  | format => "format"
  | timeColumn => "time-column"
  | output => "output"

def short? : Opt → Option Char
  | apiUrl => none
  | format => some 'f'
  | timeColumn => none
  | output => some 'o'

end Opt

namespace CommandName

def all : List CommandName := [compile, query, config]

def text : CommandName → String
  | compile => "compile"
  | query => "query"
  | config => "config"

def ofText? (s : String) : Option CommandName := all.find? fun c => c.text == s

/-- The options of a command alone. -/
def options : CommandName → List Opt
  | compile => [.timeColumn]
  | query => []
  | config => [.output]

/-- The number of operands, all of them needed. -/
def operands : CommandName → Nat
  | compile => 1
  | query => 1
  | config => 0

end CommandName

/-- The options that may stand in front of a command and behind it. -/
def sharedOptions : List Opt := [.apiUrl, .format]

/-- The part of the arguments that is read: what stands in front of the command, or behind it. -/
inductive Level where
  | front
  | behind (command : CommandName)
  deriving Repr, DecidableEq

namespace Level

def options : Level → List Opt
  | front => sharedOptions
  | behind c => c.options ++ sharedOptions

def topic : Level → Topic
  | front => .program
  | behind c => .command c

def long? (l : Level) (name : String) : Option Opt := l.options.find? fun o => o.long == name

def short? (l : Level) (c : Char) : Option Opt := l.options.find? fun o => o.short? == some c

end Level

/-- What was given at a level. -/
structure Given where
  values : List (Opt × String) := []
  operands : List String := []
  deriving Repr, DecidableEq

namespace Given

def value? (g : Given) (o : Opt) : Option String := (g.values.find? fun v => v.1 == o).map (·.2)

/-- An option is given once at most, and what is written to has a name. -/
def set? (g : Given) (o : Opt) (v : String) : Option Given :=
  if (g.value? o).isSome || (o == .output && v.isEmpty) then none
  else some { g with values := g.values ++ [(o, v)] }

end Given

/-- Why a level was not read to its end. -/
inductive Stop where
  | misuse
  | version
  | help (topic : Topic) (short : Bool)
  deriving Repr, DecidableEq

/-- How reading a level ends: with all arguments used, or at the name of a command. -/
inductive Reading where
  | stopped (why : Stop)
  | finished (given : Given)
  | command (given : Given) (name : CommandName) (rest : List String)
  deriving Repr, DecidableEq

/-- What the next argument is taken for. -/
inductive Place where
  | free
  | valueOf (o : Opt)
  /-- Behind two hyphens, where every argument is an operand. -/
  | operands
  deriving Repr, DecidableEq

/-- A single hyphen is an operand. -/
def looksLikeOption (a : String) : Bool :=
  match a.toList with
  | '-' :: _ :: _ => true
  | _ => false

/-- An argument behind its hyphens: a single letter with its value attached, or a name whose value
stands behind an equals sign. -/
inductive Spelled where
  | separator
  | long (name : String) (value : Option String)
  | short (letter : Char) (value : Option String)
  | operand
  deriving Repr, DecidableEq

def Spelled.ofText (a : String) : Spelled :=
  match a.toList with
  | ['-', '-'] => .separator
  | '-' :: '-' :: cs =>
    match cs.dropWhile (· != '=') with
    | '=' :: v => .long (String.ofList (cs.takeWhile (· != '='))) (some (String.ofList v))
    | _ => .long (String.ofList cs) none
  | ['-', c] => .short c none
  | '-' :: c :: '=' :: v => .short c (some (String.ofList v))
  | '-' :: c :: v => .short c (some (String.ofList v))
  | _ => .operand

/-- The help that a word behind the help command asks for. -/
def helpOn : List String → Stop
  | [] => .help .program false
  | [a] =>
    if a = "help" then .help .help false
    else match CommandName.ofText? a with
      | some c => .help (.command c) false
      | none => .misuse
  | _ => .misuse

/-- Reads the arguments of a level. -/
def Level.read (l : Level) : Place → Given → List String → Reading
  | .valueOf _, _, [] => .stopped .misuse
  | _, g, [] => .finished g
  | .valueOf o, g, a :: rest =>
    if looksLikeOption a then .stopped .misuse
    else match g.set? o a with
      | some g => l.read .free g rest
      | none => .stopped .misuse
  | place, g, a :: rest =>
    match (if place = .operands then Spelled.operand else Spelled.ofText a) with
    | .separator => l.read .operands g rest
    | .long name value =>
      match l.long? name, value with
      | some o, none => l.read (.valueOf o) g rest
      | some o, some v =>
        match g.set? o v with
        | some g => l.read .free g rest
        | none => .stopped .misuse
      | none, some _ => .stopped .misuse
      | none, none =>
        if name = "help" then .stopped (.help l.topic false)
        else if name = "version" ∧ l = .front then .stopped .version
        else .stopped .misuse
    | .short c value =>
      match l.short? c, value with
      | some o, none => l.read (.valueOf o) g rest
      | some o, some v =>
        match g.set? o v with
        | some g => l.read .free g rest
        | none => .stopped .misuse
      | none, _ =>
        if c = 'h' then .stopped (.help l.topic true)
        else if c = 'V' ∧ l = .front then .stopped .version
        else .stopped .misuse
    | .operand =>
      match l with
      | .front =>
        if place = .operands then .stopped .misuse
        else if a = "help" then .stopped (helpOn rest)
        else match CommandName.ofText? a with
          | some c => .command g c rest
          | none => .stopped .misuse
      | .behind c =>
        if g.operands.length < c.operands then
          l.read place { g with operands := g.operands ++ [a] } rest
        else .stopped .misuse

inductive Command where
  | compile (input timeColumn : String)
  | query (input : String)
  | config (output : Option String)
  deriving Repr, DecidableEq

/-- A command with the options that all commands know. -/
structure Invocation where
  command : Command
  apiUrl : String
  format : String
  deriving Repr, DecidableEq

/-- The default value of an option, if it has one. -/
def Opt.default? : Opt → Option String
  | .apiUrl => some "http://localhost:8080"
  | .format => some "table"
  | .timeColumn => some Request.defaultTimeColumn
  | .output => none

/-- The value of a shared option. Behind the command counts before in front of it. -/
def shared (front behind : Given) (o : Opt) : String :=
  (behind.value? o <|> front.value? o <|> o.default?).getD ""

def Given.command? (g : Given) : CommandName → Option Command
  | .compile => g.operands.head?.map fun input =>
      .compile input ((g.value? .timeColumn <|> Opt.default? .timeColumn).getD "")
  | .query => g.operands.head?.map .query
  | .config => some (.config (g.value? .output))

/-- The invocation that arguments stand for. -/
def invocation (args : List String) : Except Stop Invocation :=
  match Level.front.read .free {} args with
  | .stopped why => .error why
  | .finished _ => .error .misuse
  | .command front name rest =>
    match (Level.behind name).read .free {} rest with
    | .stopped why => .error why
    | .command .. => .error .misuse
    | .finished behind =>
      match behind.command? name with
      | some c => .ok ⟨c, shared front behind .apiUrl, shared front behind .format⟩
      | none => .error .misuse

example : (invocation ["-f", "json", "compile", "-", "--format=csv"]).toOption =
    some ⟨.compile "-" "creation_date", "http://localhost:8080", "csv"⟩ := by decide +kernel
example : (invocation ["compile", "-", "--format", "--api-url"]).toOption = none := by
  decide +kernel

end Rollup.CommandLine
