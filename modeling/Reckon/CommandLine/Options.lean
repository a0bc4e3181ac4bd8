import Reckon.Text.Controls
import Reckon.Text.Similarity

/-!
# Options

What the arguments of the program ask for. Arguments are taken from left to right, and the first
that settles the matter does: a request for help or for the version, or an error. An argument that
starts with a hyphen is an option, except for a hyphen alone and for whatever follows a `--`. Any
other argument is the path of a source file, of which there is at most one.
-/

namespace Reckon.CommandLine

/-- What is printed beside the value. -/
structure Flags where
  tokens : Bool
  tree : Bool
  deriving DecidableEq, Repr

/-- What the arguments ask for. -/
inductive Request where
  | help
  | version
  | evaluate (flags : Flags) (path : Option String)
  deriving DecidableEq, Repr

/-! ## Switches -/

/-- The options that have a name. -/
inductive Switch where
  | tokens
  | tree
  | help
  | version
  deriving DecidableEq, Repr

namespace Switch

/-- All switches, in the order of the help text. -/
def all : List Switch := [.tokens, .tree, .help, .version]

/-- The name of a switch. -/
def name : Switch → String
  | .tokens => "tokens"
  | .tree => "ast"
  | .help => "help"
  | .version => "version"

/-- A switch as it is given on the command line. -/
def spelling (switch : Switch) : String :=
  "--" ++ switch.name

/-- The switch with a name. -/
def ofName? (name : List Char) : Option Switch :=
  all.find? fun switch => switch.name.toList = name

/-- A switch is found by its name. -/
theorem ofName?_name (switch : Switch) : ofName? switch.name.toList = some switch := by
  cases switch <;> decide

/-- What a switch asks for by itself. The others are flags. -/
def request? : Switch → Option Request
  | .help => some .help
  | .version => some .version
  | _ => none

/-- The least similarity, itself excluded, of a name to one that it may be a slip for. -/
def similarityBound : Float := 0.7

/-- The switch that a name may be a slip for: the most similar one, if it is similar enough. Of two
equally similar ones the later is meant. -/
def similar? (name : List Char) : Option Switch :=
  let alike (switch : Switch) : Float := Text.similarity name switch.name.toList
  all.foldl (fun best switch =>
    let bound := best.elim similarityBound alike
    if similarityBound < alike switch && bound ≤ alike switch then some switch else best) none

end Switch

/-! ## Usage -/

/-- How the program may be called, as an error shows it. -/
inductive Usage where
  | general
  | withSwitches (switches : List Switch) (hasPath : Bool)
  | withChoice (switches : List Switch)
  deriving DecidableEq, Repr

namespace Usage

/-- The usage that a call of the program falls under: what it names is shown, if anything. -/
def ofCall (switches : List Switch) (hasPath : Bool) : Usage :=
  if switches.isEmpty && !hasPath then .general else .withSwitches switches hasPath

/-- What stands for the arguments of the program. -/
def arguments : Usage → List String
  | .general => ["[OPTIONS]", "[PATH]"]
  | .withSwitches switches hasPath =>
    switches.map Switch.spelling ++ [if hasPath then "<PATH>" else "[PATH]"]
  | .withChoice switches => switches.map Switch.spelling ++ ["<PATH|--tokens|--ast>"]

/-- The line that shows a usage. -/
def text (usage : Usage) : String :=
  " ".intercalate ("Usage:" :: "lox" :: usage.arguments)

end Usage

/-- Why arguments are refused. -/
inductive UsageError where
  | unknownOption (option : String) (similar : Option Switch) (usage : Usage)
  | secondPath (path : String)
  | repeatedOption (switch : Switch)
  | unexpectedValue (switch : Switch) (value : String) (usage : Usage)
  | emptyPath
  deriving DecidableEq, Repr

/-! ## Arguments -/

/-- What an argument is, by its spelling alone. -/
inductive Argument where
  | optionsEnd
  | long (name : List Char) (value : Option (List Char))
  | short (first : Char)
  | path
  deriving DecidableEq, Repr

/-- Tells what an argument is. A long option may carry a value behind an equals sign, and of
several short options in one argument the first counts. -/
def Argument.ofText (text : List Char) : Argument :=
  match text with
  | ['-', '-'] => .optionsEnd
  | '-' :: '-' :: body =>
    match body.dropWhile (· != '=') with
    | [] => .long body none
    | _ :: value => .long (body.takeWhile (· != '=')) (some value)
  | '-' :: first :: _ => .short first
  | _ => .path

/-! ## Reading the arguments -/

/-- What the arguments so far have set: the flags in the order in which they are given, the path,
and whether options may still follow. -/
structure Settings where
  given : List Switch
  path : Option String
  optionsEnded : Bool

namespace Settings

/-- Nothing is set at first. -/
def initial : Settings :=
  ⟨[], none, false⟩

/-- The flags that are set. -/
def flags (settings : Settings) : Flags :=
  ⟨settings.given.contains .tokens, settings.given.contains .tree⟩

/-- Takes an argument for the path. -/
def withPath (settings : Settings) (path : String) : Except UsageError Settings :=
  match settings.path with
  | none => .ok { settings with path := some path }
  | some _ => .error (.secondPath path)

/-- Refuses an empty path, which is noticed with the next switch or at the end. -/
def checkPath (settings : Settings) : Except UsageError Unit :=
  if settings.path = some "" then .error .emptyPath else .ok ()

/-- Sets a flag that is not yet set. -/
def withFlag (settings : Settings) (flag : Switch) : Except UsageError Settings :=
  if flag ∈ settings.given then .error (.repeatedOption flag)
  else .ok { settings with given := settings.given ++ [flag] }

/-- The usage shown for a name that no switch has: the flags given so far and the switch that may
be meant, as if it had been given. -/
def usageWith (settings : Settings) (similar : Option Switch) : Usage :=
  let added := similar.toList.filter (· ∉ settings.given)
  .ofCall (settings.given ++ added) settings.path.isSome

/-- The usage shown for a switch with a value. The path and the flags form one choice, which is
shown as a whole once a flag has been given. -/
def usageOf (settings : Settings) (switch : Switch) : Usage :=
  if settings.given.isEmpty then .withSwitches [switch] false
  else .withChoice (if switch.request?.isSome then [switch] else [])

/-- The error for a name that no switch has. -/
def unknownName (settings : Settings) (name : List Char) : UsageError :=
  let similar := Switch.similar? name
  .unknownOption (String.ofList ('-' :: '-' :: name)) similar (settings.usageWith similar)

end Settings

/-- What a switch means: a request, or a change of settings. -/
def applySwitch (settings : Settings) (switch : Switch) :
    Except UsageError (Request ⊕ Settings) := do
  settings.checkPath
  match switch.request? with
  | some request => pure (.inl request)
  | none => .inr <$> settings.withFlag switch

/-- What a long option means. None takes a value. -/
def longOption (settings : Settings) (name : List Char) (value : Option (List Char)) :
    Except UsageError (Request ⊕ Settings) :=
  match Switch.ofName? name, value with
  | none, _ => .error (settings.unknownName name)
  | some switch, some value =>
    .error (.unexpectedValue switch (String.ofList value) (settings.usageOf switch))
  | some switch, none => applySwitch settings switch

/-- What a short option means. -/
def shortOption (settings : Settings) (first : Char) : Except UsageError (Request ⊕ Settings) :=
  match first with
  | 'h' => applySwitch settings .help
  | 'V' => applySwitch settings .version
  | _ => .error (.unknownOption (String.ofList ['-', first]) none .general)

/-- What the remaining arguments ask for, given what those before them have set. -/
def requestFrom (settings : Settings) : List String → Except UsageError Request
  | [] => do
    settings.checkPath
    pure (.evaluate settings.flags settings.path)
  | argument :: rest => do
    if settings.optionsEnded then
      requestFrom (← settings.withPath argument) rest
    else
      match Argument.ofText argument.toList with
      | .optionsEnd => requestFrom { settings with optionsEnded := true } rest
      | .path => requestFrom (← settings.withPath argument) rest
      | .long name value =>
        match ← longOption settings name value with
        | .inl request => pure request
        | .inr settings => requestFrom settings rest
      | .short first =>
        match ← shortOption settings first with
        | .inl request => pure request
        | .inr settings => requestFrom settings rest

/-- What the arguments of the program ask for. -/
def request (arguments : List String) : Except UsageError Request :=
  requestFrom .initial arguments

/-! ## Texts -/

/-- The name and version of the program. -/
def versionText : String := "lox 0.1.0\n"

/-- What the program does and which options it takes. -/
def helpText : String :=
  "Evaluates expressions from a file, or interactively when no file is given\n\n" ++
  Usage.general.text ++ "\n\n" ++
  "Arguments:\n" ++
  "  [PATH]  Path to a source file. Starts a prompt when omitted\n\n" ++
  "Options:\n" ++
  "      --tokens   Print every scanned token before parsing\n" ++
  "      --ast      Print the parsed expression tree before evaluating\n" ++
  "  -h, --help     Print help\n" ++
  "  -V, --version  Print version\n"

/-- The last line of every usage error. -/
def helpHint : String := "For more information, try '--help'.\n"

namespace UsageError

/-- What is wrong with the arguments. -/
def summary : UsageError → String
  | .unknownOption option _ _ => s!"unexpected argument '{Text.withoutControls option}' found"
  | .secondPath path => s!"unexpected argument '{Text.withoutControls path}' found"
  | .repeatedOption switch => s!"the argument '{switch.spelling}' cannot be used multiple times"
  | .unexpectedValue switch value _ =>
    s!"unexpected value '{Text.withoutControls value}' for '{switch.spelling}' found; " ++
      "no more were expected"
  | .emptyPath => "a value is required for '[PATH]' but none was supplied"

/-- What may have been meant by an option that is unknown. -/
def tip? : UsageError → Option String
  | .unknownOption _ (some switch) _ => some s!"a similar argument exists: '{switch.spelling}'"
  | .unknownOption option none _ =>
    let option := Text.withoutControls option
    some s!"to pass '{option}' as a value, use '-- {option}'"
  | _ => none

/-- How the program may be called instead. -/
def usage? : UsageError → Option Usage
  | .unknownOption _ _ usage => some usage
  | .unexpectedValue _ _ usage => some usage
  | .emptyPath => none
  | _ => some .general

/-- A usage error as it is printed: its parts are set apart by empty lines. -/
def message (e : UsageError) : String :=
  "\n\n".intercalate <|
    ["error: " ++ e.summary] ++
    (e.tip?.map ("  tip: " ++ ·)).toList ++
    (e.usage?.map Usage.text).toList ++
    [helpHint]

end UsageError

end Reckon.CommandLine
