import Squitter.Endpoint
import Squitter.Server
import Squitter.Settings

/-!
# The command line

The arguments of the program are options. A **switch** stands alone; a **setting** has a value,
which is the rest of its argument after an equals sign, or the next argument if that is no
option. Options are read from left to right (`CommandLine.read`) until one is wrong or asks for
the help text or the version. `Plan.make` is what the program is to do: to print something, to
refuse, or to run the bus.
-/

namespace Squitter

/-! ## Options -/

/-- An option that stands alone. -/
inductive Switch
  | stdin
  | quiet
  | timestamps
  | help
  | version
deriving DecidableEq

namespace Switch

/-- The switch with a name. -/
def ofName? (name : String) : Option Switch :=
  match name with
  | "stdin" => some stdin
  | "quiet" => some quiet
  | "log-timestamps" => some timestamps
  | "help" => some help
  | "version" => some version
  | _ => none

/-- The switch with a short name. -/
def ofLetter? (letter : Char) : Option Switch :=
  match letter with
  | 'q' => some quiet
  | 'h' => some help
  | 'V' => some version
  | _ => none

end Switch

/-- An option with a value. -/
inductive Setting
  | endpoint (flag : Flag)
  | maxHops
  | resolverThreads
deriving DecidableEq

/-- The setting with a name. -/
def Setting.ofName? (name : String) : Option Setting :=
  match name with
  | "max-hops" => some maxHops
  | "resolver-threads" => some resolverThreads
  | "stdin" => none
  | _ => (Flag.ofName? name).map endpoint

/-- Why the arguments are refused. -/
inductive UsageError
  | unexpected (argument : String)
  | noValue (option : String)
  | unwantedValue (option : String)
  | repeated (option : String)
  | badNumber (option value : String)
deriving DecidableEq

/-- The wording of a refusal. -/
def UsageError.message : UsageError → String
  | unexpected argument => "unexpected argument '" ++ argument ++ "'"
  | noValue option => "a value is required for '--" ++ option ++ "'"
  | unwantedValue option => "no value is allowed for '--" ++ option ++ "'"
  | repeated option => "'--" ++ option ++ "' cannot be used more than once"
  | badNumber option value => "invalid value '" ++ value ++ "' for '--" ++ option ++ "'"

/-! ## Reading arguments -/

/-- What was read from the arguments. -/
structure CommandLine where
  /-- The endpoints in the order of the arguments. -/
  endpoints : List (Flag × String)
  maxHops : Option UInt16
  resolverThreads : Option UInt16
  quiet : Bool
  timestamps : Bool
deriving DecidableEq

/-- Why reading ends before all is read. -/
inductive Halt
  | help
  | version
  | refused (e : UsageError)
deriving DecidableEq

namespace CommandLine

/-- No arguments. -/
def empty : CommandLine := ⟨[], none, none, false, false⟩

/-- A number from 1 to 65535 with an optional plus sign. -/
def count? (text : String) : Option UInt16 :=
  match Decimal.read? 0xFFFF (utf8 text) with
  | some (n + 1) => some (.ofNat (n + 1))
  | _ => none

/-- Only the endpoints of the standard streams cannot be given more than once. -/
def isSingle (f : Flag) : Bool := f.carrier = .stdin ∨ f.carrier = .stdout

/-- Add an endpoint. -/
def addEndpoint (c : CommandLine) (f : Flag) (value : String) : Except Halt CommandLine :=
  if isSingle f ∧ c.endpoints.any (·.1 = f) then .error (.refused (.repeated f.name))
  else .ok { c with endpoints := c.endpoints ++ [(f, value)] }

/-- Turn a switch on. -/
def turnOn (c : CommandLine) : Switch → Except Halt CommandLine
  | .help => .error .help
  | .version => .error .version
  | .stdin => c.addEndpoint ⟨"stdin", .stdin, .receive⟩ ""
  | .quiet =>
    if c.quiet then .error (.refused (.repeated "quiet")) else .ok { c with quiet := true }
  | .timestamps =>
    if c.timestamps then .error (.refused (.repeated "log-timestamps"))
    else .ok { c with timestamps := true }

/-- Read a number for an option that was not given before. -/
def number (option value : String) (given : Option UInt16) : Except Halt UInt16 :=
  match given, count? value with
  | some _, _ => .error (.refused (.repeated option))
  | none, none => .error (.refused (.badNumber option value))
  | none, some n => .ok n

/-- Give a setting its value. -/
def set (c : CommandLine) (s : Setting) (value : String) : Except Halt CommandLine :=
  match s with
  | .endpoint f => c.addEndpoint f value
  | .maxHops => do return { c with maxHops := some (← number "max-hops" value c.maxHops) }
  | .resolverThreads => do
    return { c with
      resolverThreads := some (← number "resolver-threads" value c.resolverThreads) }

/-- An argument by its form. -/
inductive Form
  /-- The mark after which there are no options. -/
  | mark
  | long (name : String) (value : Option String)
  | short (letters : List Char)
  | plain
deriving DecidableEq

/-- The form of an argument. -/
def Form.of (argument : String) : Form :=
  match argument.toList with
  | ['-'] => plain
  | ['-', '-'] => mark
  | '-' :: '-' :: rest =>
    match cut? '=' (String.ofList rest) with
    | some (name, value) => long name (some value)
    | none => long (String.ofList rest) none
  | '-' :: letters => short letters
  | _ => plain

/-- Turn on a switch by its short name. -/
def turnOnLetter (c : CommandLine) (letter : Char) : Except Halt CommandLine :=
  match Switch.ofLetter? letter with
  | some s => c.turnOn s
  | none => .error (.refused (.unexpected (String.ofList ['-', letter])))

/-- Read arguments from left to right. -/
def read (c : CommandLine) : List String → Except Halt CommandLine
  | [] => .ok c
  | argument :: rest =>
    match Form.of argument with
    | .plain => .error (.refused (.unexpected argument))
    | .mark =>
      match rest with
      | [] => .ok c
      | next :: _ => .error (.refused (.unexpected next))
    | .short letters => do read (← letters.foldlM turnOnLetter c) rest
    | .long name (some value) =>
      match Setting.ofName? name, Switch.ofName? name with
      | some s, _ => do read (← c.set s value) rest
      | none, some _ => .error (.refused (.unwantedValue name))
      | none, none => .error (.refused (.unexpected argument))
    | .long name none =>
      match Switch.ofName? name, Setting.ofName? name with
      | some s, _ => do read (← c.turnOn s) rest
      | none, none => .error (.refused (.unexpected argument))
      | none, some s =>
        match rest with
        | [] => .error (.refused (.noValue name))
        | value :: rest =>
          if Form.of value = .plain then do read (← c.set s value) rest
          else .error (.refused (.noValue name))

/-- The endpoints, ordered by their flags. -/
def ordered (c : CommandLine) : List (Flag × String) :=
  Flag.all.flatMap fun f => c.endpoints.filter (·.1 = f)

end CommandLine

/-! ## What is to be done -/

/-- What the program is to do. -/
inductive Plan
  | help
  | version
  | refused (e : UsageError)
  /-- No endpoints are given. -/
  | nothing
  | misconfigured (e : ConfigError)
  | run (endpoints : List Endpoint) (settings : Settings) (quiet timestamps : Bool)
deriving DecidableEq

namespace Plan

/-- What the arguments and the hop limit of the environment ask for. Endpoints are looked at before
the environment, which must be right even if the arguments give a hop limit as well. -/
def make (arguments : List String) (maxHops : Option String) : Plan :=
  match CommandLine.empty.read arguments with
  | .error .help => help
  | .error .version => version
  | .error (.refused e) => refused e
  | .ok c =>
    match c.ordered.mapM fun (f, value) => Endpoint.parse f.name value with
    | .error e => misconfigured e
    | .ok [] => nothing
    | .ok endpoints =>
      match Settings.ofEnvironment maxHops with
      | .error e => misconfigured e
      | .ok settings =>
        run endpoints
          { settings with
            maxHops := c.maxHops.getD settings.maxHops
            resolverThreads := (c.resolverThreads.map UInt16.toNat).getD settings.resolverThreads }
          c.quiet c.timestamps

/-- The line with the version. -/
def versionLine : String := "adsbus " ++ versionNumber ++ "\n"

/-- The help text. -/
def helpText : String :=
  "ADS-B message bus\n\nUsage: adsbus [OPTIONS]\n\nEndpoints:\n" ++
    String.join (Flag.all.map fun f => "      --" ++ f.name ++ "\n") ++
    "\nOptions:\n      --max-hops\n      --resolver-threads\n  -q, --quiet\n" ++
    "      --log-timestamps\n  -h, --help\n  -V, --version\n"

/-- The files of the endpoints. -/
def files : Plan → List (String × FileMode)
  | run endpoints _ _ _ => endpoints.filterMap fun e =>
    match e.target with
    | .file path mode => some (path, mode)
    | _ => none
  | _ => []

/-- The standard input is read. -/
def readsInput : Plan → Bool
  | run endpoints _ _ _ => endpoints.any fun e => e.target = .stdin
  | _ => false

end Plan

end Squitter
