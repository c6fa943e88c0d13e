import Squitter.Error
import Squitter.Text.Blank

/-!
# Endpoints

An **endpoint** (`Endpoint`) is one input or output of the bus: a **target** that provides byte
streams, and the **role** these streams play. Endpoints are given as a flag with a value; the flag
names a **carrier** and a direction, and the value gives a format, if the endpoint sends, and the
target. A value that does not have its flag's form is refused.
-/

namespace Squitter

/-! ## Roles and targets -/

/-- What is done with the streams of an endpoint. -/
inductive Role
  | receive
  | send (format : Format)
  | sendReceive (format : Format)
deriving DecidableEq

namespace Role

/-- Packets are read from the streams. -/
def receives : Role → Bool
  | receive => true
  | send _ => false
  | sendReceive _ => true

/-- The format in which packets are written to the streams. -/
def sendFormat? : Role → Option Format
  | receive => none
  | send f => some f
  | sendReceive f => some f

end Role

/-- How a file is opened. -/
inductive FileMode
  | read
  /-- Created if need be, and emptied. -/
  | write
  /-- Created if need be, and written at its end. -/
  | append
deriving DecidableEq

/-- Where byte streams come from. -/
inductive Target
  | connect (host port : String)
  | listen (host : Option String) (port : String)
  | file (path : String) (mode : FileMode)
  | exec (command : String)
  | stdin
  | stdout
deriving DecidableEq

/-- An input or output of the bus. -/
structure Endpoint where
  role : Role
  target : Target
deriving DecidableEq

/-! ## Flags -/

/-- The kinds of target, as flags name them. -/
inductive Carrier
  | connect
  | listen
  | file (mode : FileMode)
  | exec
  | stdin
  | stdout
deriving DecidableEq

/-- The direction of an endpoint, as flags name it. -/
inductive Direction
  | receive
  | send
  | sendReceive
deriving DecidableEq

/-- A flag that gives an endpoint. -/
structure Flag where
  name : String
  carrier : Carrier
  direction : Direction
deriving DecidableEq

namespace Flag

/-- The flags, in the order in which their endpoints are set up. -/
def all : List Flag :=
  [⟨"connect-receive", .connect, .receive⟩,
    ⟨"connect-send", .connect, .send⟩,
    ⟨"connect-send-receive", .connect, .sendReceive⟩,
    ⟨"listen-receive", .listen, .receive⟩,
    ⟨"listen-send", .listen, .send⟩,
    ⟨"listen-send-receive", .listen, .sendReceive⟩,
    ⟨"file-read", .file .read, .receive⟩,
    ⟨"file-write", .file .write, .send⟩,
    ⟨"file-write-read", .file .write, .sendReceive⟩,
    ⟨"file-append", .file .append, .send⟩,
    ⟨"file-append-read", .file .append, .sendReceive⟩,
    ⟨"exec-receive", .exec, .receive⟩,
    ⟨"exec-send", .exec, .send⟩,
    ⟨"exec-send-receive", .exec, .sendReceive⟩,
    ⟨"stdin", .stdin, .receive⟩,
    ⟨"stdout", .stdout, .send⟩]

/-- The flag with the given name. -/
def ofName? (name : String) : Option Flag :=
  all.find? fun f => f.name = name

end Flag

/-! ## Values -/

/-- A text cut at the first occurrence of a character, which is dropped. -/
def cut? (c : Char) (text : String) : Option (String × String) :=
  let cs := text.toList
  match cs.dropWhile (· ≠ c) with
  | [] => none
  | _ :: rest => some (String.ofList (cs.takeWhile (· ≠ c)), String.ofList rest)

/-- The format with the given name. -/
def Format.named (name : String) : Except ValueError Format :=
  match ofName? name with
  | some f => .ok f
  | none => .error (.unknownFormat name)

/-- The role that a value gives to an endpoint, and the rest of the value. -/
def Flag.role (f : Flag) (value : String) : Except ValueError (Role × String) :=
  match f.direction with
  | .receive => .ok (.receive, value)
  | .send =>
    if f.carrier = .stdout then do return (.send (← Format.named value), "")
    else
      match cut? '=' value with
      | none => .error .noFormat
      | some (name, rest) => do return (.send (← Format.named name), rest)
  | .sendReceive =>
    match cut? '=' value with
    | none => .error .noFormat
    | some (name, rest) => do return (.sendReceive (← Format.named name), rest)

/-- The target that the rest of a value gives to an endpoint. -/
def Carrier.target (c : Carrier) (rest : String) : Except ValueError Target :=
  match c with
  | .connect =>
    match cut? '/' rest with
    | none => .error .noHostPort
    | some (host, port) =>
      if host = "" ∨ port = "" then .error .noHostPort else .ok (.connect host port)
  | .listen =>
    let (host, port) := match cut? '/' rest with
      | some (host, port) => (some host, port)
      | none => (none, rest)
    if port = "" then .error .noPort else .ok (.listen host port)
  | .file mode => if rest = "" then .error .noPath else .ok (.file rest mode)
  | .exec => if rest.toList.all Text.isBlank then .error .noCommand else .ok (.exec rest)
  | .stdin => .ok .stdin
  | .stdout => .ok .stdout

namespace Endpoint

/-- The endpoint that a value gives to a flag. -/
def ofValue (f : Flag) (value : String) : Except ValueError Endpoint := do
  let (role, rest) ← f.role value
  let target ← f.carrier.target rest
  return ⟨role, target⟩

/-- The endpoint given by a flag's name and its value. -/
def parse (flag value : String) : Except ConfigError Endpoint :=
  match Flag.ofName? flag with
  | none => .error (.unknownFlag flag)
  | some f =>
    match ofValue f value with
    | .ok e => .ok e
    | .error why => .error (.badValue flag value why)

end Endpoint

end Squitter
