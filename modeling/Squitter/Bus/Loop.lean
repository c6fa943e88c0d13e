import Squitter.Bus.Children
import Squitter.Bus.Connections

/-!
# The bus at work

What the bus does when it is called back, and how endpoints are added. After each callback the
senders that failed in it are closed.
-/

namespace Squitter.Station

variable {σ : Type} [Host σ]

/-! ## Starting transports -/

/-- Open what a source names. -/
def openSource (s : Station σ) (source : Source) (role : Role) :
    Except IoError Stream × Station σ :=
  let (r, host) := match source with
    | .path path mode => Host.openFile path mode role.receives s.host
    | .stdin => Host.openStdin s.host
    | .stdout => Host.openStdout s.host
  (r, s.withHost host)

/-- A source is opened again when its stream is gone, except the standard streams, and a regular
file that was only read, of which the end means that it is used up. -/
def opensAgain (source : Source) (stream : Stream) : Bool :=
  match source with
  | .path _ mode => ¬ (mode = .read ∧ stream.regular)
  | .stdin => false
  | .stdout => false

/-- Open a file. -/
def openFile (s : Station σ) (id : Nat) (role : Role) (source : Source) : Station σ :=
  match s.openSource source role with
  | (.error _, s) => s.ownerClosed id
  | (.ok stream, s) =>
    let s := s.setTransport id ⟨role, 0, .file source (opensAgain source stream)⟩
    match s.attach stream role (some id) with
    | (.error _, s) => s.ownerClosed id
    | (.ok (), s) => s

/-- Make an attempt with a transport that is idle. -/
def start (s : Station σ) (id : Nat) : Station σ :=
  match s.transport? id with
  | none => s
  | some t =>
    match t.mechanism with
    | .outgoing host port .idle => s.resolveOutgoing id host port
    | .incoming host port .idle => s.resolveIncoming id host port
    | .child _ .idle _ => s.spawnChild id
    | .file source _ => s.openFile id t.role source
    | _ => s

/-- Add an endpoint. -/
def addEndpoint (s : Station σ) (e : Endpoint) : Station σ :=
  let (id, s) := s.takeId
  let s := s.withBus fun b => { b with flow := b.flow.add e.role }
  (s.setTransport id (.ofEndpoint e)).start id

/-! ## Callbacks -/

/-- What is watched for a transport is ready. -/
def transportReady (s : Station σ) (id : Nat) : Station σ :=
  match s.transport? id with
  | some ⟨_, _, .outgoing _ _ phase⟩ => s.outgoingReady id phase
  | some ⟨role, _, .incoming _ _ phase⟩ => s.incomingReady id role phase
  | _ => s

/-- Something is ready. -/
def onReady (s : Station σ) (route : Route) : Station σ :=
  closeFailed <|
    match route with
    | .transport id => s.transportReady id
    | .messages id => s.messagesReady id
    | .receive id => s.receiveReady id
    | .send id => s.sendReady id

/-- Work is due. -/
def onDue (s : Station σ) (work : Work) : Station σ :=
  closeFailed <|
    match work with
    | .retry id => s.start id
    | .reap id => s.reapChild id

/-- A signal came. -/
def onSignal (s : Station σ) : Signal → Station σ
  | .child => s.reapAll.closeFailed
  | .interrupt => s
  | .terminate => s

end Squitter.Station

namespace Squitter.Bus

variable {σ : Type} [Host σ]

/-- The bus as a program on a reactor. It has something to do while packets can flow. -/
def handler : Handler Bus Route Work σ where
  onReady route _ s := Station.onReady s route
  onDue work s := Station.onDue s work
  onSignal signal s := Station.onSignal s signal
  live b := b.flow.isLive

end Squitter.Bus
