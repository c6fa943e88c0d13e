import Squitter.Host
import Squitter.Table
import Squitter.Timers

/-!
# The reactor

The **reactor** (`Reactor`) knows what is watched and what is due. What is watched has a number, its
**token**, and a **route** that says what it is for. Some things cannot be watched because they are
always ready; they have a token and a route as well.

One **turn** waits, then calls back in three phases: signals; what is ready, in the order in which
it was reported and then the always-ready by token, each only if it is still registered; and work
that is due when the second phase ends. What is registered by a callback waits for the next turn.

The third phase goes on while there is work whose deadline is not after the time when the phase
began. Clocks go on while callbacks run, so what a callback schedules is due later and waits for
another turn. Here the clock stands still between two looks at it, and the phase is bounded instead,
by the number of entries that are due when it begins. The bound is the model's own.
-/

namespace Squitter

/-- What is watched and what is due. -/
structure Reactor (ρ ω : Type) where
  watched : Table ρ
  alwaysReady : Table ρ
  timers : Timers ω
  nextToken : Nat
  stopped : Bool

namespace Reactor

variable {ρ ω σ : Type}

/-- Nothing is watched; the first token is 2. -/
def fresh : Reactor ρ ω := ⟨.empty, .empty, .empty, 2, false⟩

instance : Inhabited (Reactor ρ ω) := ⟨fresh⟩

/-- What is registered under a token. -/
def route? (r : Reactor ρ ω) (token : Nat) : Option ρ :=
  (r.watched.get? token).or (r.alwaysReady.get? token)

/-- Something is registered under the token. -/
def isRegistered (r : Reactor ρ ω) (token : Nat) : Bool :=
  r.watched.contains token ∨ r.alwaysReady.contains token

/-! ## Registering -/

/-- Watch a handle under a new token. The token is used up even if the handle cannot be watched, in
which case there is none. -/
def tryRegister [Poller σ] (r : Reactor ρ ω) (handle : Nat) (interest : Interest) (route : ρ)
    (host : σ) : Except IoError (Option Nat) × Reactor ρ ω × σ :=
  let token := r.nextToken
  let r := { r with nextToken := token + 1 }
  match Poller.watch handle interest token host with
  | (.error e, host) => (.error e, r, host)
  | (.ok false, host) => (.ok none, r, host)
  | (.ok true, host) => (.ok (some token), { r with watched := r.watched.insert token route }, host)

/-- Watch a handle under a new token, or keep it as always ready under yet another one. -/
def register [Poller σ] (r : Reactor ρ ω) (handle : Nat) (interest : Interest) (route : ρ)
    (host : σ) : Except IoError Nat × Reactor ρ ω × σ :=
  match r.tryRegister handle interest route host with
  | (.error e, r, host) => (.error e, r, host)
  | (.ok (some token), r, host) => (.ok token, r, host)
  | (.ok none, r, host) =>
    let token := r.nextToken
    (.ok token,
      { r with nextToken := token + 1, alwaysReady := r.alwaysReady.insert token route }, host)

/-- Watch no longer. -/
def unregister [Poller σ] (r : Reactor ρ ω) (token : Nat) (host : σ) : Reactor ρ ω × σ :=
  let host := if r.watched.contains token then Poller.unwatch token host else host
  ({ r with watched := r.watched.erase token, alwaysReady := r.alwaysReady.erase token }, host)

/-- Schedule work after a delay. -/
def schedule [Poller σ] (r : Reactor ρ ω) (delay : Nat) (work : ω) (host : σ) : Reactor ρ ω :=
  { r with timers := r.timers.schedule (Poller.now host + delay) work }

/-- End the loop after this turn. -/
def stop (r : Reactor ρ ω) : Reactor ρ ω := { r with stopped := true }

end Reactor

/-! ## The loop -/

/-- A program that runs on a reactor: its own state, the reactor, and the computer. -/
structure Running (α ρ ω σ : Type) where
  state : α
  reactor : Reactor ρ ω
  host : σ

/-- What a program does when it is called back. -/
structure Handler (α ρ ω σ : Type) where
  onReady : ρ → Readiness → Running α ρ ω σ → Running α ρ ω σ
  onDue : ω → Running α ρ ω σ → Running α ρ ω σ
  /-- A signal that does not end the loop. -/
  onSignal : Signal → Running α ρ ω σ → Running α ρ ω σ
  /-- There is something left to do. -/
  live : α → Bool

namespace Handler

variable {α ρ ω σ : Type} [Poller σ]

/-- How long to wait: not at all if something is always ready, else until work is due. -/
def patience (r : Running α ρ ω σ) : Option Nat :=
  if r.reactor.alwaysReady.isEmpty then r.reactor.timers.remaining? (Poller.now r.host) else some 0

/-- Act on a signal: two of them end the loop. -/
def signalled (h : Handler α ρ ω σ) (r : Running α ρ ω σ) : Signal → Running α ρ ω σ
  | .interrupt => { r with reactor := r.reactor.stop }
  | .terminate => { r with reactor := r.reactor.stop }
  | .child => h.onSignal .child r

/-- What is called back in a turn, in order, from what was reported ready. -/
def callbacks (reactor : Reactor ρ ω) (reported : List (Nat × Readiness)) :
    List (Nat × ρ × Readiness) :=
  (reported.filterMap fun (token, readiness) =>
    (reactor.watched.get? token).map fun route => (token, route, readiness)) ++
  reactor.alwaysReady.entries.map fun (token, route) => (token, route, .always)

/-- Call back for one token, if an earlier callback has not unregistered it. -/
def ready (h : Handler α ρ ω σ) (r : Running α ρ ω σ) (c : Nat × ρ × Readiness) :
    Running α ρ ω σ :=
  if r.reactor.isRegistered c.1 then h.onReady c.2.1 c.2.2 r else r

/-- Do work while some is due, a number of times at most. -/
def fire (h : Handler α ρ ω σ) (now : Nat) : Nat → Running α ρ ω σ → Running α ρ ω σ
  | 0, r => r
  | n + 1, r =>
    match r.reactor.timers.pop? now with
    | none => r
    | some (work, timers) =>
      fire h now n (h.onDue work { r with reactor := { r.reactor with timers } })

/-- One turn, waiting for at most the given time. Of the work, as many pieces are done as are due
when its phase begins. -/
def turn (h : Handler α ρ ω σ) (limit : Option Nat) (r : Running α ρ ω σ) : Running α ρ ω σ :=
  let wait := match limit, patience r with
    | some a, some b => some (min a b)
    | a, b => a.or b
  let (polled, host) := Poller.poll wait r.host
  let calls := callbacks r.reactor polled.ready
  let r := polled.signals.foldl h.signalled { r with host }
  let r := calls.foldl h.ready r
  let now := Poller.now r.host
  h.fire now (r.reactor.timers.countDue now) r

/-- The loop goes on: nothing has stopped it, and there is something left to do. -/
def goesOn (h : Handler α ρ ω σ) (r : Running α ρ ω σ) : Bool :=
  ¬ r.reactor.stopped ∧ h.live r.state

/-- Turn while the loop goes on, a number of times at most; the result counts the turns. -/
def run (h : Handler α ρ ω σ) (limit : Option Nat) : Nat → Running α ρ ω σ → Nat × Running α ρ ω σ
  | 0, r => (0, r)
  | n + 1, r =>
    if h.goesOn r then
      let (turns, r) := h.run limit n (h.turn limit r)
      (turns + 1, r)
    else (0, r)

end Handler

end Squitter
