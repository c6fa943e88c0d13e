import Squitter.Bus.Loop
import Squitter.CommandLine

/-!
# A session

A **session** is one run of the program: what is to be done is found out from the arguments and the
environment, and if that is to run the bus, the bus runs until it is stopped or packets cannot flow
any more. Its **outcome** (`Outcome`) is what others see of it when it is over.
-/

namespace Squitter

/-- A station with the endpoints of a session, which listens to signals. -/
def Station.ofEndpoints {σ : Type} [Host σ] (endpoints : List Endpoint) (settings : Settings)
    (host : σ) : Station σ :=
  let (id, host) := Host.freshId (Poller.hearSignals host)
  endpoints.foldl addEndpoint (fresh settings ⟨id, Server.usualVersion⟩ host)

/-- Let the bus work until it is done, for a number of turns at most. -/
def Station.work {σ : Type} [Host σ] (turns : Nat) (s : Station σ) : Station σ :=
  (Bus.handler.run none turns s).2

/-- What others see of a session, apart from what its streams carried: the status with which the
program ends, the text it prints, the errors it reports, and the notices it gives. -/
structure Outcome where
  status : UInt32
  printed : String
  errors : List Error
  notices : List Notice

namespace Plan

/-- Carry out a plan, for a number of turns at most. Refusals and texts that were not asked for end
with status 1. -/
def carryOut {σ : Type} [Host σ] (plan : Plan) (turns : Nat) (host : σ) : Outcome × σ :=
  match plan with
  | help => (⟨0, helpText, [], []⟩, host)
  | version => (⟨0, versionLine, [], []⟩, host)
  | refused _ => (⟨1, "", [], []⟩, host)
  | nothing => (⟨1, helpText, [], []⟩, host)
  | misconfigured e => (⟨1, "", [.config e], []⟩, host)
  | run endpoints settings quiet _ =>
    let s := (Station.ofEndpoints endpoints settings host).work turns
    (⟨0, "", [], if quiet then [] else s.state.notices⟩, s.host)

end Plan

end Squitter
