import Squitter.Machine.Trial

/-!
# The program

The program runs a session on a machine that holds what the real computer has: the standard input,
and the files that the endpoints name. When the session is over, what it wrote is put back.
-/

namespace Squitter

/-- Read a stream to its end. -/
partial def readToEnd (stream : IO.FS.Stream) (done : Bytes) : IO Bytes := do
  let chunk ← stream.read 65536
  if chunk.isEmpty then return done else readToEnd stream (done ++ chunk.toList)

/-- A machine with the files of a plan. -/
def stock (plan : Plan) : IO Machine := do
  let chance ← IO.rand 0 (1 <<< 62)
  let mut m := { Machine.boot false with chance := .ofNat chance }
  for (path, _) in plan.files do
    try
      m := m.addFile path (← IO.FS.readBinFile path).toList
    catch _ => pure ()
  return m

/-- Put the files that a plan writes back. -/
def store (plan : Plan) (m : Machine) : IO Unit := do
  for (path, mode) in plan.files do
    if mode ≠ .read then
      if let some data := m.files.contentAt? path then
        IO.FS.writeBinFile path ⟨data.toArray⟩

/-- Tell what happened. -/
def report (plan : Plan) (outcome : Outcome) : IO Unit := do
  if let .refused e := plan then IO.eprintln ("error: " ++ e.message)
  for e in outcome.errors do IO.eprintln ("ERROR " ++ e.message)
  for n in outcome.notices do IO.eprintln (" INFO " ++ n.message)

end Squitter

open Squitter in
def main (arguments : List String) : IO UInt32 := do
  let plan := Plan.make arguments (← IO.getEnv maxHopsVariable)
  let input ← if plan.readsInput then readToEnd (← IO.getStdin) [] else pure []
  let (m, far) := (← stock plan).withInput input
  let (outcome, m) := plan.carryOut Trial.sessionTurns m
  let output ← IO.getStdout
  output.putStr outcome.printed
  output.write ⟨(((m.socket? far).map (·.inbox)).getD []).toArray⟩
  output.flush
  store plan m
  report plan outcome
  return outcome.status
