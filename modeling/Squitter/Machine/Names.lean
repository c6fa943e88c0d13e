import Squitter.Resolver

/-!
# The names that a machine knows

A machine in memory is not told the names of other computers: a host has an address on it if it is
given in numbers, and else none.
-/

namespace Squitter

/-- The IP address of a host that is given in numbers. -/
def Ip.ofHost (host : String) : Except IoError Ip :=
  let cs := host.toList
  match Ip.v4? cs <|> Ip.v6? cs with
  | some ip => .ok ip
  | none =>
    if cs.contains '\x00' then .error .nulInName
    else
      match Ip.loose? cs with
      | some ip => .ok ip
      | none => .error .unknownHost

/-- What a machine knows of names. -/
def Machine.names : NameService := fun host port =>
  (Ip.ofHost host).map fun ip => [⟨ip, port⟩]

/-- The addresses that answer a question on a machine. -/
def Query.addresses (q : Query) : Answer := q.answer Machine.names

/-- One step of each worker on a machine. -/
def Resolver.round (r : Resolver) : Resolver :=
  (List.range r.workers.length).foldl (fun r w => r.step Machine.names w) r

end Squitter
