import Squitter.Address
import Squitter.CommandLine
import Squitter.Proofs.Endpoints.Values

/-!
# The addresses that endpoints ask for

An endpoint of a connection or a listener asks the name service for addresses (`Target.query?`), and
asks again after a delay when it gets none. What it asks for is settled when the program starts:
which host, if any, and which port.

**The result** (`Endpoint.accepted_addresses`). What the program starts with are endpoints that were
read from the values of flags (`Plan.exists_parse_of_make`), and each of these has a port. One that
connects has a host as well. One that listens may do without, but of a host that is given only the
slash behind it is looked for: exactly a slash with a port behind it is accepted with an empty host
(`Endpoint.empty_host_accepted`).
-/

namespace Squitter

/-! ## Questions -/

/-- The question that is asked for the addresses of a target. -/
def Target.query? : Target → Option Query
  | .connect host port => some ⟨some host, port, false⟩
  | .listen host port => some ⟨host, port, true⟩
  | _ => none

/-! ## What is known of a question -/

/-- What is known of the question of a target that was read from a flag's value. -/
structure Target.Asks (t : Target) (q : Query) : Prop where
  port : q.port ≠ ""
  /-- Whoever connects names a host. -/
  connects : q.passive = false → ∃ host, q.host = some host ∧ host ≠ ""
  /-- Whoever listens names an empty host by a slash that has nothing in front of it. -/
  listens : q.host = some "" ↔ q.passive = true ∧ t.text = "/" ++ q.port

/-- A text does not end in itself with a slash in front. -/
theorem ne_slash_append (text : String) : text ≠ "/" ++ text := by
  intro h
  have hlength := congrArg String.length h
  rw [String.length_append] at hlength
  exact absurd hlength (by have : "/".length = 1 := rfl; omega)

theorem host_append_eq_slash_append_iff {host port : String} :
    host ++ "/" ++ port = "/" ++ port ↔ host = "" := by
  constructor
  · intro h
    have hlength := congrArg String.length h
    simp only [String.length_append] at hlength
    exact String.length_eq_zero_iff.1 (by omega)
  · rintro rfl
    rfl

/-- **What a text that is accepted asks for.** -/
theorem Carrier.Spells.asks {c : Carrier} {text : String} {t : Target} {q : Query}
    (h : c.Spells text t) (hq : t.query? = some q) : t.Asks q := by
  cases h with
  | connect hslash hhost hport =>
    cases hq
    exact
      { port := hport
        connects := fun _ => ⟨_, rfl, hhost⟩
        listens := iff_of_false (fun heq => hhost (Option.some.inj heq)) nofun }
  | listen hslash hport =>
    cases hq
    exact
      { port := hport
        connects := nofun
        listens := iff_of_false nofun fun ⟨_, heq⟩ => ne_slash_append _ heq }
  | listenOn hslash hport =>
    cases hq
    refine { port := hport, connects := nofun, listens := ?_ }
    rw [Option.some.injEq, ← host_append_eq_slash_append_iff]
    exact (and_iff_right rfl).symm
  | file => cases hq
  | exec => cases hq
  | stdin => cases hq
  | stdout => cases hq

/-! ## What the program starts with -/

theorem exists_of_mapM_eq_ok {ε α β : Type} {g : α → Except ε β} {xs : List α} {ys : List β} {y : β}
    (h : xs.mapM g = .ok ys) (hy : y ∈ ys) : ∃ x ∈ xs, g x = .ok y := by
  induction xs generalizing ys with
  | nil =>
    cases h
    cases hy
  | cons x xs ih =>
    rw [List.mapM_cons] at h
    obtain ⟨y', hfirst, h⟩ := bind_eq_ok_iff.1 h
    obtain ⟨ys', hrest, h⟩ := bind_eq_ok_iff.1 h
    cases h
    rcases List.mem_cons.1 hy with rfl | hlater
    · exact ⟨x, List.mem_cons_self, hfirst⟩
    · obtain ⟨x', hx', hlast⟩ := ih hrest hlater
      exact ⟨x', List.mem_cons_of_mem x hx', hlast⟩

/-- **The program starts with endpoints that were read** from the values of
flags, and with no others. -/
theorem Plan.exists_parse_of_make {arguments : List String} {maxHops : Option String}
    {endpoints : List Endpoint} {settings : Settings} {quiet timestamps : Bool} {e : Endpoint}
    (h : make arguments maxHops = .run endpoints settings quiet timestamps) (he : e ∈ endpoints) :
    ∃ flag value, Endpoint.parse flag value = .ok e := by
  unfold make at h
  split at h
  · cases h
  · cases h
  · cases h
  · split at h
    · cases h
    · cases h
    · rename_i c _ _ _ hread
      split at h
      · cases h
      · cases h
        obtain ⟨⟨f, value⟩, -, hparse⟩ := exists_of_mapM_eq_ok hread he
        exact ⟨f.name, value, hparse⟩

namespace Endpoint

/-- Every flag of a listener takes a slash with any port behind it. -/
theorem parse_slash_port {f : Flag} {value port : String} {r : Role} (hf : f ∈ Flag.all)
    (hlisten : f.carrier = .listen) (hgives : f.Gives value r ("/" ++ port)) (hport : port ≠ "") :
    parse f.name value = .ok ⟨r, .listen (some "") port⟩ := by
  refine parse_eq_ok_iff.2 ⟨f, hf, rfl, "/" ++ port, hgives, ?_⟩
  have hspells : Carrier.Spells .listen ("" ++ "/" ++ port) (.listen (some "") port) :=
    .listenOn List.not_mem_nil hport
  rw [host_append_eq_slash_append_iff.2 rfl] at hspells
  exact hlisten ▸ hspells

/-- **Addresses are complete, but for the hosts of listeners.** An endpoint that is accepted has a
port, and a host if it connects. Neither is empty, unless it listens and a slash comes first in its
value, behind the format. Every such value with a port is accepted. -/
theorem accepted_addresses (flag value : String) :
    (∀ e q, parse flag value = .ok e → e.target.query? = some q →
      e.target.Asks q ∧
      (q.host ≠ some "" ∧ q.port ≠ "" ↔ ¬ (q.passive = true ∧ e.target.text = "/" ++ q.port))) ∧
    ∀ f ∈ Flag.all, f.name = flag → f.carrier = .listen →
      ∀ r port, f.Gives value r ("/" ++ port) → port ≠ "" →
        parse flag value = .ok ⟨r, .listen (some "") port⟩ := by
  constructor
  · intro e q h hq
    obtain ⟨f, -, -, rest, -, hspells⟩ := parse_eq_ok_iff.1 h
    have hasks := hspells.asks hq
    refine ⟨hasks, ?_⟩
    rw [and_iff_left hasks.port, ne_eq, hasks.listens]
  · rintro f hf rfl hlisten r port hgives hport
    exact parse_slash_port hf hlisten hgives hport

/-- A listener that has a format, and an outgoing connection with a slash in its port. -/
theorem accepted_addresses_slash_first :
    let e : Endpoint := ⟨.send .json, .listen (some "") "30005"⟩
    let e' : Endpoint := ⟨.receive, .connect "a" "/b"⟩
    parse "listen-send" "json=/30005" = .ok e ∧ e.target.Asks ⟨some "", "30005", true⟩ ∧
      parse "connect-receive" "a//b" = .ok e' ∧ some "a" ≠ some "" ∧ "/b" ≠ "" := by
  intro e e'
  obtain ⟨hasks, hslash⟩ := accepted_addresses "listen-send" "json=/30005"
  have hgives :
      Flag.Gives ⟨"listen-send", .listen, .send⟩ "json=/30005" (.send .json) ("/" ++ "30005") :=
    Flag.role_eq_ok_iff.1 (by decide)
  have hparse := hslash _ (by decide) rfl rfl _ _ hgives (by decide)
  have hparse' : parse "connect-receive" "a//b" = .ok e' := by decide
  have hfull := ((accepted_addresses "connect-receive" "a//b").1 e' _ hparse' rfl).2.2 (by decide)
  exact ⟨hparse, (hasks e _ hparse rfl).1, hparse', hfull⟩

/-- **An empty host is accepted** of a listener, with which the program starts, though it is
refused of a connection. -/
theorem empty_host_accepted :
    let e : Endpoint := ⟨.receive, .listen (some "") "30005"⟩
    parse "listen-receive" "/30005" = .ok e ∧
      Plan.make ["--listen-receive=/30005"] none = .run [e] .usual false false ∧
      parse "connect-receive" "/30005" = .error (.badValue "connect-receive" "/30005" .noHostPort) ∧
      ¬ ∀ flag value e q, parse flag value = .ok e → e.target.query? = some q →
        q.host ≠ some "" ∧ q.port ≠ "" := by
  intro e
  have hparse : parse "listen-receive" "/30005" = .ok e := by decide
  exact ⟨hparse, by decide, by decide, fun hall => (hall _ _ _ _ hparse rfl).1 rfl⟩

end Endpoint

end Squitter
