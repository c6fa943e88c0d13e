import Mathlib.Data.List.TakeWhile
import Squitter.Endpoint

/-!
# What the values of endpoint flags spell

A target is spelled by its parts (`Carrier.Spells`): a host and a port with a slash between them, a
port alone, a path, or a command. A flag whose endpoint sends has the name of a format and an equals
sign before that (`Flag.Spells`). Names of formats have no equals sign in them, and hosts no slash,
so that the first of each is the one that separates; behind it there may be others.

**The result** (`Endpoint.values_exact`). A value is accepted exactly if it spells an endpoint
in this way. It is then spelled by the parts of that endpoint (`Endpoint.text`), and by
nothing else, except for the standard input, whose value is ignored. Direction and carrier are
those that the words of the flag's name stand for (`Direction.named?`, `Carrier.named?`), and
no other flag is accepted.
-/

namespace Squitter

/-! ## Cutting texts -/

section

variable {c : Char} {text front back : String}

/-- **A text is cut at the first occurrence**, and its parts are all of it. -/
theorem cut?_eq_some_iff :
    cut? c text = some (front, back) ↔
      c ∉ front.toList ∧ text = front ++ String.singleton c ++ back := by
  constructor
  · intro h
    have hsplit := List.takeWhile_append_dropWhile (p := (· ≠ c)) (l := text.toList)
    unfold cut? at h
    dsimp only at h
    split at h
    · cases h
    · rename_i x rest hdrop
      cases h
      -- the first character that was not taken is the one to cut at
      have hx : x = c := by
        have hne : text.toList.dropWhile (· ≠ c) ≠ [] := by rw [hdrop]; exact nofun
        have hhead := List.head_dropWhile_not (· ≠ c) hne
        simp only [hdrop, List.head_cons] at hhead
        exact not_not.1 (of_decide_eq_false hhead)
      rw [hdrop, hx] at hsplit
      constructor
      · rw [String.toList_ofList]
        intro hmem
        simpa using List.mem_takeWhile_imp hmem
      · apply String.toList_inj.1
        simp only [String.toList_append, String.toList_ofList, String.toList_singleton,
          List.append_assoc, List.singleton_append]
        exact hsplit.symm
  · rintro ⟨hfront, rfl⟩
    have hbefore : ∀ x ∈ front.toList, decide (x ≠ c) = true := by
      intro x hx
      exact decide_eq_true fun heq => hfront (heq ▸ hx)
    have hlist : (front ++ String.singleton c ++ back).toList =
        front.toList ++ c :: back.toList := by
      simp only [String.toList_append, String.toList_singleton, List.append_assoc,
        List.singleton_append]
    unfold cut?
    dsimp only
    rw [hlist, List.dropWhile_append_of_pos hbefore, List.takeWhile_append_of_pos hbefore]
    simp

theorem cut?_eq_none_iff : cut? c text = none ↔ c ∉ text.toList := by
  have hnil : text.toList.dropWhile (· ≠ c) = [] ↔ c ∉ text.toList := by
    rw [List.dropWhile_eq_nil_iff]
    constructor
    · intro hall hmem
      simpa using hall c hmem
    · intro hnot x hx
      exact decide_eq_true fun heq => hnot (heq ▸ hx)
  rw [← hnil]
  unfold cut?
  dsimp only
  split <;> rename_i h
  · exact iff_of_true rfl h
  · exact iff_of_false nofun (by rw [h]; exact nofun)

end

/-! ## Steps that may fail -/

/-- What two steps give is what the second one gives on the result of the first. -/
theorem bind_eq_ok_iff {ε α β : Type} {x : Except ε α} {g : α → Except ε β} {b : β} :
    x >>= g = .ok b ↔ ∃ a, x = .ok a ∧ g a = .ok b := by
  cases x with
  | error why => exact iff_of_false nofun (by rintro ⟨a, ⟨⟩, -⟩)
  | ok a =>
    constructor
    · intro h
      exact ⟨a, rfl, h⟩
    · rintro ⟨a, ⟨⟩, h⟩
      exact h

/-! ## Formats -/

namespace Format

/-- The name of a format ends where the equals sign behind it stands. -/
theorem equals_not_mem_name (f : Format) : '=' ∉ f.name.toList := by
  cases f <;> decide

theorem named_eq_ok_iff {text : String} {f : Format} : named text = .ok f ↔ text = f.name := by
  constructor
  · intro h
    unfold named at h
    split at h
    · rename_i g hfind
      cases h
      have hname := List.find?_some hfind
      exact (of_decide_eq_true hname).symm
    · cases h
  · rintro rfl
    cases f <;> rfl

end Format

/-! ## Targets -/

/-- A text **spells** a target for a carrier. -/
inductive Carrier.Spells : Carrier → String → Target → Prop
  | connect {host port : String} (hslash : '/' ∉ host.toList) (hhost : host ≠ "")
    (hport : port ≠ "") :
      Spells .connect (host ++ "/" ++ port) (.connect host port)
  | listen {port : String} (hslash : '/' ∉ port.toList) (hport : port ≠ "") :
      Spells .listen port (.listen none port)
  /-- The host may be empty here. -/
  | listenOn {host port : String} (hslash : '/' ∉ host.toList) (hport : port ≠ "") :
      Spells .listen (host ++ "/" ++ port) (.listen (some host) port)
  | file {path : String} {mode : FileMode} (hpath : path ≠ "") :
      Spells (.file mode) path (.file path mode)
  | exec {command : String} (hblank : ∃ c ∈ command.toList, Text.isBlank c = false) :
      Spells .exec command (.exec command)
  /-- The text is ignored. -/
  | stdin {text : String} : Spells .stdin text .stdin
  /-- The text is ignored. -/
  | stdout {text : String} : Spells .stdout text .stdout

/-- The kind of a target. -/
def Target.carrier : Target → Carrier
  | .connect _ _ => .connect
  | .listen _ _ => .listen
  | .file _ mode => .file mode
  | .exec _ => .exec
  | .stdin => .stdin
  | .stdout => .stdout

/-- The parts of a target, put together again. -/
def Target.text : Target → String
  | .connect host port => host ++ "/" ++ port
  | .listen none port => port
  | .listen (some host) port => host ++ "/" ++ port
  | .file path _ => path
  | .exec command => command
  | .stdin => ""
  | .stdout => ""

namespace Carrier

variable {c : Carrier} {text : String} {t : Target}

theorem Spells.carrier_eq (h : c.Spells text t) : t.carrier = c := by
  cases h <;> rfl

theorem Spells.text_eq (h : c.Spells text t) (hin : c ≠ .stdin) (hout : c ≠ .stdout) :
    t.text = text := by
  cases h with
  | stdin => exact absurd rfl hin
  | stdout => exact absurd rfl hout
  | _ => rfl

section

variable {host port : String}

theorem cut?_host (hslash : '/' ∉ host.toList) :
    cut? '/' (host ++ "/" ++ port) = some (host, port) :=
  cut?_eq_some_iff.2 ⟨hslash, rfl⟩

theorem target_connect_of_none (h : cut? '/' text = none) :
    target .connect text = .error .noHostPort := by
  simp only [target, h]

theorem target_connect_of_some (h : cut? '/' text = some (host, port)) :
    target .connect text =
      if host = "" ∨ port = "" then .error .noHostPort else .ok (.connect host port) := by
  simp only [target, h]

theorem target_listen_of_none (h : cut? '/' text = none) :
    target .listen text = if text = "" then .error .noPort else .ok (.listen none text) := by
  simp only [target, h]

/-- The host of an address to listen on is not looked at. -/
theorem target_listen_of_some (h : cut? '/' text = some (host, port)) :
    target .listen text = if port = "" then .error .noPort else .ok (.listen (some host) port) := by
  simp only [target, h]

end

/-- Every text that a target is read off spells it. -/
theorem spells_of_target_eq_ok (h : c.target text = .ok t) : c.Spells text t := by
  cases c with
  | connect =>
    cases hcut : cut? '/' text with
    | none => simp [target_connect_of_none hcut] at h
    | some parts =>
      obtain ⟨host, port⟩ := parts
      obtain ⟨hslash, rfl⟩ := cut?_eq_some_iff.1 hcut
      rw [target_connect_of_some hcut] at h
      split at h
      · cases h
      · rename_i hfull
        cases h
        obtain ⟨hhost, hport⟩ := not_or.1 hfull
        exact .connect hslash hhost hport
  | listen =>
    cases hcut : cut? '/' text with
    | none =>
      rw [target_listen_of_none hcut] at h
      split at h
      · cases h
      · rename_i hport
        cases h
        exact .listen (cut?_eq_none_iff.1 hcut) hport
    | some parts =>
      obtain ⟨host, port⟩ := parts
      obtain ⟨hslash, rfl⟩ := cut?_eq_some_iff.1 hcut
      rw [target_listen_of_some hcut] at h
      split at h
      · cases h
      · rename_i hport
        cases h
        exact .listenOn hslash hport
  | file mode =>
    simp only [target] at h
    split at h
    · cases h
    · rename_i hpath
      cases h
      exact .file hpath
  | exec =>
    simp only [target] at h
    split at h
    · cases h
    · rename_i hblank
      cases h
      exact .exec (by simpa using hblank)
  | stdin =>
    cases h
    exact .stdin
  | stdout =>
    cases h
    exact .stdout

theorem target_eq_ok_of_spells (h : c.Spells text t) : c.target text = .ok t := by
  cases h with
  | connect hslash hhost hport =>
    rw [target_connect_of_some (cut?_host hslash), if_neg (not_or.2 ⟨hhost, hport⟩)]
  | listen hslash hport =>
    rw [target_listen_of_none (cut?_eq_none_iff.2 hslash), if_neg hport]
  | listenOn hslash hport =>
    rw [target_listen_of_some (cut?_host hslash), if_neg hport]
  | file hpath => exact if_neg hpath
  | exec hblank => exact if_neg (by simpa using hblank)
  | stdin => rfl
  | stdout => rfl

/-- **A target is read off exactly the texts that spell it.** -/
theorem target_eq_ok_iff : c.target text = .ok t ↔ c.Spells text t :=
  ⟨spells_of_target_eq_ok, target_eq_ok_of_spells⟩

end Carrier

/-! ## Roles -/

/-- A value **gives** a role for a flag, and leaves a text for the target: behind the name of a
format and an equals sign, if the endpoint sends. The standard output has the name only. -/
inductive Flag.Gives (f : Flag) : String → Role → String → Prop
  | receive {text : String} (hflag : f.direction = .receive) : Gives f text .receive text
  | send {format : Format} {text : String} (hflag : f.direction = .send)
    (hout : f.carrier ≠ .stdout) :
      Gives f (format.name ++ "=" ++ text) (.send format) text
  | sendReceive {format : Format} {text : String} (hflag : f.direction = .sendReceive) :
      Gives f (format.name ++ "=" ++ text) (.sendReceive format) text
  | stdout {format : Format} (hflag : f.direction = .send) (hout : f.carrier = .stdout) :
      Gives f format.name (.send format) ""

/-- The direction of a role. -/
def Role.direction : Role → Direction
  | .receive => .receive
  | .send _ => .send
  | .sendReceive _ => .sendReceive

namespace Flag

variable {f : Flag} {value text : String} {r : Role}

theorem Gives.direction_eq (h : f.Gives value r text) : r.direction = f.direction := by
  cases h with
  | receive hflag => exact hflag.symm
  | send hflag => exact hflag.symm
  | sendReceive hflag => exact hflag.symm
  | stdout hflag => exact hflag.symm

/-- A format's name is cut off a value that has it in front. -/
theorem cut?_format (format : Format) :
    cut? '=' (format.name ++ "=" ++ text) = some (format.name, text) :=
  cut?_eq_some_iff.2 ⟨format.equals_not_mem_name, rfl⟩

/-- A format whose name is cut off a value stands in front there. -/
theorem eq_of_cut?_of_named {name : String} {format : Format}
    (hcut : cut? '=' value = some (name, text))
    (hname : Format.named name = .ok format) : value = format.name ++ "=" ++ text := by
  rw [← Format.named_eq_ok_iff.1 hname]
  exact (cut?_eq_some_iff.1 hcut).2

theorem gives_of_role_eq_ok (h : f.role value = .ok (r, text)) : f.Gives value r text := by
  unfold role at h
  split at h
  · rename_i hflag
    cases h
    exact .receive hflag
  · rename_i hflag
    split at h
    · rename_i hout
      obtain ⟨format, hname, h⟩ := bind_eq_ok_iff.1 h
      cases h
      rw [Format.named_eq_ok_iff.1 hname]
      exact .stdout hflag hout
    · rename_i hout
      split at h
      · cases h
      · rename_i name rest hcut
        obtain ⟨format, hname, h⟩ := bind_eq_ok_iff.1 h
        cases h
        rw [eq_of_cut?_of_named hcut hname]
        exact .send hflag hout
  · rename_i hflag
    split at h
    · cases h
    · rename_i name rest hcut
      obtain ⟨format, hname, h⟩ := bind_eq_ok_iff.1 h
      cases h
      rw [eq_of_cut?_of_named hcut hname]
      exact .sendReceive hflag

theorem role_eq_ok_of_gives (h : f.Gives value r text) : f.role value = .ok (r, text) := by
  have hnamed (format : Format) : Format.named format.name = .ok format :=
    Format.named_eq_ok_iff.2 rfl
  cases h with
  | receive hflag => simp only [role, hflag]
  | send hflag hout => simp only [role, hflag, hout, cut?_format, hnamed]; rfl
  | sendReceive hflag => simp only [role, hflag, cut?_format, hnamed]; rfl
  | stdout hflag hout => simp only [role, hflag, hout, hnamed]; rfl

/-- **A value gives a role exactly if it is taken apart so.** -/
theorem role_eq_ok_iff : f.role value = .ok (r, text) ↔ f.Gives value r text :=
  ⟨gives_of_role_eq_ok, role_eq_ok_of_gives⟩

end Flag

/-! ## Endpoints -/

/-- A value **spells** an endpoint for a flag: it gives its role and leaves a text
that spells its target. -/
def Flag.Spells (f : Flag) (value : String) (e : Endpoint) : Prop :=
  ∃ text, f.Gives value e.role text ∧ f.carrier.Spells text e.target

/-- The parts of an endpoint, put together again. -/
def Endpoint.text (e : Endpoint) : String :=
  match e.role.sendFormat?, e.target with
  | none, t => t.text
  | some format, .stdout => format.name
  | some format, t => format.name ++ "=" ++ t.text

namespace Endpoint

variable {f : Flag} {flag value : String} {e : Endpoint}

/-- A value is read as exactly the endpoint that it spells. -/
theorem ofValue_eq_ok_iff : ofValue f value = .ok e ↔ f.Spells value e := by
  unfold ofValue
  constructor
  · intro h
    obtain ⟨⟨r, rest⟩, hrole, h⟩ := bind_eq_ok_iff.1 h
    obtain ⟨t, htarget, h⟩ := bind_eq_ok_iff.1 h
    cases h
    exact ⟨rest, Flag.role_eq_ok_iff.1 hrole, Carrier.target_eq_ok_iff.1 htarget⟩
  · rintro ⟨rest, hgives, hspells⟩
    refine bind_eq_ok_iff.2 ⟨_, Flag.role_eq_ok_iff.2 hgives, ?_⟩
    exact bind_eq_ok_iff.2 ⟨_, Carrier.target_eq_ok_iff.2 hspells, rfl⟩

theorem text_of_sendFormat? {format : Format} (h : e.role.sendFormat? = some format)
    (hout : e.target.carrier ≠ .stdout) : e.text = format.name ++ "=" ++ e.target.text := by
  obtain ⟨r, t⟩ := e
  change r.sendFormat? = some format at h
  rw [text, h]
  cases t with
  | stdout => exact absurd rfl hout
  | _ => rfl

/-- **Nothing of a value is lost**: its endpoint's parts make it up. -/
theorem text_eq_of_spells (h : f.Spells value e) (hin : f.carrier ≠ .stdin)
    (hout : f.carrier = .stdout → f.direction = .send) : e.text = value := by
  obtain ⟨r, t⟩ := e
  obtain ⟨rest, hgives, hspells⟩ := h
  have hcarrier : t.carrier = f.carrier := hspells.carrier_eq
  have hne (hflag : f.direction ≠ .send) : f.carrier ≠ .stdout := fun heq => hflag (hout heq)
  cases hgives with
  | receive hflag => exact hspells.text_eq hin (hne (by rw [hflag]; decide))
  | send hflag hne' => rw [text_of_sendFormat? rfl (hcarrier ▸ hne'), hspells.text_eq hin hne']
  | sendReceive hflag =>
    have hne' := hne (by rw [hflag]; decide)
    rw [text_of_sendFormat? rfl (hcarrier ▸ hne'), hspells.text_eq hin hne']
  | stdout hflag hstdout =>
    rw [hstdout] at hcarrier
    cases t with
    | stdout => rfl
    | _ => cases hcarrier

end Endpoint

/-! ## What the names of flags stand for -/

/-- The words of a flag's name: where its streams come from, and what is done with them. -/
def Flag.words (name : String) : String × String :=
  (cut? '-' name).getD (name, "")

/-- The kind of target that the words of a flag's name stand for. -/
def Carrier.named? : String × String → Option Carrier
  | ("connect", _) => some .connect
  | ("listen", _) => some .listen
  | ("file", "read") => some (.file .read)
  | ("file", "write") => some (.file .write)
  | ("file", "write-read") => some (.file .write)
  | ("file", "append") => some (.file .append)
  | ("file", "append-read") => some (.file .append)
  | ("exec", _) => some .exec
  | ("stdin", "") => some .stdin
  | ("stdout", "") => some .stdout
  | _ => none

/-- The direction that the words of a flag's name stand for. -/
def Direction.named? : String × String → Option Direction
  | (_, "receive") => some .receive
  | (_, "send") => some .send
  | (_, "send-receive") => some .sendReceive
  | (_, "read") => some .receive
  | (_, "write") => some .send
  | (_, "write-read") => some .sendReceive
  | (_, "append") => some .send
  | (_, "append-read") => some .sendReceive
  | ("stdin", "") => some .receive
  | ("stdout", "") => some .send
  | _ => none

namespace Flag

variable {f : Flag} {flag : String}

/-- **The table of flags keeps to their names.** -/
theorem named?_of_mem_all (hf : f ∈ all) :
    Carrier.named? (words f.name) = some f.carrier ∧
      Direction.named? (words f.name) = some f.direction := by
  revert f
  decide

theorem name_eq_stdin_of_mem_all (hf : f ∈ all) (hin : f.carrier = .stdin) : f.name = "stdin" := by
  revert f
  decide

/-- The standard output is only written to. -/
theorem direction_of_stdout_of_mem_all (hf : f ∈ all) (hout : f.carrier = .stdout) :
    f.direction = .send := by
  revert f
  decide

/-- The flags are told apart by their names. -/
theorem ofName?_eq_some_iff : ofName? flag = some f ↔ f ∈ all ∧ f.name = flag := by
  constructor
  · intro h
    exact ⟨List.mem_of_find?_eq_some h, by simpa using List.find?_some h⟩
  · rintro ⟨hf, rfl⟩
    revert f
    decide

theorem ofName?_eq_none_iff : ofName? flag = none ↔ ∀ f ∈ all, f.name ≠ flag := by
  simp [ofName?, List.find?_eq_none]

end Flag

/-! ## Flags with their values -/

namespace Endpoint

variable {flag value : String} {f : Flag} {e : Endpoint}

theorem parse_of_ofName? (h : Flag.ofName? flag = some f) (h' : ofValue f value = .ok e) :
    parse flag value = .ok e := by
  simp only [parse, h, h']

theorem parse_eq_ok_iff :
    parse flag value = .ok e ↔ ∃ f ∈ Flag.all, f.name = flag ∧ f.Spells value e := by
  constructor
  · intro h
    unfold parse at h
    split at h
    · cases h
    · rename_i f hfind
      obtain ⟨hf, hname⟩ := Flag.ofName?_eq_some_iff.1 hfind
      split at h
      · rename_i e' hvalue
        cases h
        exact ⟨f, hf, hname, ofValue_eq_ok_iff.1 hvalue⟩
      · cases h
  · rintro ⟨f, hf, hname, hspells⟩
    exact parse_of_ofName? (Flag.ofName?_eq_some_iff.2 ⟨hf, hname⟩) (ofValue_eq_ok_iff.2 hspells)

/-- A value that spells nothing for its flag is refused, and the error has both in it. -/
theorem parse_of_not_spells (hf : f ∈ Flag.all) (h : ¬ ∃ e, f.Spells value e) :
    ∃ why, parse f.name value = .error (.badValue f.name value why) := by
  unfold parse
  rw [Flag.ofName?_eq_some_iff.2 ⟨hf, rfl⟩]
  dsimp only
  cases hvalue : ofValue f value with
  | ok e => exact absurd ⟨e, ofValue_eq_ok_iff.1 hvalue⟩ h
  | error why => exact ⟨why, rfl⟩

theorem parse_of_forall_ne (h : ∀ f ∈ Flag.all, f.name ≠ flag) :
    parse flag value = .error (.unknownFlag flag) := by
  unfold parse
  rw [Flag.ofName?_eq_none_iff.2 h]

/-- **Values are read exactly, and nothing of them is lost.** A value is accepted exactly if it
spells an endpoint for the flag of the given name. The endpoint then has the target and the
direction that the words of the flag's name stand for, and its parts make up the value, which only
the standard input ignores. A value that spells nothing is refused with its flag, and so is every
other flag, whatever its value. -/
theorem values_exact (flag value : String) :
    (∀ e, parse flag value = .ok e ↔ ∃ f ∈ Flag.all, f.name = flag ∧ f.Spells value e) ∧
    (∀ e, parse flag value = .ok e →
      Carrier.named? (Flag.words flag) = some e.target.carrier ∧
      Direction.named? (Flag.words flag) = some e.role.direction ∧
      (flag ≠ "stdin" → e.text = value)) ∧
    (∀ f ∈ Flag.all, f.name = flag → (¬ ∃ e, f.Spells value e) →
      ∃ why, parse flag value = .error (.badValue flag value why)) ∧
    ((∀ f ∈ Flag.all, f.name ≠ flag) → parse flag value = .error (.unknownFlag flag)) := by
  refine ⟨fun e => parse_eq_ok_iff, ?_, ?_, parse_of_forall_ne⟩
  · intro e h
    obtain ⟨f, hf, rfl, hspells⟩ := parse_eq_ok_iff.1 h
    obtain ⟨hcarrier, hdirection⟩ := Flag.named?_of_mem_all hf
    obtain ⟨rest, hgives, htarget⟩ := hspells
    refine ⟨?_, ?_, fun hname => ?_⟩
    · rw [hcarrier, htarget.carrier_eq]
    · rw [hdirection, hgives.direction_eq]
    · have hin : f.carrier ≠ .stdin := fun heq => hname (Flag.name_eq_stdin_of_mem_all hf heq)
      exact text_eq_of_spells ⟨rest, hgives, htarget⟩ hin (Flag.direction_of_stdout_of_mem_all hf)
  · rintro f hf rfl hnone
    exact parse_of_not_spells hf hnone

/-- Separators may occur again: only the first equals sign and the first slash separate. A host
alone is refused, and so is a flag that has no direction. -/
theorem values_exact_repeated_separators :
    let e : Endpoint := ⟨.send .json, .connect "a" "b/c=d"⟩
    parse "connect-send" "json=a/b/c=d" = .ok e ∧
      Carrier.named? (Flag.words "connect-send") = some .connect ∧
      Direction.named? (Flag.words "connect-send") = some .send ∧ e.text = "json=a/b/c=d" ∧
      (∃ why, parse "connect-send" "json=a" = .error (.badValue "connect-send" "json=a" why)) ∧
      parse "connect" "json=a/b" = .error (.unknownFlag "connect") := by
  intro e
  have hparse : parse "connect-send" "json=a/b/c=d" = .ok e := by decide
  have herror : parse "connect-send" "json=a" =
      .error (.badValue "connect-send" "json=a" .noHostPort) := by
    decide
  obtain ⟨hcarrier, hdirection, htext⟩ := (values_exact "connect-send" "json=a/b/c=d").2.1 e hparse
  obtain ⟨hexact, -, hrefused, -⟩ := values_exact "connect-send" "json=a"
  have hnone : ¬ ∃ e, Flag.Spells ⟨"connect-send", .connect, .send⟩ "json=a" e := by
    rintro ⟨e', hspells⟩
    cases herror.symm.trans ((hexact e').2 ⟨_, by decide, rfl, hspells⟩)
  exact ⟨hparse, hcarrier, hdirection, htext (by decide), hrefused _ (by decide) rfl hnone,
    (values_exact "connect" "json=a/b").2.2.2 (by decide)⟩

end Endpoint

end Squitter
