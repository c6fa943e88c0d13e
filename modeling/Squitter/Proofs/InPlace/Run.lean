import Squitter.Proofs.Decoding
import Squitter.Proofs.InPlace.Scan

/-!
# Parsing is atomic

`Format.parse` yields a new packet and a new state, so that it cannot spoil the old ones. A program
works **in place** (`InPlace.Procedure`): it looks at the buffer by index, writes one field of the
packet after the other, changes the state of the connection, takes the message off the buffer at
last, and what it has changed stays changed when it stops on the way (`InPlace.execute`).

Working in place does the same (`perform_execute`), for three reasons. No access is outside of the
data. All checks come before the first write. And the one step that could still fail after it, to
take the message off the buffer, does not fail, because a message is made of bytes that are there.

What is left alone by a message that was read is in `Format.Spares`.
-/

namespace Squitter

namespace InPlace

open Wire

/-! ## Procedures -/

/-- What works on a buffer, a packet and the state of a connection in place. What it has changed
stays changed when it stops. -/
abbrev Procedure (α : Type) := ExceptT Stop (StateM Intake) α

variable {α β : Type}

/-- Perform a procedure. -/
def perform (x : Procedure α) (i : Intake) : Except Stop α × Intake :=
  x.run.run i

/-- Look for something in the buffered bytes. -/
def look (scan : Bytes → Except Stop α) : Procedure α := do
  liftExcept (scan (← get).buffer.data)

/-- Change the packet. -/
def write (change : Packet → Packet) : Procedure Unit :=
  modify fun i => { i with packet := change i.packet }

/-- Write the timestamp of a reading, and remember the reading. -/
def stamp (reading width : UInt64) (mhz : UInt32) : Procedure Unit :=
  modify fun i =>
    { i with
      packet := { i.packet with mlat := (Mlat.widen reading width mhz i.link.clock).1 }
      link := { i.link with clock := (Mlat.widen reading width mhz i.link.clock).2 } }

/-- Go on, or break off with an error. -/
def orRefuse : Except Error α → Procedure α
  | .ok a => pure a
  | .error e => throw (.refused e)

/-- Break off if there is something to object to. -/
def refuseIf (c : Prop) [Decidable c] (e : Error) : Procedure Unit :=
  if c then throw (.refused e) else pure ()

/-- Take bytes off the buffer. -/
def consume (n : Nat) : Procedure Unit := do
  let i ← get
  match i.buffer.consume? n with
  | some buffer => set { i with buffer }
  | none => throw (.underflow n i.buffer.data.length)

theorem perform_bind (x : Procedure α) (f : α → Procedure β) (i : Intake) :
    perform (x >>= f) i =
      match perform x i with
      | (.ok a, i) => perform (f a) i
      | (.error s, i) => (.error s, i) := by
  show (match x i with
    | (r, i) => ExceptT.bindCont f r i) =
    match x i with
    | (.ok a, i) => perform (f a) i
    | (.error s, i) => (.error s, i)
  rcases x i with ⟨_ | _, _⟩ <;> rfl

theorem perform_look (scan : Bytes → Except Stop α) (i : Intake) :
    perform (look scan) i = (scan i.buffer.data, i) := by
  show perform (liftExcept (scan i.buffer.data)) i = _
  cases scan i.buffer.data <;> rfl

/-- To look for what is or is not there yet changes nothing. -/
theorem perform_look_bind {scan : Bytes → Except Stop α} {i : Intake} {o : Option α}
    (h : scan i.buffer.data = present o) (f : α → Procedure β) :
    perform (look scan >>= f) i = o.elim (.error .absent, i) fun a => perform (f a) i := by
  rw [perform_bind, perform_look, h]
  cases o <;> rfl

theorem perform_write (change : Packet → Packet) (i : Intake) :
    perform (write change) i = (.ok (), { i with packet := change i.packet }) := rfl

theorem perform_stamp (reading width : UInt64) (mhz : UInt32) (i : Intake) :
    perform (stamp reading width mhz) i = (.ok (),
      { i with
        packet := { i.packet with mlat := (Mlat.widen reading width mhz i.link.clock).1 }
        link := { i.link with clock := (Mlat.widen reading width mhz i.link.clock).2 } }) := rfl

theorem perform_consume {n : Nat} {b : Buffer} (h : n ≤ b.data.length) (p : Packet) (l : Link) :
    perform (consume n) ⟨b, p, l⟩ = (.ok (), ⟨b.advance n, p, l⟩) := by
  show perform (match b.consume? n with
    | some buffer => set ({ buffer, packet := p, link := l } : Intake)
    | none => throw (.underflow n b.data.length)) ⟨b, p, l⟩ = _
  rw [Buffer.consume?_of_le h]
  rfl

/-! ## Accepting -/

/-- Accept an announcement. -/
def acceptHeader (own : Uuid) (a : Announcement) : Procedure Event := do
  refuseIf (a.magic ≠ magic) (.codec (.badMagic a.magic))
  refuseIf (¬ Mlat.validMHz a.mhz ∨ a.width = 0 ∨ a.ceiling = 0)
    (.codec (.unusableClock a.mhz a.width a.ceiling))
  refuseIf (a.server = own) (.selfLoop a.server)
  modify fun i => { i with
    link := { i.link with header := some ⟨a.server, a.version, a.mhz, a.width, a.ceiling⟩ } }
  return .control

/-- Accept a report, and fill in the packet field by field. -/
def acceptReport (r : Report Bytes) : Procedure Event := do
  match (← get).link.header with
  | none => throw (.refused (.codec .packetBeforeHeader))
  | some h =>
    refuseIf (r.payload.length ≠ r.kind.payloadLength)
      (.codec (.payloadLength r.kind r.payload.length))
    refuseIf (h.ceiling.toUInt64 < r.rssi) (.codec (.rssiAboveCeiling r.rssi h.ceiling))
    write ({ · with source := r.source })
    write (·.setPayload r.kind r.payload)
    write ({ · with hops := r.hops })
    if r.mlat = 0 then write ({ · with mlat := 0 }) else stamp r.mlat h.width h.mhz
    write ({ · with rssi := Rssi.widen r.rssi.toUInt32 h.ceiling })
    return .frame

/-- Accept any message. -/
def accept (own : Uuid) (m : Message Bytes) : Procedure Event :=
  match m with
  | .header a => acceptHeader own a
  | .packet r => acceptReport r

theorem perform_orRefuse (x : Except Error α) (i : Intake) :
    perform (orRefuse x) i = (x.mapError Stop.refused, i) := by
  cases x <;> rfl

theorem perform_refuseIf_bind (c : Prop) [Decidable c] (e : Error) (f : Unit → Procedure α)
    (i : Intake) :
    perform (refuseIf c e >>= f) i = if c then (.error (.refused e), i) else perform (f ()) i := by
  rw [perform_bind, refuseIf]
  by_cases h : c
  · rw [if_pos h, if_pos h]
    rfl
  · rw [if_neg h, if_neg h]
    rfl

/-- How a procedure ends that accepts a message on an intake. -/
def accepts (own : Uuid) (m : Message Bytes) (i : Intake) : Except Stop Event × Intake :=
  match i.link.accept own m i.packet with
  | .ok (event, p, l) => (.ok event, ⟨i.buffer, p, l⟩)
  | .error e => (.error (.refused e), i)

theorem perform_acceptHeader (own : Uuid) (a : Announcement) (i : Intake) :
    perform (acceptHeader own a) i = accepts own (.header a) i := by
  simp only [acceptHeader, perform_refuseIf_bind, accepts, Link.accept, Link.acceptHeader]
  split
  · rfl
  · split
    · rfl
    · split <;> rfl

theorem perform_acceptReport (own : Uuid) (r : Report Bytes) (i : Intake) :
    perform (acceptReport r) i = accepts own (.packet r) i := by
  have hget (f : Intake → Procedure Event) : perform (get >>= f) i = perform (f i) i := rfl
  obtain ⟨buffer, packet, clock, header⟩ := i
  simp only [acceptReport, hget, accepts, Link.accept, Link.acceptReport]
  cases header with
  | none => rfl
  | some h =>
    simp only [perform_refuseIf_bind]
    split
    · rfl
    · split
      · rfl
      · by_cases hzero : r.mlat = 0
        · simp only [if_pos hzero, Link.stamp]
          rfl
        · simp only [if_neg hzero, Link.stamp]
          rfl

theorem perform_accept (own : Uuid) (m : Message Bytes) (i : Intake) :
    perform (accept own m) i = accepts own m i := by
  cases m with
  | header a => exact perform_acceptHeader own a i
  | packet r => exact perform_acceptReport own r i

/-! ## Parsing -/

/-- Parse one message in place: look at what is buffered, write what was found, and take it off the
buffer. -/
def execute (f : Format) (own : Uuid) : Procedure Event :=
  match f with
  | .airspy => do
    let (line, n) ← look Airspy.scan
    write (·.setPayload line.kind line.payload)
    stamp line.reading Airspy.width line.mhz
    write ({ · with rssi := Rssi.widen line.level Airspy.ceiling })
    consume n
    return .frame
  | .beast => do
    let (frame, n) ← look Beast.scan
    write (·.setPayload frame.kind frame.payload)
    stamp frame.reading Beast.width Beast.mhz
    write ({ · with rssi := if frame.level = Beast.unmeasured then 0
      else Rssi.widen frame.level.toUInt32 Beast.ceiling })
    consume n
    return .frame
  | .json => do
    let (found, n) ← look Json.scan
    let event ← accept own (← orRefuse (Json.decoded found))
    consume n
    return event
  | .proto => do
    let (m, n) ← look Proto.scan
    let event ← accept own m
    consume n
    return event
  | .raw => do
    let (kind, payload, n) ← look Raw.scan
    write (·.setPayload kind payload)
    consume n
    return .frame
  | .stats => throw .absent

/-- How parsing ends, from what the function for it yields. -/
def ending : Except Error (Option Event) × Intake → Except Stop Event × Intake
  | (.ok (some event), i) => (.ok event, i)
  | (.ok none, i) => (.error .absent, i)
  | (.error e, i) => (.error (.refused e), i)

/-- How parsing ends, from what is read at the front of the buffer. -/
def endingOfRead (i : Intake) : Except Error (Option Reading) → Except Stop Event × Intake
  | .ok (some r) => (.ok r.event, ⟨i.buffer.advance r.used, r.packet, r.link⟩)
  | .ok none => (.error .absent, i)
  | .error e => (.error (.refused e), i)

variable {own : Uuid} {i : Intake}

theorem ending_parse (f : Format) :
    ending (f.parse own i) = endingOfRead i (f.read own i.buffer.data i.packet i.link) := by
  rcases hread : f.read own i.buffer.data i.packet i.link with e | _ | r
  · rw [Format.parse_of_error hread]
    rfl
  · rw [Format.parse_of_none hread]
    rfl
  · rw [Format.parse_of_some hread]
    rfl

theorem perform_airspy : perform (execute .airspy own) i = ending (Format.airspy.parse own i) := by
  rw [ending_parse, execute, perform_look_bind (Airspy.scan_eq _), Format.read]
  cases hread : Airspy.read? i.buffer.data with
  | none => rfl
  | some found =>
    have hn := Airspy.le_length_of_read? hread
    simp only [Option.elim_some, perform_bind, perform_write, perform_stamp, perform_consume hn]
    rfl

theorem perform_beast : perform (execute .beast own) i = ending (Format.beast.parse own i) := by
  rw [ending_parse, execute, perform_look_bind (Beast.scan_eq _), Format.read]
  cases hread : Beast.read? i.buffer.data with
  | none => rfl
  | some found =>
    have hn := Beast.le_length_of_read? hread
    simp only [Option.elim_some, perform_bind, perform_write, perform_stamp, perform_consume hn]
    rfl

theorem perform_raw : perform (execute .raw own) i = ending (Format.raw.parse own i) := by
  rw [ending_parse, execute, perform_look_bind (Raw.scan_eq _), Format.read]
  cases hread : Raw.read? i.buffer.data with
  | none => rfl
  | some found =>
    obtain ⟨kind, payload, n⟩ := found
    have hn := Raw.le_length_of_read? hread
    simp only [Option.elim_some, perform_bind, perform_write, perform_consume hn]
    rfl

/-- Accept a message and take it off the buffer. -/
theorem perform_accept_consume {m : Message Bytes} {n : Nat} (hn : n ≤ i.buffer.data.length) :
    perform (do let event ← accept own m; consume n; return event) i =
      endingOfRead i (Format.accepted own m i.packet i.link n) := by
  rw [perform_bind, perform_accept, accepts, Format.accepted]
  cases i.link.accept own m i.packet with
  | error e => rfl
  | ok found =>
    obtain ⟨event, p, l⟩ := found
    simp only [perform_bind, perform_consume hn]
    rfl

theorem perform_proto : perform (execute .proto own) i = ending (Format.proto.parse own i) := by
  rw [ending_parse, execute, perform_look_bind (Proto.scan_eq _), Format.read]
  cases hread : Proto.read? i.buffer.data with
  | none => rfl
  | some found => exact perform_accept_consume (Proto.le_length_of_read? hread)

theorem perform_json : perform (execute .json own) i = ending (Format.json.parse own i) := by
  rw [ending_parse, execute, perform_look_bind (Json.scan_eq _), Format.read]
  cases hread : Json.read? i.buffer.data with
  | none => rfl
  | some found =>
    obtain ⟨found, n⟩ := found
    simp only [Option.elim_some]
    rw [perform_bind, perform_orRefuse]
    cases Json.decoded found with
    | error e => rfl
    | ok m => exact perform_accept_consume (Json.le_length_of_read? hread)

/-- **Parsing in place does what parsing does.** -/
theorem perform_execute (f : Format) (own : Uuid) (i : Intake) :
    perform (execute f own) i = ending (f.parse own i) := by
  cases f with
  | airspy => exact perform_airspy
  | beast => exact perform_beast
  | json => exact perform_json
  | proto => exact perform_proto
  | raw => exact perform_raw
  | stats => rfl

end InPlace

/-! ## What a reading leaves alone -/

theorem Link.accept_ne_underflow {own : Uuid} {m : Message Bytes} {p : Packet}
    {l : Link} {e : Error} (h : l.accept own m p = .error e) (n k : Nat) : e ≠ .underflow n k := by
  rintro rfl
  cases m with
  | header a =>
    simp only [accept, acceptHeader] at h
    split at h
    · cases h
    · split at h
      · cases h
      · split at h <;> cases h
  | packet r =>
    simp only [accept, acceptReport] at h
    split at h
    · cases h
    · split at h
      · cases h
      · split at h <;> cases h

theorem Wire.Json.eq_invalidHex_of_decoded {m : Message String} {e : Error}
    (h : decoded m = .error e) : ∃ text, e = .invalidHex text := by
  cases m with
  | header a => cases h
  | packet r =>
    simp only [decoded, payload] at h
    split at h
    · cases h
    · cases h
      exact ⟨r.payload, rfl⟩

namespace Format

variable {f : Format} {own : Uuid} {data : Bytes} {p : Packet} {l : Link}
  {m : Message Bytes} {n : Nat}

theorem accepted_ne_underflow {e : Error} (h : accepted own m p l n = .error e) (a k : Nat) :
    e ≠ .underflow a k := by
  unfold accepted at h
  cases haccept : l.accept own m p with
  | error e' =>
    rw [haccept] at h
    cases h
    exact Link.accept_ne_underflow haccept a k
  | ok found =>
    rw [haccept] at h
    cases h

/-- A breach of protocol is never a lack of bytes. -/
theorem read_ne_underflow {e : Error} (h : f.read own data p l = .error e) (a k : Nat) :
    e ≠ .underflow a k := by
  cases f with
  | json =>
    simp only [read] at h
    split at h
    · cases h
    · rename_i found used hread
      cases hdecoded : Wire.Json.decoded found with
      | ok m =>
        rw [hdecoded] at h
        exact accepted_ne_underflow h a k
      | error e' =>
        obtain ⟨text, rfl⟩ := Wire.Json.eq_invalidHex_of_decoded hdecoded
        rw [hdecoded] at h
        cases h
        rintro ⟨⟩
  | proto =>
    simp only [read] at h
    split at h
    · cases h
    · exact accepted_ne_underflow h a k
  | airspy => cases h
  | beast => cases h
  | raw => cases h
  | stats => cases h

theorem packet_of_accepted {r : Reading} (h : accepted own m p l n = .ok (some r))
    (hevent : r.event = .control) : r.packet = p := by
  cases m with
  | header a =>
    cases ha : l.acceptHeader own a with
    | error e =>
      simp only [accepted, Link.accept, ha] at h
      cases h
    | ok l' =>
      simp only [accepted, Link.accept, ha] at h
      cases h
      rfl
  | packet report =>
    cases hr : l.acceptReport report p with
    | error e =>
      simp only [accepted, Link.accept, hr] at h
      cases h
    | ok found =>
      simp only [accepted, Link.accept, hr] at h
      cases h
      cases hevent

/-- What a reading leaves alone of a packet: an announcement all of it, and a frame the fields that
its format does not carry. -/
structure Spares (f : Format) (event : Event) (p p' : Packet) : Prop where
  control : event = .control → p' = p
  origin : f = airspy ∨ f = beast ∨ f = raw → p'.source = p.source ∧ p'.hops = p.hops
  reception : f = raw → p'.mlat = p.mlat ∧ p'.rssi = p.rssi

theorem spares_of_accepted (hf : f = json ∨ f = proto) {r : Reading}
    (h : accepted own m p l n = .ok (some r)) : f.Spares r.event p r.packet where
  control := packet_of_accepted h
  origin := by rcases hf with rfl | rfl <;> simp
  reception := by rcases hf with rfl | rfl <;> simp

theorem spares_of_read {r : Reading} (h : f.read own data p l = .ok (some r)) :
    f.Spares r.event p r.packet := by
  cases f with
  | airspy =>
    obtain ⟨⟨line, used⟩, -, heq⟩ := Option.bind_eq_some_iff.1 (Except.ok.inj h)
    cases heq
    exact ⟨fun heq => (by cases heq), fun _ => ⟨rfl, rfl⟩, fun heq => (by cases heq)⟩
  | beast =>
    obtain ⟨⟨contents, used⟩, -, heq⟩ := Option.bind_eq_some_iff.1 (Except.ok.inj h)
    cases heq
    exact ⟨fun heq => (by cases heq), fun _ => ⟨rfl, rfl⟩, fun heq => (by cases heq)⟩
  | json =>
    simp only [read] at h
    split at h
    · cases h
    · rename_i found used hread
      cases hdecoded : Wire.Json.decoded found with
      | error e =>
        rw [hdecoded] at h
        cases h
      | ok m =>
        rw [hdecoded] at h
        exact spares_of_accepted (.inl rfl) h
  | proto =>
    simp only [read] at h
    split at h
    · cases h
    · exact spares_of_accepted (.inr rfl) h
  | raw =>
    obtain ⟨⟨kind, payload, used⟩, -, heq⟩ := Option.bind_eq_some_iff.1 (Except.ok.inj h)
    cases heq
    exact ⟨fun heq => (by cases heq), fun _ => ⟨rfl, rfl⟩, fun _ => ⟨rfl, rfl⟩⟩
  | stats => cases h

end Format

/-! ## Atomicity -/

namespace InPlace

/-- **Parsing is atomic.** Parsing in place never asks for a byte that is not there and never
takes off more bytes than there are. Either it finds nothing or breaks off with an error, and
buffer, packet and state are as they were; or it takes off at least one of the bytes and leaves
the others, and of the packet it leaves alone what the message does not carry. Parsing as a
function says the same. -/
theorem execute_atomic (f : Format) (own : Uuid) (i : Intake) :
    (perform (execute f own) i = (.error .absent, i) ∧ f.parse own i = (.ok none, i)) ∨
    (∃ e, perform (execute f own) i = (.error (.refused e), i) ∧ f.parse own i = (.error e, i) ∧
      ∀ n k, e ≠ .underflow n k) ∨
    ∃ event n p l, perform (execute f own) i = (.ok event, ⟨i.buffer.advance n, p, l⟩) ∧
      f.parse own i = (.ok (some event), ⟨i.buffer.advance n, p, l⟩) ∧
      0 < n ∧ n ≤ i.buffer.data.length ∧ (i.buffer.advance n).data <:+ i.buffer.data ∧
      f.Spares event i.packet p := by
  rw [perform_execute]
  rcases hread : f.read own i.buffer.data i.packet i.link with e | _ | r
  · rw [Format.parse_of_error hread]
    exact .inr (.inl ⟨e, rfl, rfl, Format.read_ne_underflow hread⟩)
  · rw [Format.parse_of_none hread]
    exact .inl ⟨rfl, rfl⟩
  · rw [Format.parse_of_some hread]
    exact .inr (.inr ⟨r.event, r.used, r.packet, r.link, rfl, rfl, Format.used_pos hread,
      Format.used_le hread, List.drop_suffix _ _, Format.spares_of_read hread⟩)

/-- A line that ends in the middle of its line end is not there yet. -/
example :
    let i : Intake := ⟨⟨64, 8, utf8 "*1234;00000001;0A;0010;\r"⟩, .blank .nil, .fresh⟩
    perform (execute .airspy .nil) i = (.error .absent, i) := by
  rfl

end InPlace

end Squitter
