import Squitter.Proofs.Chain
import Squitter.Proofs.Fanout.Run
import Squitter.Proofs.Hop.Exact

/-!
# Paths through several buses

A packet goes from bus to bus. At each **waypoint** (`Waypoint`) the bus passes it on to its
outputs, one of which is the stream to the next bus, in json or proto. The next bus reads that
stream from its greeting on, in whatever pieces it arrives and whatever else is on it, and the
packet **arrives** there (`Waypoint.arrival`), unless it had too many hops to be passed on.

**The result** (`hops_bounded_path`). On every path, a bus forwards the packet exactly if all buses
before it did and the packet has crossed fewer buses than its ceiling allows. So with ceilings up to
`M` there are at most `M - h` forwarding buses for a packet that begins with `h` hops, however often
the path comes back to a bus. What carries this is that a pass adds one hop (`Fanout.exact_send`)
and that what was written arrives with the number of hops that it has (`Stage.packets_read`).
-/

namespace Squitter

/-! ## Streams -/

theorem Packet.map_hops_hopAll (sender : Server) (clock : Mlat.History) (packets : List Packet) :
    (hopAll sender clock packets).map (·.hops) = packets.map (·.hops) := by
  induction packets generalizing clock with
  | nil => rfl
  | cons p packets ih =>
    simp only [hopAll, List.map_cons, ih]
    rfl

theorem Decoder.Outcome.packets_map_frame (packets : List Packet) :
    Outcome.packets (packets.map .frame) = packets := by
  induction packets with
  | nil => rfl
  | cons p packets ih => exact congrArg (p :: ·) ih

namespace Stage

open Decoder

/-- A stage in json or proto reads the hops of what it wrote. -/
theorem packets_read (s : Stage) (hs : s.format = .json ∨ s.format = .proto)
    (packets : List Packet) :
    (s.read (s.stream packets)).packets = Packet.hopAll s.sender .fresh packets := by
  have hne := Format.greeting_ne_nil hs s.greets
  have hgreeting := Format.read_greeting_append s.readable s.greets hne (s.foreign hne)
    (.blank s.source) .fresh
  obtain ⟨l', hscript⟩ := exists_script_hopAll s.own s.source hs
    (l := { Link.fresh with header := some (.ofServer s.sender) }) rfl packets
  have hwhole := Script.cons (Format.isMessage_greeting s.greets hne) hgreeting hscript
  have hstream : s.stream packets =
      (s.greeting :: packets.map (Encoder.frameBytes s.format)).flatten := by
    rw [stream, Encoder.encodeAll_eq s.format_ne_stats]
    rfl
  have hfirst : ∀ m ∈ (s.greeting :: packets.map (Encoder.frameBytes s.format)).head?,
      m.length ≤ Buffer.usualCapacity := by
    intro m hm
    rw [← Option.some.inj hm]
    exact s.fits
  obtain ⟨-, -, hpackets⟩ :=
    s.read_script hwhole hfirst fun m hm => Encoder.length_lt_of_mem_messages hm
  rw [hstream, hpackets]
  exact Decoder.Outcome.packets_map_frame _
end Stage

/-! ## Waypoints -/

/-- A bus on the path of a packet, as it is when the packet comes, and its
stream to the next bus. -/
structure Waypoint (σ : Type) where
  fanout : Fanout
  /-- The stream that the packet comes from, and when. -/
  origin : Option Nat
  now : Nat
  host : σ
  /-- The output that leads on, which has not failed and is not where the packet comes from. -/
  id : Nat
  sender : Sender
  present : fanout.senders.get? id = some sender
  alive : sender.failed = false
  elsewhere : ¬ sender.IsOrigin origin
  /-- The stream of the output, from the greeting on, and how the next bus reads it. -/
  link : Stage
  format : link.format = sender.format
  exact : sender.format = .json ∨ sender.format = .proto
  /-- What else is on that stream, before the packet and after it. -/
  before : List Packet
  after : List Packet

namespace Waypoint

variable {σ : Type}

/-- What the bus offers to the output that leads on. -/
def written (w : Waypoint σ) (p : Packet) : List Bytes :=
  ((w.fanout.offers p w.origin w.now).filter fun o => o.id = w.id).map (·.bytes)

/-- The stream to the next bus, with what is offered for the packet in its place. -/
def stream (w : Waypoint σ) (p : Packet) : Bytes :=
  w.link.greeting ++ ((Encoder.fresh w.link.format w.link.started).encodeAll w.link.now w.before ++
    (w.written p).flatten ++
    (Encoder.fresh w.link.format w.link.started).encodeAll w.link.now w.after)

/-- The packet as the next bus reads it, if it was passed on. -/
def arrival (w : Waypoint σ) (p : Packet) : Option Packet :=
  if w.written p = [] then none else (w.link.read (w.stream p)).packets[w.before.length]?

/-! ## One waypoint -/

/-- A packet with too many hops is not passed on. -/
theorem written_of_le {w : Waypoint σ} {p : Packet} (h : w.fanout.maxHops ≤ p.hops) :
    w.written p = [] := by
  rw [written, Fanout.offers, if_pos h]
  rfl

/-- Below the ceiling, the output is offered the packet with one hop more. -/
theorem written_of_lt {w : Waypoint σ} {p : Packet} (h : p.hops < w.fanout.maxHops) :
    w.written p = [Encoder.frameBytes w.link.format { p with hops := p.hops + 1 }] := by
  have hencoding : w.fanout.encoding { p with hops := p.hops + 1 } w.now w.sender.format =
      Encoder.frameBytes w.link.format { p with hops := p.hops + 1 } := by
    have hformat := w.fanout.format_encoder w.sender.format w.now
    have hstats : (w.fanout.encoder w.sender.format w.now).format ≠ .stats := by
      rw [hformat, ← w.format]
      exact w.link.format_ne_stats
    rw [Fanout.encoding, Encoder.encode_eq_ok hstats, hformat, w.format]
    rfl
  have hne := (Format.isMessage_frameBytes w.link.readable { p with hops := p.hops + 1 }).1
  rw [written, Fanout.filter_offers h w.present w.alive w.elsewhere, hencoding, if_neg hne]
  rfl

/-- Bytes are written exactly below the ceiling. -/
theorem written_ne_nil_iff {w : Waypoint σ} {p : Packet} :
    w.written p ≠ [] ↔ p.hops < w.fanout.maxHops := by
  by_cases h : p.hops < w.fanout.maxHops
  · simp [written_of_lt h, h]
  · simp [written_of_le (UInt16.not_lt.1 h), h]

theorem arrival_of_le {w : Waypoint σ} {p : Packet} (h : w.fanout.maxHops ≤ p.hops) :
    w.arrival p = none := by
  rw [arrival, if_pos (written_of_le h)]

/-- **What was passed on arrives**, with the number of hops with which it was written. -/
theorem arrival_of_lt {w : Waypoint σ} {p : Packet} (h : p.hops < w.fanout.maxHops) :
    ∃ q, w.arrival p = some q ∧ q.hops = p.hops + 1 ∧ q.hops.toNat = p.hops.toNat + 1 := by
  have hstats : (Encoder.fresh w.link.format w.link.started).format ≠ .stats :=
    w.link.format_ne_stats
  have hexact : w.link.format = .json ∨ w.link.format = .proto := w.format ▸ w.exact
  have hstream : w.stream p =
      w.link.stream (w.before ++ { p with hops := p.hops + 1 } :: w.after) := by
    rw [stream, written_of_lt h, Stage.stream]
    simp only [Encoder.encodeAll_eq hstats, List.map_append, List.map_cons, List.flatten_append,
      List.flatten_cons, List.flatten_nil, List.append_nil, List.append_assoc]
    rfl
  have hhops := congrArg (·[w.before.length]?) (Packet.map_hops_hopAll w.link.sender .fresh
    (w.before ++ { p with hops := p.hops + 1 } :: w.after))
  obtain ⟨q, hq, hone⟩ : ∃ q, w.arrival p = some q ∧ q.hops = p.hops + 1 := by
    rw [arrival, if_neg (written_ne_nil_iff.2 h), hstream, w.link.packets_read hexact]
    simpa using hhops
  have hlt := UInt16.lt_iff_toNat_lt.1 h
  have hmax := w.fanout.maxHops.toNat_lt
  refine ⟨q, hq, hone, ?_⟩
  rw [hone, UInt16.toNat_add, UInt16.toNat_one, Nat.mod_eq_of_lt (by omega)]

end Waypoint

/-! ## Paths -/

variable {σ : Type}

/-- The packet as it comes to the end of a path, if all buses on it pass it on. -/
def reach (path : List (Waypoint σ)) (p : Packet) : Option Packet :=
  path.foldlM (fun p w => w.arrival p) p

/-- The bus at a place of a path gets the packet and passes it on. -/
def forwards (path : List (Waypoint σ)) (p : Packet) (i : Nat) : Bool :=
  match path[i]?, reach (path.take i) p with
  | some w, some q => w.written q ≠ []
  | _, _ => false

section

variable {path : List (Waypoint σ)} {p q : Packet} {i : Nat} {w : Waypoint σ}

theorem reach_succ (hw : path[i]? = some w) (p : Packet) :
    reach (path.take (i + 1)) p = (reach (path.take i) p).bind w.arrival := by
  rw [reach, List.take_add_one, hw, List.foldlM_append]
  show (reach (path.take i) p).bind _ = _
  cases reach (path.take i) p with
  | none => rfl
  | some q =>
    simp only [Option.toList_some, List.foldlM_cons, List.foldlM_nil]
    exact bind_pure _

/-- **A packet gains a hop at each bus** that it passes. -/
theorem hops_reach (hi : i ≤ path.length) (hreach : reach (path.take i) p = some q) :
    q.hops.toNat = p.hops.toNat + i := by
  induction i generalizing q with
  | zero =>
    cases hreach
    rfl
  | succ i ih =>
    have hw : path[i]? = some path[i] := List.getElem?_eq_getElem hi
    rw [reach_succ hw] at hreach
    obtain ⟨q', hq', harrival⟩ := Option.bind_eq_some_iff.1 hreach
    have hhops := ih (Nat.le_of_lt hi) hq'
    by_cases hlt : q'.hops < path[i].fanout.maxHops
    · obtain ⟨r, hr, -, hone⟩ := Waypoint.arrival_of_lt hlt
      rw [hr] at harrival
      cases harrival
      rw [hone, hhops, Nat.add_assoc]
    · rw [Waypoint.arrival_of_le (UInt16.not_lt.1 hlt)] at harrival
      cases harrival

/-- A bus forwards a packet exactly if it gets the packet with fewer hops than its ceiling. -/
theorem forwards_iff (hw : path[i]? = some w) :
    forwards path p i = true ↔
      ∃ q, reach (path.take i) p = some q ∧ q.hops < w.fanout.maxHops := by
  rw [forwards, hw]
  cases reach (path.take i) p with
  | none => simp
  | some q => simpa using Waypoint.written_ne_nil_iff

/-- A packet gets to a place of a path exactly if all buses before it forward it. -/
theorem exists_reach_iff (hi : i ≤ path.length) :
    (∃ q, reach (path.take i) p = some q) ↔ ∀ j < i, forwards path p j = true := by
  induction i with
  | zero => exact ⟨fun _ j hj => absurd hj (Nat.not_lt_zero j), fun _ => ⟨p, rfl⟩⟩
  | succ i ih =>
    have hw : path[i]? = some path[i] := List.getElem?_eq_getElem hi
    constructor
    · intro ⟨r, hr⟩
      rw [reach_succ hw] at hr
      obtain ⟨q, hq, harrival⟩ := Option.bind_eq_some_iff.1 hr
      intro j hj
      by_cases hlast : j = i
      · subst hlast
        refine (forwards_iff hw).2 ⟨q, hq, UInt16.not_le.1 fun hle => ?_⟩
        rw [Waypoint.arrival_of_le hle] at harrival
        cases harrival
      · exact (ih (Nat.le_of_lt hi)).1 ⟨q, hq⟩ j (by omega)
    · intro hall
      obtain ⟨q, hq, hlt⟩ := (forwards_iff hw).1 (hall i (Nat.lt_succ_self i))
      obtain ⟨r, hr, -⟩ := Waypoint.arrival_of_lt hlt
      rw [reach_succ hw, hq]
      exact ⟨r, hr⟩

/-- **Who forwards**: a bus to which the packet gets with hops to spare. -/
theorem forwards_iff_hops (hw : path[i]? = some w) :
    forwards path p i = true ↔
      (∀ j < i, forwards path p j = true) ∧ p.hops.toNat + i < w.fanout.maxHops.toNat := by
  have hi : i ≤ path.length := Nat.le_of_lt (List.getElem?_eq_some_iff.1 hw).1
  rw [forwards_iff hw, ← exists_reach_iff hi]
  constructor
  · intro ⟨q, hq, hlt⟩
    exact ⟨⟨q, hq⟩, hops_reach hi hq ▸ UInt16.lt_iff_toNat_lt.1 hlt⟩
  · intro ⟨⟨q, hq⟩, hlt⟩
    exact ⟨q, hq, UInt16.lt_iff_toNat_lt.2 ((hops_reach hi hq).symm ▸ hlt)⟩

end

/-- If only numbers below a bound have a property, then no more than that many of them do. -/
theorem countP_range_le {f : Nat → Bool} {m : Nat} (h : ∀ i, f i = true → i < m) (n : Nat) :
    (List.range n).countP f ≤ m := by
  induction n with
  | zero => exact Nat.zero_le m
  | succ n ih =>
    rw [List.range_succ, List.countP_append, List.countP_singleton]
    split
    · rename_i hn
      have hlt := h n hn
      have hle := List.countP_le_length (p := f) (l := List.range n)
      rw [List.length_range] at hle
      omega
    · exact ih

/-! ## The hop limit -/

/-- What the bus does with the packet. -/
def Waypoint.pass [Streams σ] (w : Waypoint σ) (p : Packet) : Fanout.Sent σ :=
  w.fanout.send p w.origin w.now w.host

/-- A bus relayed `p`: the pass was exact, its packet has the given number of hops, and `q`, which
the next bus reads, has that number too. -/
structure Waypoint.Relayed [Streams σ] (w : Waypoint σ) (p q : Packet) (hops : Nat) : Prop where
  exact : Fanout.Exact w.fanout p w.origin w.now w.host
    (makeAll (w.fanout.offers p w.origin w.now) w.host).1 (w.pass p)
  sent : (w.pass p).packet.hops.toNat = hops
  read : q.hops = (w.pass p).packet.hops

/-- **The hop limit bounds every path**, whatever buses it comes back to. A bus on it forwards the
packet exactly if all buses before it did and the hops of the packet, one more for each of them, are
below the ceiling of the bus. Who forwards it writes it with the next number of hops, which the next
bus reads, and who gets it but does not forward it does nothing. If the ceilings are up to `M`, then
at most `M - min h M` buses forward a packet with `h` hops. -/
theorem hops_bounded_path [Streams σ] (path : List (Waypoint σ)) (p : Packet) (M : Nat)
    (hM : ∀ w ∈ path, w.fanout.maxHops.toNat ≤ M) :
    (∀ i w, path[i]? = some w →
      (forwards path p i = true ↔
        (∀ j < i, forwards path p j = true) ∧ p.hops.toNat + i < w.fanout.maxHops.toNat) ∧
      (forwards path p i = true → ∃ q r, reach (path.take i) p = some q ∧
        reach (path.take (i + 1)) p = some r ∧ w.Relayed q r (p.hops.toNat + (i + 1))) ∧
      (forwards path p i = false → ∀ q, reach (path.take i) p = some q →
        w.pass q = ⟨0, q, w.fanout, w.host⟩)) ∧
    (List.range path.length).countP (forwards path p) ≤ M - min p.hops.toNat M := by
  constructor
  · intro i w hw
    refine ⟨forwards_iff_hops hw, fun hforwards => ?_, fun hforwards q hq => ?_⟩
    · obtain ⟨q, hq, hlt⟩ := (forwards_iff hw).1 hforwards
      obtain ⟨r, hr, hhops, -⟩ := Waypoint.arrival_of_lt hlt
      have hexact := Fanout.exact_send hlt w.origin w.now w.host
      have hi : i ≤ path.length := Nat.le_of_lt (List.getElem?_eq_some_iff.1 hw).1
      refine ⟨q, r, hq, by rw [reach_succ hw, hq]; exact hr, hexact, ?_, ?_⟩
      · rw [Waypoint.pass, hexact.hops, hops_reach hi hq, Nat.add_assoc]
      · rw [hhops, Waypoint.pass, hexact.packet]
    · refine Fanout.send_of_le (UInt16.not_lt.1 fun hlt => ?_) w.origin w.now w.host
      rw [(forwards_iff hw).2 ⟨q, hq, hlt⟩] at hforwards
      cases hforwards
  · refine countP_range_le (fun i hforwards => ?_) path.length
    cases hw : path[i]? with
    | none =>
      rw [forwards, hw] at hforwards
      cases hforwards
    | some w =>
      have hlt := ((forwards_iff_hops hw).1 hforwards).2
      have hle := hM w (List.mem_of_getElem? hw)
      omega

/-- A waypoint with a ceiling of two hops, of which only the stream to the next bus is open. -/
def Waypoint.narrow (f : Format) (hread : f ∈ Format.readable) (hf : f = .json ∨ f = .proto) :
    Waypoint Fanout.Valve where
  fanout := (Fanout.fresh 2).insert 4 (.fresh ⟨0, none, true, false⟩ f .loose)
  origin := none
  now := 0
  host := ⟨[]⟩
  id := 4
  sender := .fresh ⟨0, none, true, false⟩ f .loose
  present := rfl
  alive := rfl
  elsewhere := fun h => absurd h.1 (by decide)
  link := .bytewise f hread
  format := rfl
  exact := hf
  before := []
  after := []

/-- A packet goes back and forth between two buses with a ceiling of two hops. -/
theorem hops_bounded_path_cycle :
    let ping := Waypoint.narrow .json (by decide) (.inl rfl)
    let pong := Waypoint.narrow .proto (by decide) (.inr rfl)
    let path := [ping, pong, ping, pong]
    let p := Packet.blank .nil
    (∀ w ∈ path, w.fanout.maxHops.toNat ≤ 2) ∧
      forwards path p 0 = true ∧ forwards path p 1 = true ∧ forwards path p 2 = false ∧
      (∃ q r, pong.Relayed q r 2) ∧ (List.range 4).countP (forwards path p) ≤ 2 := by
  intro ping pong path p
  have hceiling : ∀ w ∈ path, w.fanout.maxHops.toNat ≤ 2 := by simp [path, ping, pong]; decide
  obtain ⟨hpath, hcount⟩ := hops_bounded_path path p 2 hceiling
  have hfirst : forwards path p 0 = true := (hpath 0 ping rfl).1.2 ⟨by simp, by decide⟩
  have hsecond : forwards path p 1 = true := by
    refine (hpath 1 pong rfl).1.2 ⟨fun j hj => ?_, by decide⟩
    rw [Nat.lt_one_iff.1 hj]
    exact hfirst
  have hthird : forwards path p 2 = false := by
    refine Bool.eq_false_iff.2 fun h => ?_
    exact absurd ((hpath 2 ping rfl).1.1 h).2 (by decide)
  obtain ⟨q, r, -, -, hrelayed⟩ := (hpath 1 pong rfl).2.1 hsecond
  exact ⟨hceiling, hfirst, hsecond, hthird, ⟨q, r, hrelayed⟩, hcount⟩

end Squitter
