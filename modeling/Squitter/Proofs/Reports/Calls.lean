import Squitter.Encoder
import Squitter.Proofs.RoundTrip.Numerals

/-!
# What a tally reports

An encoder is **called** (`Encoder.Call`) for the greeting of a new stream or for a packet, in any
order. Its calls say which packets it has **recorded** (`Encoder.recorded`), and these decide
everything about a tally: it has counted how many of them are of each kind (`Tally.ofPackets`,
`Encoder.after_stats`). A report **lists** (`Lists`) these numbers, and whether one is **due**
(`Call.Due`) is a question of how many there are (`Encoder.answer_due`).
-/

namespace Squitter

open Wire.Stats

/-! ## Packets by kind -/

/-- How many packets are of a kind. -/
def countKind (packets : List Packet) (k : Kind) : Nat :=
  packets.countP fun p => p.kind = k

theorem countKind_concat (packets : List Packet) (p : Packet) (k : Kind) :
    countKind (packets ++ [p]) k = countKind packets k + if p.kind = k then 1 else 0 := by
  simp [countKind, List.countP_append, List.countP_cons]

/-- Every packet is of one kind. -/
theorem sum_countKind (packets : List Packet) :
    countKind packets .modeAC + countKind packets .short + countKind packets .long =
      packets.length := by
  induction packets with
  | nil => rfl
  | cons p packets ih =>
    simp only [countKind, List.countP_cons, List.length_cons] at ih ⊢
    cases p.kind <;> simp <;> omega

namespace Wire.Stats

/-- The text of a report: the seconds, and the packets of each kind in the order of their names. -/
def Lists (out : Bytes) (uptime : Nat) (counts : Kind → Nat) : Prop :=
  out = utf8 "\x7b\"uptime_seconds\":" ++ Decimal.digits uptime ++
    utf8 ",\"packet_counts\":\x7b\"Mode-AC\":" ++ Decimal.digits (counts .modeAC) ++
    utf8 ",\"Mode-S long\":" ++ Decimal.digits (counts .long) ++
    utf8 ",\"Mode-S short\":" ++ Decimal.digits (counts .short) ++ utf8 "\x7d\x7d\n"

theorem Lists.ne_nil {out : Bytes} {uptime : Nat} {counts : Kind → Nat}
    (h : Lists out uptime counts) :
    out ≠ [] := by
  rw [h]
  simp [utf8]

namespace Tally

/-- The tally of some packets. -/
def ofPackets (packets : List Packet) : Tally :=
  ⟨packets.length, countKind packets .modeAC, countKind packets .short, countKind packets .long,
    (sum_countKind packets).symm⟩

theorem count_ofPackets (packets : List Packet) :
    (ofPackets packets).count = countKind packets := by
  funext k
  cases k <;> rfl

theorem total_ofPackets (packets : List Packet) : (ofPackets packets).total = packets.length := rfl

theorem add_ofPackets (packets : List Packet) (p : Packet) :
    (ofPackets packets).add p.kind = ofPackets (packets ++ [p]) := by
  simp only [ofPackets, add, countKind_concat, List.length_append, List.length_singleton]

/-- A report lists what was counted. -/
theorem lists_report (t : Tally) (uptime : Nat) : Lists (t.report uptime) uptime t.count := by
  have hstart : utf8 "\x7b\"uptime_seconds\":" = 0x7B :: Json.quote "uptime_seconds" ++ [0x3A] := by
    decide +kernel
  have hmodeAC : utf8 ",\"packet_counts\":\x7b\"Mode-AC\":" =
      0x2C :: Json.quote "packet_counts" ++ 0x3A :: 0x7B :: Json.quote "Mode-AC" ++ [0x3A] := by
    decide +kernel
  have hlong : utf8 ",\"Mode-S long\":" = 0x2C :: Json.quote "Mode-S long" ++ [0x3A] := by
    decide +kernel
  have hshort : utf8 ",\"Mode-S short\":" = 0x2C :: Json.quote "Mode-S short" ++ [0x3A] := by
    decide +kernel
  have hend : utf8 "\x7d\x7d\n" = [0x7D, 0x7D, 0x0A] := by decide +kernel
  rw [Lists, hstart, hmodeAC, hlong, hshort, hend]
  simp only [report, Json.line, Json.number, Json.member, List.intercalate, List.intersperse,
    List.map_cons, List.map_nil, List.flatten_cons, List.flatten_nil, Kind.name, List.append_assoc,
    List.cons_append, List.nil_append, List.append_nil]

end Tally

end Wire.Stats

/-! ## Calls -/

namespace Encoder

/-- What an encoder is called for. -/
inductive Call
  | greet (server : Server) (now : Nat)
  | write (p : Packet) (now : Nat)

namespace Call

/-- When the call is made. -/
def now : Call → Nat
  | greet _ now => now
  | write _ now => now

/-- The packet that is written, if one is. -/
def packet? : Call → Option Packet
  | greet _ _ => none
  | write p _ => some p

/-- What a stats stream is due, `started` being the time of the encoder's first call and `packets`
those that were recorded before: a report at its start, and at every thousandth packet. Times are in
milliseconds, and a report gives the whole seconds. -/
def Due (started : Nat) (packets : List Packet) (out : Bytes) : Call → Prop
  | greet _ now => Lists out ((now - started) / 1000) (countKind packets)
  | write p now =>
    (out ≠ [] ↔ 1000 ∣ (packets ++ [p]).length) ∧
      (out ≠ [] → Lists out ((now - started) / 1000) (countKind (packets ++ [p])))

end Call

/-- The answer to a call. A greeting leaves the encoder as it is. -/
def answer (e : Encoder) : Call → Except Error Bytes × Encoder
  | .greet server now => (e.greeting server now, e)
  | .write p now => e.encode p now

/-- The encoder after some calls. -/
def after (e : Encoder) (calls : List Call) : Encoder :=
  calls.foldl (fun e c => (e.answer c).2) e

/-- The packets that were recorded in some calls. -/
def recorded (calls : List Call) : List Packet := calls.flatMap fun c => c.packet?.toList

theorem recorded_concat (calls : List Call) (c : Call) :
    recorded (calls ++ [c]) = recorded calls ++ c.packet?.toList := by
  rw [recorded, List.flatMap_append, List.flatMap_singleton]
  rfl

theorem after_concat (e : Encoder) (calls : List Call) (c : Call) :
    e.after (calls ++ [c]) = ((e.after calls).answer c).2 := by
  rw [after, List.foldl_append]
  rfl

/-- One call of an encoder that has recorded some packets. -/
theorem answer_stats (started : Nat) (packets : List Packet) (c : Call) :
    (∃ out, ((⟨.stats, started, .ofPackets packets⟩ : Encoder).answer c).1 = .ok out ∧
        c.Due started packets out) ∧
      ((⟨.stats, started, .ofPackets packets⟩ : Encoder).answer c).2 =
        ⟨.stats, started, .ofPackets (packets ++ c.packet?.toList)⟩ := by
  cases c with
  | greet server now =>
    refine ⟨⟨_, rfl, ?_⟩, by simp [answer, Call.packet?]⟩
    have hlists := Tally.lists_report (.ofPackets packets) ((now - started) / 1000)
    rwa [Tally.count_ofPackets] at hlists
  | write p now =>
    have hlists := Tally.lists_report (.ofPackets (packets ++ [p])) ((now - started) / 1000)
    rw [Tally.count_ofPackets] at hlists
    have hrecord : (Tally.ofPackets packets).record ((now - started) / 1000) p.kind =
        (if (packets ++ [p]).length % interval = 0 then
            (Tally.ofPackets (packets ++ [p])).report ((now - started) / 1000) else [],
          .ofPackets (packets ++ [p])) := by
      simp only [Tally.record, Tally.add_ofPackets, Tally.total_ofPackets]
    refine ⟨⟨_, congrArg (fun r : Bytes × Tally => Except.ok r.1) hrecord, ?_⟩, ?_⟩
    · rw [Call.Due, Nat.dvd_iff_mod_eq_zero]
      by_cases hdue : (packets ++ [p]).length % interval = 0
      · simp only [if_pos hdue]
        exact ⟨iff_of_true hlists.ne_nil hdue, fun _ => hlists⟩
      · simp only [if_neg hdue]
        exact ⟨iff_of_false (fun h => h rfl) hdue, fun h => absurd rfl h⟩
    · exact congrArg (fun r : Bytes × Tally => (⟨.stats, started, r.2⟩ : Encoder)) hrecord

theorem after_ofPackets (started : Nat) (packets : List Packet) (calls : List Call) :
    (⟨.stats, started, .ofPackets packets⟩ : Encoder).after calls =
      ⟨.stats, started, .ofPackets (packets ++ recorded calls)⟩ := by
  induction calls generalizing packets with
  | nil =>
    rw [recorded, List.flatMap_nil, List.append_nil]
    rfl
  | cons c calls ih =>
    obtain ⟨-, hnext⟩ := answer_stats started packets c
    rw [after, List.foldl_cons, hnext, recorded, List.flatMap_cons, ← List.append_assoc]
    exact ih (packets ++ c.packet?.toList)

/-- **A tally counts what was recorded**, whatever the calls were and in whatever order. -/
theorem after_stats (started : Nat) (calls : List Call) :
    (fresh .stats started).after calls = ⟨.stats, started, .ofPackets (recorded calls)⟩ :=
  after_ofPackets started [] calls

/-- An encoder made at some time has counted some packets, and writes what is due after them. -/
structure Tallied (e : Encoder) (started : Nat) (packets : List Packet) : Prop where
  counts : ∀ k, e.tally.count k = countKind packets k
  sum : e.tally.count .modeAC + e.tally.count .short + e.tally.count .long = packets.length
  total : e.tally.total = packets.length
  due : ∀ c : Call, ∃ out, (e.answer c).1 = .ok out ∧ c.Due started packets out

/-- **What is due is written**, after any calls. -/
theorem tallied_after (started : Nat) (calls : List Call) :
    Tallied ((fresh .stats started).after calls) started (recorded calls) where
  counts k := by rw [after_stats, Tally.count_ofPackets]
  sum := by rw [after_stats, Tally.count_ofPackets, sum_countKind]
  total := by rw [after_stats, Tally.total_ofPackets]
  due c := by
    rw [after_stats]
    exact (answer_stats started (recorded calls) c).1

end Encoder

end Squitter
