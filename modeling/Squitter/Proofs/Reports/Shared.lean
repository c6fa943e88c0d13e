import Squitter.Proofs.Fanout.Run
import Squitter.Proofs.Reports.Calls

/-!
# Reports of a shared encoder

All senders of a format share one encoder. A greeting in the format calls it, and so does a packet
that is passed on while the format is in use, once, however many senders there are (`Fanout.call?`).
So the encoder of a format is what it is after the calls of the run so far (`Fanout.Serves.run`),
and a tally has counted the packets that were recorded in them.

**The result** (`Fanout.reports_exact`). After any run, a greeting in stats lists how many of the
packets recorded so far are of each kind, and changes nothing in this. A packet that is passed on is
recorded once. The senders of stats are offered nothing, unless the number of packets recorded is
then a multiple of a thousand: then each that is not where the packet came from is offered the same
report, which lists all of them.
-/

namespace Squitter

open Encoder Wire.Stats

namespace Fanout

variable {σ : Type}

/-! ## Calls of an encoder -/

/-- The call that an act makes on the encoder of a format. -/
def call? (format : Format) (f : Fanout) : Act σ → Option Encoder.Call
  | .greet g server now => if g = format then some (.greet server now) else none
  | .send p _ now _ =>
    if p.hops < f.maxHops ∧ format ∈ f.formats then some (.write { p with hops := p.hops + 1 } now)
    else none
  | .insert _ _ | .remove _ | .takeFailures => none

/-- The calls on the encoder of a format along a run. -/
def calls [Streams σ] (format : Format) (f : Fanout) (acts : List (Act σ)) : List Encoder.Call :=
  along (fun f a => (f.call? format a).toList) f acts

/-- When the encoder of a format was made: at its first call, or not before it is needed. -/
def madeAt (calls : List Encoder.Call) (later : Nat) : Nat :=
  (calls.head?.map Encoder.Call.now).getD later

/-- The encoder of a format is what it is after some calls. -/
def Serves (f : Fanout) (format : Format) (calls : List Encoder.Call) : Prop :=
  ∀ later, f.encoder format later = (Encoder.fresh format (madeAt calls later)).after calls

theorem madeAt_concat (calls : List Encoder.Call) (c : Encoder.Call) (later : Nat) :
    madeAt (calls ++ [c]) later = madeAt calls c.now := by
  cases calls <;> rfl

theorem serves_fresh (maxHops : UInt16) (format : Format) : Serves (fresh maxHops) format [] :=
  fun _ => rfl

variable [Streams σ] {f : Fanout} {format : Format}

/-- An act calls an encoder once or leaves it alone. -/
theorem encoder_step (f : Fanout) (a : Act σ) (format : Format) (later : Nat) :
    (f.step a).encoder format later =
      match f.call? format a with
      | some c => ((f.encoder format c.now).answer c).2
      | none => f.encoder format later := by
  cases a with
  | greet g server now =>
    rw [step, greeting, encoder_setEncoder, format_encoder]
    by_cases hg : g = format
    · subst hg
      simp only [call?, if_true, Encoder.answer, Encoder.Call.now]
    · simp only [call?, if_neg hg, if_neg (Ne.symm hg)]
  | send p origin now host =>
    rw [step]
    by_cases hhops : p.hops < f.maxHops
    · rw [encoder_send hhops]
      by_cases hformat : format ∈ f.formats
      · simp only [call?, hhops, hformat, and_self, if_true, Encoder.answer, Encoder.Call.now]
      · simp only [call?, hformat, and_false, if_false]
    · rw [send_of_le (UInt16.not_lt.1 hhops)]
      simp only [call?, hhops, false_and, if_false]
  | insert id s => rfl
  | remove id => rfl
  | takeFailures => rfl

namespace Serves

variable {calls : List Encoder.Call}

theorem step (h : Serves f format calls) (a : Act σ) :
    Serves (f.step a) format (calls ++ (f.call? format a).toList) := by
  intro later
  rw [encoder_step]
  cases f.call? format a with
  | none => rw [Option.toList_none, List.append_nil]; exact h later
  | some c => rw [Option.toList_some, madeAt_concat, Encoder.after_concat, ← h c.now]

/-- **The encoder of a format is what it is after the calls of a run.** -/
theorem run (h : Serves f format calls) (acts : List (Act σ)) :
    Serves (f.run acts) format (calls ++ f.calls format acts) := by
  induction acts generalizing f calls with
  | nil => rw [Fanout.calls, along, List.append_nil]; exact h
  | cons a acts ih =>
    rw [Fanout.calls, along, ← List.append_assoc]
    exact ih (h.step a)

end Serves

/-! ## Reports -/

/-- What a stats stream starts with leaves all tallies as they are. -/
theorem tally_greeting {calls : List Encoder.Call} (h : Serves f .stats calls) (server : Server)
    (now later : Nat) (format : Format) :
    ((f.greeting format server now).2.encoder .stats later).tally =
      (f.encoder .stats later).tally := by
  rw [greeting, encoder_setEncoder, format_encoder]
  by_cases hformat : Format.stats = format
  · subst hformat
    rw [if_pos rfl, h, h, after_stats, after_stats]
  · rw [if_neg hformat]

/-- **Reports are exact**, for an encoder alone, whatever it is called for, and for one that is
shared by all the senders of stats. -/
theorem reports_exact (maxHops : UInt16) (acts : List (Act σ)) :
    let f := (fresh maxHops).run acts
    let calls := (fresh maxHops).calls .stats acts
    let packets := recorded calls
    (∀ started calls,
      Tallied ((Encoder.fresh .stats started).after calls) started (recorded calls)) ∧
      (∀ later, Tallied (f.encoder .stats later) (madeAt calls later) packets) ∧
      (∀ server now, ∃ out, (f.greeting .stats server now).1 = .ok out ∧
        Lists out ((now - madeAt calls now) / 1000) (countKind packets)) ∧
      (∀ format server now later,
        ((f.greeting format server now).2.encoder .stats later).tally =
          (f.encoder .stats later).tally) ∧
      ∀ p origin now (host : σ), p.hops < f.maxHops →
        (∃ id s, f.senders.get? id = some s ∧ s.failed = false ∧ s.format = .stats) →
          let passed : Packet := { p with hops := p.hops + 1 }
          let r := f.send p origin now host
          (∀ later, Tallied (r.fanout.encoder .stats later) (madeAt calls now)
            (packets ++ [passed])) ∧
            ∃ done out, Exact f p origin now host done r ∧
              (Encoder.Call.write passed now).Due (madeAt calls now) packets out ∧
              ∀ id s, f.senders.get? id = some s → s.failed = false → s.format = .stats →
                ¬ s.IsOrigin origin → (done.map Prod.fst).filter (fun o => o.id = id) =
                  if out = [] then [] else [⟨id, s.stream, out⟩] := by
  intro f calls packets
  have hserves : Serves f .stats calls := (serves_fresh maxHops .stats).run acts
  have htallied (later : Nat) : Tallied (f.encoder .stats later) (madeAt calls later) packets := by
    rw [hserves]
    exact tallied_after _ calls
  refine ⟨tallied_after, htallied, fun server now => (htallied now).due (.greet server now),
    fun format server now later => tally_greeting hserves server now later format, ?_⟩
  rintro p origin now host hhops ⟨id, s, hs, hlive, hstats⟩ passed r
  have hexact := exact_send hhops origin now host
  have hnext (later : Nat) : r.fanout.encoder .stats later =
      (Encoder.fresh .stats (madeAt calls now)).after (calls ++ [.write passed now]) := by
    rw [← hstats, hexact.advanced id s hs hlive, hexact.packet, hstats, hserves, after_concat]
    rfl
  obtain ⟨out, hout, hdue⟩ := (htallied now).due (.write passed now)
  refine ⟨fun later => ?_, _, out, hexact, hdue, fun id' s' hs' hlive' hstats' horigin => ?_⟩
  · have hlater := tallied_after (madeAt calls now) (calls ++ [.write passed now])
    rw [recorded_concat] at hlater
    rw [hnext]
    exact hlater
  · obtain ⟨out', hout', hoffered⟩ := hexact.offered id' s' hs' hlive' horigin
    rw [hstats', hexact.packet] at hout'
    obtain rfl : out' = out := Except.ok.inj (hout'.symm.trans hout)
    exact hoffered

/-- The thousandth packet of an encoder, more than seven seconds after it was made, and the second
one of an encoder that two senders share. -/
theorem reports_exact_two_senders :
    let p : Packet := .blank .nil
    let e := (Encoder.fresh .stats 900).after (List.replicate 999 (.write p 5000))
    let s : Sender := .fresh ⟨0, none, true, false⟩ .stats .loose
    let host : Valve := ⟨[]⟩
    let acts : List (Act Valve) :=
      [.insert 4 s, .insert 7 s, .greet .stats ⟨.nil, ""⟩ 3,
        .send { p with kind := .modeAC } none 5 host]
    let f := (fresh 5).run acts
    let r := f.send p none 6 host
    (∃ out, (e.answer (.write p 8100)).1 = .ok out ∧
        Lists out 7 fun k => if k = .short then 1000 else 0) ∧
      (p.hops < f.maxHops ∧ f.senders.get? 7 = some s ∧ s.failed = false ∧ s.format = .stats ∧
        ¬ s.IsOrigin none) ∧
      (∀ k, (r.fanout.encoder .stats 9).tally.count k = if k = .long then 0 else 1) ∧
      ∃ done, Exact f p none 6 host done r ∧
        (done.map Prod.fst).filter (fun o => o.id = 7) = [] := by
  intro p e s host acts f r
  obtain ⟨halone, -, -, -, hpass⟩ := reports_exact 5 acts
  have hhops : p.hops < f.maxHops := by decide +kernel
  have hs : f.senders.get? 7 = some s := by decide +kernel
  have horigin : ¬ s.IsOrigin none := fun h => Bool.noConfusion h.1
  have hpackets : recorded ((fresh 5).calls .stats acts) =
      [{ p with kind := .modeAC, hops := 1 }] := by
    decide +kernel
  obtain ⟨htallied, done, out, hexact, hdue, hoffered⟩ :=
    hpass p none 6 host hhops ⟨7, s, hs, rfl, rfl⟩
  rw [hpackets] at htallied hdue
  refine ⟨?_, ⟨hhops, hs, rfl, rfl, horigin⟩, fun k => ?_, done, hexact, ?_⟩
  · have hrecorded : recorded (List.replicate 999 (.write p 5000)) ++ [p] =
        List.replicate 1000 p := by
      decide +kernel
    have hcounts (n : Nat) :
        countKind (List.replicate n p) = fun k => if k = .short then n else 0 := by
      funext k
      rw [countKind, List.countP_replicate]
      cases k <;> rfl
    obtain ⟨out, hout, hwritten, hlists⟩ :=
      (halone 900 (List.replicate 999 (.write p 5000))).due (.write p 8100)
    rw [hrecorded, List.length_replicate] at hwritten
    rw [hrecorded, hcounts] at hlists
    exact ⟨out, hout, hlists (hwritten.2 (Nat.dvd_refl 1000))⟩
  · rw [(htallied 9).counts]
    cases k <;> rfl
  · have hnothing : out = [] := by
      rcases Decidable.em (out = []) with hnil | hne
      · exact hnil
      · exact absurd (hdue.1.1 hne) (by decide)
    rw [hoffered 7 s hs rfl rfl horigin, if_pos hnothing]

end Fanout

end Squitter
