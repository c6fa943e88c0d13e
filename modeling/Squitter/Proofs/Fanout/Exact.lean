import Squitter.Proofs.Fanout.Send

/-!
# Exactness of one pass

A pass is **exact** (`Exact`) if the packet gains one hop, each encoder in use advances by
this packet, each sender that has not failed and is not where the packet came from is offered
one copy in its format, nobody else is offered anything, and exactly the senders that refused
are marked and remembered as failed. Every pass below the hop limit is exact, whatever the
streams answer (`exact_send`).
-/

namespace Squitter

namespace Fanout

/-! ## One sender -/

theorem exists_of_mem_offers {f : Fanout} {p : Packet} {origin : Option Nat} {now : Nat} {o : Offer}
    (h : o ∈ f.offers p origin now) :
    ∃ s, f.senders.get? o.id = some s ∧ s.failed = false ∧ ¬ s.IsOrigin origin := by
  rw [offers] at h
  split at h
  · exact (List.not_mem_nil h).elim
  · obtain ⟨format, -, ho⟩ := List.mem_flatMap.1 h
    obtain ⟨s, hs, hfor⟩ := exists_of_mem_offersIn ho
    obtain ⟨hfailed, -, horigin⟩ := isFor_iff.1 hfor
    exact ⟨s, hs, hfailed, horigin⟩

/-- A sender that takes part gets one of the copies. -/
theorem filter_copies {f : Fanout} {id : Nat} {s : Sender} (h : f.senders.get? id = some s)
    (format : Format) (origin : Option Nat) (out : Bytes) :
    (f.copies format origin out).filter (fun o => o.id = id) =
      if isFor s format origin then [⟨id, s.stream, out⟩] else [] := by
  have hone :
      (f.senders.entries.filter fun e => isFor e.2 format origin).filter (fun e => e.1 = id) =
      if isFor s format origin then [(id, s)] else [] := calc
    _ = (f.senders.entries.filter fun e => e.1 = id).filter (fun e => isFor e.2 format origin) := by
      simp only [List.filter_filter, Bool.and_comm]
    _ = [(id, s)].filter (fun e => isFor e.2 format origin) := by
      rw [f.senders.filter_entries, h]
      rfl
    _ = _ := List.filter_cons
  have hmap := List.filter_map (f := fun e : Nat × Sender => (⟨e.1, e.2.stream, out⟩ : Offer))
    (p := fun o => o.id = id) (l := f.senders.entries.filter fun e => isFor e.2 format origin)
  refine hmap.trans ((congrArg _ hone).trans ?_)
  split <;> rfl

theorem flatMap_eq_of_nodup {α β : Type} {l : List α} (hnodup : l.Nodup) {a : α} (ha : a ∈ l)
    {g : α → List β} (hg : ∀ b, b ≠ a → g b = []) : l.flatMap g = g a := by
  induction l with
  | nil => exact (List.not_mem_nil ha).elim
  | cons b l ih =>
    obtain ⟨hb, hl⟩ := List.nodup_cons.1 hnodup
    rw [List.flatMap_cons]
    by_cases hba : b = a
    · subst hba
      have hnil : l.flatMap g = [] :=
        List.flatMap_eq_nil_iff.2 fun c hc => hg c fun hcb => hb (hcb ▸ hc)
      rw [hnil, List.append_nil]
    · rw [hg b hba, List.nil_append, ih hl]
      rcases List.mem_cons.1 ha with rfl | hmem
      · exact absurd rfl hba
      · exact hmem

/-- **One copy for each.** A sender that has not failed and is not where the packet came from is
offered the encoding of the packet once, if it is not empty. -/
theorem filter_offers {f : Fanout} {p : Packet} (hhops : p.hops < f.maxHops) {id : Nat} {s : Sender}
    (h : f.senders.get? id = some s) (hfailed : s.failed = false) {origin : Option Nat}
    (horigin : ¬ s.IsOrigin origin) (now : Nat) :
    (f.offers p origin now).filter (fun o => o.id = id) =
      if f.encoding { p with hops := p.hops + 1 } now s.format = [] then []
      else [⟨id, s.stream, f.encoding { p with hops := p.hops + 1 } now s.format⟩] := by
  have hmem : s.format ∈ f.formats := mem_formats.2 ⟨id, s, h, hfailed, rfl⟩
  have hin : ∀ format, (f.offersIn { p with hops := p.hops + 1 } origin now format).filter
      (fun o => o.id = id) = if f.encoding { p with hops := p.hops + 1 } now format = [] then []
        else if isFor s format origin then
          [⟨id, s.stream, f.encoding { p with hops := p.hops + 1 } now format⟩] else [] := by
    intro format
    rw [offersIn]
    split
    · rfl
    · exact filter_copies h ..
  rw [offers, if_neg (UInt16.not_le.2 hhops), List.filter_flatMap,
    flatMap_eq_of_nodup f.nodup_formats hmem, hin, if_pos (isFor_iff.2 ⟨hfailed, rfl, horigin⟩)]
  intro format hne
  have hfor : ¬ isFor s format origin := fun hfor => hne (isFor_iff.1 hfor).2.1.symm
  rw [hin, if_neg hfor, ite_self]

/-! ## All senders -/

/-- Encoders do not touch the rest of the state. -/
theorem foldl_advance_eq (formats : List Format) (f : Fanout) (p : Packet) (now : Nat) :
    ∃ encoders, formats.foldl (advance · p now) f = { f with encoders } := by
  induction formats generalizing f with
  | nil => exact ⟨f.encoders, rfl⟩
  | cons format rest ih =>
    obtain ⟨encoders, h⟩ := ih (f.advance p now format)
    exact ⟨encoders, h⟩

section

variable {σ : Type} [Streams σ]

/-- Who refuses in a pass. -/
def refusals (f : Fanout) (p : Packet) (origin : Option Nat) (now : Nat) (host : σ) : List Nat :=
  refused (makeAll (f.offers p origin now) host).1

/-- Apart from the encoders, a pass gives up who refuses and does nothing else. -/
theorem fanout_send (f : Fanout) (p : Packet) (origin : Option Nat) (now : Nat) (host : σ) :
    ∃ encoders, (f.send p origin now host).fanout =
      { f.giveUp (f.refusals p origin now host) with encoders } := by
  by_cases h : f.maxHops ≤ p.hops
  · refine ⟨f.encoders, ?_⟩
    rw [send_of_le h, refusals, offers, if_pos h]
    exact f.giveUp_nil.symm
  · have hlt := UInt16.not_le.1 h
    obtain ⟨encoders, hencoders⟩ :=
      foldl_advance_eq f.formats f { p with hops := p.hops + 1 } now
    refine ⟨encoders, ?_⟩
    rw [send_eq hlt]
    simp only [Sent.after, hencoders]
    rfl

theorem get?_send (f : Fanout) (p : Packet) (origin : Option Nat) (now : Nat)
    (host : σ) (id : Nat) :
    (f.send p origin now host).fanout.senders.get? id = (f.senders.get? id).map fun s =>
      { s with failed := s.failed || (f.refusals p origin now host).contains id } := by
  obtain ⟨encoders, h⟩ := f.fanout_send p origin now host
  rw [h]
  exact f.get?_giveUp _ id

theorem failures_send (f : Fanout) (p : Packet) (origin : Option Nat) (now : Nat) (host : σ) :
    (f.send p origin now host).fanout.failures = f.failures ++ f.refusals p origin now host := by
  obtain ⟨encoders, h⟩ := f.fanout_send p origin now host
  rw [h]
  rfl

/-- A pass below the hop limit has each encoder in use write the packet once. -/
theorem encoder_send {f : Fanout} {p : Packet} (h : p.hops < f.maxHops) (origin : Option Nat)
    (now : Nat) (host : σ) (format : Format) (later : Nat) :
    (f.send p origin now host).fanout.encoder format later =
      if format ∈ f.formats then
        ((f.encoder format now).encode { p with hops := p.hops + 1 } now).2
      else f.encoder format later := by
  rw [send_eq h]
  exact encoder_foldl_advance f.nodup_formats f _ now format later

/-- Only senders that had not failed refuse. -/
theorem exists_of_mem_refusals {f : Fanout} {p : Packet} {origin : Option Nat}
    {now : Nat} {host : σ} {id : Nat} (h : id ∈ f.refusals p origin now host) :
    ∃ s, f.senders.get? id = some s ∧ s.failed = false ∧ ¬ s.IsOrigin origin := by
  obtain ⟨o, ho, rfl⟩ := exists_of_mem_refused h
  rw [map_fst_makeAll] at ho
  exact exists_of_mem_offers ho

/-- Nobody refuses twice in a pass. -/
theorem count_refusals {f : Fanout} {p : Packet} {origin : Option Nat} {now : Nat}
    {host : σ} {id : Nat}
    (h : id ∈ f.refusals p origin now host) : (f.refusals p origin now host).count id = 1 := by
  have hone : ((f.offers p origin now).filter fun o => o.id = id).length ≤ 1 := by
    by_cases hhops : f.maxHops ≤ p.hops
    · rw [offers, if_pos hhops]
      exact Nat.zero_le 1
    · obtain ⟨s, hs, hfailed, horigin⟩ := exists_of_mem_refusals h
      rw [filter_offers (UInt16.not_le.1 hhops) hs hfailed horigin]
      split
      · exact Nat.zero_le 1
      · exact Nat.le_refl 1
  have hle := count_refused_le (makeAll (f.offers p origin now) host).1 id
  rw [map_fst_makeAll] at hle
  exact Nat.le_antisymm (Nat.le_trans hle hone) (List.one_le_count_iff.2 h)

/-- A pass was exact: `done` is what was offered, with the answers, and `r` came out. -/
structure Exact (f : Fanout) (p : Packet) (origin : Option Nat) (now : Nat) (host : σ)
    (done : List (Offer × Bool)) (r : Sent σ) : Prop where
  /-- The packet gains one hop and changes in nothing else. -/
  packet : r.packet = { p with hops := p.hops + 1 }
  hops : r.packet.hops.toNat = p.hops.toNat + 1
  /-- An encoder that has senders writes the packet once. -/
  advanced : ∀ id s, f.senders.get? id = some s → s.failed = false → ∀ later,
    r.fanout.encoder s.format later = ((f.encoder s.format now).encode r.packet now).2
  /-- An encoder without senders does nothing. -/
  idle : ∀ format, (∀ id s, f.senders.get? id = some s → s.failed = false → s.format ≠ format) →
    ∀ later, r.fanout.encoder format later = f.encoder format later
  /-- Who has not failed and is not the origin is offered one copy, if
  there is something to offer. -/
  offered : ∀ id s, f.senders.get? id = some s → s.failed = false → ¬ s.IsOrigin origin →
    ∃ out, ((f.encoder s.format now).encode r.packet now).1 = .ok out ∧
      (done.map Prod.fst).filter (fun o => o.id = id) =
        if out = [] then [] else [⟨id, s.stream, out⟩]
  /-- Nobody else is offered anything. -/
  spared : ∀ a ∈ done, ∃ s, f.senders.get? a.1.id = some s ∧ s.failed = false ∧ ¬ s.IsOrigin origin
  /-- What is offered does not depend on the answers. -/
  planned : done.map Prod.fst = f.offers p origin now
  /-- All that happens to the computer is that the offers are made. -/
  made : makeAll (done.map Prod.fst) host = (done, r.host)
  delivered : r.delivered = done.countP (·.2)
  /-- Who refused is marked. -/
  senders : ∀ id, r.fanout.senders.get? id =
    (f.senders.get? id).map fun s => { s with failed := s.failed || (refused done).contains id }
  failures : r.fanout.failures = f.failures ++ refused done

/-- **Every pass below the hop limit is exact.** -/
theorem exact_send {f : Fanout} {p : Packet} (h : p.hops < f.maxHops)
    (origin : Option Nat) (now : Nat) (host : σ) :
    Exact f p origin now host (makeAll (f.offers p origin now) host).1
      (f.send p origin now host) where
  packet := by
    rw [send_eq h]
    rfl
  hops := by
    have hlt := UInt16.lt_iff_toNat_lt.1 h
    have hmax := f.maxHops.toNat_lt
    rw [send_eq h]
    show (p.hops + 1).toNat = p.hops.toNat + 1
    rw [UInt16.toNat_add, UInt16.toNat_one, Nat.mod_eq_of_lt (by omega)]
  advanced := by
    intro id s hs hfailed later
    have hmem : s.format ∈ f.formats := mem_formats.2 ⟨id, s, hs, hfailed, rfl⟩
    rw [encoder_send h, if_pos hmem, send_eq h]
    rfl
  idle := by
    intro format hformat later
    have hmem : format ∉ f.formats := by
      intro hmem
      obtain ⟨id, s, hs, hfailed, heq⟩ := mem_formats.1 hmem
      exact hformat id s hs hfailed heq
    rw [encoder_send h, if_neg hmem]
  offered := by
    intro id s hs hfailed horigin
    refine ⟨f.encoding { p with hops := p.hops + 1 } now s.format, ?_, ?_⟩
    · rw [send_eq h]
      exact f.encode_eq_encoding ..
    · rw [map_fst_makeAll]
      exact filter_offers h hs hfailed horigin now
  spared := by
    intro a ha
    have hmem : a.1 ∈ f.offers p origin now := by
      rw [← map_fst_makeAll (f.offers p origin now) host]
      exact List.mem_map_of_mem ha
    exact exists_of_mem_offers hmem
  planned := map_fst_makeAll _ _
  made := by
    rw [map_fst_makeAll, send_eq h]
    rfl
  delivered := by
    rw [send_eq h]
    exact Nat.zero_add _
  senders := f.get?_send p origin now host
  failures := f.failures_send p origin now host

end

end Fanout

end Squitter
