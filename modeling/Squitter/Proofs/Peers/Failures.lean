import Squitter.Proofs.Fanout.Exact
import Squitter.Proofs.Peers.Course

/-!
# Failed senders

Senders fail only while packets are passed on, and whichever fails is put on the list of failures
(`flagged_relayed`). When the failures are taken off the list, each of these senders is closed, and
then none is left that has failed (`settled_closeFailed`).
-/

namespace Squitter

/-! ## Passing on -/

namespace Receiver

theorem foldl_takeStep_same (steps : List Decoder.Step) (y : Yield) :
    (steps.foldl takeStep y).receiver.token = y.receiver.token ∧
      (steps.foldl takeStep y).receiver.tether = y.receiver.tether := by
  induction steps generalizing y with
  | nil => exact ⟨rfl, rfl⟩
  | cons step rest ih => exact ih (takeStep y step)

theorem drain_same (own : Uuid) (r : Receiver) :
    (drain own r).receiver.token = r.token ∧ (drain own r).receiver.tether = r.tether := by
  unfold drain
  simp only
  split <;> exact foldl_takeStep_same _ r.idle

/-- Reading changes neither how a receiver is watched nor whom it is tied to. -/
theorem receive_same (own : Uuid) (r : Receiver) (arrivals : List Arrival) :
    (receive own r arrivals).receiver.token = r.token ∧
      (receive own r arrivals).receiver.tether = r.tether := by
  fun_induction receive own r arrivals with
  | case1 => exact ⟨rfl, rfl⟩
  | case2 => exact ⟨rfl, rfl⟩
  | case3 => exact ⟨rfl, rfl⟩
  | case4 _ _ _ ih => exact ih
  | case5 => exact ⟨rfl, rfl⟩
  | case6 => exact ⟨rfl, rfl⟩
  | case7 => exact ⟨rfl, rfl⟩
  | case8 => exact drain_same own _
  | case9 r _ bytes rest n _ y _ _ ih =>
    have hdrain := drain_same own { r with buffer := r.buffer.append (bytes.take n) }
    exact ⟨ih.1.trans hdrain.1, ih.2.trans hdrain.2⟩

/-- A notice about what was read. -/
theorem closed?_noticesOf (before : Decoder) (step : Decoder.Step) :
    ∀ n ∈ noticesOf before step, n.closed? = none := by
  intro n hn
  unfold noticesOf at hn
  split at hn
  · cases hn
  · rcases List.mem_append.1 hn with hn | hn <;> split at hn
    · obtain rfl := List.mem_singleton.1 hn
      rfl
    · cases hn
    · obtain rfl := List.mem_singleton.1 hn
      rfl
    · cases hn

theorem closed?_foldl_takeStep (steps : List Decoder.Step) (y : Yield)
    (h : ∀ n ∈ y.notices, n.closed? = none) :
    ∀ n ∈ (steps.foldl takeStep y).notices, n.closed? = none := by
  induction steps generalizing y with
  | nil => exact h
  | cons step rest ih =>
    refine ih (takeStep y step) fun n hn => ?_
    exact (List.mem_append.1 hn).elim (h n) (closed?_noticesOf y.receiver.decoder step n)

theorem closed?_drain (own : Uuid) (r : Receiver) :
    ∀ n ∈ (drain own r).notices, n.closed? = none := by
  unfold drain
  simp only
  split <;> exact closed?_foldl_takeStep _ r.idle fun _ => nofun

/-- While it reads, a receiver tells of no peer that it was closed. -/
theorem closed?_receive (own : Uuid) (r : Receiver) (arrivals : List Arrival) :
    ∀ n ∈ (receive own r arrivals).notices, n.closed? = none := by
  fun_induction receive own r arrivals with
  | case1 => exact fun _ => nofun
  | case2 => exact fun _ => nofun
  | case3 => exact fun _ => nofun
  | case4 _ _ _ ih => exact ih
  | case5 => exact fun _ => nofun
  | case6 => exact fun _ => nofun
  | case7 => exact fun _ => nofun
  | case8 => exact closed?_drain own _
  | case9 r _ bytes rest n _ y _ _ ih =>
    exact fun notice hn => (List.mem_append.1 hn).elim (closed?_drain own _ notice) (ih notice)

end Receiver

namespace Fanout

variable {σ : Type} [Streams σ]

/-- All senders that have failed are on the list of failures. -/
def Flagged (f : Fanout) : Prop :=
  ∀ id s, f.senders.get? id = some s → s.failed = true → id ∈ f.failures

/-- Senders may have failed, which put them on the list of failures;
nothing else happened to them. -/
structure Marks (f f' : Fanout) : Prop where
  senders : ∀ id, ∃ g : Bool → Bool,
    f'.senders.get? id = (f.senders.get? id).map fun s => { s with failed := g s.failed }
  flagged : f.Flagged → f'.Flagged

theorem Marks.refl (f : Fanout) : Marks f f :=
  ⟨fun id => ⟨fun failed => failed, by cases f.senders.get? id <;> rfl⟩, fun hf => hf⟩

theorem Marks.trans {f f' f'' : Fanout} (h : Marks f f') (h' : Marks f' f'') : Marks f f'' where
  senders id := by
    obtain ⟨g, hg⟩ := h.senders id
    obtain ⟨g', hg'⟩ := h'.senders id
    refine ⟨g' ∘ g, ?_⟩
    rw [hg', hg, Option.map_map]
    rfl
  flagged hf := h'.flagged (h.flagged hf)

theorem marks_send (f : Fanout) (p : Packet) (origin : Option Nat) (now : Nat) (host : σ) :
    Marks f (f.send p origin now host).fanout where
  senders id :=
    ⟨fun failed => failed || (f.refusals p origin now host).contains id,
      f.get?_send p origin now host id⟩
  flagged hf id s hs hfailed := by
    rw [get?_send] at hs
    obtain ⟨t, ht, rfl⟩ := Option.map_eq_some_iff.1 hs
    rw [failures_send, List.mem_append]
    rcases Bool.or_eq_true_iff.1 hfailed with hold | hnew
    · exact .inl (hf id t ht hold)
    · exact .inr (List.contains_iff_mem.1 hnew)

theorem marks_sendAll (f : Fanout) (packets : List Packet) (origin : Option Nat) (now : Nat)
    (host : σ) : Marks f (f.sendAll packets origin now host).1 := by
  induction packets generalizing f host with
  | nil => exact .refl f
  | cons p rest ih => exact (f.marks_send p origin now host).trans (ih _ _)

end Fanout

namespace Station

variable {σ : Type} [Host σ] {s s' : Station σ}

/-- A station after one of its receivers has passed on what it read. -/
def relayed (s : Station σ) (id : Nat) (r : Receiver) : Station σ :=
  let relayed := r.relay s.state.server.id s.state.fanout s.host
  (s.withHost relayed.host).withBus fun b =>
    { b with
      fanout := relayed.fanout
      receivers := b.receivers.insert id relayed.receiver
      notices := b.notices ++ relayed.notices }

theorem marks_relayed (s : Station σ) (id : Nat) (r : Receiver) :
    s.state.fanout.Marks (s.relayed id r).state.fanout :=
  s.state.fanout.marks_sendAll _ _ _ _

theorem steady_relayed {id : Nat} {r : Receiver} (hr : s.state.receivers.get? id = some r) :
    Steady s (s.relayed id r) where
  peers half i := by
    cases half with
    | receive =>
      obtain ⟨htoken, htether⟩ :=
        r.receive_same s.state.server.id (Streams.arrivals r.stream s.host)
      refine (congrArg (Option.map _) (Table.get?_insert s.state.receivers id i _)).trans ?_
      by_cases hi : i = id
      · rw [if_pos hi, peer?, hi, hr, Option.map_some, Option.map_some, ← htoken, ← htether]
        rfl
      · rw [if_neg hi, peer?]
    | send =>
      obtain ⟨g, hg⟩ := (s.marks_relayed id r).senders i
      rw [peer?, hg, Option.map_map, peer?]
      rfl
  bridges _ := rfl
  nextBridge := Nat.le_refl _
  nextId := Nat.le_refl _
  nextToken := Nat.le_refl _
  bounded hb := hb
  routes _ _ _ := .rfl
  reasons :=
    s.reasons_append (r.closed?_receive s.state.server.id (Streams.arrivals r.stream s.host))

theorem flagged_relayed (s : Station σ) (id : Nat) (r : Receiver) (h : s.Flagged) :
    (s.relayed id r).Flagged := by
  rintro i ⟨p, hp, hfailed⟩
  exact (s.marks_relayed id r).flagged (fun j q hq hfailed => h j ⟨q, hq, hfailed⟩) i p hp hfailed

/-- Passing on what a receiver read is a step. -/
theorem step_relayed {id : Nat} {r : Receiver} (hr : s.state.receivers.get? id = some r) :
    Step s [.relayed] (s.relayed id r) :=
  .relayed (steady_relayed hr) rfl (s.flagged_relayed id r)

/-! ## Closing what has failed -/

/-- Closing a peer makes no sender fail, and the peer is gone afterwards. -/
theorem failing_close (hs : s.Sound) (half : Half) (id : Nat) (why : Reason) :
    (∀ i, (s.close half id why).Failing i → s.Failing i) ∧
      (s.close half id why).state.fanout.failures = s.state.fanout.failures ∧
      (s.close half id why).peer? half id = none := by
  rcases close_cases hs half id why with
    ⟨hnone, h, -⟩ | ⟨key, owner, taken, -, hgone, -, ⟨hsevers, -⟩ | ⟨hsevers, -⟩⟩
  · rw [h]
    exact ⟨fun _ hi => hi, rfl, hnone⟩
  · exact ⟨hsevers.failing, hsevers.failures, hgone⟩
  · exact ⟨hsevers.failing, hsevers.failures, hgone⟩

theorem flagged_close (hs : s.Sound) (hflagged : s.Flagged) (half : Half) (id : Nat)
    (why : Reason) :
    (s.close half id why).Flagged := by
  obtain ⟨hfailing, hfailures, -⟩ := failing_close hs half id why
  exact fun i hi => hfailures ▸ hflagged i (hfailing i hi)

theorem settled_foldl_close (ids : List Nat) (hs : s.Sound) (hids : ∀ i, s.Failing i → i ∈ ids)
    (hnil : s.state.fanout.failures = []) :
    (ids.foldl (fun s id => s.close .send id .writeFailed) s).Settled := by
  induction ids generalizing s with
  | nil => exact ⟨hnil, fun i hi => List.not_mem_nil (hids i hi)⟩
  | cons id rest ih =>
    obtain ⟨hfailing, hfailures, hgone⟩ := failing_close hs .send id .writeFailed
    refine ih ((Step.closed s .send id .writeFailed).cases hs).1 (fun i hi => ?_)
      (hfailures.trans hnil)
    refine (List.mem_cons.1 (hids i (hfailing i hi))).resolve_left fun heq => ?_
    exact not_failing_of_none hgone (heq ▸ hi)

/-- **No failed sender is left** when all that have failed were on the list. -/
theorem settled_closeFailed (hs : s.Sound) (hflagged : s.Flagged) : s.closeFailed.Settled :=
  settled_foldl_close s.state.fanout.failures ((Step.reported s).cases hs).1 hflagged rfl

end Station
end Squitter
