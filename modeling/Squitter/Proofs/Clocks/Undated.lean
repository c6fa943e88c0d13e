import Squitter.Proofs.Handshake
import Squitter.Proofs.Hop.Reception

/-!
# What is read and when it was

In json and proto, all that a clock does is to **date** the packets that are read. What is read of a
stream can be told without it (`Undated`): reports with the stamps that they carry, each under the
header in force, and announcements. This does not depend on the clock (`Format.read_cases`), and
neither do the bytes that are used up, so however the stream is read, all clocks date the same
(`Reception.exists_run_onClock`).

**Two clocks.** A clock that has counted wraps dates known stamps later than a fresh one does, all
by the same number of ticks (`Undated.lag`): the wraps it has counted, and one more if the first
known stamp falls behind the last one before (`Undated.dateAll_eq`).
-/

namespace Squitter

open Decoder

/-- Ticks in which a counter was ahead before a reading, it is ahead afterwards. -/
theorem Mlat.widen_add (stamp width : UInt64) (mhz : UInt32) (last generation ticks : UInt64) :
    widen stamp width mhz ⟨last, generation + ticks⟩ =
      let (mlat, clock) := widen stamp width mhz ⟨last, generation⟩
      (mlat + ticks * factor mhz, ⟨clock.last, clock.generation + ticks⟩) := by
  have hcomm (a b c : UInt64) : a + b + c = a + c + b := by
    rw [UInt64.add_assoc, UInt64.add_comm b c, ← UInt64.add_assoc]
  simp only [widen]
  split
  · rw [hcomm generation ticks width, hcomm (generation + width) ticks stamp, UInt64.add_mul]
  · rw [hcomm generation ticks stamp, UInt64.add_mul]

/-- What is learned from a call on a stream in json or proto, before it is dated. -/
inductive Undated
  /-- A report under a header, with its stamp, and the packet but for its timestamp. -/
  | frame (h : RemoteHeader) (stamp : UInt64) (p : Packet)
  | control (h : RemoteHeader)
  | failed (e : Error)

namespace Undated

/-! ## Dating -/

/-- The outcome, and the history of the clock afterwards. -/
def date (clock : Mlat.History) : Undated → Outcome × Mlat.History
  | frame h stamp p =>
    (.frame { p with mlat := (Link.stamp h stamp clock).1 }, (Link.stamp h stamp clock).2)
  | control h => (.control (some h), clock)
  | failed e => (.failed e, clock)

/-- The outcomes, one after the other. -/
def dateAll (clock : Mlat.History) : List Undated → List Outcome
  | [] => []
  | u :: us => (u.date clock).1 :: dateAll (u.date clock).2 us

/-- The history of the clock after all of them. -/
def clockAfter (clock : Mlat.History) (us : List Undated) : Mlat.History :=
  us.foldl (fun clock u => (u.date clock).2) clock

theorem dateAll_append (clock : Mlat.History) (us us' : List Undated) :
    dateAll clock (us ++ us') = dateAll clock us ++ dateAll (clockAfter clock us) us' := by
  induction us generalizing clock with
  | nil => rfl
  | cons u us ih => exact congrArg ((u.date clock).1 :: ·) (ih _)

theorem clockAfter_append (clock : Mlat.History) (us us' : List Undated) :
    clockAfter clock (us ++ us') = clockAfter (clockAfter clock us) us' :=
  List.foldl_append

/-! ## Two clocks -/

/-- How many ticks later a clock dates known stamps than a fresh one. -/
def lag (clock : Mlat.History) : List Undated → UInt64
  | [] => 0
  | frame h stamp _ :: us =>
    if stamp = 0 then lag clock us
    else if stamp < clock.last then clock.generation + h.width else clock.generation
  | control _ :: us => lag clock us
  | failed _ :: us => lag clock us

/-- An outcome that is dated later, by a number of ticks of the counter in its header. -/
def delay (ticks : UInt64) : Undated → Outcome → Outcome
  | frame h stamp _, .frame p =>
    if stamp = 0 then .frame p else .frame { p with mlat := p.mlat + ticks * Mlat.factor h.mhz }
  | _, o => o

theorem delay_zero (u : Undated) (o : Outcome) : delay 0 u o = o := by
  unfold delay
  split
  · rw [UInt64.zero_mul, UInt64.add_zero, ite_self]
  · rfl

/-- A clock that is ahead stays ahead, by the same number of ticks. -/
theorem dateAll_ahead (last generation ticks : UInt64) (us : List Undated) :
    dateAll ⟨last, generation + ticks⟩ us =
      List.zipWith (delay ticks) us (dateAll ⟨last, generation⟩ us) := by
  induction us generalizing last generation with
  | nil => rfl
  | cons u us ih =>
    cases u with
    | control h => exact congrArg (Outcome.control (some h) :: ·) (ih last generation)
    | failed e => exact congrArg (Outcome.failed e :: ·) (ih last generation)
    | frame h stamp p =>
      simp only [dateAll, date, List.zipWith_cons_cons, Link.stamp, delay]
      by_cases hstamp : stamp = 0
      · simp only [if_pos hstamp, ih]
      · simp only [if_neg hstamp, Mlat.widen_add, ih]

/-- **Two clocks differ by a lag**, which the first known stamp decides. -/
theorem dateAll_eq (clock : Mlat.History) (us : List Undated) :
    dateAll clock us = List.zipWith (delay (lag clock us)) us (dateAll .fresh us) := by
  induction us with
  | nil => rfl
  | cons u us ih =>
    cases u with
    | control h => exact congrArg (Outcome.control (some h) :: ·) ih
    | failed e => exact congrArg (Outcome.failed e :: ·) ih
    | frame h stamp p =>
      by_cases hstamp : stamp = 0
      · simp only [dateAll, date, List.zipWith_cons_cons, Link.stamp, delay, lag, if_pos hstamp, ih]
      · -- a fresh clock has counted no wrap, and this stamp is no wrap for it
        have hlag : Mlat.widen stamp h.width h.mhz clock =
            Mlat.widen stamp h.width h.mhz ⟨0, 0 + lag clock (frame h stamp p :: us)⟩ := by
          simp only [Mlat.widen, lag, if_neg hstamp, UInt64.not_lt_zero, if_false, UInt64.zero_add]
        generalize lag clock (frame h stamp p :: us) = ticks at hlag
        simp only [dateAll, date, Link.stamp, if_neg hstamp, hlag, Mlat.widen_add, dateAll_ahead,
          List.zipWith_cons_cons, delay]
        rfl

end Undated

/-! ## Reading -/

namespace Format

variable {f : Format}

/-- Accepting a message does not depend on the clock, and an announcement does not depend on the
header before it either. -/
theorem accepted_cases (own : Uuid) (m : Message Bytes) (p : Packet) (header : Option RemoteHeader)
    (used : Nat) :
    (∃ e, ∀ clock, accepted own m p ⟨clock, header⟩ used = .error e) ∨
    (∃ h used', ∀ l : Link, accepted own m p l used =
      .ok (some ⟨.control, p, { l with header := some h }, used'⟩)) ∨
    ∃ (h : RemoteHeader) (stamp : UInt64) (q : Packet) (used' : Nat), header = some h ∧
      ∀ clock, accepted own m p ⟨clock, header⟩ used =
        .ok (some ⟨.frame, { q with mlat := (Link.stamp h stamp clock).1 },
          ⟨(Link.stamp h stamp clock).2, header⟩, used'⟩) := by
  cases m with
  | header a =>
    have hheader (l : Link) : l.acceptHeader own a =
        (Link.fresh.acceptHeader own a).map fun accepted =>
          { l with header := accepted.header } := by
      unfold Link.acceptHeader
      split
      · rfl
      · split
        · rfl
        · split <;> rfl
    cases haccept : Link.fresh.acceptHeader own a with
    | error e =>
      rw [haccept] at hheader
      refine .inl ⟨e, fun clock => ?_⟩
      simp only [accepted, Link.accept, hheader]
      rfl
    | ok l' =>
      obtain ⟨-, -, rfl⟩ := Link.of_acceptHeader_eq_ok haccept
      rw [haccept] at hheader
      refine .inr (.inl ⟨⟨a.server, a.version, a.mhz, a.width, a.ceiling⟩, used, fun l => ?_⟩)
      simp only [accepted, Link.accept, hheader]
      rfl
  | packet r =>
    cases header with
    | none => exact .inl ⟨_, fun clock => rfl⟩
    | some h =>
      by_cases hlen : r.payload.length ≠ r.kind.payloadLength
      · refine .inl ⟨.codec (.payloadLength r.kind r.payload.length), fun clock => ?_⟩
        simp only [accepted, Link.accept, Link.acceptReport, if_pos hlen]
        rfl
      · by_cases hlevel : h.ceiling.toUInt64 < r.rssi
        · refine .inl ⟨.codec (.rssiAboveCeiling r.rssi h.ceiling), fun clock => ?_⟩
          simp only [accepted, Link.accept, Link.acceptReport, if_neg hlen, if_pos hlevel]
          rfl
        · let filled := { p.setPayload r.kind r.payload with
            source := r.source, hops := r.hops, rssi := Rssi.widen r.rssi.toUInt32 h.ceiling }
          refine .inr (.inr ⟨h, r.mlat, filled, used, rfl, fun clock => ?_⟩)
          simp only [accepted, Link.accept, Link.acceptReport, if_neg hlen, if_neg hlevel]
          rfl

/-- **What is read does not depend on the clock**, and an announcement does not depend on the header
before it either. -/
theorem read_cases (hf : f = json ∨ f = proto) (own : Uuid) (data : Bytes) (p : Packet)
    (header : Option RemoteHeader) :
    (∀ clock, f.read own data p ⟨clock, header⟩ = .ok none) ∨
    (∃ e, ∀ clock, f.read own data p ⟨clock, header⟩ = .error e) ∨
    (∃ h used, ∀ l : Link, f.read own data p l =
      .ok (some ⟨.control, p, { l with header := some h }, used⟩)) ∨
    ∃ (h : RemoteHeader) (stamp : UInt64) (q : Packet) (used : Nat), header = some h ∧
      ∀ clock, f.read own data p ⟨clock, header⟩ =
        .ok (some ⟨.frame, { q with mlat := (Link.stamp h stamp clock).1 },
          ⟨(Link.stamp h stamp clock).2, header⟩, used⟩) := by
  rcases hf with rfl | rfl
  · cases hread : Wire.Json.read? data with
    | none => exact .inl fun clock => by simp only [read, hread]
    | some found =>
      obtain ⟨m, used⟩ := found
      cases hdecoded : Wire.Json.decoded m with
      | error e =>
        refine .inr (.inl ⟨e, fun clock => ?_⟩)
        simp only [read, hread, hdecoded]
        rfl
      | ok m =>
        have hjson (l : Link) : json.read own data p l = accepted own m p l used := by
          simp only [read, hread, hdecoded]
          rfl
        simp only [hjson]
        exact .inr (accepted_cases own m p header used)
  · cases hread : Wire.Proto.read? data with
    | none => exact .inl fun clock => by simp only [read, hread]
    | some found =>
      obtain ⟨m, used⟩ := found
      simp only [read, hread]
      exact .inr (accepted_cases own m p header used)

end Format

/-! ## Receiving -/

namespace Reception

variable {f : Format} (own source : Uuid)

/-- A reception in which `us` was read since the clock had the given history. -/
def onClock (f : Format) (header : Option RemoteHeader) (b : Buffer) (unread : Bytes)
    (us : List Undated) (clock : Mlat.History) : Reception where
  decoder := ⟨some f, ⟨Undated.clockAfter clock us, header⟩⟩
  buffer := b
  unread := unread
  outcomes := Undated.dateAll clock us

theorem onClock_concat (header : Option RemoteHeader) (b : Buffer) (unread : Bytes)
    (us : List Undated) (u : Undated) (clock : Mlat.History) :
    let dated := u.date (Undated.clockAfter clock us)
    onClock f header b unread (us ++ [u]) clock =
      ⟨⟨some f, ⟨dated.2, header⟩⟩, b, unread, Undated.dateAll clock us ++ [dated.1]⟩ := by
  rw [onClock, Undated.dateAll_append, Undated.clockAfter_append]
  rfl

/-- A turn reads the same on all clocks. -/
theorem exists_turn_onClock (hf : f = .json ∨ f = .proto)
    (header : Option RemoteHeader) (b : Buffer) (unread : Bytes) (us : List Undated) (t : Turn) :
    ∃ header' b' unread' us', ∀ clock, (onClock f header b unread us clock).turn own source t =
      onClock f header' b' unread' us' clock := by
  have hcandidate (l : Link) : f ∈ (⟨some f, l⟩ : Decoder).candidates := List.mem_singleton_self f
  cases t with
  | read n =>
    exact ⟨header, (b.fill (unread.take n)).2, unread.drop ((b.fill (unread.take n)).1.getD 0), us,
      fun clock => rfl⟩
  | call =>
    have hcall (clock : Mlat.History) {s : Step}
        (h : (onClock f header b unread us clock).decoder.decode own b (.blank source) = s) :
        (onClock f header b unread us clock).turn own source .call =
          ⟨s.decoder, s.buffer, unread, Undated.dateAll clock us ++ s.outcome?.toList⟩ := by
      subst h
      rfl
    rcases Format.read_cases hf own b.data (.blank source) header with
      hread | ⟨e, hread⟩ | ⟨h, used, hread⟩ | ⟨h, stamp, q, used, rfl, hread⟩
    · refine ⟨header, b, unread, us, fun clock => ?_⟩
      rw [hcall clock (decode_of_none fun g hg => ?_)]
      · exact congrArg (Reception.mk _ b unread) (List.append_nil _)
      · rw [List.mem_singleton.1 hg]
        exact hread _
    · refine ⟨header, b, unread, us ++ [.failed e], fun clock => ?_⟩
      rw [hcall clock (decode_of_error (hcandidate _) (hread _)), onClock_concat]
      rfl
    · refine ⟨some h, b.advance used, unread, us ++ [.control h], fun clock => ?_⟩
      rw [hcall clock (decode_of_some (hcandidate _) (hread _)), onClock_concat]
      rfl
    · refine ⟨some h, b.advance used, unread, us ++ [.frame h stamp q], fun clock => ?_⟩
      rw [hcall clock (decode_of_some (hcandidate _) (hread _)), onClock_concat]
      rfl

/-- **All turns read the same on all clocks.** -/
theorem exists_run_onClock (hf : f = .json ∨ f = .proto) (header : Option RemoteHeader) (b : Buffer)
    (unread : Bytes) (us : List Undated) (turns : List Turn) :
    ∃ header' b' unread' us', ∀ clock, (onClock f header b unread us clock).run own source turns =
      onClock f header' b' unread' us' clock := by
  induction turns generalizing header b unread us with
  | nil => exact ⟨header, b, unread, us, fun clock => rfl⟩
  | cons t turns ih =>
    obtain ⟨header₁, b₁, unread₁, us₁, hturn⟩ :=
      exists_turn_onClock own source hf header b unread us t
    obtain ⟨header', b', unread', us', hrun⟩ := ih header₁ b₁ unread₁ us₁
    refine ⟨header', b', unread', us', fun clock => ?_⟩
    rw [← hrun clock, ← hturn clock]
    rfl

end Reception
end Squitter
