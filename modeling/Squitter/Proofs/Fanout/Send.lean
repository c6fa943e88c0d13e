import Squitter.Proofs.Fanout.Offers
import Squitter.Proofs.RoundTrip.Formats

/-!
# What passing a packet on does

Which offers a pass makes is known beforehand (`Fanout.offers`), from the senders and encoders as
they stand before the first write. Nothing that happens on the way changes the offers still to come:
a sender that fails belongs to one format only, and each format is written once. So a pass has the
effect of making all its offers, of each encoder in use writing the packet once, and of giving up
the senders that refused (`send_eq`).
-/

namespace Squitter

/-! ## Encoders -/

theorem Encoder.format_encode (e : Encoder) (p : Packet) (now : Nat) :
    (e.encode p now).2.format = e.format := by
  by_cases he : e.format = .stats
  · rw [encode, he]
  · rw [encode_eq_ok he]

namespace Fanout

theorem format_encoder (f : Fanout) (format : Format) (now : Nat) :
    (f.encoder format now).format = format := by
  rw [encoder]
  cases h : f.encoders.find? (·.format = format) with
  | none => rfl
  | some e => simpa using List.find?_some h

/-- Remembering an encoder is felt in its own format only. -/
theorem encoder_setEncoder (f : Fanout) (e : Encoder) (format : Format) (now : Nat) :
    (f.setEncoder e).encoder format now =
      if format = e.format then e else f.encoder format now := by
  rw [encoder, setEncoder, List.find?_cons]
  by_cases h : format = e.format
  · simp only [h, decide_true, if_true, Option.getD_some]
  · have hfind : (f.encoders.filter (·.format ≠ e.format)).find? (·.format = format) =
        f.encoders.find? (·.format = format) := by
      rw [List.find?_filter]
      congr 1
      funext e'
      by_cases h' : e'.format = format <;> simp [h', h]
    simp only [Ne.symm h, decide_false, if_neg h, hfind, encoder]

/-- The encoder of a format writes a packet. -/
def advance (f : Fanout) (p : Packet) (now : Nat) (format : Format) : Fanout :=
  f.setEncoder ((f.encoder format now).encode p now).2

theorem encoder_advance (f : Fanout) (p : Packet) (now : Nat) (format other : Format)
    (later : Nat) :
    (f.advance p now format).encoder other later =
      if other = format then ((f.encoder format now).encode p now).2
      else f.encoder other later := by
  rw [advance, encoder_setEncoder, Encoder.format_encode, format_encoder]

/-- Each of some formats is written once. -/
theorem encoder_foldl_advance {formats : List Format} (hnodup : formats.Nodup)
    (f : Fanout) (p : Packet) (now : Nat) (format : Format) (later : Nat) :
    (formats.foldl (advance · p now) f).encoder format later =
      if format ∈ formats then ((f.encoder format now).encode p now).2
      else f.encoder format later := by
  induction formats generalizing f with
  | nil => rw [List.foldl_nil, if_neg List.not_mem_nil]
  | cons first rest ih =>
    obtain ⟨hfirst, hrest⟩ := List.nodup_cons.1 hnodup
    rw [List.foldl_cons, ih hrest]
    simp only [encoder_advance, List.mem_cons]
    by_cases h : format = first
    · subst h
      simp only [hfirst, if_false, if_true, true_or]
    · simp only [h, if_false, false_or]

/-! ## Giving up -/

/-- Some senders have failed. -/
def giveUp (f : Fanout) (ids : List Nat) : Fanout :=
  { f with
    senders := f.senders.map fun id s => { s with failed := s.failed || ids.contains id }
    failures := f.failures ++ ids }

theorem get?_giveUp (f : Fanout) (ids : List Nat) (id : Nat) :
    (f.giveUp ids).senders.get? id =
      (f.senders.get? id).map fun s => { s with failed := s.failed || ids.contains id } :=
  f.senders.get?_map _ id

theorem get?_giveUp_of_notMem (f : Fanout) {ids : List Nat} {id : Nat} (h : id ∉ ids) :
    (f.giveUp ids).senders.get? id = f.senders.get? id := by
  have hcontains : ids.contains id = false := by simpa using h
  rw [get?_giveUp, hcontains]
  simp only [Bool.or_false, Option.map_id']

theorem ext_senders {f g : Fanout} (hhops : f.maxHops = g.maxHops)
    (hencoders : f.encoders = g.encoders)
    (hsenders : ∀ id, f.senders.get? id = g.senders.get? id) (hfailures : f.failures = g.failures) :
    f = g := by
  cases f
  cases g
  obtain rfl := Table.ext_get? hsenders
  cases hhops
  cases hencoders
  cases hfailures
  rfl

@[simp] theorem giveUp_nil (f : Fanout) : f.giveUp [] = f :=
  ext_senders rfl rfl (fun _ => f.get?_giveUp_of_notMem List.not_mem_nil) (List.append_nil _)

theorem giveUp_append (f : Fanout) (ids more : List Nat) :
    (f.giveUp ids).giveUp more = f.giveUp (ids ++ more) := by
  refine ext_senders rfl rfl (fun id => ?_) (List.append_assoc ..)
  simp only [get?_giveUp, Option.map_map]
  congr 1
  funext s
  simp only [Function.comp, List.contains_append, Bool.or_assoc]

/-- To mark a sender and remember its number is to give it up. -/
theorem insert_failed_eq_giveUp {f : Fanout} {id : Nat} {s : Sender}
    (h : f.senders.get? id = some s) :
    { f.insert id { s with failed := true } with failures := f.failures ++ [id] } =
      f.giveUp [id] := by
  refine ext_senders rfl rfl (fun i => ?_) rfl
  rw [get?_giveUp, insert, Table.get?_insert]
  by_cases hi : i = id
  · subst hi
    simp [h]
  · simp [hi]

/-! ## One format -/

/-- Some bytes for each sender that takes part in writing a packet of the
given format and origin. -/
def copies (f : Fanout) (format : Format) (origin : Option Nat) (out : Bytes) : List Offer :=
  (f.senders.entries.filter fun e => isFor e.2 format origin).map fun e => ⟨e.1, e.2.stream, out⟩

/-- What the encoder of a format makes of a packet. -/
def encoding (f : Fanout) (p : Packet) (now : Nat) (format : Format) : Bytes :=
  ((f.encoder format now).encode p now).1.toOption.getD []

/-- The offers of a packet in one format. -/
def offersIn (f : Fanout) (p : Packet) (origin : Option Nat) (now : Nat) (format : Format) :
    List Offer :=
  if f.encoding p now format = [] then [] else f.copies format origin (f.encoding p now format)

theorem encode_eq_encoding (f : Fanout) (p : Packet) (now : Nat) (format : Format) :
    ((f.encoder format now).encode p now).1 = .ok (f.encoding p now format) := by
  obtain ⟨out, hout⟩ := (f.encoder format now).exists_encode_eq_ok p now
  rw [encoding, hout]
  rfl

theorem isFor_iff {s : Sender} {format : Format} {origin : Option Nat} :
    isFor s format origin = true ↔
      s.failed = false ∧ s.format = format ∧ ¬ s.IsOrigin origin := by
  simp only [isFor, Sender.IsOrigin, decide_eq_true_eq, Bool.not_eq_true]

/-- Only senders that take part are offered anything. -/
theorem exists_of_mem_offersIn {f : Fanout} {p : Packet} {origin : Option Nat} {now : Nat}
    {format : Format} {o : Offer} (h : o ∈ f.offersIn p origin now format) :
    ∃ s, f.senders.get? o.id = some s ∧ isFor s format origin := by
  rw [offersIn] at h
  split at h
  · exact (List.not_mem_nil h).elim
  · obtain ⟨e, he, rfl⟩ := List.mem_map.1 h
    obtain ⟨hmem, hfor⟩ := List.mem_filter.1 he
    exact ⟨e.2, Table.get?_of_mem hmem, hfor⟩

section

variable {σ : Type} [Streams σ]

/-- The state after some offers and the answers to them. -/
def Sent.after (r : Sent σ) (answers : List (Offer × Bool) × σ) : Sent σ :=
  { r with
    delivered := r.delivered + answers.1.countP (·.2)
    fanout := r.fanout.giveUp (refused answers.1)
    host := answers.2 }

theorem Sent.after_makeAll_append (r : Sent σ) (os more : List Offer) :
    (r.after (makeAll os r.host)).after (makeAll more (makeAll os r.host).2) =
      r.after (makeAll (os ++ more) r.host) := by
  rw [makeAll_append]
  simp only [Sent.after, giveUp_append, refused_append, List.countP_append, Nat.add_assoc]

/-- Offering to a sender that takes part is making one offer. -/
theorem offer_eq_after {format : Format} {out : Bytes} {origin : Option Nat} {r : Sent σ}
    {e : Nat × Sender} (hget : r.fanout.senders.get? e.1 = some e.2)
    (hfor : isFor e.2 format origin) :
    offer format out origin r e = r.after (makeAll [⟨e.1, e.2.stream, out⟩] r.host) := by
  have hfail : ∀ host, offer.fail r e.1 e.2 host =
      r.after ([(⟨e.1, e.2.stream, out⟩, false)], Streams.shutdownWrite e.2.stream host) := by
    intro host
    rw [offer.fail, insert_failed_eq_giveUp hget]
    rfl
  rw [offer, if_pos hfor]
  simp only [makeAll, Offer.make]
  rcases Streams.write e.2.stream out r.host with ⟨_ | n, host⟩
  · exact hfail host
  · dsimp only
    by_cases hn : n = out.length
    · rw [if_pos hn, if_pos hn]
      simp only [Sent.after, refused, List.filter_cons, List.countP_cons]
      simp
    · rw [if_neg hn, if_neg hn]
      exact hfail host

/-- Going through a list of senders is making the offers to those among them that take part. -/
theorem foldl_offer {format : Format} {out : Bytes} {origin : Option Nat} {es : List (Nat × Sender)}
    (hes : es.Pairwise fun a b => a.1 < b.1) {r : Sent σ}
    (hget : ∀ e ∈ es, r.fanout.senders.get? e.1 = some e.2) :
    es.foldl (offer format out origin) r =
      r.after (makeAll ((es.filter fun e => isFor e.2 format origin).map fun e =>
        ⟨e.1, e.2.stream, out⟩) r.host) := by
  induction es generalizing r with
  | nil =>
    simp only [List.foldl_nil, List.filter_nil, List.map_nil, makeAll, Sent.after, refused,
      giveUp_nil, List.countP_nil, Nat.add_zero]
  | cons e es ih =>
    obtain ⟨he, hes⟩ := List.pairwise_cons.1 hes
    rw [List.foldl_cons]
    by_cases hfor : isFor e.2 format origin
    · rw [offer_eq_after (hget e List.mem_cons_self) hfor, ih hes, List.filter_cons, if_pos hfor]
      · exact r.after_makeAll_append [⟨e.1, e.2.stream, out⟩] _
      · -- the sender that was given up, if any, is not among those to come
        intro e' he'
        refine (get?_giveUp_of_notMem _ fun hmem => ?_).trans (hget e' (List.mem_cons_of_mem _ he'))
        obtain ⟨o, ho, hid⟩ := exists_of_mem_refused hmem
        rw [map_fst_makeAll, List.mem_singleton] at ho
        have hlt := he e' he'
        rw [← hid, ho] at hlt
        exact Nat.lt_irrefl _ hlt
    · have hoffer : offer format out origin r e = r := if_neg hfor
      rw [hoffer, List.filter_cons, if_neg hfor]
      exact ih hes fun e' he' => hget e' (List.mem_cons_of_mem _ he')

/-- One format is written once and offered to its senders. -/
theorem sendIn_eq (origin : Option Nat) (now : Nat) (r : Sent σ) (format : Format) :
    sendIn origin now r format =
      ({ r with fanout := r.fanout.advance r.packet now format } : Sent σ).after
        (makeAll (r.fanout.offersIn r.packet origin now format) r.host) := by
  have hok := r.fanout.encode_eq_encoding r.packet now format
  have hpair : (r.fanout.encoder format now).encode r.packet now =
      (.ok (r.fanout.encoding r.packet now format),
        ((r.fanout.encoder format now).encode r.packet now).2) := Prod.ext hok rfl
  rw [sendIn, hpair, offersIn]
  simp only [List.isEmpty_iff]
  by_cases hnil : r.fanout.encoding r.packet now format = []
  · simp only [if_pos hnil, makeAll, Sent.after, refused, List.filter_nil, List.map_nil, giveUp_nil,
      List.countP_nil, Nat.add_zero]
    rfl
  · rw [if_neg hnil, if_neg hnil]
    exact foldl_offer r.fanout.senders.ascending fun e he => Table.get?_of_mem he

end

/-! ## All formats -/

/-- Giving up senders of one format changes nothing for another format. -/
theorem copies_giveUp {f : Fanout} {ids : List Nat} {format : Format}
    (h : ∀ id ∈ ids, ∀ s, f.senders.get? id = some s → s.format ≠ format) (origin : Option Nat)
    (out : Bytes) : (f.giveUp ids).copies format origin out = f.copies format origin out := by
  have hfor : ∀ e ∈ f.senders.entries,
      isFor { e.2 with failed := e.2.failed || ids.contains e.1 } format origin =
        isFor e.2 format origin := by
    intro e he
    by_cases hmem : e.1 ∈ ids
    · have hne := h e.1 hmem e.2 (Table.get?_of_mem he)
      simp only [isFor, hne, false_and, and_false]
    · have hcontains : ids.contains e.1 = false := by simpa using hmem
      simp only [hcontains, Bool.or_false]
  simp only [copies, giveUp, Table.map, List.filter_map, List.map_map]
  rw [List.filter_congr (q := fun e => isFor e.2 format origin) hfor]
  rfl

/-- Writing and offering one format changes nothing for another format. -/
theorem offersIn_advance_giveUp {f : Fanout} {ids : List Nat} {format other : Format}
    (hne : other ≠ format)
    (h : ∀ id ∈ ids, ∃ s, f.senders.get? id = some s ∧ s.format = format) (p q : Packet)
    (origin : Option Nat) (now : Nat) :
    ((f.advance q now format).giveUp ids).offersIn p origin now other =
      f.offersIn p origin now other := by
  have hencoding : ((f.advance q now format).giveUp ids).encoding p now other =
      f.encoding p now other := by
    have hencoder := f.encoder_advance q now format other now
    rw [if_neg hne] at hencoder
    exact congrArg (fun e : Encoder => (e.encode p now).1.toOption.getD []) hencoder
  have hformats : ∀ id ∈ ids, ∀ s, f.senders.get? id = some s → s.format ≠ other := by
    intro id hid s hs
    obtain ⟨s', hs', hformat⟩ := h id hid
    rw [hs'] at hs
    cases hs
    rw [hformat]
    exact hne.symm
  have hcopies := copies_giveUp hformats origin (f.encoding p now other)
  rw [offersIn, hencoding, offersIn, ← hcopies]
  rfl

theorem foldl_advance_giveUp (formats : List Format) (f : Fanout) (p : Packet) (now : Nat)
    (ids : List Nat) :
    formats.foldl (advance · p now) (f.giveUp ids) =
      (formats.foldl (advance · p now) f).giveUp ids := by
  induction formats generalizing f with
  | nil => rfl
  | cons format rest ih => exact ih (f.advance p now format)

section

variable {σ : Type} [Streams σ]

/-- Each of some formats is written once and offered to its senders; what is offered can be told
from the state before the first. -/
theorem foldl_sendIn {formats : List Format} (hnodup : formats.Nodup)
    (origin : Option Nat) (now : Nat) (r : Sent σ) :
    formats.foldl (sendIn origin now) r =
      ({ r with fanout := formats.foldl (advance · r.packet now) r.fanout } : Sent σ).after
        (makeAll (formats.flatMap (r.fanout.offersIn r.packet origin now)) r.host) := by
  induction formats generalizing r with
  | nil =>
    simp only [List.foldl_nil, List.flatMap_nil, makeAll, Sent.after, refused, List.filter_nil,
      List.map_nil, giveUp_nil, List.countP_nil, Nat.add_zero]
  | cons format rest ih =>
    obtain ⟨hformat, hrest⟩ := List.nodup_cons.1 hnodup
    rw [List.foldl_cons, ih hrest, sendIn_eq, List.flatMap_cons]
    have hlater : rest.flatMap (((r.fanout.advance r.packet now format).giveUp
        (refused (makeAll (r.fanout.offersIn r.packet origin now format) r.host).1)).offersIn
          r.packet origin now) = rest.flatMap (r.fanout.offersIn r.packet origin now) := by
      refine congrArg List.flatten (List.map_congr_left fun other hother =>
        offersIn_advance_giveUp ?_ ?_ ..)
      · exact fun h => hformat (h ▸ hother)
      · intro id hid
        obtain ⟨o, ho, rfl⟩ := exists_of_mem_refused hid
        rw [map_fst_makeAll] at ho
        obtain ⟨s, hs, hfor⟩ := exists_of_mem_offersIn ho
        exact ⟨s, hs, (isFor_iff.1 hfor).2.1⟩
    simp only [Sent.after]
    rw [hlater, foldl_advance_giveUp]
    exact Sent.after_makeAll_append
      ({ r with
          fanout := rest.foldl (advance · r.packet now) (r.fanout.advance r.packet now format) }
        : Sent σ) (r.fanout.offersIn r.packet origin now format) _

end

/-- The formats in use are those of the senders that have not failed. -/
theorem mem_formats {f : Fanout} {format : Format} :
    format ∈ f.formats ↔
      ∃ id s, f.senders.get? id = some s ∧ s.failed = false ∧ s.format = format := by
  simp only [formats, List.mem_filter, format.mem_all, true_and, List.any_eq_true, Table.values,
    List.mem_map, decide_eq_true_eq, Bool.not_eq_true]
  constructor
  · rintro ⟨_, ⟨e, he, rfl⟩, hs⟩
    exact ⟨e.1, e.2, Table.get?_of_mem he, hs⟩
  · rintro ⟨id, s, hget, hs⟩
    exact ⟨s, ⟨(id, s), Table.mem_of_lookup hget, rfl⟩, hs⟩

theorem nodup_formats (f : Fanout) : f.formats.Nodup :=
  List.Pairwise.filter _ (by decide)

/-- The offers of a pass. -/
def offers (f : Fanout) (p : Packet) (origin : Option Nat) (now : Nat) : List Offer :=
  if f.maxHops ≤ p.hops then []
  else f.formats.flatMap (f.offersIn { p with hops := p.hops + 1 } origin now)

/-- **What a pass does** is make its offers, with each encoder in use writing the packet once. -/
theorem send_eq {σ : Type} [Streams σ] {f : Fanout} {p : Packet} (h : p.hops < f.maxHops)
    (origin : Option Nat) (now : Nat) (host : σ) :
    f.send p origin now host =
      (⟨0, { p with hops := p.hops + 1 },
        f.formats.foldl (advance · { p with hops := p.hops + 1 } now) f, host⟩ : Sent σ).after
          (makeAll (f.offers p origin now) host) := by
  have hhops : ¬ f.maxHops ≤ p.hops := UInt16.not_le.2 h
  rw [send, if_neg hhops, foldl_sendIn f.nodup_formats, offers, if_neg hhops]

/-- A pass that is one hop too many does nothing. -/
theorem send_of_le {σ : Type} [Streams σ] {f : Fanout} {p : Packet} (h : f.maxHops ≤ p.hops)
    (origin : Option Nat) (now : Nat) (host : σ) : f.send p origin now host = ⟨0, p, f, host⟩ :=
  if_pos h

end Fanout

end Squitter
