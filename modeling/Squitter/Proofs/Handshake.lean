import Squitter.Proofs.Boundaries
import Squitter.Proofs.RoundTrip.Formats

/-!
# The handshake

What a decoder holds on to depends on all that came before. Here its inlet goes through **acts**
(`Inlet.Act`) in any order, fills with any bytes and calls with any packets, and of the state that
is reached we show what protects the bus: the units and the identity of the sender
(`Inlet.Guarded`), which every act keeps (`Inlet.Guarded.act`).

**Loops.** An announcement of the bus's own identity is never accepted. Once it is at the front of
the buffer it stays there, and each call fails in the same way (`Inlet.call_run_of_own`).

**The result** (`Inlet.handshake_safe`) puts this together.
-/

namespace Squitter

open Decoder

/-! ## Announcements -/

/-- The mark is right and packets can be brought from the announced units to those of the bus. -/
def Announcement.Usable (a : Announcement) : Prop :=
  a.magic = Squitter.magic ∧ Mlat.validMHz a.mhz ∧ a.width ≠ 0 ∧ a.ceiling ≠ 0

namespace Link

/-- **All that is accepted** is usable and from another bus, and it becomes the header in force. -/
theorem of_acceptHeader_eq_ok {own : Uuid} {a : Announcement} {l l' : Link}
    (h : l.acceptHeader own a = .ok l') :
    a.Usable ∧ a.server ≠ own ∧
      l' = { l with header := some ⟨a.server, a.version, a.mhz, a.width, a.ceiling⟩ } := by
  unfold acceptHeader at h
  by_cases hmagic : a.magic ≠ magic
  · rw [if_pos hmagic] at h
    cases h
  · rw [if_neg hmagic] at h
    by_cases hunits : ¬ Mlat.validMHz a.mhz ∨ a.width = 0 ∨ a.ceiling = 0
    · rw [if_pos hunits] at h
      cases h
    · rw [if_neg hunits] at h
      simp only [not_or, Classical.not_not] at hmagic hunits
      by_cases hserver : a.server = own
      · rw [if_pos hserver] at h
        cases h
      · rw [if_neg hserver] at h
        cases h
        exact ⟨⟨hmagic, hunits⟩, hserver, rfl⟩

/-- Our own announcement is refused. -/
theorem acceptHeader_of_own {a : Announcement} (ha : a.Usable) (l : Link) :
    l.acceptHeader a.server a = .error (.selfLoop a.server) := by
  obtain ⟨hmagic, hmhz, hwidth, hceiling⟩ := ha
  have hunits : ¬ (¬ Mlat.validMHz a.mhz ∨ a.width = 0 ∨ a.ceiling = 0) := by
    simp only [not_or, Classical.not_not]
    exact ⟨hmhz, hwidth, hceiling⟩
  rw [acceptHeader, if_neg (Classical.not_not.2 hmagic), if_neg hunits, if_pos rfl]

/-- A report is accepted only under a header, which it leaves in force. -/
theorem of_acceptReport_eq_ok {r : Report Bytes} {p p' : Packet} {l l' : Link}
    (h : l.acceptReport r p = .ok (p', l')) : l.header.isSome ∧ l'.header = l.header := by
  unfold acceptReport at h
  cases hheader : l.header with
  | none =>
    rw [hheader] at h
    cases h
  | some header =>
    simp only [hheader] at h
    split at h
    · cases h
    · split at h
      · cases h
      · cases h
        exact ⟨rfl, rfl⟩

end Link

namespace Format

/-- A reading that accepts an announcement, or one of a packet that leaves the header in force. -/
def Admitted (f : Format) (own : Uuid) (l : Link) (r : Reading) : Prop :=
  (r.event = .control ∧ (f = json ∨ f = proto) ∧ ∃ a, l.acceptHeader own a = .ok r.link) ∨
    (r.event = .frame ∧ r.link.header = l.header ∧ (f = json ∨ f = proto → l.header.isSome))

theorem admitted_of_accepted {f : Format} (hf : f = json ∨ f = proto) {own : Uuid}
    {m : Message Bytes} {p : Packet} {l : Link} {used : Nat} {r : Reading}
    (h : accepted own m p l used = .ok (some r)) : f.Admitted own l r := by
  cases m with
  | header a =>
    cases ha : l.acceptHeader own a with
    | error e =>
      simp only [accepted, Link.accept, ha] at h
      cases h
    | ok l' =>
      simp only [accepted, Link.accept, ha] at h
      cases h
      exact .inl ⟨rfl, hf, a, ha⟩
  | packet report =>
    cases hr : l.acceptReport report p with
    | error e =>
      simp only [accepted, Link.accept, hr] at h
      cases h
    | ok found =>
      obtain ⟨p', l'⟩ := found
      simp only [accepted, Link.accept, hr] at h
      cases h
      obtain ⟨hsome, hheader⟩ := Link.of_acceptReport_eq_ok hr
      exact .inr ⟨rfl, hheader, fun _ => hsome⟩

/-- **All that reading can do** to the state of a connection. -/
theorem admitted_of_read {f : Format} {own : Uuid} {data : Bytes} {p : Packet} {l : Link}
    {r : Reading} (h : f.read own data p l = .ok (some r)) : f.Admitted own l r := by
  cases f with
  | json =>
    simp only [read] at h
    split at h
    · cases h
    · rename_i m used hm
      cases hd : Wire.Json.decoded m with
      | error e =>
        rw [hd] at h
        cases h
      | ok m' =>
        rw [hd] at h
        exact admitted_of_accepted (.inl rfl) h
  | proto =>
    simp only [read] at h
    split at h
    · cases h
    · exact admitted_of_accepted (.inr rfl) h
  | stats => cases h
  | _ =>
    simp only [read, Option.bind_eq_bind, Except.ok.injEq, Option.bind_eq_some_iff] at h
    obtain ⟨_, -, h⟩ := h
    cases h
    exact .inr ⟨rfl, rfl, by simp⟩

/-- The announcement at the front of a string, if there is one in this format. -/
def announced? (f : Format) (data : Bytes) : Option Announcement :=
  match f with
  | json =>
    match Wire.Json.read? data with
    | some (.header a, _) => some a
    | _ => none
  | proto =>
    match Wire.Proto.read? data with
    | some (.header a, _) => some a
    | _ => none
  | airspy | beast | raw | stats => none

/-- What is read of our own announcement. -/
theorem read_of_announced {f : Format} {data : Bytes} {a : Announcement}
    (h : f.announced? data = some a) (ha : a.Usable) (p : Packet) (l : Link) :
    f.read a.server data p l = .error (.selfLoop a.server) := by
  have haccepted (used : Nat) :
      accepted a.server (.header a) p l used = .error (.selfLoop a.server) := by
    simp only [accepted, Link.accept, Link.acceptHeader_of_own ha]
    rfl
  cases f with
  | json =>
    simp only [announced?] at h
    split at h
    · rename_i a' used hread
      cases h
      simp only [read, hread]
      exact haccepted used
    · cases h
  | proto =>
    simp only [announced?] at h
    split at h
    · rename_i a' used hread
      cases h
      simp only [read, hread]
      exact haccepted used
    · cases h
  | _ => cases h

theorem mem_readable_of_announced {f : Format} {data : Bytes} {a : Announcement}
    (h : f.announced? data = some a) : f ∈ readable := by
  cases f with
  | stats => cases h
  | _ => decide

end Format

/-! ## Acts -/

namespace Inlet

/-- What can be done to an inlet. -/
inductive Act
  /-- Fill the buffer from a source with these bytes available. -/
  | fill (available : Bytes)
  /-- Call the decoder with this packet. -/
  | decode (p : Packet)

variable (own : Uuid)

/-- Call the decoder. -/
def call (i : Inlet) (p : Packet) : Step := i.decoder.decode own i.buffer p

/-- The inlet after an act. -/
def act (i : Inlet) : Act → Inlet
  | .fill available => { i with buffer := (i.buffer.fill available).2 }
  | .decode p => ⟨(i.call own p).decoder, (i.call own p).buffer⟩

/-- The inlet after many acts. -/
def run (i : Inlet) (acts : List Act) : Inlet := acts.foldl (act own) i

/-- The results of the calls among the acts. -/
def results (i : Inlet) : List Act → List (Except Error (Option Event))
  | [] => []
  | .fill available :: acts => (i.act own (.fill available)).results acts
  | .decode p :: acts => (i.call own p).result :: (i.act own (.decode p)).results acts

variable {own}

/-! ## What is held on to -/

/-- The header in force is from a json or proto stream, usable and not from ourselves. -/
def Guarded (own : Uuid) (i : Inlet) : Prop :=
  ∀ h, i.decoder.link.header = some h →
    (i.decoder.format = some .json ∨ i.decoder.format = some .proto) ∧
      Mlat.validMHz h.mhz ∧ h.width ≠ 0 ∧ h.ceiling ≠ 0 ∧ h.server ≠ own

theorem Guarded.fresh (capacity : Nat) : (fresh capacity).Guarded own := by
  intro h hheader
  cases hheader

variable {i : Inlet}

theorem format_eq_of_mem_candidates {f g : Format} (hf : f ∈ i.decoder.candidates)
    (hg : i.decoder.format = some g) : f = g := by
  rw [candidates, hg] at hf
  exact List.mem_singleton.1 hf

/-- Every act keeps the header guarded. -/
theorem Guarded.act (h : i.Guarded own) (act : Act) : (i.act own act).Guarded own := by
  cases act with
  | fill available => exact h
  | decode p =>
    rcases decode_cases i.decoder own i.buffer p with
      ⟨-, hd⟩ | ⟨f, -, e, -, hd⟩ | ⟨f, hf, r, hread, hd⟩
    · rw [Inlet.act, call, hd]
      exact h
    · rw [Inlet.act, call, hd]
      exact h
    · rw [Inlet.act, call, hd]
      intro header hheader
      rcases Format.admitted_of_read hread with ⟨-, hexact, a, ha⟩ | ⟨-, hsame, -⟩
      · obtain ⟨⟨-, hmhz, hwidth, hceiling⟩, hserver, hlink⟩ := Link.of_acceptHeader_eq_ok ha
        simp only [hlink] at hheader
        cases hheader
        refine ⟨?_, hmhz, hwidth, hceiling, hserver⟩
        rcases hexact with rfl | rfl
        · exact .inl rfl
        · exact .inr rfl
      · obtain ⟨hformat, hvalid⟩ := h header (hsame ▸ hheader)
        refine ⟨?_, hvalid⟩
        rcases hformat with hjson | hproto
        · exact .inl (congrArg some (format_eq_of_mem_candidates hf hjson))
        · exact .inr (congrArg some (format_eq_of_mem_candidates hf hproto))

theorem Guarded.run (h : i.Guarded own) (acts : List Act) : (i.run own acts).Guarded own := by
  induction acts generalizing i with
  | nil => exact h
  | cons act acts ih => exact ih (h.act act)

/-! ## Formats stay -/

theorem format_act {f : Format} (h : i.decoder.format = some f) (act : Act) :
    (i.act own act).decoder.format = some f := by
  cases act with
  | fill available => exact h
  | decode p =>
    rcases decode_cases i.decoder own i.buffer p with
      ⟨-, hd⟩ | ⟨g, -, e, -, hd⟩ | ⟨g, hg, r, -, hd⟩
    · rw [Inlet.act, call, hd]
      exact h
    · rw [Inlet.act, call, hd]
      exact h
    · rw [Inlet.act, call, hd]
      exact congrArg some (format_eq_of_mem_candidates hg h)

theorem format_run {f : Format} (h : i.decoder.format = some f) (acts : List Act) :
    (i.run own acts).decoder.format = some f := by
  induction acts generalizing i with
  | nil => exact h
  | cons act acts ih => exact ih (format_act h act)

/-! ## Announcements come first -/

/-- A header in force was accepted by a call. -/
theorem control_mem_results {acts : List Act} (hstart : i.decoder.link.header = none)
    (h : (i.run own acts).decoder.link.header.isSome) :
    .ok (some .control) ∈ i.results own acts := by
  induction acts generalizing i with
  | nil =>
    rw [run, List.foldl_nil, hstart] at h
    cases h
  | cons act acts ih =>
    cases act with
    | fill available => exact ih hstart h
    | decode p =>
      by_cases hnext : (i.act own (.decode p)).decoder.link.header = none
      · exact List.mem_cons_of_mem _ (ih hnext h)
      · rcases decode_cases i.decoder own i.buffer p with
          ⟨-, hd⟩ | ⟨f, -, e, -, hd⟩ | ⟨f, -, r, hread, hd⟩
        · rw [Inlet.act, call, hd] at hnext
          exact absurd hstart hnext
        · rw [Inlet.act, call, hd] at hnext
          exact absurd hstart hnext
        · rcases Format.admitted_of_read hread with ⟨hevent, -⟩ | ⟨-, hsame, -⟩
          · rw [results, call, hd, hevent]
            exact List.mem_cons_self
          · rw [Inlet.act, call, hd] at hnext
            exact absurd (hsame.trans hstart) hnext

/-- A json or proto frame is read only under a header. -/
theorem isSome_header_of_frame {p : Packet} (h : (i.call own p).result = .ok (some .frame))
    (hformat : (i.call own p).decoder.format = some .json ∨
      (i.call own p).decoder.format = some .proto) : i.decoder.link.header.isSome := by
  rw [call] at h hformat
  rcases decode_cases i.decoder own i.buffer p with
    ⟨-, hd⟩ | ⟨f, -, e, -, hd⟩ | ⟨f, -, r, hread, hd⟩
  · rw [hd] at h
    cases h
  · rw [hd] at h
    cases h
  · rw [hd] at h hformat
    rcases Format.admitted_of_read hread with ⟨hevent, -⟩ | ⟨-, -, hsome⟩
    · rw [hevent] at h
      cases h
    · refine hsome ?_
      rcases hformat with hjson | hproto
      · exact .inl (Option.some.inj hjson)
      · exact .inr (Option.some.inj hproto)

/-! ## Loops -/

/-- A call that fails leaves everything as it is. -/
theorem call_of_error {f : Format} {e : Error} (hf : f ∈ i.decoder.candidates)
    (h : ∀ p, f.read own i.buffer.data p i.decoder.link = .error e) (p : Packet) :
    i.call own p = ⟨.error e, p, i.decoder, i.buffer⟩ :=
  decode_of_error hf (h p)

/-- **A failure lasts**: fills put bytes behind what fails, and calls change nothing. -/
theorem call_run_of_error {f : Format} {e : Error} (hf : f ∈ i.decoder.candidates)
    (h : ∀ p, f.read own i.buffer.data p i.decoder.link = .error e) (acts : List Act) (p : Packet) :
    (i.run own acts).call own p = ⟨.error e, p, i.decoder, (i.run own acts).buffer⟩ ∧
      i.buffer.data <+: (i.run own acts).buffer.data := by
  induction acts generalizing i with
  | nil => exact ⟨call_of_error hf h p, List.prefix_rfl⟩
  | cons act acts ih =>
    cases act with
    | fill available =>
      obtain ⟨taken, hdata⟩ := i.buffer.exists_data_fill available
      have hread (q : Packet) :
          f.read own (i.buffer.fill available).2.data q i.decoder.link = .error e := by
        rw [hdata]
        exact Format.read_append_of_error (h q) taken
      obtain ⟨hcall, hprefix⟩ := ih (i := i.act own (.fill available)) hf hread
      exact ⟨hcall, .trans (hdata ▸ List.prefix_append _ taken) hprefix⟩
    | decode q =>
      have hsame : i.act own (.decode q) = i := by
        rw [Inlet.act, call_of_error hf h q]
      have hrun : i.run own (.decode q :: acts) = i.run own acts := by
        rw [run, List.foldl_cons, hsame, run]
      rw [hrun]
      exact ih hf h

/-- **Loops are cut.** Our own announcement is at the front of the buffer, in the pinned format or
while none is pinned: whatever is done from then on, each call fails, and neither takes it off the
buffer nor touches the state of the connection. -/
theorem call_run_of_own {f : Format} {a : Announcement} (h : f.announced? i.buffer.data = some a)
    (ha : a.Usable) (hown : a.server = own)
    (hformat : i.decoder.format = none ∨ i.decoder.format = some f) (acts : List Act) (p : Packet) :
    (i.run own acts).call own p =
        ⟨.error (.selfLoop own), p, i.decoder, (i.run own acts).buffer⟩ ∧
      i.buffer.data <+: (i.run own acts).buffer.data := by
  subst hown
  refine call_run_of_error (f := f) ?_ (fun q => Format.read_of_announced h ha q _) acts p
  rcases hformat with hnone | hpinned
  · rw [candidates, hnone]
    exact Format.mem_readable_of_announced h
  · rw [candidates, hpinned]
    exact List.mem_singleton_self f

/-! ## The handshake -/

/-- **The handshake is safe**, after any acts: frames of json and proto come after an announcement;
the header in force has usable units and is from another bus; the formats of receivers have none;
the pinned format stays; and loops are cut. -/
theorem handshake_safe (own : Uuid) (capacity : Nat) (acts : List Act) :
    let i := (fresh capacity).run own acts
    (∀ p, (i.call own p).result = .ok (some .frame) →
      (i.call own p).decoder.format = some .json ∨ (i.call own p).decoder.format = some .proto →
      .ok (some .control) ∈ (fresh capacity).results own acts) ∧
    (∀ h, i.decoder.link.header = some h →
      0 < h.mhz ∧ h.mhz ≤ 120 ∧ 0 < h.width ∧ 0 < h.ceiling ∧ h.server ≠ own) ∧
    (∀ f ∈ [Format.airspy, .beast, .raw], i.decoder.format = some f →
      i.decoder.link.header = none) ∧
    (∀ f, i.decoder.format = some f → ∀ more, (i.run own more).decoder.format = some f) ∧
    ∀ f a, f.announced? i.buffer.data = some a → a.Usable → a.server = own →
      i.decoder.format = none ∨ i.decoder.format = some f →
      ∀ more p, (i.run own more).call own p =
          ⟨.error (.selfLoop own), p, i.decoder, (i.run own more).buffer⟩ ∧
        i.buffer.data <+: (i.run own more).buffer.data := by
  intro i
  have hguarded : i.Guarded own := (Guarded.fresh capacity).run acts
  refine ⟨?_, ?_, ?_, ?_, ?_⟩
  · intro p hframe hformat
    exact control_mem_results rfl (isSome_header_of_frame hframe hformat)
  · intro h hheader
    obtain ⟨-, hmhz, hwidth, hceiling, hserver⟩ := hguarded h hheader
    simp only [Mlat.validMHz, Bool.and_eq_true, decide_eq_true_eq] at hmhz
    exact ⟨hmhz.1, hmhz.2, UInt64.pos_iff_ne_zero.2 hwidth,
      UInt32.pos_iff_ne_zero.2 hceiling, hserver⟩
  · intro f hf hformat
    cases hheader : i.decoder.link.header with
    | none => rfl
    | some h =>
      obtain ⟨hexact, -⟩ := hguarded h hheader
      rw [hformat] at hexact
      rcases hexact with heq | heq
      · cases heq
        exact absurd hf (by decide)
      · cases heq
        exact absurd hf (by decide)
  · exact fun f hf more => format_run hf more
  · exact fun f a h ha hown hformat more p => call_run_of_own h ha hown hformat more p

theorem eq_ok_of_toOption_eq_some {ε α : Type} {x : Except ε α} {a : α} (h : x.toOption = some a) :
    x = .ok a := by
  cases x with
  | error e => cases h
  | ok b => exact congrArg _ (Option.some.inj h)

/-- The greeting of a bus with the given identity. -/
def greetingOf (id : Uuid) : Bytes :=
  Wire.Json.write (.header (.ofServer ⟨id, Server.usualVersion⟩))

/-- Three streams: of another bus, with a packet; of a receiver; and of the bus itself. -/
theorem handshake_safe_three_streams :
    let other : Uuid := ⟨Vector.replicate 16 1⟩
    let stream := greetingOf other ++ Wire.Json.write (.packet (.ofPacket (.blank .nil)))
    let fromOther := [Act.fill stream, .decode (.blank .nil)]
    let fromReceiver := [Act.fill (utf8 "*7700;\n"), .decode (.blank .nil)]
    let fromOurselves := [Act.fill (greetingOf .nil)]
    (.ok (some .control) ∈ (fresh 1024).results .nil fromOther ∧
      ∃ h, ((fresh 1024).run .nil fromOther).decoder.link.header = some h ∧
        0 < h.mhz ∧ h.mhz ≤ 120 ∧ 0 < h.width ∧ 0 < h.ceiling ∧ h.server ≠ .nil) ∧
    (((fresh 1024).run .nil fromReceiver).decoder.link.header = none ∧
      ∀ more, (((fresh 1024).run .nil fromReceiver).run .nil more).decoder.format = some .raw) ∧
    ∀ more p, (((fresh 1024).run .nil fromOurselves).run .nil more |>.call .nil p).result =
      .error (.selfLoop .nil) := by
  intro other stream fromOther fromReceiver fromOurselves
  obtain ⟨hfirst, hheader, -⟩ := handshake_safe .nil 1024 fromOther
  obtain ⟨-, -, hbare, hstays, -⟩ := handshake_safe .nil 1024 fromReceiver
  obtain ⟨-, -, -, -, hloop⟩ := handshake_safe .nil 1024 fromOurselves
  have hsome : ((fresh 1024).run .nil fromOther).decoder.link.header =
      some (.ofServer ⟨other, Server.usualVersion⟩) := by decide +kernel
  have hraw : ((fresh 1024).run .nil fromReceiver).decoder.format = some .raw := by decide +kernel
  have hown : Format.json.announced? ((fresh 1024).run .nil fromOurselves).buffer.data =
      some (.ofServer ⟨.nil, Server.usualVersion⟩) := by decide +kernel
  refine ⟨⟨hfirst (.blank .nil) ?_ ?_, _, hsome, hheader _ hsome⟩,
    ⟨hbare .raw (by decide) hraw, hstays .raw hraw⟩, fun more p => ?_⟩
  · exact eq_ok_of_toOption_eq_some (by decide +kernel)
  · exact .inl (by decide +kernel)
  · obtain ⟨hcall, -⟩ := hloop .json _ hown ⟨rfl, by decide, by decide, by decide⟩ rfl
      (.inl rfl) more p
    rw [hcall]

end Inlet
end Squitter
