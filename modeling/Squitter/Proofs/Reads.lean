import Squitter.Proofs.Decoding

/-!
# What a decoder reads from a string

A decoder that is called until there is nothing left to read turns a string of bytes into a list of
**outcomes** (`Outcome`), a decoder and the bytes that are left over. This relation (`Reads`) knows
nothing of buffers. It is deterministic (`Reads.unique`), and what is read from a buffer obeys it
(`reads_drain`).

**More bytes.** What is read from a string is read again when more bytes follow, and reading goes on
with what is left over (`Reads.append`). In one way the strings may differ: line ends between two
json messages belong to the first one if they are there in time, else they stand in front of the
second one. There the decoder passes over them (`Reads.of_trimmed_eq`).
-/

namespace Squitter

/-! ## Results that may be missing -/

section

variable {ε α β : Type} {x : Except ε (Option α)} {g : α → β}

theorem map_map_eq_none_iff : x.map (Option.map g) = .ok none ↔ x = .ok none := by
  rcases x with e | _ | a <;> simp [Except.map]

theorem map_map_eq_some_iff {b : β} :
    x.map (Option.map g) = .ok (some b) ↔ ∃ a, x = .ok (some a) ∧ g a = b := by
  rcases x with e | _ | a <;> simp [Except.map]

theorem map_map_eq_error_iff {e : ε} : x.map (Option.map g) = .error e ↔ x = .error e := by
  rcases x with e | _ | a <;> simp [Except.map]

end

/-! ## Line ends in front of a message -/

namespace Wire.Json

open Squitter.Json

theorem isBlank_of_isLineEnd {c : UInt8} (h : isLineEnd c) : isBlank c := by
  simp only [isLineEnd, Bool.or_eq_true, decide_eq_true_eq] at h
  rcases h with rfl | rfl <;> rfl

theorem readDocument?_lineEnds_append {ends : Bytes} (h : ∀ c ∈ ends, isLineEnd c) (data : Bytes) :
    readDocument? (ends ++ data) = readDocument? data := by
  have hskip : skipBlanks (ends ++ data) = skipBlanks data :=
    List.dropWhile_append_of_pos fun c hc => isBlank_of_isLineEnd (h c hc)
  simp only [readDocument?, hskip]

theorem read?_lineEnds_append {ends : Bytes} (h : ∀ c ∈ ends, isLineEnd c) (data : Bytes) :
    read? (ends ++ data) = (read? data).map fun (m, used) => (m, ends.length + used) := by
  simp only [read?, readDocument?_lineEnds_append h]
  cases hd : readDocument? data with
  | none => rfl
  | some found =>
    obtain ⟨document, rest⟩ := found
    have hrest := length_lt_of_readDocument? hd
    have htrim : (rest.dropWhile isLineEnd).length ≤ rest.length :=
      (List.dropWhile_suffix _).length_le
    cases hm : message? document with
    | none => simp [hm]
    | some m =>
      simp [hm]
      omega

end Wire.Json

theorem Format.read_json_lineEnds_append {ends : Bytes} (h : ∀ c ∈ ends, Wire.Json.isLineEnd c)
    (own : Uuid) (data : Bytes) (p : Packet) (l : Link) :
    json.read own (ends ++ data) p l = (json.read own data p l).map
      (Option.map fun r => { r with used := ends.length + r.used }) := by
  simp only [read, Wire.Json.read?_lineEnds_append h]
  cases Wire.Json.read? data with
  | none => rfl
  | some found =>
    obtain ⟨m, used⟩ := found
    cases hd : Wire.Json.decoded m with
    | error e => simp only [Option.map_some, hd]; rfl
    | ok m' =>
      simp only [Option.map_some, hd]
      show accepted own m' p l (ends.length + used) = (accepted own m' p l used).map _
      unfold accepted
      cases l.accept own m' p <;> rfl

namespace Decoder

/-! ## Outcomes -/

/-- What the caller learns from a call that reads a message or fails. -/
inductive Outcome
  /-- A frame, as the packet it was filled into. -/
  | frame (p : Packet)
  /-- An announcement, as the header that is in force from then on. -/
  | control (header : Option RemoteHeader)
  /-- A breach of protocol. -/
  | failed (e : Error)

/-- The outcome of a message. -/
def Outcome.ofEvent (event : Event) (p : Packet) (l : Link) : Outcome :=
  match event with
  | .frame => .frame p
  | .control => .control l.header

theorem Outcome.failed_ne_ofEvent (e : Error) (event : Event) (p : Packet) (l : Link) :
    failed e ≠ ofEvent event p l := by
  cases event <;> intro heq <;> cases heq

/-- The outcome of a call, if there is one. -/
def Step.outcome? (s : Step) : Option Outcome :=
  match s.result with
  | .ok (some event) => some (.ofEvent event s.packet s.decoder.link)
  | .ok none => none
  | .error e => some (.failed e)

/-! ## Reading a string -/

/-- Reading a string with blank packets from `source`, up to the first call that yields none or an
error. -/
inductive Reads (own source : Uuid) : Decoder → Bytes → List Outcome → Decoder → Bytes → Prop
  | done {d : Decoder} {data : Bytes}
      (h : ∀ f ∈ d.candidates, f.read own data (.blank source) d.link = .ok none) :
      Reads own source d data [] d data
  | fail {d : Decoder} {data : Bytes} {f : Format} {e : Error} (hf : f ∈ d.candidates)
      (h : f.read own data (.blank source) d.link = .error e) :
      Reads own source d data [.failed e] d data
  | next {d d' : Decoder} {data rest : Bytes} {f : Format} {r : Reading} {os : List Outcome}
      (hf : f ∈ d.candidates) (h : f.read own data (.blank source) d.link = .ok (some r))
      (hrest : Reads own source ⟨some f, r.link⟩ (data.drop r.used) os d' rest) :
      Reads own source d data (.ofEvent r.event r.packet r.link :: os) d' rest

variable {own source : Uuid}

/-- Two formats that read something are one, and read the same. -/
theorem read_unique {d : Decoder} {data : Bytes} {f g : Format}
    {x y : Except Error (Option Reading)}
    (hx : f.read own data (.blank source) d.link = x)
    (hy : g.read own data (.blank source) d.link = y)
    (hxn : x ≠ .ok none) (hyn : y ≠ .ok none) : f = g ∧ x = y := by
  subst hx hy
  obtain rfl := Format.eq_of_read_ne_none hxn hyn
  exact ⟨rfl, rfl⟩

theorem Reads.unique {d d₁ d₂ : Decoder} {data rest₁ rest₂ : Bytes} {os₁ os₂ : List Outcome}
    (h₁ : Reads own source d data os₁ d₁ rest₁) (h₂ : Reads own source d data os₂ d₂ rest₂) :
    os₁ = os₂ ∧ d₁ = d₂ ∧ rest₁ = rest₂ := by
  induction h₁ generalizing os₂ d₂ rest₂ with
  | done hnone =>
    cases h₂ with
    | done => exact ⟨rfl, rfl, rfl⟩
    | fail hf h => rw [hnone _ hf] at h; cases h
    | next hf h => rw [hnone _ hf] at h; cases h
  | fail hf h =>
    cases h₂ with
    | done hnone => rw [hnone _ hf] at h; cases h
    | fail hf' h' =>
      obtain ⟨-, heq⟩ := read_unique h h' (by simp) (by simp)
      cases heq
      exact ⟨rfl, rfl, rfl⟩
    | next hf' h' =>
      obtain ⟨-, heq⟩ := read_unique h h' (by simp) (by simp)
      cases heq
  | next hf h _ ih =>
    cases h₂ with
    | done hnone => rw [hnone _ hf] at h; cases h
    | fail hf' h' =>
      obtain ⟨-, heq⟩ := read_unique h h' (by simp) (by simp)
      cases heq
    | next hf' h' hrest' =>
      obtain ⟨rfl, heq⟩ := read_unique h h' (by simp) (by simp)
      cases heq
      obtain ⟨rfl, rfl, rfl⟩ := ih hrest'
      exact ⟨rfl, rfl, rfl⟩

/-! ## Reading a buffer -/

/-- The last call on a buffer, which yields none or an error. -/
def lastStep (d : Decoder) (own source : Uuid) (b : Buffer) : Step :=
  (d.drain own source b).getLast (drain_ne_nil d own source b)

theorem drain_of_event {d : Decoder} {b : Buffer} {s : Step} {event : Event}
    (h : d.decode own b (.blank source) = s) (hs : s.result = .ok (some event)) :
    d.drain own source b = s :: s.decoder.drain own source s.buffer := by
  subst h
  rw [drain]
  split
  · rfl
  · rename_i hno
    exact absurd hs (hno event)

theorem drain_of_no_event {d : Decoder} {b : Buffer} {s : Step}
    (h : d.decode own b (.blank source) = s) (hs : ∀ event, s.result ≠ .ok (some event)) :
    d.drain own source b = [s] := by
  subst h
  rw [drain]
  split
  · rename_i event heq
    exact absurd heq (hs event)
  · rfl

theorem lastStep_of_event {d : Decoder} {b : Buffer} {s : Step} {event : Event}
    (h : d.decode own b (.blank source) = s) (hs : s.result = .ok (some event)) :
    d.lastStep own source b = s.decoder.lastStep own source s.buffer := by
  simp only [lastStep, drain_of_event h hs]
  exact List.getLast_cons (drain_ne_nil _ _ _ _)

theorem lastStep_of_no_event {d : Decoder} {b : Buffer} {s : Step}
    (h : d.decode own b (.blank source) = s) (hs : ∀ event, s.result ≠ .ok (some event)) :
    d.lastStep own source b = s := by
  simp only [lastStep, drain_of_no_event h hs, List.getLast_singleton]

/-- What is read from a buffer is what is in the string of its bytes. -/
theorem reads_drain (d : Decoder) (own source : Uuid) (b : Buffer) :
    Reads own source d b.data ((d.drain own source b).filterMap Step.outcome?)
      (d.lastStep own source b).decoder (d.lastStep own source b).buffer.data := by
  induction hn : b.data.length using Nat.strongRecOn generalizing d b with
  | ind n ih =>
    rcases decode_cases d own b (.blank source) with
      ⟨hnone, hd⟩ | ⟨f, hf, e, hread, hd⟩ | ⟨f, hf, r, hread, hd⟩
    · rw [drain_of_no_event hd (by simp), lastStep_of_no_event hd (by simp)]
      exact .done hnone
    · rw [drain_of_no_event hd (by simp), lastStep_of_no_event hd (by simp)]
      exact .fail hf hread
    · have hlt : (b.advance r.used).data.length < n := hn ▸ Format.length_drop_used_lt hread
      rw [drain_of_event hd rfl, lastStep_of_event hd rfl]
      exact .next hf hread (ih _ hlt ⟨some f, r.link⟩ (b.advance r.used) rfl)

/-! ## More bytes -/

/-- A string without the line ends in front that the decoder passes over. -/
def trimmed (d : Decoder) (data : Bytes) : Bytes :=
  if d.format = some .json then data.dropWhile Wire.Json.isLineEnd else data

theorem trimmed_lineEnds_append {d : Decoder} (hd : d.format = some .json) {ends : Bytes}
    (h : ∀ c ∈ ends, Wire.Json.isLineEnd c) (data : Bytes) :
    d.trimmed (ends ++ data) = d.trimmed data := by
  simp only [trimmed, hd, if_true]
  exact List.dropWhile_append_of_pos h

/-- Line ends in front change nothing but the length of what was read. -/
theorem Reads.of_lineEnds_eq {d d' : Decoder} (hd : d.format = some .json) {e₁ e₂ data rest : Bytes}
    (h₁ : ∀ c ∈ e₁, Wire.Json.isLineEnd c) (h₂ : ∀ c ∈ e₂, Wire.Json.isLineEnd c)
    {os : List Outcome} (h : Reads own source d (e₁ ++ data) os d' rest) :
    ∃ rest', Reads own source d (e₂ ++ data) os d' rest' ∧ d'.trimmed rest' = d'.trimmed rest := by
  have hcand : d.candidates = [.json] := by simp only [candidates, hd]
  have htrim : d.trimmed (e₂ ++ data) = d.trimmed (e₁ ++ data) := by
    rw [trimmed_lineEnds_append hd h₁, trimmed_lineEnds_append hd h₂]
  generalize hx : e₁ ++ data = x at h
  cases h with
  | done hnone =>
    subst hx
    refine ⟨e₂ ++ data, .done fun f hf => ?_, htrim⟩
    have hread := hnone f hf
    obtain rfl := List.mem_singleton.1 (hcand ▸ hf)
    rw [Format.read_json_lineEnds_append h₁, map_map_eq_none_iff] at hread
    rw [Format.read_json_lineEnds_append h₂, map_map_eq_none_iff, hread]
  | fail hf hread =>
    subst hx
    obtain rfl := List.mem_singleton.1 (hcand ▸ hf)
    rw [Format.read_json_lineEnds_append h₁, map_map_eq_error_iff] at hread
    refine ⟨e₂ ++ data, .fail hf ?_, htrim⟩
    rw [Format.read_json_lineEnds_append h₂, map_map_eq_error_iff, hread]
  | next hf hread hrest =>
    subst hx
    obtain rfl := List.mem_singleton.1 (hcand ▸ hf)
    rw [Format.read_json_lineEnds_append h₁, map_map_eq_some_iff] at hread
    obtain ⟨r, hr, rfl⟩ := hread
    refine ⟨rest, .next (r := { r with used := e₂.length + r.used }) hf ?_ ?_, rfl⟩
    · rw [Format.read_json_lineEnds_append h₂, hr]
      rfl
    · simp only [List.drop_length_add_append] at hrest ⊢
      exact hrest

/-- What a decoder reads does not depend on the line ends that it passes over. -/
theorem Reads.of_trimmed_eq {d d' : Decoder} {x y rest : Bytes} {os : List Outcome}
    (h : Reads own source d x os d' rest) (hxy : d.trimmed x = d.trimmed y) :
    ∃ rest', Reads own source d y os d' rest' ∧ d'.trimmed rest' = d'.trimmed rest := by
  by_cases hd : d.format = some .json
  · have hends (z : Bytes) : ∀ c ∈ z.takeWhile Wire.Json.isLineEnd, Wire.Json.isLineEnd c :=
      List.all_eq_true.1 List.all_takeWhile
    have hsplit (z : Bytes) : z = z.takeWhile Wire.Json.isLineEnd ++ d.trimmed z := by
      simp only [trimmed, hd, if_true, List.takeWhile_append_dropWhile]
    rw [hsplit x, hxy] at h
    rw [hsplit y]
    exact Reads.of_lineEnds_eq hd (hends x) (hends y) h
  · simp only [trimmed, hd, if_false] at hxy
    subst hxy
    exact ⟨rest, h, rfl⟩

/-- A message is read again when more bytes come, and what is read behind it stays the same. -/
theorem Reads.next_append {d d' : Decoder} {x y rest : Bytes} {f : Format} {r : Reading}
    {os : List Outcome} (hf : f ∈ d.candidates)
    (hread : f.read own x (.blank source) d.link = .ok (some r))
    (h : Reads own source ⟨some f, r.link⟩ (x.drop r.used ++ y) os d' rest) :
    ∃ rest', Reads own source d (x ++ y) (.ofEvent r.event r.packet r.link :: os) d' rest' ∧
      d'.trimmed rest' = d'.trimmed rest := by
  obtain ⟨ends, hpre, hends, hall, hmore⟩ := Format.read_append hread y
  obtain ⟨y', rfl⟩ := hpre
  by_cases hne : ends = []
  · subst hne
    refine ⟨rest, .next hf hmore ?_, rfl⟩
    simpa only [List.length_nil, Nat.add_zero,
      List.drop_append_of_le_length (Format.used_le hread)] using h
  · -- The message took up all bytes there were, and takes up line ends among the new ones.
    obtain ⟨rfl, hused⟩ := hall hne
    have hdrop : x.drop r.used = [] := List.drop_eq_nil_of_le (Nat.le_of_eq hused.symm)
    rw [hdrop, List.nil_append] at h
    have heq := trimmed_lineEnds_append (d := ⟨some .json, r.link⟩) rfl hends y'
    obtain ⟨rest', hrest', htrim⟩ := h.of_trimmed_eq heq
    refine ⟨rest', .next (r := { r with used := r.used + ends.length }) hf hmore ?_, htrim⟩
    simp only [hused, List.drop_length_add_append, List.drop_left]
    exact hrest'

/-- **Reading goes on with what is left over** when more bytes come. -/
theorem Reads.append {d d₁ d₂ : Decoder} {x y rest rest' : Bytes} {os os' : List Outcome}
    (h : Reads own source d x os d₁ rest) (hos : ∀ e, .failed e ∉ os)
    (h' : Reads own source d₁ (rest ++ y) os' d₂ rest') :
    ∃ rest'', Reads own source d (x ++ y) (os ++ os') d₂ rest'' ∧
      d₂.trimmed rest'' = d₂.trimmed rest' := by
  induction h with
  | done => exact ⟨rest', h', rfl⟩
  | fail => exact absurd List.mem_cons_self (hos _)
  | next hf hread _ ih =>
    obtain ⟨rest₁, hreads₁, htrim₁⟩ := ih (fun e he => hos e (List.mem_cons_of_mem _ he)) h'
    obtain ⟨rest₂, hreads₂, htrim₂⟩ := Reads.next_append hf hread hreads₁
    exact ⟨rest₂, hreads₂, htrim₂.trans htrim₁⟩

/-- A failure ends the reading however many bytes follow. -/
theorem Reads.append_of_failed {d d' : Decoder} {x rest : Bytes} {os : List Outcome} {e : Error}
    (h : Reads own source d x os d' rest) (he : .failed e ∈ os) (y : Bytes) :
    ∃ rest', Reads own source d (x ++ y) os d' rest' := by
  induction h with
  | done => cases he
  | fail hf hread => exact ⟨_, .fail hf (Format.read_append_of_error hread y)⟩
  | @next d d' x rest f r os hf hread _ ih =>
    have hos := (List.mem_cons.1 he).resolve_left (Outcome.failed_ne_ofEvent e _ _ _)
    obtain ⟨rest₁, hreads₁⟩ := ih hos
    obtain ⟨rest₂, hreads₂, -⟩ := Reads.next_append hf hread hreads₁
    exact ⟨rest₂, hreads₂⟩

/-! ## The end -/

/-- Reading ends when there is nothing more to read, or with the first failure. -/
theorem Reads.ending {d d' : Decoder} {data rest : Bytes} {os : List Outcome}
    (h : Reads own source d data os d' rest) :
    ((∀ e, .failed e ∉ os) ∧
      ∀ f ∈ d'.candidates, f.read own rest (.blank source) d'.link = .ok none) ∨
    ∃ os' e, os = os' ++ [.failed e] ∧ (∀ e, .failed e ∉ os') ∧
      ∃ f ∈ d'.candidates, f.read own rest (.blank source) d'.link = .error e := by
  induction h with
  | done hnone => exact .inl ⟨fun e he => (List.not_mem_nil he).elim, hnone⟩
  | @fail d data f e hf hread =>
    exact .inr ⟨[], e, rfl, fun e he => (List.not_mem_nil he).elim, f, hf, hread⟩
  | @next d d' data rest f r os hf hread _ ih =>
    have hcons {os : List Outcome} (hos : ∀ e, .failed e ∉ os) (e : Error) :
        .failed e ∉ Outcome.ofEvent r.event r.packet r.link :: os := by
      intro he
      exact (List.mem_cons.1 he).elim (Outcome.failed_ne_ofEvent e _ _ _) (hos e)
    rcases ih with ⟨hos, hnone⟩ | ⟨os', e, rfl, hos', hfail⟩
    · exact .inl ⟨hcons hos, hnone⟩
    · exact .inr ⟨_, e, rfl, hcons hos', hfail⟩

end Decoder
end Squitter
