import Squitter.Proofs.Reads
import Squitter.Proofs.RoundTrip.Formats

/-!
# Streams of messages

A **script** (`Decoder.Script`) is a sequence of messages of one format that can be read one after
the other, with what the caller learns of each. Its bytes reach a decoder piece by piece.

**The invariant** (`Decoder.Pending`). Between two readings, the bytes still to be read are
those of the last messages of the script, and before them perhaps the line end of a json message
that was read without it. A reading keeps it so (`Decoder.Reads.of_pending`): it yields what
comes next in the script, and leaves less than a buffer full of bytes over, since a whole
message would have been read.
-/

namespace Squitter.Decoder

/-! ## Scripts -/

/-- Messages of one format, what the caller learns of them, and the states of the
connection before and after them. -/
inductive Script (own source : Uuid) (f : Format) :
    Link → List Bytes → List Outcome → Link → Prop
  | nil (l : Link) : Script own source f l [] [] l
  | cons {l l₁ l' : Link} {m : Bytes} {ms : List Bytes} {event : Event} {p : Packet}
      {os : List Outcome} (hm : f.IsMessage m)
      (hread : ∀ rest, f.read own (m ++ rest) (.blank source) l =
        .ok (some ⟨event, p, l₁, m.length + (f.tail rest).length⟩))
      (h : Script own source f l₁ ms os l') :
      Script own source f l (m :: ms) (.ofEvent event p l₁ :: os) l'

variable {own source : Uuid} {f : Format} {capacity : Nat}

/-- No script begins with line ends. -/
theorem Script.tail_flatten {l l' : Link} {ms : List Bytes} {os : List Outcome}
    (h : Script own source f l ms os l') : f.tail ms.flatten = [] := by
  cases h with
  | nil =>
    rw [List.flatten_nil, Format.tail]
    split <;> rfl
  | cons hm =>
    rw [List.flatten_cons]
    exact Format.tail_append_of_isMessage hm _

/-! ## The invariant -/

/-- Of a script, the messages `ms` are still to be read, after the bytes `pre`. Each fits into a
buffer, with room for a line end before it. -/
structure Pending (own source : Uuid) (f : Format) (capacity : Nat) (d : Decoder) (pre : Bytes)
    (ms : List Bytes) (os : List Outcome) (l' : Link) : Prop where
  script : Script own source f d.link ms os l'
  format : d.format = some f ∨ d.format = none ∧ pre = []
  lineEnd : pre = [] ∨ f = .json ∧ pre = [0x0A]
  first : ∀ m ∈ ms.head?, pre.length + m.length ≤ capacity
  later : ∀ m ∈ ms.tail, m.length < capacity

namespace Pending

variable {d : Decoder} {pre m : Bytes} {ms : List Bytes} {os : List Outcome} {l' : Link}

theorem mem_candidates (hf : f ∈ Format.readable)
    (h : Pending own source f capacity d pre ms os l') :
    f ∈ d.candidates := by
  unfold candidates
  rcases h.format with hd | ⟨hd, -⟩
  · rw [hd]
    exact List.mem_singleton_self f
  · rw [hd]
    exact hf

theorem isLineEnd_of_mem_pre (h : Pending own source f capacity d pre ms os l') :
    ∀ c ∈ pre, Wire.Json.isLineEnd c := by
  rcases h.lineEnd with hpre | ⟨-, hpre⟩
  · rw [hpre]
    exact fun c hc => (List.not_mem_nil hc).elim
  · rw [hpre]
    intro c hc
    rw [List.mem_singleton.1 hc]
    rfl

theorem length_pre_le (h : Pending own source f capacity d pre ms os l') : pre.length ≤ 1 := by
  rcases h.lineEnd with hpre | ⟨-, hpre⟩
  · rw [hpre]
    exact Nat.zero_le 1
  · rw [hpre]
    exact Nat.le_refl 1

/-- There is nothing to read in what stands before the messages. -/
theorem read_pre (h : Pending own source f capacity d pre ms os l') (g : Format) (p : Packet)
    (l : Link) : g.read own pre p l = .ok none := by
  rcases h.lineEnd with hpre | ⟨-, hpre⟩
  · rw [hpre]
    cases g <;> rfl
  · rw [hpre]
    cases g <;> rfl

/-- The next message is read, and what stands before it. -/
theorem exists_read (h : Pending own source f capacity d pre (m :: ms) os l') :
    ∃ event p l₁ os', os = .ofEvent event p l₁ :: os' ∧ Script own source f l₁ ms os' l' ∧
      f.IsMessage m ∧
      ∀ rest, f.read own (pre ++ (m ++ rest)) (.blank source) d.link =
        .ok (some ⟨event, p, l₁, pre.length + (m.length + (f.tail rest).length)⟩) := by
  have hscript := h.script
  cases hscript with
  | @cons _ l₁ _ _ _ event p os' hm hread hms =>
    refine ⟨event, p, l₁, os', rfl, hms, hm, fun rest => ?_⟩
    rcases h.lineEnd with hpre | ⟨hjson, hpre⟩
    · rw [hpre, List.nil_append, hread]
      simp only [List.length_nil, Nat.zero_add]
    · have hends := h.isLineEnd_of_mem_pre
      subst hjson
      rw [Format.read_json_lineEnds_append hends, hread]
      rfl

/-- Once the next message was read, the others are still to be read. -/
theorem next (h : Pending own source f capacity d pre (m :: ms) os l')
    {l₁ : Link} {os' : List Outcome} (hms : Script own source f l₁ ms os' l') {pre' : Bytes}
    (hpre' : pre' = [] ∨ f = .json ∧ pre' = [0x0A]) :
    Pending own source f capacity ⟨some f, l₁⟩ pre' ms os' l' where
  script := hms
  format := .inl rfl
  lineEnd := hpre'
  first := by
    intro m' hm'
    have hlen := h.later m' (List.mem_of_mem_head? hm')
    rcases hpre' with rfl | ⟨-, rfl⟩
    · simp only [List.length_nil]
      omega
    · simp only [List.length_singleton]
      omega
  later := fun m' hm' => h.later m' (List.mem_of_mem_tail hm')

end Pending

/-- A json message that was read without all its line ends lacks the one at its end. -/
theorem lineEnds_eq_of_isMessage {m pre data ends : Bytes} (hm : Format.json.IsMessage m)
    (h : data ++ ends = pre ++ m) (hne : ends ≠ []) (hends : ∀ c ∈ ends, Wire.Json.isLineEnd c) :
    ends = [0x0A] := by
  obtain ⟨front, rfl⟩ := hm.2 rfl
  rcases List.eq_nil_or_concat ends with hnil | ⟨ends', c, rfl⟩
  · exact absurd hnil hne
  · rw [List.concat_eq_append] at *
    have hsplit : (data ++ ends') ++ [c] = (pre ++ 0x7B :: front ++ [0x7D]) ++ [0x0A] := by
      simpa using h
    obtain ⟨hfront, hc⟩ := List.append_inj' hsplit rfl
    rcases List.eq_nil_or_concat ends' with rfl | ⟨ends'', c', rfl⟩
    · simpa using hc
    · rw [List.concat_eq_append, ← List.append_assoc] at hfront
      have hbracket := List.singleton_inj.1 (List.append_inj' hfront rfl).2
      have hend := hends c' (by simp)
      rw [hbracket] at hend
      cases hend

/-- After a message was read, what follows it is left, and perhaps the line end it lacked. -/
theorem exists_rest_eq {data unread ends pre m z : Bytes} {used : Nat} (hm : f.IsMessage m)
    (hdata : data ++ unread = pre ++ (m ++ z)) (hpre : ends <+: unread)
    (hends : ∀ c ∈ ends, Wire.Json.isLineEnd c) (hall : ends ≠ [] → f = .json ∧ used = data.length)
    (hused : used + ends.length = pre.length + m.length) (hle : used ≤ data.length) :
    ∃ pre', (pre' = [] ∨ f = .json ∧ pre' = [0x0A]) ∧ data.drop used ++ unread = pre' ++ z := by
  by_cases hne : ends = []
  · subst hne
    refine ⟨[], .inl rfl, ?_⟩
    have hlen : used = (pre ++ m).length := by
      rw [List.length_append]
      exact hused
    rw [← List.drop_append_of_le_length hle, hdata, hlen, ← List.append_assoc, List.drop_left,
      List.nil_append]
  · obtain ⟨y, rfl⟩ := hpre
    obtain ⟨rfl, rfl⟩ := hall hne
    rw [← List.append_assoc, ← List.append_assoc] at hdata
    have hlen : (data ++ ends).length = (pre ++ m).length := by
      rw [List.length_append, List.length_append]
      exact hused
    obtain ⟨hfront, rfl⟩ := List.append_inj hdata hlen
    obtain rfl := lineEnds_eq_of_isMessage hm hfront hne hends
    exact ⟨[0x0A], .inr ⟨rfl, rfl⟩, by rw [List.drop_length, List.nil_append]⟩

namespace Pending

variable {d : Decoder} {data unread pre : Bytes} {ms : List Bytes} {os : List Outcome} {l' : Link}

/-- Where nothing is read there is less than a buffer full of bytes: a
whole message would be read. -/
theorem length_lt_of_none (hf : f ∈ Format.readable) (hcap : 2 ≤ capacity)
    (hp : Pending own source f capacity d pre ms os l') (hdata : data ++ unread = pre ++ ms.flatten)
    (hnone : ∀ g ∈ d.candidates, g.read own data (.blank source) d.link = .ok none) :
    data.length < capacity := by
  cases ms with
  | nil =>
    have hlen := congrArg List.length hdata
    have hpre := hp.length_pre_le
    simp only [List.length_append, List.flatten_nil, List.length_nil] at hlen
    omega
  | cons m ms =>
    rcases Nat.lt_or_ge data.length capacity with hlt | hge
    · exact hlt
    · obtain ⟨event, p, l₁, os', -, -, -, hread⟩ := hp.exists_read
      have hlen := hp.first m rfl
      have hfront : pre ++ m <+: data ++ unread := by
        rw [hdata, List.flatten_cons, ← List.append_assoc]
        exact List.prefix_append _ _
      have hle : (pre ++ m).length ≤ data.length := by
        rw [List.length_append]
        omega
      obtain ⟨z, rfl⟩ := List.prefix_of_prefix_length_le hfront (List.prefix_append _ _) hle
      have hsome := hread z
      rw [← List.append_assoc, hnone f (hp.mem_candidates hf)] at hsome
      cases hsome

/-- Nothing of a script is refused. -/
theorem read_ne_error (hp : Pending own source f capacity d pre ms os l')
    (hdata : data ++ unread = pre ++ ms.flatten) (g : Format) (e : Error) :
    g.read own data (.blank source) d.link ≠ .error e := by
  intro hread
  have hmore := Format.read_append_of_error hread unread
  rw [hdata] at hmore
  cases ms with
  | nil =>
    rw [List.flatten_nil, List.append_nil, hp.read_pre] at hmore
    cases hmore
  | cons m ms =>
    obtain ⟨event, p, l₁, os', -, -, -, hread'⟩ := hp.exists_read
    obtain ⟨-, heq⟩ := read_unique hmore (hread' ms.flatten) (by simp) (by simp)
    cases heq

/-- What is read is the next message of the script. -/
theorem of_read (hp : Pending own source f capacity d pre ms os l')
    (hdata : data ++ unread = pre ++ ms.flatten) {g : Format} {r : Reading}
    (hread : g.read own data (.blank source) d.link = .ok (some r)) :
    ∃ pre' ms' os', g = f ∧ os = .ofEvent r.event r.packet r.link :: os' ∧
      Pending own source f capacity ⟨some f, r.link⟩ pre' ms' os' l' ∧
      data.drop r.used ++ unread = pre' ++ ms'.flatten := by
  obtain ⟨ends, hpre, hends, hall, hmore⟩ := Format.read_append hread unread
  rw [hdata] at hmore
  cases ms with
  | nil =>
    rw [List.flatten_nil, List.append_nil, hp.read_pre] at hmore
    cases hmore
  | cons m ms =>
    obtain ⟨event, p, l₁, os', rfl, hms, hm, hread'⟩ := hp.exists_read
    obtain ⟨rfl, heq⟩ := read_unique hmore (hread' ms.flatten) (by simp) (by simp)
    obtain ⟨event', p', l', used⟩ := r
    obtain ⟨rfl, rfl, rfl, hused⟩ := Reading.mk.inj (Option.some.inj (Except.ok.inj heq))
    rw [hms.tail_flatten, List.length_nil, Nat.add_zero] at hused
    obtain ⟨pre', hpre', hrest⟩ :=
      exists_rest_eq hm hdata hpre hends hall hused (Format.used_le hread)
    exact ⟨pre', ms, os', rfl, rfl, hp.next hms hpre', hrest⟩

end Pending

/-- **A reading goes on in the script.** It yields what comes next, leaves less than a buffer full
of bytes over in which there is nothing more to read, and pins the format if it reads anything. -/
theorem Reads.of_pending (hf : f ∈ Format.readable) (hcap : 2 ≤ capacity) {d d₁ : Decoder}
    {data unread rest pre : Bytes} {ms : List Bytes} {os os₁ : List Outcome} {l' : Link}
    (h : Reads own source d data os₁ d₁ rest) (hp : Pending own source f capacity d pre ms os l')
    (hdata : data ++ unread = pre ++ ms.flatten) :
    ∃ os₂ pre₁ ms₁, os = os₁ ++ os₂ ∧ Pending own source f capacity d₁ pre₁ ms₁ os₂ l' ∧
      rest ++ unread = pre₁ ++ ms₁.flatten ∧ rest.length < capacity ∧
      (∀ g ∈ d₁.candidates, g.read own rest (.blank source) d₁.link = .ok none) ∧
      d₁.format = if os₁ = [] then d.format else some f := by
  induction h generalizing pre ms os with
  | done hnone =>
    exact ⟨os, pre, ms, rfl, hp, hdata, hp.length_lt_of_none hf hcap hdata hnone, hnone, rfl⟩
  | fail _ hread => exact absurd hread (hp.read_ne_error hdata _ _)
  | next _ hread _ ih =>
    obtain ⟨pre', ms', os', rfl, rfl, hp', hrest⟩ := hp.of_read hdata hread
    obtain ⟨os₂, pre₁, ms₁, rfl, hp₁, hrest₁, hlen, hnone, hformat⟩ := ih hp' hrest
    refine ⟨os₂, pre₁, ms₁, rfl, hp₁, hrest₁, hlen, hnone, ?_⟩
    rw [hformat, ite_self, if_neg (List.cons_ne_nil _ _)]

end Squitter.Decoder
