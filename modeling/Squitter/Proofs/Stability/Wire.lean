import Squitter.Proofs.Stability.Document
import Squitter.Reading

/-!
# Reading messages that arrive in pieces

The readers of the five formats are tried on what has arrived so far. A message that was read at the
front of some bytes is the same message when more bytes come (`Format.read_append`), and so is a
breach of protocol. In all formats but json it also takes up the same bytes; a json message takes up
the line ends after it, of which there may be more to come.
-/

namespace Squitter

namespace Bytes

theorem split?_eq_some_iff {n : Nat} {bytes front rest : Bytes} :
    split? n bytes = some (front, rest) ↔ front.length = n ∧ bytes = front ++ rest := by
  constructor
  · intro h
    unfold split? at h
    split at h
    · obtain ⟨rfl, rfl⟩ := Prod.mk.inj (Option.some.inj h)
      exact ⟨by rw [List.length_take]; omega, (List.take_append_drop _ _).symm⟩
    · cases h
  · rintro ⟨rfl, rfl⟩
    exact split?_append front rest

end Bytes

/-! ## Hexadecimal digits -/

namespace Hex

theorem digit?_of_overwrite {out hex out' : Bytes} (h : overwrite out hex = (true, out'))
    (hlen : hex.length = 2 * out.length) : ∀ c ∈ hex, (digit? c).isSome := by
  fun_induction overwrite out hex generalizing out' with
  | case1 old out high low hex hh hl hlow hhigh ok rest hrec ih =>
    obtain ⟨rfl, -⟩ := Prod.mk.inj h
    simp only [List.length_cons] at hlen
    have hall := ih hrec (by omega)
    intro c hc
    rcases List.mem_cons.1 hc with rfl | hc
    · rw [hhigh]; rfl
    · rcases List.mem_cons.1 hc with rfl | hc
      · rw [hlow]; rfl
      · exact hall c hc
  | case2 => cases h
  | case3 hex out hshort =>
    intro c hc
    cases out with
    | nil =>
      rw [List.eq_nil_of_length_eq_zero hlen] at hc
      cases hc
    | cons old out =>
      match hex, hlen with
      | high :: low :: hex, _ => exact absurd rfl (hshort old out high low hex rfl)
      | [_], hlen => simp only [List.length_cons, List.length_nil] at hlen; omega
      | [], hlen => simp only [List.length_cons, List.length_nil] at hlen; omega

/-- A text that reads as bytes has only digits. -/
theorem digit?_of_decode? {n : Nat} {hex payload : Bytes} (h : decode? n hex = some payload) :
    ∀ c ∈ hex, (digit? c).isSome := by
  unfold decode? at h
  split at h
  · rename_i out hdec
    unfold decodeInto at hdec
    split at hdec
    · rename_i hlen
      exact digit?_of_overwrite hdec hlen
    · cases hdec
  · cases h

theorem digit?_of_foldlM {hex : Bytes} {acc value : UInt64}
    (h : hex.foldlM (fun (acc : UInt64) c => (digit? c).map fun d => (acc <<< 4) ||| d.toUInt64) acc
      = some value) : ∀ c ∈ hex, (digit? c).isSome := by
  induction hex generalizing acc with
  | nil =>
    intro c hc
    cases hc
  | cons b hex ih =>
    rw [List.foldlM_cons] at h
    obtain ⟨acc', hacc, h⟩ := Option.bind_eq_some_iff.1 h
    obtain ⟨d, hd, -⟩ := Option.map_eq_some_iff.1 hacc
    intro c hc
    rcases List.mem_cons.1 hc with rfl | hc
    · rw [hd]; rfl
    · exact ih h c hc

/-- A text that reads as a number has only digits. -/
theorem digit?_of_toInt? {hex : Bytes} {value : UInt64} (h : toInt? hex = some value) :
    ∀ c ∈ hex, (digit? c).isSome := by
  unfold toInt? at h
  split at h
  · cases h
  · exact digit?_of_foldlM h

end Hex

/-! ## Lines -/

namespace Wire

theorem lineEnd?_append {data : Bytes} {n : Nat} (h : lineEnd? data = some n) (more : Bytes) :
    lineEnd? (data ++ more) = some n := by
  unfold lineEnd? at h
  split at h
  · exact h
  · exact h
  · cases h

theorem le_length_of_lineEnd? {data : Bytes} {n : Nat} (h : lineEnd? data = some n) :
    n ≤ data.length := by
  unfold lineEnd? at h
  split at h
  · cases h; simp
  · cases h; simp
  · cases h

/-- A line starts with the payload of a packet of some kind, in its field; the rest follows. -/
def PayloadField (kind : Kind) (data rest : Bytes) : Prop :=
  ∃ hex, data = asterisk :: (hex ++ semicolon :: rest) ∧ hex.length = 2 * kind.payloadLength ∧
    ∀ c ∈ hex, (Hex.digit? c).isSome

theorem digits_eq_of_append_eq {front front' rest rest' : Bytes}
    (h : front ++ semicolon :: rest = front' ++ semicolon :: rest')
    (hd : ∀ c ∈ front, (Hex.digit? c).isSome) (hd' : ∀ c ∈ front', (Hex.digit? c).isSome) :
    front = front' ∧ rest = rest' := by
  induction front generalizing front' with
  | nil =>
    cases front' with
    | nil => exact ⟨rfl, (List.cons.inj h).2⟩
    | cons c front' =>
      obtain ⟨rfl, -⟩ := List.cons.inj h
      exact absurd (hd' semicolon List.mem_cons_self) (by decide)
  | cons b front ih =>
    cases front' with
    | nil =>
      obtain ⟨rfl, -⟩ := List.cons.inj h
      exact absurd (hd semicolon List.mem_cons_self) (by decide)
    | cons c front' =>
      obtain ⟨rfl, htail⟩ := List.cons.inj h
      obtain ⟨rfl, hrest⟩ := ih htail (fun x hx => hd x (List.mem_cons_of_mem _ hx))
        (fun x hx => hd' x (List.mem_cons_of_mem _ hx))
      exact ⟨rfl, hrest⟩

/-- The first semicolon tells the kind: no digit is a semicolon. -/
theorem PayloadField.unique {k k' : Kind} {data rest rest' : Bytes}
    (h : PayloadField k data rest) (h' : PayloadField k' data rest') : k = k' ∧ rest = rest' := by
  obtain ⟨hex, rfl, hlen, hd⟩ := h
  obtain ⟨hex', heq, hlen', hd'⟩ := h'
  obtain ⟨rfl, hrest⟩ := digits_eq_of_append_eq (List.cons.inj heq).2 hd hd'
  refine ⟨?_, hrest⟩
  cases k <;> cases k' <;> simp_all [Kind.payloadLength]

/-- Nothing is read but behind the payload of the kind. -/
def StartsAtPayload {β : Type} (f : Kind → Bytes → Option β) : Prop :=
  ∀ k data b, f k data = some b → ∃ rest, PayloadField k data rest

/-- **A line is read in one kind only.** -/
theorem StartsAtPayload.eq_of_isSome {β : Type} {f : Kind → Bytes → Option β}
    (hf : StartsAtPayload f)
    {data : Bytes} {k k' : Kind} (h : (f k data).isSome) (h' : (f k' data).isSome) : k = k' := by
  obtain ⟨b, hread⟩ := Option.isSome_iff_exists.1 h
  obtain ⟨b', hread'⟩ := Option.isSome_iff_exists.1 h'
  obtain ⟨_, hfield⟩ := hf k data b hread
  obtain ⟨_, hfield'⟩ := hf k' data b' hread'
  exact (hfield.unique hfield').1

namespace Airspy

/-- The fields of a line, in their order. -/
theorem readKind?_eq_some_iff {kind : Kind} {data : Bytes} {l : Line} {n : Nat} :
    readKind? kind data = some (l, n) ↔
      ∃ hex ticks half strength rest ending mhz level payload reading,
        data = asterisk :: (hex ++ semicolon :: (ticks ++ semicolon ::
          (half ++ semicolon :: (strength ++ semicolon :: rest)))) ∧
        hex.length = 2 * kind.payloadLength ∧ ticks.length = 8 ∧ half.length = 2 ∧
        strength.length = 4 ∧ lineEnd? rest = some ending ∧ Hex.toInt? half = some mhz ∧
        Mlat.validMHz (2 * mhz.toUInt32) ∧ Hex.toInt? ticks = some reading ∧
        Hex.toInt? strength = some level ∧ Hex.decode? kind.payloadLength hex = some payload ∧
        l = ⟨kind, payload, reading, 2 * mhz.toUInt32, level.toUInt32⟩ ∧
        n = 2 * kind.payloadLength + 19 + ending := by
  constructor
  · intro h
    unfold readKind? at h
    split at h
    · split at h
      · rename_i c rest hc
        simp only [Option.bind_eq_bind, Option.bind_eq_some_iff] at h
        obtain ⟨⟨hex, r₁⟩, h₁, ⟨ticks, r₂⟩, h₂, ⟨half, r₃⟩, h₃, ⟨strength, r₄⟩, h₄, ending, h₅,
          mhz, h₆, h⟩ := h
        split at h
        · rename_i hvalid
          simp only [Option.bind_eq_some_iff] at h
          obtain ⟨reading, h₇, level, h₈, payload, h₉, h⟩ := h
          obtain ⟨rfl, rfl⟩ := Prod.mk.inj (Option.some.inj h)
          obtain ⟨l₁, rfl⟩ := field?_eq_some_iff.1 h₁
          obtain ⟨l₂, rfl⟩ := field?_eq_some_iff.1 h₂
          obtain ⟨l₃, rfl⟩ := field?_eq_some_iff.1 h₃
          obtain ⟨l₄, rfl⟩ := field?_eq_some_iff.1 h₄
          exact ⟨hex, ticks, half, strength, r₄, ending, mhz, level, payload, reading,
            by rw [hc], l₁, l₂, l₃, l₄, h₅, h₆, hvalid, h₇, h₈, h₉, rfl, rfl⟩
        · cases h
      · cases h
    · cases h
  · rintro ⟨hex, ticks, half, strength, rest, ending, mhz, level, payload, reading, rfl, l₁, l₂,
      l₃, l₄, h₅, h₆, hvalid, h₇, h₈, h₉, rfl, rfl⟩
    have f₁ := field?_append hex (ticks ++ semicolon ::
      (half ++ semicolon :: (strength ++ semicolon :: rest)))
    have f₂ := field?_append ticks (half ++ semicolon :: (strength ++ semicolon :: rest))
    have f₃ := field?_append half (strength ++ semicolon :: rest)
    have f₄ := field?_append strength rest
    rw [l₁] at f₁
    rw [l₂] at f₂
    rw [l₃] at f₃
    rw [l₄] at f₄
    simp only [readKind?, if_true, Option.bind_eq_bind, Option.bind_some, f₁, f₂, f₃, f₄, h₅, h₆,
      hvalid, h₇, h₈, h₉]

/-- What follows the payload of a line begins with a digit. -/
theorem payloadField_of_readKind? {kind : Kind} {data : Bytes} {l : Line} {n : Nat}
    (h : readKind? kind data = some (l, n)) :
    ∃ c rest, PayloadField kind data (c :: rest) ∧ (Hex.digit? c).isSome := by
  obtain ⟨hex, ticks, half, strength, rest, ending, mhz, level, payload, reading, rfl, l₁, l₂,
    -, -, -, -, -, h₇, -, h₉, -, -⟩ := readKind?_eq_some_iff.1 h
  obtain ⟨c, ticks, rfl⟩ := List.exists_cons_of_ne_nil
    (List.length_pos_iff.1 (by omega : 0 < ticks.length))
  exact ⟨c, _, ⟨hex, rfl, l₁, Hex.digit?_of_decode? h₉⟩,
    Hex.digit?_of_toInt? h₇ c List.mem_cons_self⟩

theorem startsAtPayload_readKind? : StartsAtPayload readKind? := fun _ _ _ h =>
  let ⟨_, rest, hfield, _⟩ := payloadField_of_readKind? h
  ⟨_ :: rest, hfield⟩

theorem readKind?_append {kind : Kind} {data : Bytes} {l : Line} {n : Nat}
    (h : readKind? kind data = some (l, n)) (more : Bytes) :
    readKind? kind (data ++ more) = some (l, n) := by
  obtain ⟨hex, ticks, half, strength, rest, ending, mhz, level, payload, reading, rfl, l₁, l₂,
    l₃, l₄, h₅, h⟩ := readKind?_eq_some_iff.1 h
  refine readKind?_eq_some_iff.2 ⟨hex, ticks, half, strength, rest ++ more, ending, mhz, level,
    payload, reading, ?_, l₁, l₂, l₃, l₄, lineEnd?_append h₅ more, h⟩
  simp only [List.cons_append, List.append_assoc]

/-- A line is read in the one kind that its payload tells. -/
theorem read?_eq_some_iff {data : Bytes} {l : Line} {n : Nat} :
    read? data = some (l, n) ↔ ∃ kind, readKind? kind data = some (l, n) := by
  constructor
  · intro h
    obtain ⟨kind, -, hk⟩ := List.exists_of_findSome?_eq_some h
    exact ⟨kind, hk⟩
  · rintro ⟨kind, hk⟩
    have hother (k : Kind) (hne : k ≠ kind) : readKind? k data = none :=
      Option.not_isSome_iff_eq_none.1 fun hk' =>
        hne (startsAtPayload_readKind?.eq_of_isSome hk' (Option.isSome_of_eq_some hk))
    cases kind <;> simp [read?, Kind.all, List.findSome?, hother, hk]

theorem read?_append {data : Bytes} {l : Line} {n : Nat} (h : read? data = some (l, n))
    (more : Bytes) : read? (data ++ more) = some (l, n) := by
  obtain ⟨kind, hk⟩ := read?_eq_some_iff.1 h
  exact read?_eq_some_iff.2 ⟨kind, readKind?_append hk more⟩

theorem le_length_of_read? {data : Bytes} {l : Line} {n : Nat} (h : read? data = some (l, n)) :
    n ≤ data.length := by
  obtain ⟨kind, hk⟩ := read?_eq_some_iff.1 h
  obtain ⟨hex, ticks, half, strength, rest, ending, mhz, level, payload, reading, rfl, l₁, l₂,
    l₃, l₄, h₅, -, -, -, -, -, -, rfl⟩ := readKind?_eq_some_iff.1 hk
  have hend := le_length_of_lineEnd? h₅
  simp only [List.length_cons, List.length_append]
  omega

end Airspy

namespace Raw

/-- The one field of a line. -/
theorem readKind?_eq_some_iff {kind : Kind} {data payload : Bytes} {n : Nat} :
    readKind? kind data = some (payload, n) ↔
      ∃ hex rest ending, data = asterisk :: (hex ++ semicolon :: rest) ∧
        hex.length = 2 * kind.payloadLength ∧ lineEnd? rest = some ending ∧
        Hex.decode? kind.payloadLength hex = some payload ∧
        n = 2 * kind.payloadLength + 2 + ending := by
  constructor
  · intro h
    unfold readKind? at h
    split at h
    · split at h
      · rename_i c rest hc
        simp only [Option.bind_eq_bind, Option.bind_eq_some_iff] at h
        obtain ⟨⟨hex, r₁⟩, h₁, ending, h₂, payload', h₃, h⟩ := h
        obtain ⟨rfl, rfl⟩ := Prod.mk.inj (Option.some.inj h)
        obtain ⟨l₁, rfl⟩ := field?_eq_some_iff.1 h₁
        exact ⟨hex, r₁, ending, by rw [hc], l₁, h₂, h₃, rfl⟩
      · cases h
    · cases h
  · rintro ⟨hex, rest, ending, rfl, l₁, h₂, h₃, rfl⟩
    have f₁ := field?_append hex rest
    rw [l₁] at f₁
    simp only [readKind?, if_true, Option.bind_eq_bind, Option.bind_some, f₁, h₂, h₃]

/-- What follows the payload of a line is the end of the line. -/
theorem payloadField_of_readKind? {kind : Kind} {data payload : Bytes} {n : Nat}
    (h : readKind? kind data = some (payload, n)) :
    ∃ rest ending, PayloadField kind data rest ∧ lineEnd? rest = some ending := by
  obtain ⟨hex, rest, ending, rfl, l₁, h₂, h₃, -⟩ := readKind?_eq_some_iff.1 h
  exact ⟨rest, ending, ⟨hex, rfl, l₁, Hex.digit?_of_decode? h₃⟩, h₂⟩

theorem startsAtPayload_readKind? : StartsAtPayload readKind? := fun _ _ _ h =>
  let ⟨rest, _, hfield, _⟩ := payloadField_of_readKind? h
  ⟨rest, hfield⟩

theorem readKind?_append {kind : Kind} {data payload : Bytes} {n : Nat}
    (h : readKind? kind data = some (payload, n)) (more : Bytes) :
    readKind? kind (data ++ more) = some (payload, n) := by
  obtain ⟨hex, rest, ending, rfl, l₁, h₂, h⟩ := readKind?_eq_some_iff.1 h
  refine readKind?_eq_some_iff.2 ⟨hex, rest ++ more, ending, ?_, l₁, lineEnd?_append h₂ more, h⟩
  simp only [List.cons_append, List.append_assoc]

/-- A line is read in the one kind that its payload tells. -/
theorem read?_eq_some_iff {data payload : Bytes} {kind : Kind} {n : Nat} :
    read? data = some (kind, payload, n) ↔ readKind? kind data = some (payload, n) := by
  constructor
  · intro h
    obtain ⟨k, -, hk⟩ := List.exists_of_findSome?_eq_some h
    obtain ⟨⟨payload', n'⟩, h₁, h₂⟩ := Option.map_eq_some_iff.1 hk
    cases h₂
    exact h₁
  · intro hk
    have hother (k : Kind) (hne : k ≠ kind) : readKind? k data = none :=
      Option.not_isSome_iff_eq_none.1 fun hk' =>
        hne (startsAtPayload_readKind?.eq_of_isSome hk' (Option.isSome_of_eq_some hk))
    cases kind <;> simp [read?, Kind.all, List.findSome?, hother, hk]

theorem read?_append {data payload : Bytes} {kind : Kind} {n : Nat}
    (h : read? data = some (kind, payload, n)) (more : Bytes) :
    read? (data ++ more) = some (kind, payload, n) :=
  read?_eq_some_iff.2 (readKind?_append (read?_eq_some_iff.1 h) more)

theorem le_length_of_read? {data payload : Bytes} {kind : Kind} {n : Nat}
    (h : read? data = some (kind, payload, n)) : n ≤ data.length := by
  obtain ⟨hex, rest, ending, rfl, l₁, h₂, -, rfl⟩ :=
    readKind?_eq_some_iff.1 (read?_eq_some_iff.1 h)
  have hend := le_length_of_lineEnd? h₂
  simp only [List.length_cons, List.length_append]
  omega

end Raw

/-! ## Frames -/

namespace Beast

theorem undouble?_append {n used : Nat} {data body : Bytes}
    (h : undouble? n data = some (body, used))
    (more : Bytes) : undouble? n (data ++ more) = some (body, used) := by
  fun_induction undouble? n data generalizing body used with
  | case1 => exact h
  | case2 n data ih =>
    obtain ⟨⟨body', used'⟩, h₁, h₂⟩ := Option.map_eq_some_iff.1 h
    obtain ⟨rfl, rfl⟩ := Prod.mk.inj h₂
    simp only [List.cons_append, undouble?, if_true, ih h₁, Option.map_some]
  | case3 => cases h
  | case4 => cases h
  | case5 n b data hb ih =>
    obtain ⟨⟨body', used'⟩, h₁, h₂⟩ := Option.map_eq_some_iff.1 h
    obtain ⟨rfl, rfl⟩ := Prod.mk.inj h₂
    simp only [List.cons_append, undouble?, if_neg hb, ih h₁, Option.map_some]
  | case6 => cases h

theorem le_length_of_undouble? {n used : Nat} {data body : Bytes}
    (h : undouble? n data = some (body, used)) : used ≤ data.length := by
  fun_induction undouble? n data generalizing body used with
  | case1 =>
    obtain ⟨-, rfl⟩ := Prod.mk.inj (Option.some.inj h)
    exact Nat.zero_le _
  | case2 n data ih =>
    obtain ⟨⟨body', used'⟩, h₁, h₂⟩ := Option.map_eq_some_iff.1 h
    obtain ⟨-, rfl⟩ := Prod.mk.inj h₂
    have hle := ih h₁
    simp only [List.length_cons]
    omega
  | case3 => cases h
  | case4 => cases h
  | case5 n b data hb ih =>
    obtain ⟨⟨body', used'⟩, h₁, h₂⟩ := Option.map_eq_some_iff.1 h
    obtain ⟨-, rfl⟩ := Prod.mk.inj h₂
    have hle := ih h₁
    simp only [List.length_cons]
    omega
  | case6 => cases h

/-- The parts of a frame, in their order. -/
theorem read?_eq_some_iff {data : Bytes} {f : Frame} {n : Nat} :
    read? data = some (f, n) ↔
      ∃ type rest kind body used, data = escape :: type :: rest ∧ kindOf? type = some kind ∧
        undouble? (7 + kind.payloadLength) rest = some (body, used) ∧
        f = ⟨kind, UInt64.ofNat (Bytes.ofBigEndian (body.take 6)), body.getD 6 0, body.drop 7⟩ ∧
        n = used + 2 := by
  constructor
  · intro h
    unfold read? at h
    split at h
    · split at h
      · rename_i start type rest hstart
        simp only [Option.bind_eq_bind, Option.bind_eq_some_iff] at h
        obtain ⟨kind, hk, ⟨body, used⟩, hb, h⟩ := h
        obtain ⟨rfl, rfl⟩ := Prod.mk.inj (Option.some.inj h)
        exact ⟨type, rest, kind, body, used, by rw [hstart], hk, hb, rfl, rfl⟩
      · cases h
    · cases h
  · rintro ⟨type, rest, kind, body, used, rfl, hk, hb, rfl, rfl⟩
    simp only [read?, if_true, Option.bind_eq_bind, Option.bind_some, hk, hb]

theorem read?_append {data : Bytes} {f : Frame} {n : Nat} (h : read? data = some (f, n))
    (more : Bytes) : read? (data ++ more) = some (f, n) := by
  obtain ⟨type, rest, kind, body, used, rfl, hk, hb, h⟩ := read?_eq_some_iff.1 h
  exact read?_eq_some_iff.2 ⟨type, rest ++ more, kind, body, used, rfl, hk,
    undouble?_append hb more, h⟩

theorem le_length_of_read? {data : Bytes} {f : Frame} {n : Nat} (h : read? data = some (f, n)) :
    n ≤ data.length := by
  obtain ⟨type, rest, kind, body, used, rfl, -, hb, -, rfl⟩ := read?_eq_some_iff.1 h
  have hle := le_length_of_undouble? hb
  simp only [List.length_cons]
  omega

end Beast

/-! ## Messages after their length -/

namespace Proto

/-- A body after its length; bytes after the body do not matter. -/
theorem read?_eq_some_iff {data : Bytes} {m : Message Bytes} {n : Nat} :
    read? data = some (m, n) ↔
      ∃ front body rest, data = front ++ (body ++ rest) ∧ front.length = lengthBytes ∧
        body.length = Bytes.ofBigEndian front ∧ 0 < body.length ∧ body.length ≤ maxBody ∧
        readBody? body = some m ∧ n = lengthBytes + body.length := by
  constructor
  · intro h
    simp only [read?, Option.bind_eq_bind, Option.bind_eq_some_iff] at h
    obtain ⟨⟨front, r₁⟩, h₁, h⟩ := h
    split at h
    · rename_i hn
      simp only [Option.bind_eq_some_iff] at h
      obtain ⟨⟨body, r₂⟩, h₂, m', hm, h⟩ := h
      obtain ⟨rfl, rfl⟩ := Prod.mk.inj (Option.some.inj h)
      obtain ⟨l₁, rfl⟩ := Bytes.split?_eq_some_iff.1 h₁
      obtain ⟨l₂, rfl⟩ := Bytes.split?_eq_some_iff.1 h₂
      exact ⟨front, body, r₂, rfl, l₁, l₂, l₂ ▸ hn.1, l₂ ▸ hn.2, hm, by rw [l₂]⟩
    · cases h
  · rintro ⟨front, body, rest, rfl, l₁, l₂, hpos, hmax, hm, rfl⟩
    have hfront : Bytes.split? lengthBytes (front ++ (body ++ rest)) = some (front, body ++ rest) :=
      Bytes.split?_eq_some_iff.2 ⟨l₁, rfl⟩
    have hbody : Bytes.split? (Bytes.ofBigEndian front) (body ++ rest) = some (body, rest) :=
      Bytes.split?_eq_some_iff.2 ⟨l₂, rfl⟩
    have hn : 0 < Bytes.ofBigEndian front ∧ Bytes.ofBigEndian front ≤ maxBody := by
      rw [← l₂]
      exact ⟨hpos, hmax⟩
    simp only [read?, hfront, Option.bind_eq_bind, Option.bind_some, if_pos hn, hbody, hm, l₂]

theorem read?_append {data : Bytes} {m : Message Bytes} {n : Nat} (h : read? data = some (m, n))
    (more : Bytes) : read? (data ++ more) = some (m, n) := by
  obtain ⟨front, body, rest, rfl, hbody⟩ := read?_eq_some_iff.1 h
  refine read?_eq_some_iff.2 ⟨front, body, rest ++ more, ?_, hbody⟩
  simp only [List.append_assoc]

theorem le_length_of_read? {data : Bytes} {m : Message Bytes} {n : Nat}
    (h : read? data = some (m, n)) : n ≤ data.length := by
  obtain ⟨front, body, rest, rfl, l₁, -, -, -, -, rfl⟩ := read?_eq_some_iff.1 h
  simp only [List.length_append]
  omega

end Proto

/-! ## Messages on lines -/

namespace Json

open Squitter.Json

theorem le_length_of_read? {data : Bytes} {m : Message String} {n : Nat}
    (h : read? data = some (m, n)) : n ≤ data.length := by
  simp only [read?, Option.bind_eq_bind, Option.bind_eq_some_iff] at h
  obtain ⟨⟨d, rest⟩, -, m', -, h⟩ := h
  obtain ⟨-, rfl⟩ := Prod.mk.inj (Option.some.inj h)
  exact Nat.sub_le _ _

/-- A message takes up the line ends after it, so it may take up more once there are more. -/
theorem read?_append {data : Bytes} {m : Message String} {n : Nat} (h : read? data = some (m, n))
    (more : Bytes) :
    ∃ ends, ends <+: more ∧ (∀ c ∈ ends, isLineEnd c) ∧ (ends ≠ [] → n = data.length) ∧
      read? (data ++ more) = some (m, n + ends.length) := by
  simp only [read?, Option.bind_eq_bind, Option.bind_eq_some_iff] at h
  obtain ⟨⟨d, rest⟩, hd, m', hm, h⟩ := h
  obtain ⟨rfl, rfl⟩ := Prod.mk.inj (Option.some.inj h)
  have hread (used : Nat)
      (hused : (data ++ more).length - ((rest ++ more).dropWhile isLineEnd).length = used) :
      read? (data ++ more) = some (m', used) := by
    simp only [read?, selfDelimiting_readDocument? hd more, hm, Option.bind_eq_bind,
      Option.bind_some, hused]
  by_cases hrest : rest.dropWhile isLineEnd = []
  · refine ⟨more.takeWhile isLineEnd, List.takeWhile_prefix _, fun c hc => ?_, fun _ => ?_, ?_⟩
    · exact List.all_eq_true.1 List.all_takeWhile c hc
    · rw [hrest]; rfl
    · apply hread
      have hsum : (more.takeWhile isLineEnd).length + (more.dropWhile isLineEnd).length =
          more.length := by
        rw [← List.length_append, List.takeWhile_append_dropWhile]
      simp only [List.dropWhile_append, hrest, List.isEmpty_nil, if_true, List.length_append,
        List.length_nil]
      omega
  · refine ⟨[], List.nil_prefix, fun c hc => (List.not_mem_nil hc).elim,
      fun hne => absurd rfl hne, ?_⟩
    apply hread
    have hempty : (rest.dropWhile isLineEnd).isEmpty = false := by
      simpa using hrest
    simp only [List.dropWhile_append, hempty, Bool.false_eq_true, if_false, List.length_append,
      List.length_nil]
    omega

end Json
end Wire

/-! ## All formats -/

namespace Format

/-- A message that is read is made of bytes that are there. -/
theorem used_le {f : Format} {own : Uuid} {data : Bytes} {p : Packet} {l : Link} {r : Reading}
    (h : f.read own data p l = .ok (some r)) : r.used ≤ data.length := by
  cases f with
  | airspy =>
    cases hr : Wire.Airspy.read? data with
    | none => simp [read, hr] at h
    | some found =>
      simp only [read, hr, Option.bind_eq_bind, Option.bind_some] at h
      cases h
      exact Wire.Airspy.le_length_of_read? hr
  | beast =>
    cases hr : Wire.Beast.read? data with
    | none => simp [read, hr] at h
    | some found =>
      simp only [read, hr, Option.bind_eq_bind, Option.bind_some] at h
      cases h
      exact Wire.Beast.le_length_of_read? hr
  | json =>
    cases hr : Wire.Json.read? data with
    | none => simp [read, hr] at h
    | some found =>
      simp only [read, hr] at h
      cases hd : Wire.Json.decoded found.1 with
      | error e => rw [hd] at h; cases h
      | ok m =>
        rw [hd] at h
        rw [used_eq_of_accepted h]
        exact Wire.Json.le_length_of_read? hr
  | proto =>
    cases hr : Wire.Proto.read? data with
    | none => simp [read, hr] at h
    | some found =>
      simp only [read, hr] at h
      rw [used_eq_of_accepted h]
      exact Wire.Proto.le_length_of_read? hr
  | raw =>
    cases hr : Wire.Raw.read? data with
    | none => simp [read, hr] at h
    | some found =>
      simp only [read, hr, Option.bind_eq_bind, Option.bind_some] at h
      cases h
      exact Wire.Raw.le_length_of_read? hr
  | stats => cases h

/-- In all formats but json, more bytes change nothing about what was read. -/
theorem read_append_of_ne_json {f : Format} (hf : f ≠ json) {own : Uuid} {data : Bytes} {p : Packet}
    {l : Link} (h : f.read own data p l ≠ .ok none) (more : Bytes) :
    f.read own (data ++ more) p l = f.read own data p l := by
  cases f with
  | airspy =>
    cases hr : Wire.Airspy.read? data with
    | none => simp [read, hr] at h
    | some found => simp only [read, hr, Wire.Airspy.read?_append hr more]
  | beast =>
    cases hr : Wire.Beast.read? data with
    | none => simp [read, hr] at h
    | some found => simp only [read, hr, Wire.Beast.read?_append hr more]
  | json => exact absurd rfl hf
  | proto =>
    cases hr : Wire.Proto.read? data with
    | none => simp [read, hr] at h
    | some found => simp only [read, hr, Wire.Proto.read?_append hr more]
  | raw =>
    cases hr : Wire.Raw.read? data with
    | none => simp [read, hr] at h
    | some found => simp only [read, hr, Wire.Raw.read?_append hr more]
  | stats => rfl

/-- More bytes behind a json message change nothing but how many line ends belong to it. -/
theorem read_json_append {own : Uuid} {data : Bytes} {p : Packet} {l : Link}
    (h : json.read own data p l ≠ .ok none) (more : Bytes) :
    ∃ ends, ends <+: more ∧ (∀ c ∈ ends, Wire.Json.isLineEnd c) ∧
      (∀ r, json.read own data p l = .ok (some r) → ends ≠ [] → r.used = data.length) ∧
      json.read own (data ++ more) p l = (json.read own data p l).map
        (Option.map fun r => { r with used := r.used + ends.length }) := by
  cases hr : Wire.Json.read? data with
  | none => simp [read, hr] at h
  | some found =>
    obtain ⟨m, used⟩ := found
    obtain ⟨ends, hpre, hends, hall, hmore⟩ := Wire.Json.read?_append hr more
    refine ⟨ends, hpre, hends, ?_, ?_⟩
    · intro r hread hne
      simp only [read, hr] at hread
      cases hd : Wire.Json.decoded m with
      | error e => rw [hd] at hread; cases hread
      | ok m' =>
        rw [hd] at hread
        rw [used_eq_of_accepted hread]
        exact hall hne
    · simp only [read, hr, hmore]
      cases hd : Wire.Json.decoded m with
      | error e => rfl
      | ok m' =>
        show accepted own m' p l (used + ends.length) = (accepted own m' p l used).map _
        unfold accepted
        cases l.accept own m' p <;> rfl

/-- **A message that was read stays the same when more bytes come.** Only line ends may add to the
bytes it takes up, and only in json, if it took up all there were. -/
theorem read_append {f : Format} {own : Uuid} {data : Bytes} {p : Packet} {l : Link} {r : Reading}
    (h : f.read own data p l = .ok (some r)) (more : Bytes) :
    ∃ ends, ends <+: more ∧ (∀ c ∈ ends, Wire.Json.isLineEnd c) ∧
      (ends ≠ [] → f = json ∧ r.used = data.length) ∧
      f.read own (data ++ more) p l = .ok (some { r with used := r.used + ends.length }) := by
  have hne : f.read own data p l ≠ .ok none := by
    rw [h]
    intro heq
    cases heq
  by_cases hf : f = json
  · subst hf
    obtain ⟨ends, hpre, hends, hall, hmore⟩ := read_json_append hne more
    rw [h] at hmore
    exact ⟨ends, hpre, hends, fun hn => ⟨rfl, hall r h hn⟩, hmore⟩
  · refine ⟨[], List.nil_prefix, fun c hc => (List.not_mem_nil hc).elim,
      fun hn => absurd rfl hn, ?_⟩
    rw [read_append_of_ne_json hf hne, h]
    rfl

/-- A breach of protocol stays one when more bytes come. -/
theorem read_append_of_error {f : Format} {own : Uuid} {data : Bytes} {p : Packet} {l : Link}
    {e : Error} (h : f.read own data p l = .error e) (more : Bytes) :
    f.read own (data ++ more) p l = .error e := by
  have hne : f.read own data p l ≠ .ok none := by
    rw [h]
    intro heq
    cases heq
  by_cases hf : f = json
  · subst hf
    obtain ⟨ends, -, -, -, hmore⟩ := read_json_append hne more
    rw [hmore, h]
    rfl
  · rw [read_append_of_ne_json hf hne, h]

end Format

end Squitter
