import Squitter.Proofs.Stability.Wire

/-!
# The first bytes of messages

No two readers take the same bytes for their own.

**First bytes** (`Format.leads`). A beast frame begins with the escape byte, a proto message with a
zero because it is short, a json message with a bracket or a blank, and a line with an asterisk.

**Lines.** Only airspy and raw share their first byte. In both the payload ends at the first
semicolon; behind it stands a digit in the one and the end of the line in the other.
-/

namespace Squitter

namespace Format

/-! ## First bytes -/

/-- The bytes that may stand at the front of what the reader of a format takes for its own. -/
def leads : Format → List UInt8
  | airspy | raw => [Wire.asterisk]
  | beast => [Wire.Beast.escape]
  | json => [0x20, 0x0A, 0x0D, 0x09, 0x5B, 0x7B]
  | proto => [0]
  | stats => []

theorem leads_json_of_readDocument? {data rest : Bytes} {d : Json.Document}
    (h : Json.readDocument? data = some (d, rest)) : ∃ c t, data = c :: t ∧ c ∈ json.leads := by
  cases data with
  | nil => cases h
  | cons c t =>
    refine ⟨c, t, rfl, ?_⟩
    by_cases hc : Json.isBlank c
    · simp only [Json.isBlank, Bool.or_eq_true, decide_eq_true_eq] at hc
      rcases hc with ((rfl | rfl) | rfl) | rfl <;> decide
    · have hskip : Json.skipBlanks (c :: t) = c :: t := by
        simp [Json.skipBlanks, hc]
      unfold Json.readDocument? at h
      rw [hskip] at h
      split at h
      · rename_i heq
        rw [(List.cons.inj heq).1]
        decide
      · rename_i heq
        rw [(List.cons.inj heq).1]
        decide
      · cases h

/-- The length of a message is below 2¹⁰, so its first byte is zero. -/
theorem leads_proto_of_read? {data : Bytes} {m : Message Bytes} {n : Nat}
    (h : Wire.Proto.read? data = some (m, n)) : ∃ c t, data = c :: t ∧ c ∈ proto.leads := by
  obtain ⟨front, body, rest, rfl, hfront, hbody, -, hmax, -⟩ := Wire.Proto.read?_eq_some_iff.1 h
  match front, hfront with
  | [a, b, c, d], _ =>
    refine ⟨a, _, rfl, ?_⟩
    have hlen : d.toNat + 256 * (c.toNat + 256 * (b.toNat + 256 * a.toNat)) ≤ 1020 := by
      rw [hbody] at hmax
      simpa [Bytes.ofBigEndian, Bytes.ofLittleEndian, Wire.Proto.maxBody] using hmax
    have hzero : a = 0 := UInt8.toNat_inj.1 (by rw [UInt8.toNat_zero]; omega)
    rw [hzero]
    exact List.mem_singleton_self 0

/-- Whatever a reader takes for its own begins with one of its first bytes. -/
theorem leads_of_read_ne_none {f : Format} {own : Uuid} {data : Bytes} {p : Packet} {l : Link}
    (h : f.read own data p l ≠ .ok none) : ∃ c t, data = c :: t ∧ c ∈ f.leads := by
  cases f with
  | airspy =>
    cases hr : Wire.Airspy.read? data with
    | none => simp [read, hr] at h
    | some found =>
      obtain ⟨kind, hk⟩ := Wire.Airspy.read?_eq_some_iff.1 hr
      obtain ⟨_, _, ⟨hex, rfl, -⟩, -⟩ := Wire.Airspy.payloadField_of_readKind? hk
      exact ⟨_, _, rfl, List.mem_singleton_self _⟩
  | beast =>
    cases hr : Wire.Beast.read? data with
    | none => simp [read, hr] at h
    | some found =>
      obtain ⟨type, rest, _, _, _, rfl, -⟩ := Wire.Beast.read?_eq_some_iff.1 hr
      exact ⟨_, _, rfl, List.mem_singleton_self _⟩
  | json =>
    cases hr : Wire.Json.read? data with
    | none => simp [read, hr] at h
    | some found =>
      simp only [Wire.Json.read?, Option.bind_eq_bind, Option.bind_eq_some_iff] at hr
      obtain ⟨⟨d, rest⟩, hd, -⟩ := hr
      exact leads_json_of_readDocument? hd
  | proto =>
    cases hr : Wire.Proto.read? data with
    | none => simp [read, hr] at h
    | some found => exact leads_proto_of_read? hr
  | raw =>
    cases hr : Wire.Raw.read? data with
    | none => simp [read, hr] at h
    | some found =>
      obtain ⟨_, _, ⟨hex, rfl, -⟩, -⟩ :=
        Wire.Raw.payloadField_of_readKind? (Wire.Raw.read?_eq_some_iff.1 hr)
      exact ⟨_, _, rfl, List.mem_singleton_self _⟩
  | stats => exact absurd rfl h

/-- Two formats that share a first byte are the same, or the two formats of lines. -/
theorem eq_of_mem_leads : ∀ f ∈ all, ∀ g ∈ all, ∀ c ∈ f.leads, c ∈ g.leads →
    f = g ∨ (f = airspy ∧ g = raw) ∨ (f = raw ∧ g = airspy) := by
  decide +kernel

/-! ## Lines -/

/-- No line is both an airspy line and a raw line. -/
theorem read_raw_of_airspy {own : Uuid} {data : Bytes} {p : Packet} {l : Link}
    (ha : airspy.read own data p l ≠ .ok none) : raw.read own data p l = .ok none := by
  cases hr : Wire.Raw.read? data with
  | none => simp [read, hr]
  | some found =>
    cases hs : Wire.Airspy.read? data with
    | none => simp [read, hs] at ha
    | some found' =>
      obtain ⟨_, hk⟩ := Wire.Airspy.read?_eq_some_iff.1 hs
      obtain ⟨c, _, hfield, hdigit⟩ := Wire.Airspy.payloadField_of_readKind? hk
      obtain ⟨_, _, hfield', hend⟩ :=
        Wire.Raw.payloadField_of_readKind? (Wire.Raw.read?_eq_some_iff.1 hr)
      obtain ⟨-, rfl⟩ := hfield.unique hfield'
      unfold Wire.lineEnd? at hend
      split at hend
      · rename_i heq
        rw [(List.cons.inj heq).1] at hdigit
        exact absurd hdigit (by decide)
      · rename_i heq
        rw [(List.cons.inj heq).1] at hdigit
        exact absurd hdigit (by decide)
      · cases hend

/-- **At most one reader takes the bytes for its own.** -/
theorem eq_of_read_ne_none {f g : Format} {own : Uuid} {data : Bytes} {p : Packet} {l : Link}
    (hf : f.read own data p l ≠ .ok none) (hg : g.read own data p l ≠ .ok none) : f = g := by
  obtain ⟨c, t, rfl, hc⟩ := leads_of_read_ne_none hf
  obtain ⟨c', t', heq, hc'⟩ := leads_of_read_ne_none hg
  obtain ⟨rfl, -⟩ := List.cons.inj heq
  rcases eq_of_mem_leads f f.mem_all g g.mem_all c hc hc' with rfl | ⟨rfl, rfl⟩ | ⟨rfl, rfl⟩
  · rfl
  · exact absurd (read_raw_of_airspy hf) hg
  · exact absurd (read_raw_of_airspy hg) hf

end Format
end Squitter
