import Squitter.Proofs.RoundTrip.Numerals
import Squitter.Proofs.Stability.Wire

/-!
# Lines and frames read back

What is written for a packet in one of the three formats of receivers is read with the packet's kind
and payload, and with its timestamp and level on the scales of the format:
`Wire.Airspy.read?_write_append`, `Wire.Beast.read?_write_append`, `Wire.Raw.read?_write_append`.
The values always fit into their fields.
-/

namespace Squitter

/-! ## Scales -/

theorem Mlat.toNat_narrow_lt {width : UInt64} (h : width ≠ 0) (timestamp : UInt64) (mhz : UInt32) :
    (narrow timestamp width mhz).toNat < width.toNat := by
  have hpos : 0 < width.toNat :=
    Nat.pos_of_ne_zero fun hzero => h (UInt64.toNat_inj.1 hzero)
  rw [narrow, if_neg h, UInt64.toNat_mod]
  exact Nat.mod_lt _ hpos

namespace Wire

theorem decode?_encode_content (p : Packet) :
    Hex.decode? p.kind.payloadLength (Hex.encode p.content) = some p.content := by
  rw [← p.length_content]
  exact Hex.decode?_encode p.content

/-! ## Lines -/

namespace Airspy

theorem toNat_narrow_lt (level : UInt32) : (Rssi.narrow level ceiling).toNat < 16 ^ 4 := by
  have hfactor : (Rssi.factor ceiling).toNat = 65537 := by decide
  have hlt := level.toNat_lt
  rw [Rssi.narrow, UInt32.toNat_div, hfactor]
  omega

/-- **A line reads back** with all its fields. -/
theorem read?_write_append (p : Packet) (rest : Bytes) :
    read? (write p ++ rest) =
      some (⟨p.kind, p.content, Mlat.narrow p.mlat width sendMHz, sendMHz,
        Rssi.narrow p.rssi ceiling⟩, (write p).length) := by
  have hreading : (Mlat.narrow p.mlat width sendMHz).toNat < 16 ^ 8 :=
    Nat.lt_trans (Mlat.toNat_narrow_lt (by decide) _ _) (by decide)
  have hlevel : (Rssi.narrow p.rssi ceiling).toUInt64.toNat < 16 ^ 4 := by
    rw [UInt32.toNat_toUInt64]
    exact toNat_narrow_lt p.rssi
  refine read?_eq_some_iff.2 ⟨p.kind, readKind?_eq_some_iff.2 ⟨Hex.encode p.content,
    Hex.ofInt (Mlat.narrow p.mlat width sendMHz) 8, Hex.ofInt (sendMHz / 2).toUInt64 2,
    Hex.ofInt (Rssi.narrow p.rssi ceiling).toUInt64 4, 0x0D :: 0x0A :: rest, 2,
    (sendMHz / 2).toUInt64, (Rssi.narrow p.rssi ceiling).toUInt64, p.content,
    Mlat.narrow p.mlat width sendMHz, ?_, ?_, ?_, ?_, ?_, rfl, ?_, ?_, ?_, ?_, ?_, ?_, ?_⟩⟩
  · simp only [write, List.append_assoc, List.cons_append, List.nil_append]
  · rw [Hex.length_encode, p.length_content]
  · exact Hex.length_ofInt _ _
  · exact Hex.length_ofInt _ _
  · exact Hex.length_ofInt _ _
  · decide
  · decide
  · exact Hex.toInt?_ofInt_of_lt (by decide) (by decide) hreading
  · exact Hex.toInt?_ofInt_of_lt (by decide) (by decide) hlevel
  · exact decode?_encode_content p
  · rw [UInt32.toUInt32_toUInt64, UInt32.toUInt32_toUInt64]
    rfl
  · simp [write]

end Airspy

namespace Raw

/-- **A line reads back** with its payload. -/
theorem read?_write_append (p : Packet) (rest : Bytes) :
    read? (write p ++ rest) = some (p.kind, p.content, (write p).length) := by
  refine read?_eq_some_iff.2 (readKind?_eq_some_iff.2
    ⟨Hex.encode p.content, 0x0A :: rest, 1, ?_, ?_, rfl, ?_, ?_⟩)
  · simp only [write, List.cons_append, List.append_assoc, List.nil_append]
  · rw [Hex.length_encode, p.length_content]
  · exact decode?_encode_content p
  · simp [write]

end Raw

/-! ## Frames -/

namespace Beast

/-- A body reads back from its doubled form. -/
theorem undouble?_double_append (body rest : Bytes) :
    undouble? body.length (double body ++ rest) = some (body, (double body).length) := by
  induction body with
  | nil => rfl
  | cons b body ih =>
    by_cases hb : b = escape
    · have hdouble : double (b :: body) = escape :: escape :: double body := by
        simp [double, hb]
      rw [hdouble]
      simp only [List.length_cons, List.cons_append, undouble?, if_true, ih, Option.map_some, hb]
    · have hdouble : double (b :: body) = b :: double body := by
        simp [double, hb]
      rw [hdouble]
      simp only [List.length_cons, List.cons_append, undouble?, if_neg hb, ih, Option.map_some]

theorem length_double_le (body : Bytes) : (double body).length ≤ 2 * body.length := by
  induction body with
  | nil => exact Nat.le_refl 0
  | cons b body ih =>
    have hcons : double (b :: body) = (if b = escape then [escape, escape] else [b]) ++
        double body :=
      rfl
    rw [hcons, List.length_append, List.length_cons]
    split
    · rw [List.length_cons, List.length_singleton]
      omega
    · rw [List.length_singleton]
      omega

theorem kindOf?_typeByte (kind : Kind) : kindOf? (typeByte kind) = some kind := by
  cases kind <;> decide

/-- **A frame reads back** with its contents. -/
theorem read?_write_append (p : Packet) (rest : Bytes) :
    read? (write p ++ rest) =
      some (⟨p.kind, Mlat.narrow p.mlat width mhz, levelByte p.rssi, p.content⟩,
        (write p).length) := by
  have hreading : (Mlat.narrow p.mlat width mhz).toNat < 256 ^ 6 :=
    Nat.lt_trans (Mlat.toNat_narrow_lt (by decide) _ _) (by decide)
  let front := Bytes.bigEndian 6 (Mlat.narrow p.mlat width mhz).toNat
  have hfront : front.length = 6 := Bytes.length_bigEndian _ _
  have hlen : 7 + p.kind.payloadLength = (front ++ levelByte p.rssi :: p.content).length := by
    simp only [List.length_append, List.length_cons, hfront, p.length_content]
    omega
  refine read?_eq_some_iff.2
    ⟨typeByte p.kind, double (front ++ levelByte p.rssi :: p.content) ++ rest,
    p.kind, front ++ levelByte p.rssi :: p.content, _, rfl, kindOf?_typeByte p.kind, ?_, ?_, rfl⟩
  · rw [hlen]
    exact undouble?_double_append _ _
  · have htake : (front ++ levelByte p.rssi :: p.content).take 6 = front := by
      rw [← hfront]
      exact List.take_left
    have hvalue : UInt64.ofNat (Bytes.ofBigEndian front) = Mlat.narrow p.mlat width mhz := by
      rw [Bytes.ofBigEndian_bigEndian, Nat.mod_eq_of_lt hreading, UInt64.ofNat_toNat]
    rw [htake, hvalue]
    simp [List.drop_append, List.getD_eq_getElem?_getD, hfront]

end Beast
end Wire
end Squitter
