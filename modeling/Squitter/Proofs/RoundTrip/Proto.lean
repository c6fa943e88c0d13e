import Squitter.Proofs.RoundTrip.Texts
import Squitter.Proofs.Stability.Wire
import Squitter.Wire.Proto

/-!
# Proto messages read back

Every reader of a field takes off what its writer wrote and leaves the rest. So a body reads back
field by field (`Wire.Proto.readBody?_writeBody`), and a message after its length
(`Wire.Proto.read?_write_append`). Levels have four bytes, so a level must fit into them.
-/

namespace Squitter.Wire.Proto

/-! ## Fields -/

variable {rest : Bytes}

theorem run_take (front rest : Bytes) :
    (take front.length).run (front ++ rest) = some (front, rest) :=
  Bytes.split?_append front rest

theorem run_number (n v : Nat) (rest : Bytes) :
    (number n).run (Bytes.littleEndian n v ++ rest) = some (v % 256 ^ n, rest) := by
  have htake := run_take (Bytes.littleEndian n v) rest
  rw [Bytes.length_littleEndian] at htake
  simp [number, htake, Bytes.ofLittleEndian_littleEndian]

theorem run_number_of_lt {n v : Nat} (h : v < 256 ^ n) (rest : Bytes) :
    (number n).run (Bytes.littleEndian n v ++ rest) = some (v, rest) := by
  rw [run_number, Nat.mod_eq_of_lt h]

theorem run_block {bytes : Bytes} (h : bytes.length < 2 ^ 64) (rest : Bytes) :
    block.run (writeBlock bytes ++ rest) = some (bytes, rest) := by
  have hlength := run_number_of_lt (n := 8) h
  simp [block, writeBlock, List.append_assoc, hlength, run_take]

theorem run_text {value : String} (h : (utf8 value).length < 2 ^ 64) (rest : Bytes) :
    text.run (writeBlock (utf8 value) ++ rest) = some (value, rest) := by
  simp [text, run_block h, Utf8.decode?_utf8]

theorem run_uuid (id : Uuid) (rest : Bytes) :
    uuid.run (id.toBytes ++ rest) = some (id, rest) := by
  have htake := run_take id.toBytes rest
  rw [Uuid.length_toBytes] at htake
  simp [uuid, htake]

/-! ## Bodies -/

theorem run_announcement {a : Announcement} (hmagic : (utf8 a.magic).length < 2 ^ 64)
    (hversion : (utf8 a.version).length < 2 ^ 64) (rest : Bytes) :
    announcement.run (writeBlock (utf8 a.magic) ++ (writeBlock (utf8 a.version) ++
      (a.server.toBytes ++
      (Bytes.littleEndian 4 a.mhz.toNat ++ (Bytes.littleEndian 8 a.width.toNat ++
        (Bytes.littleEndian 4 a.ceiling.toNat ++ rest)))))) = some (a, rest) := by
  simp [announcement, run_text hmagic, run_text hversion, run_uuid, run_number]

theorem run_report {r : Report Bytes} (hpayload : r.payload.length < 2 ^ 64)
    (hrssi : r.rssi.toNat < 2 ^ 32) (rest : Bytes) :
    (report r.kind).run (r.source.toBytes ++ (writeBlock r.payload ++
      (Bytes.littleEndian 8 r.mlat.toNat ++ (Bytes.littleEndian 4 r.rssi.toNat ++
        (Bytes.littleEndian 2 r.hops.toNat ++ rest))))) = some (r, rest) := by
  have hlevel := run_number_of_lt (n := 4) hrssi
  simp [report, run_block hpayload, run_uuid, hlevel, run_number]

/-- The level of a report fits into its four bytes. -/
def LevelFits (m : Message Bytes) : Prop :=
  ∀ r, m = .packet r → r.rssi.toNat < 2 ^ 32

/-- A body that is not too long reads back. -/
theorem readBody?_writeBody {m : Message Bytes} (hlevel : LevelFits m)
    (hlen : (writeBody m).length ≤ maxBody) : readBody? (writeBody m) = some m := by
  cases m with
  | header a =>
    simp only [writeBody, writeBlock, List.length_append, Bytes.length_littleEndian,
      maxBody] at hlen
    have hread := run_announcement (a := a) (by omega) (by omega) []
    rw [List.append_nil] at hread
    simp [readBody?, message, writeBody, List.append_assoc, run_number, hread]
  | packet r =>
    simp only [writeBody, writeBlock, List.length_append, Bytes.length_littleEndian,
      maxBody] at hlen
    have hread := run_report (r := r) (by omega) (hlevel r rfl) []
    rw [List.append_nil] at hread
    cases hkind : r.kind <;> rw [hkind] at hread <;>
      simp [readBody?, message, writeBody, tag, hkind, List.append_assoc, run_number, hread]

/-! ## Messages -/

theorem length_writeBody_pos (m : Message Bytes) : 0 < (writeBody m).length := by
  cases m with
  | header a =>
    simp only [writeBody, List.length_append, Bytes.length_littleEndian]
    omega
  | packet r =>
    simp only [writeBody, List.length_append, Bytes.length_littleEndian]
    omega

/-- **A message reads back** if it was written. -/
theorem read?_write_append {m : Message Bytes} {bytes : Bytes} (hlevel : LevelFits m)
    (h : write m = .ok bytes) (rest : Bytes) : read? (bytes ++ rest) = some (m, bytes.length) := by
  by_cases hlen : (writeBody m).length ≤ maxBody
  · rw [write, if_pos hlen] at h
    cases h
    refine read?_eq_some_iff.2 ⟨_, writeBody m, rest, List.append_assoc _ _ _, ?_, ?_,
      length_writeBody_pos m, hlen, readBody?_writeBody hlevel hlen, ?_⟩
    · exact Bytes.length_bigEndian _ _
    · rw [Bytes.ofBigEndian_bigEndian]
      refine (Nat.mod_eq_of_lt ?_).symm
      exact Nat.lt_of_le_of_lt hlen (by decide)
    · rw [List.length_append, Bytes.length_bigEndian]
  · rw [write, if_neg hlen] at h
    cases h

theorem length_writeBody_packet (r : Report Bytes) :
    (writeBody (.packet r)).length = 42 + r.payload.length := by
  simp only [writeBody, writeBlock, List.length_append, Bytes.length_littleEndian,
    Uuid.length_toBytes]
  omega

/-- Every report is short enough if its payload is. -/
theorem write_packet_eq_ok {r : Report Bytes} (h : r.payload.length ≤ 14) :
    write (.packet r) =
      .ok (Bytes.bigEndian lengthBytes (writeBody (.packet r)).length ++
        writeBody (.packet r)) := by
  have hlen : (writeBody (.packet r)).length ≤ maxBody := by
    rw [length_writeBody_packet, maxBody]
    omega
  rw [write, if_pos hlen]

end Squitter.Wire.Proto
