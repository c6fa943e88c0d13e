import Squitter.Proofs.RoundTrip.Document

/-!
# Json messages read back

A message that is written as a line is read as what it was (`Wire.Json.read?_write_append`): the
reader finds all its fields in the object, and takes up the line ends that follow. A report is found
with its payload still in hexadecimal (`Wire.Json.spelled`), which is read in a second step
(`Wire.Json.decoded_spelled`).
-/

namespace Squitter.Wire.Json

open Squitter.Json

/-! ## The members of a message -/

/-- The members of an announcement, before they are written. -/
def announcementItems (a : Announcement) : List (String × Item) :=
  [("type", .text "header"), ("magic", .text a.magic), ("server_version", .text a.version),
    ("server_id", .text a.server.text), ("mlat_timestamp_mhz", .natural a.mhz.toUInt64),
    ("mlat_timestamp_max", .natural a.width), ("rssi_max", .natural a.ceiling.toUInt64)]

/-- A number, unless it is zero. -/
def itemUnlessZero (key : String) (n : UInt64) : List (String × Item) :=
  if n = 0 then [] else [(key, .natural n)]

/-- The members of a report, before they are written. -/
def reportItems (r : Report Bytes) : List (String × Item) :=
  [("type", .text r.kind.name), ("source_id", .text r.source.text),
    ("payload", .text (latin (Hex.encode r.payload)))] ++
    itemUnlessZero "mlat_timestamp" r.mlat ++ itemUnlessZero "rssi" r.rssi ++
    itemUnlessZero "hops" r.hops.toUInt64

/-- The members of a message, before they are written. -/
def items (m : Message Bytes) : List (String × Item) :=
  match m with
  | .header a => announcementItems a
  | .packet r => reportItems r

theorem map_memberBytes_itemUnlessZero (key : String) (n : UInt64) :
    (itemUnlessZero key n).map memberBytes = numberUnlessZero key n.toNat := by
  by_cases h : n = 0
  · subst h
    rfl
  · have hnat : ¬ n.toNat = 0 := fun heq => h (UInt64.toNat_inj.1 heq)
    rw [itemUnlessZero, if_neg h, numberUnlessZero, if_neg hnat]
    rfl

theorem write_eq (m : Message Bytes) : write m = line ((items m).map memberBytes) := by
  cases m with
  | header a => rfl
  | packet r =>
    have hpayload : memberBytes ("payload", .text (latin (Hex.encode r.payload))) =
        member "payload" (0x22 :: Hex.encode r.payload ++ [0x22]) := by
      rw [memberBytes, Item.write, quote_latin Hex.plain_of_mem_encode]
    show line (reportMembers r) = line ((reportItems r).map memberBytes)
    simp only [reportItems, List.map_append, map_memberBytes_itemUnlessZero, List.map_cons,
      List.map_nil, hpayload]
    rfl

/-! ## Finding the fields -/

/-- A message as it is found in an object, with a payload in hexadecimal. -/
def spelled (m : Message Bytes) : Message String :=
  match m with
  | .header a => .header a
  | .packet r => .packet { r with payload := latin (Hex.encode r.payload) }

theorem clip32_toUInt64 (n : UInt32) : clip32 n.toUInt64 = n := by
  have hle : n.toUInt64 ≤ 0xFFFFFFFF := by
    rw [UInt64.le_iff_toNat_le, UInt32.toNat_toUInt64]
    exact Nat.le_of_lt_succ n.toNat_lt
  rw [clip32, if_pos hle, UInt32.toUInt32_toUInt64]

theorem message?_announcementItems (a : Announcement) :
    message? ⟨.curly, announcementItems a⟩ = some (.header a) := by
  simp [message?, typed?, announcementItems, announcement?, Fields.atMost, Fields.text?,
    Fields.uuid?, Fields.natural?, Fields.find?, Uuid.parse?_text, clip32_toUInt64]

theorem message?_reportItems (r : Report Bytes) :
    message? ⟨.curly, reportItems r⟩ =
      some (.packet { r with payload := latin (Hex.encode r.payload) }) := by
  obtain ⟨kind, source, payload, mlat, rssi, hops⟩ := r
  have hkind : Kind.ofName? kind.name = some kind := by cases kind <;> decide
  have hheader : ¬ kind.name = "header" := by cases kind <;> decide
  have hle : hops.toUInt64 ≤ 0xFFFF := by
    rw [UInt64.le_iff_toNat_le, UInt16.toNat_toUInt64]
    exact Nat.le_of_lt_succ hops.toNat_lt
  have hzero : hops.toUInt64 = 0 ↔ hops = 0 := by
    rw [← UInt64.toNat_inj, UInt16.toNat_toUInt64, ← UInt16.toNat_inj]
    rfl
  -- Each of the three numbers is left out if it is zero.
  by_cases h₁ : mlat = 0 <;> by_cases h₂ : rssi = 0 <;> by_cases h₃ : hops = 0 <;>
    simp [message?, typed?, reportItems, itemUnlessZero, report?, Fields.atMost, Fields.text?,
      Fields.uuid?, Fields.naturalOrZero?, Fields.find?, Uuid.parse?_text, hkind,
      hheader, hle, hzero, h₁, h₂, h₃]

theorem message?_items (m : Message Bytes) : message? ⟨.curly, items m⟩ = some (spelled m) := by
  cases m with
  | header a => exact message?_announcementItems a
  | packet r => exact message?_reportItems r

/-! ## Messages -/

/-- **A message reads back** with the line ends after it. -/
theorem read?_write_append (m : Message Bytes) (rest : Bytes) :
    read? (write m ++ rest) =
      some (spelled m, (write m).length + (rest.takeWhile isLineEnd).length) := by
  have hne : items m ≠ [] := by
    cases m with
    | header a => exact List.cons_ne_nil _ _
    | packet r => exact List.cons_ne_nil _ _
  have hrest : (0x0A :: rest).dropWhile isLineEnd = rest.dropWhile isLineEnd := rfl
  have hsum : (rest.takeWhile isLineEnd).length + (rest.dropWhile isLineEnd).length =
      rest.length := by
    rw [← List.length_append, List.takeWhile_append_dropWhile]
  have hdocument := readDocument?_line_append hne rest
  rw [← write_eq] at hdocument
  simp only [read?, hdocument, message?_items, hrest, Option.bind_eq_bind, Option.bind_some,
    List.length_append, Option.some.injEq, Prod.mk.injEq, true_and]
  omega

/-- The payload of a message that was found is read from its digits. -/
theorem decoded_spelled {m : Message Bytes}
    (h : ∀ r, m = .packet r → r.payload.length = r.kind.payloadLength) :
    decoded (spelled m) = .ok m := by
  cases m with
  | header a => rfl
  | packet r =>
    have hascii : utf8 (latin (Hex.encode r.payload)) = Hex.encode r.payload :=
      utf8_latin fun c hc => (Hex.plain_of_mem_encode c hc).2.1
    have hdecode := Hex.decode?_encode r.payload
    rw [h r rfl] at hdecode
    simp only [decoded, spelled, payload, hascii, hdecode]
    rfl

end Squitter.Wire.Json
