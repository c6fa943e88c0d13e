import Mathlib.Data.List.Chain
import Squitter.Proofs.Clocks.Headers
import Squitter.Proofs.Clocks.Samples

/-!
# The order of timestamps

A fall of a counter's reading is taken for one wrap, which adds one width. So the timestamps of a
counter do not decrease unless a reading falls by more than the width
(`Inlet.Succession.le_mlat_iff`). No reading falls so far if all of them are within the width. In
airspy_adsb and beast they are. A header of json or proto says how wide the counter is, but no
report is refused for a timestamp that is beyond it.

**The result** (`Inlet.never_backwards`). In a run with one counter, the known timestamps never
decrease if and only if no reading falls by more than the width. In airspy_adsb and beast they never
do, and neither in json and proto if all readings are within the announced width. Otherwise they may
(`Inlet.backwards_beyond_width`).
-/

namespace Squitter.Inlet

variable {own : Uuid} {i : Inlet} {acts : List Act} {h : Mlat.History} {c : Mlat.Counter}
  {d d' : Dated} {ds : List Dated}

/-- One wrap makes up for the fall of the reading between two packets, if it falls. -/
def Dated.Precedes (d d' : Dated) : Prop :=
  d.reading.toNat ≤ d'.reading.toNat + d.counter.width.toNat

namespace Succession

/-- One step: the timestamp of the second packet is not before that of the first, unless the reading
falls by more than the width. -/
theorem le_mlat_iff (hs : Succession h (d :: d' :: ds)) (hcounter : d'.counter = d.counter)
    (hknown : d.Known) (hknown' : d'.Known) (hfits : d.Fits) (hfits' : d'.Fits) :
    d.packet.mlat ≤ d'.packet.mlat ↔ d.Precedes d' := by
  obtain ⟨-, hmlat, hclock, hmlat', -⟩ := hs
  obtain ⟨htimestamp, hticks, hlast⟩ := Dated.toNat_received hknown hfits
  obtain ⟨htimestamp', -, -⟩ := Dated.toNat_received hknown' hfits'
  rw [UInt64.le_iff_toNat_le, hmlat, hmlat', htimestamp, htimestamp', hcounter,
    Nat.mul_le_mul_right_iff (Mlat.factor_pos _), ← hticks, Dated.Precedes, ← hlast, ← hclock]
  exact Mlat.le_ticks_iff

theorem pairwise_iff_isChain (hs : Succession h ds) (hcounter : ∀ d ∈ ds, d.counter = c)
    (hknown : ∀ d ∈ ds, d.Known) (hfits : ∀ d ∈ ds, d.Fits) :
    (ds.map (·.packet.mlat)).Pairwise (· ≤ ·) ↔ ds.IsChain Dated.Precedes := by
  rw [← List.isChain_iff_pairwise, List.isChain_map]
  induction ds generalizing h with
  | nil => exact iff_of_true .nil .nil
  | cons d ds ih =>
    cases ds with
    | nil => exact iff_of_true (.singleton d) (.singleton d)
    | cons d' ds =>
      obtain ⟨hd, hlater⟩ := List.forall_mem_cons.1 hcounter
      obtain ⟨hdknown, hknown⟩ := List.forall_mem_cons.1 hknown
      obtain ⟨hdfits, hfits⟩ := List.forall_mem_cons.1 hfits
      have hfirst := List.mem_cons_self (a := d') (l := ds)
      have hstep := hs.le_mlat_iff ((hlater d' hfirst).trans hd.symm) hdknown (hknown d' hfirst)
        hdfits (hfits d' hfirst)
      rw [List.isChain_cons_cons, List.isChain_cons_cons, hstep, ih hs.2.2 hlater hknown hfits]

/-! ## Where zero is a mark -/

/-- Marks leave the clock where it is, so that they can be left out. -/
theorem filter_known (hs : Succession h ds) : Succession h (ds.filter (·.Known)) := by
  induction ds generalizing h with
  | nil => exact hs
  | cons d ds ih =>
    obtain ⟨hclock, hmlat, hlater⟩ := hs
    by_cases hknown : d.Known
    · rw [List.filter_cons_of_pos (by simpa using hknown)]
      exact ⟨hclock, hmlat, ih hlater⟩
    · rw [Dated.received_of_not_known hknown, hclock] at hlater
      rw [List.filter_cons_of_neg (by simpa using hknown)]
      exact ih hlater

theorem pairwise_iff_of_marks (hs : Succession h ds) (hcounter : ∀ d ∈ ds, d.counter = c)
    (hmarks : c.marks = true) (hfits : ∀ d ∈ ds, d.Known → d.Fits) :
    let known := ds.filter (·.reading ≠ 0)
    (known.map (·.packet.mlat)).Pairwise (· ≤ ·) ↔ known.IsChain Dated.Precedes := by
  intro known
  have hfilter : known = ds.filter (·.Known) := by
    apply List.filter_congr
    intro d hd
    simp only [Dated.Known, hcounter d hd, hmarks, true_and]
  have hknown (d) (hd : d ∈ known) : d ∈ ds ∧ d.Known := by
    rw [hfilter] at hd
    simpa using List.mem_filter.1 hd
  apply pairwise_iff_isChain (hfilter ▸ hs.filter_known)
  · intro d hd
    exact hcounter d (hknown d hd).1
  · intro d hd
    exact (hknown d hd).2
  · intro d hd
    exact hfits d (hknown d hd).1 (hknown d hd).2

end Succession

/-! ## Readings within the width -/

theorem isChain_of_le_width (hwidth : ∀ d ∈ ds, d.reading ≤ d.counter.width) :
    ds.IsChain Dated.Precedes := by
  apply List.Pairwise.isChain
  apply List.pairwise_of_forall_mem_list
  intro d hd d' _
  exact Nat.le_add_left_of_le (UInt64.le_iff_toNat_le.1 (hwidth d hd))

/-- Where zero is a reading like any other, packets may be left out. -/
theorem Succession.pairwise_of_unmarked (hs : Succession h ds) (hcounter : ∀ d ∈ ds, d.counter = c)
    (hmarks : c.marks = false) (hwidth : ∀ d ∈ ds, d.reading ≤ d.counter.width)
    (hfits : ∀ d ∈ ds, d.Known → d.Fits) (kept : Dated → Bool) :
    ((ds.filter kept).map (·.packet.mlat)).Pairwise (· ≤ ·) := by
  have hknown (d) (hd : d ∈ ds) : d.Known := by
    simp [Dated.Known, hcounter d hd, hmarks]
  have hall : (ds.map (·.packet.mlat)).Pairwise (· ≤ ·) := by
    apply (hs.pairwise_iff_isChain hcounter hknown _).2 (isChain_of_le_width hwidth)
    intro d hd
    exact hfits d hd (hknown d hd)
  exact hall.sublist (List.filter_sublist.map _)

theorem le_width_of_mem_dated (hd : d ∈ i.dated own acts) (hunmarked : d.counter.marks = false) :
    d.reading ≤ d.counter.width := by
  obtain ⟨data, header, hsample⟩ := exists_sample_of_mem_dated hd
  exact Format.le_width_of_sample? hsample hunmarked

theorem unmarked_of_mem_dated (hd : d ∈ i.dated own acts)
    (hformat : d.format = .airspy ∨ d.format = .beast) : d.counter.marks = false := by
  obtain ⟨data, header, hsample⟩ := exists_sample_of_mem_dated hd
  rcases hformat with hformat | hformat
  · rw [hformat] at hsample
    obtain ⟨-, hmarks, -, -⟩ := Format.sample?_airspy hsample
    exact hmarks
  · rw [hformat] at hsample
    rw [(Format.sample?_beast hsample).1]

/-! ## A run -/

/-- **Known timestamps never run backwards** in a run with one counter, unless a reading
falls by more than the width of the counter. In airspy_adsb and beast none does, nor does any
that is within the width. -/
theorem never_backwards (own : Uuid) (capacity : Nat) (acts : List Act)
    (hone : (fresh capacity).controls own acts ≤ 1)
    (hlines : ∀ d ∈ (fresh capacity).dated own acts, ∀ d' ∈ (fresh capacity).dated own acts,
      d.format = .airspy → d.counter.mhz = d'.counter.mhz)
    (hfits : ∀ d ∈ (fresh capacity).dated own acts, d.Known → d.Fits) :
    let known := ((fresh capacity).dated own acts).filter (·.reading ≠ 0)
    let timestamps := known.map (·.packet.mlat)
    (timestamps.Pairwise (· ≤ ·) ↔ known.IsChain Dated.Precedes) ∧
    ((∀ d ∈ known, d.format = .airspy ∨ d.format = .beast ∨ d.reading ≤ d.counter.width) →
      timestamps.Pairwise (· ≤ ·)) := by
  intro known timestamps
  obtain ⟨c, hcounter⟩ := exists_counter_dated rfl hone hlines
  have hs := succession_dated own (fresh capacity) acts
  have hmem (d) (hd : d ∈ known) : d ∈ (fresh capacity).dated own acts := List.mem_of_mem_filter hd
  have hiff : timestamps.Pairwise (· ≤ ·) ↔ known.IsChain Dated.Precedes := by
    cases hmarks : c.marks with
    | true => exact hs.pairwise_iff_of_marks hcounter hmarks hfits
    | false =>
      have hwidth (d) (hd : d ∈ (fresh capacity).dated own acts) : d.reading ≤ d.counter.width :=
        le_width_of_mem_dated hd (hcounter d hd ▸ hmarks)
      apply iff_of_true
      · exact hs.pairwise_of_unmarked hcounter hmarks hwidth hfits _
      · exact isChain_of_le_width fun d hd => hwidth d (hmem d hd)
  refine ⟨hiff, fun hwithin => hiff.2 (isChain_of_le_width fun d hd => ?_)⟩
  rcases hwithin d hd with hairspy | hbeast | hle
  · exact le_width_of_mem_dated (hmem d hd) (unmarked_of_mem_dated (hmem d hd) (.inl hairspy))
  · exact le_width_of_mem_dated (hmem d hd) (unmarked_of_mem_dated (hmem d hd) (.inr hbeast))
  · exact hle

/-- In beast, a reading of 1 comes after the largest one there is, and is dated after it. -/
theorem never_backwards_one_wrap :
    let p := Packet.blank .nil
    let first : Bytes := [0x1a, 0x31, 0xff, 0xff, 0xff, 0xff, 0xff, 0xff, 0xff, 1, 2]
    let second : Bytes := [0x1a, 0x31, 0, 0, 0, 0, 0, 1, 0xff, 1, 2]
    let acts := [.fill (first ++ second), .decode p, .decode p]
    let packets := (fresh Buffer.usualCapacity).dated .nil acts
    packets.map (·.reading) = [0xFFFFFFFFFFFF, 1] ∧
      (packets.map (·.packet.mlat)).Pairwise (· ≤ ·) := by
  intro p first second acts packets
  obtain ⟨-, hwithin⟩ := never_backwards .nil Buffer.usualCapacity acts (by decide +kernel)
    (by decide +kernel) (by decide +kernel)
  have hall : packets.filter (·.reading ≠ 0) = packets := by
    apply List.filter_eq_self.2
    decide +kernel
  rw [hall] at hwithin
  exact ⟨by decide +kernel, hwithin (by decide +kernel)⟩

/-- A header announces a counter of 120 MHz that wraps after 10 ticks, and a report shows 100. When
the next one shows 5, time runs backwards from 100 to 15, far below the 64 bits. -/
theorem backwards_beyond_width :
    let p := Packet.blank .nil
    let messages := [Reception.announced Mlat.clockMHz 10, Reception.reported 100,
      Reception.reported 5]
    let acts := [.fill (messages.map Wire.Json.write).flatten, .decode p, .decode p, .decode p]
    let packets := (fresh Buffer.usualCapacity).dated .nil acts
    (fresh Buffer.usualCapacity).controls .nil acts = 1 ∧
      (∀ d ∈ packets, d.format = .json ∧ d.reading ≠ 0 ∧ d.Fits) ∧
      packets.map (·.packet.mlat) = [100, 15] := by
  decide +kernel

end Squitter.Inlet
