import Squitter.Proofs.Reads

/-!
# Read boundaries do not matter

A stream reaches a decoder in pieces. An **inlet** (`Inlet`) is a decoder with its buffer; it is
**fed** one piece after the other (`Inlet.feed`), and after each piece the decoder is called until
it yields none or an error.

**The result.** However a stream is cut, the results up to the first error and the decoder at
the end are the same (`Inlet.feed_eq_of_flatten_eq`), as long as the buffer takes up each
piece whole (`Inlet.Fits`).
-/

namespace Squitter

open Decoder

/-! ## Feeding a decoder -/

/-- A decoder and the buffer it reads from. -/
structure Inlet where
  decoder : Decoder
  buffer : Buffer
deriving DecidableEq

namespace Inlet

/-- A decoder that has read nothing and a buffer without bytes. -/
def fresh (capacity : Nat) : Inlet := ⟨.fresh, .empty capacity⟩

/-- Fill a piece into the buffer and read until there is nothing more to read. -/
def take (own source : Uuid) (i : Inlet) (piece : Bytes) : List Step × Inlet :=
  let b := (i.buffer.fill piece).2
  let last := i.decoder.lastStep own source b
  (i.decoder.drain own source b, ⟨last.decoder, last.buffer⟩)

/-- Take one piece after the other. -/
def feed (own source : Uuid) (i : Inlet) : List Bytes → List Step × Inlet
  | [] => ([], i)
  | piece :: pieces =>
    let (steps, i) := i.take own source piece
    let (later, i) := i.feed own source pieces
    (steps ++ later, i)

/-- The outcomes of calls. -/
def outcomes (steps : List Step) : List Outcome := steps.filterMap Step.outcome?

theorem outcomes_append (steps more : List Step) :
    outcomes (steps ++ more) = outcomes steps ++ outcomes more :=
  List.filterMap_append

/-- The outcomes up to and with the first failure. -/
def upToFailure : List Outcome → List Outcome
  | [] => []
  | .failed e :: _ => [.failed e]
  | o :: os => o :: upToFailure os

/-- Up to the first failure, no piece meets a full buffer or is taken only in part. -/
def Fits (own source : Uuid) (i : Inlet) : List Bytes → Prop
  | [] => True
  | piece :: pieces =>
    (i.buffer.fill piece).1 = some piece.length ∧
      ((∀ e, .failed e ∉ outcomes (i.take own source piece).1) →
        (i.take own source piece).2.Fits own source pieces)

/-! ## Failures -/

theorem upToFailure_append {os : List Outcome} (h : ∀ e, .failed e ∉ os) (os' : List Outcome) :
    upToFailure (os ++ os') = os ++ upToFailure os' := by
  induction os with
  | nil => rfl
  | cons o os ih =>
    have hos := ih fun e he => h e (List.mem_cons_of_mem _ he)
    cases o with
    | failed e => exact absurd List.mem_cons_self (h e)
    | frame p => simp only [List.cons_append, upToFailure, hos]
    | control header => simp only [List.cons_append, upToFailure, hos]

variable {own source : Uuid} {i : Inlet}

/-- After a failure the decoder stays as it is. -/
theorem decoder_feed_of_error {f : Format} {e : Error} (hf : f ∈ i.decoder.candidates)
    (h : f.read own i.buffer.data (.blank source) i.decoder.link = .error e) (pieces : List Bytes) :
    (i.feed own source pieces).2.decoder = i.decoder := by
  induction pieces generalizing i with
  | nil => rfl
  | cons piece pieces ih =>
    obtain ⟨taken, hdata⟩ := i.buffer.exists_data_fill piece
    have hread : f.read own (i.buffer.fill piece).2.data (.blank source) i.decoder.link =
        .error e := by
      rw [hdata]
      exact Format.read_append_of_error h taken
    have hlast := lastStep_of_no_event (decode_of_error hf hread) (by simp)
    have htake : (i.take own source piece).2 = ⟨i.decoder, (i.buffer.fill piece).2⟩ := by
      simp only [take, hlast]
    show ((i.take own source piece).2.feed own source pieces).2.decoder = i.decoder
    rw [htake]
    exact ih hf hread

/-! ## The stream as a whole -/

/-- What an inlet yields is what is in the stream, up to the first failure. -/
theorem reads_feed (hnone : ∀ f ∈ i.decoder.candidates,
      f.read own i.buffer.data (.blank source) i.decoder.link = .ok none)
    {pieces : List Bytes} (hfits : i.Fits own source pieces) :
    ∃ rest, Reads own source i.decoder (i.buffer.data ++ pieces.flatten)
      (upToFailure (outcomes (i.feed own source pieces).1)) (i.feed own source pieces).2.decoder
      rest := by
  induction pieces generalizing i with
  | nil =>
    rw [List.flatten_nil, List.append_nil]
    exact ⟨_, .done hnone⟩
  | cons piece pieces ih =>
    obtain ⟨hfill, hrest⟩ := hfits
    have hfeed : i.feed own source (piece :: pieces) =
        ((i.take own source piece).1 ++ ((i.take own source piece).2.feed own source pieces).1,
          ((i.take own source piece).2.feed own source pieces).2) := rfl
    have htake : Reads own source i.decoder (i.buffer.data ++ piece)
        (outcomes (i.take own source piece).1) (i.take own source piece).2.decoder
        (i.take own source piece).2.buffer.data := by
      rw [← Buffer.data_fill_of_eq hfill]
      exact reads_drain _ _ _ _
    rw [hfeed, List.flatten_cons, ← List.append_assoc, outcomes_append]
    rcases htake.ending with ⟨hos, hnone'⟩ | ⟨os, e, hos, hos', f, hf, hread⟩
    · obtain ⟨rest, hreads⟩ := ih hnone' (hrest hos)
      obtain ⟨rest', hreads', -⟩ := htake.append hos hreads
      exact ⟨rest', by rwa [upToFailure_append hos]⟩
    · have hmem : .failed e ∈ outcomes (i.take own source piece).1 := by
        rw [hos]
        exact List.mem_append_right _ List.mem_cons_self
      obtain ⟨rest, hreads⟩ := htake.append_of_failed hmem pieces.flatten
      have hcut (more : List Outcome) :
          upToFailure (outcomes (i.take own source piece).1 ++ more) =
            outcomes (i.take own source piece).1 := by
        rw [hos, List.append_assoc, upToFailure_append hos']
        rfl
      refine ⟨rest, ?_⟩
      rwa [decoder_feed_of_error hf hread, hcut]

/-! ## Two ways to cut a stream -/

/-- **Read boundaries do not matter.** Two inlets that are fed the same stream in different pieces
yield the same results up to and with the first error, and end with the same decoder: the same
pinned format and the same state of the connection. -/
theorem feed_eq_of_flatten_eq (own source : Uuid) (c₁ c₂ : Nat) {pieces₁ pieces₂ : List Bytes}
    (h : pieces₁.flatten = pieces₂.flatten) (h₁ : (fresh c₁).Fits own source pieces₁)
    (h₂ : (fresh c₂).Fits own source pieces₂) :
    upToFailure (outcomes ((fresh c₁).feed own source pieces₁).1) =
        upToFailure (outcomes ((fresh c₂).feed own source pieces₂).1) ∧
      ((fresh c₁).feed own source pieces₁).2.decoder =
        ((fresh c₂).feed own source pieces₂).2.decoder := by
  have hnone (f : Format) (_ : f ∈ Decoder.fresh.candidates) :
      f.read own [] (.blank source) .fresh = .ok none := by
    cases f <;> rfl
  obtain ⟨rest₁, hreads₁⟩ := reads_feed (i := fresh c₁) hnone h₁
  obtain ⟨rest₂, hreads₂⟩ := reads_feed (i := fresh c₂) hnone h₂
  have hdata : (fresh c₁).buffer.data ++ pieces₁.flatten =
      (fresh c₂).buffer.data ++ pieces₂.flatten := congrArg ([] ++ ·) h
  rw [hdata] at hreads₁
  obtain ⟨hos, hd, -⟩ := hreads₁.unique hreads₂
  exact ⟨hos, hd⟩

/-- Two lines, cut once in the first line and once in the second one. -/
theorem feed_eq_of_flatten_eq_two_lines :
    let pieces₁ := [utf8 "*77", utf8 "00;\n*7701;\n"]
    let pieces₂ := [utf8 "*7700;\n*", utf8 "7701;\n"]
    pieces₁.flatten = pieces₂.flatten ∧
      (fresh 16).Fits .nil .nil pieces₁ ∧ (fresh 32).Fits .nil .nil pieces₂ ∧
      upToFailure (outcomes ((fresh 16).feed .nil .nil pieces₁).1) =
        upToFailure (outcomes ((fresh 32).feed .nil .nil pieces₂).1) ∧
      ((fresh 16).feed .nil .nil pieces₁).2.decoder =
        ((fresh 32).feed .nil .nil pieces₂).2.decoder := by
  have h : [utf8 "*77", utf8 "00;\n*7701;\n"].flatten =
      [utf8 "*7700;\n*", utf8 "7701;\n"].flatten := by
    decide
  have h₁ : (fresh 16).Fits .nil .nil [utf8 "*77", utf8 "00;\n*7701;\n"] :=
    ⟨by decide, fun _ => ⟨by decide +kernel, fun _ => trivial⟩⟩
  have h₂ : (fresh 32).Fits .nil .nil [utf8 "*7700;\n*", utf8 "7701;\n"] :=
    ⟨by decide, fun _ => ⟨by decide +kernel, fun _ => trivial⟩⟩
  exact ⟨h, h₁, h₂, feed_eq_of_flatten_eq .nil .nil 16 32 h h₁ h₂⟩

end Inlet
end Squitter
