import Squitter.Proofs.Peers.Failures

/-!
# What leads from one state to another

Almost everything that a bus does, except passing packets on, **leads** (`Station.Leads`) from one
state to another in a course in which no sender fails. Such courses follow one another
(`Leads.trans`), so what a function does is put together from what the functions that it calls do.
They keep a station settled (`Leads.settled`).
-/

namespace Squitter.Station

variable {σ : Type} [Host σ] {s s' s'' : Station σ} {hs : List Happening}

/-! ## Settled stations stay settled -/

theorem Step.settled (h : Step s hs s') (hsound : s.Sound) (hquiet : .relayed ∉ hs)
    (hsettled : s.Settled) : s'.Settled := by
  obtain ⟨hnil, hnone⟩ := hsettled
  cases h with
  | quiet h => exact ⟨h.failures.trans hnil, fun i hi => hnone i (h.failing i hi)⟩
  | reported => exact ⟨rfl, hnone⟩
  | relayed => exact absurd (List.mem_singleton_self _) hquiet
  | gaveUp id =>
    have h := keeps_ownerClosed s id
    exact ⟨h.failures.trans hnil, fun i hi => hnone i (h.failing i hi)⟩
  | attached h =>
    rename_i stream role owner
    rcases attach_cases hsound stream role owner with ⟨e, s'', h', -⟩ | ⟨s'', h', hgets⟩
    · rw [h] at h'
      cases h'
    · rw [h] at h'
      cases h'
      exact ⟨hgets.failures.trans hnil, fun i hi => hnone i (hgets.failing i hi)⟩
  | closed half id why =>
    obtain ⟨hfailing, hfailures, -⟩ := failing_close hsound half id why
    exact ⟨hfailures.trans hnil, fun i hi => hnone i (hfailing i hi)⟩

theorem Course.settled (h : Course s hs s') (hsound : s.Sound) (hquiet : .relayed ∉ hs)
    (hsettled : s.Settled) : s'.Settled := by
  induction h with
  | refl => exact hsettled
  | step hcourse hstep ih =>
    rw [List.mem_append, not_or] at hquiet
    exact hstep.settled (hcourse.sound hsound) hquiet.2 (ih hquiet.1)

/-! ## Leading -/

/-- If the station is sound, a course in which nothing is passed on leads from
one state to the other. -/
def Leads (s s' : Station σ) : Prop := s.Sound → ∃ hs, Course s hs s' ∧ .relayed ∉ hs

theorem Leads.refl (s : Station σ) : Leads s s := fun _ => ⟨[], .refl s, List.not_mem_nil⟩

theorem Leads.trans (h : Leads s s') (h' : Leads s' s'') : Leads s s'' := by
  intro hsound
  obtain ⟨hs, hcourse, hquiet⟩ := h hsound
  obtain ⟨hs', hcourse', hquiet'⟩ := h' (hcourse.sound hsound)
  exact ⟨hs ++ hs', hcourse.trans hcourse', fun hmem =>
    (List.mem_append.1 hmem).elim hquiet hquiet'⟩

/-- What leads on from a sound station does so at all. -/
theorem Leads.of_sound (h : s.Sound → Leads s s') : Leads s s' := fun hsound => h hsound hsound

theorem Keeps.leads (h : Keeps s s') : Leads s s' := fun _ =>
  ⟨[], (Step.quiet h).course, List.not_mem_nil⟩

theorem Aside.leads (h : Aside s s') : Leads s s' := h.keeps.leads

theorem Leads.sound (h : Leads s s') (hsound : s.Sound) : s'.Sound := by
  obtain ⟨hs, hcourse, -⟩ := h hsound
  exact hcourse.sound hsound

theorem Leads.settled (h : Leads s s') (hsound : s.Sound) (hsettled : s.Settled) : s'.Settled := by
  obtain ⟨hs, hcourse, hquiet⟩ := h hsound
  exact hcourse.settled hsound hquiet hsettled

/-- One after the other, for a whole list. -/
theorem leads_foldl {α : Type} {f : Station σ → α → Station σ} (h : ∀ s a, Leads s (f s a))
    (l : List α) (s : Station σ) : Leads s (l.foldl f s) := by
  induction l generalizing s with
  | nil => exact .refl s
  | cons a l ih => exact (h s a).trans (ih (f s a))

/-! ## Peers and owners -/

theorem leads_ownerClosed (s : Station σ) (id : Nat) : Leads s (s.ownerClosed id) := fun _ =>
  ⟨[.gaveUp id], (Step.gaveUp s id).course, fun hmem => by cases List.mem_singleton.1 hmem⟩

theorem leads_close (s : Station σ) (half : Half) (id : Nat) (why : Reason) :
    Leads s (s.close half id why) := by
  refine fun _ => ⟨s.report half id why, (Step.closed s half id why).course, ?_⟩
  rw [report, List.mem_append, not_or]
  constructor
  · intro hmem
    obtain ⟨half, id, why, ⟨⟩⟩ := mem_departures hmem
  · split
    · exact fun hmem => by cases List.mem_singleton.1 hmem
    · exact List.not_mem_nil

theorem leads_attach (s : Station σ) (stream : Stream) (role : Role) (owner : Option Nat) :
    Leads s (s.attach stream role owner).2 := by
  refine .of_sound fun hsound => ?_
  rcases attach_cases hsound stream role owner with ⟨e, s', h, haside⟩ | ⟨s', h, -⟩
  · rw [h]
    exact haside.leads
  · rw [h]
    exact fun _ => ⟨_, (Step.attached h).course, fun hmem => by cases List.mem_singleton.1 hmem⟩

/-- Closing what has failed is closing, after the list of failures was read. -/
theorem leads_closeFailed (s : Station σ) : Leads s s.closeFailed := by
  have hreported : Leads s s.takeFailures := fun _ =>
    ⟨[], (Step.reported s).course, List.not_mem_nil⟩
  exact hreported.trans (leads_foldl (fun s id => leads_close s .send id .writeFailed) _ _)

theorem leads_closeOwned (s : Station σ) (owner : Nat) (why : Reason) :
    Leads s (s.closeOwned owner why).2 := by
  unfold closeOwned
  simp only
  generalize (List.map _ _ ++ List.map _ _ : List (Half × Nat)) = peers
  generalize false = any
  induction peers generalizing any s with
  | nil => exact .refl s
  | cons peer rest ih => exact (leads_close s peer.1 peer.2 why).trans (ih _ _)

end Squitter.Station
