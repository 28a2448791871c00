import ServiceHost.Proofs.Http.Served

/-!
This module contains the actions that have to do with nothing but a part of the world: where the part is the same,
they come back with the same, and leave the same part behind.
-/

namespace ServiceHost

variable {σ α β γ δ : Type}

namespace Action

/-- What an action comes back with, and what becomes of a part of the world, depend on nothing but the part. -/
def Confined (part : World σ → γ) (action : Action σ α) : Prop :=
  ∀ world world', part world = part world' →
    (action.exec world).1 = (action.exec world').1
      ∧
    part (action.exec world).2 = part (action.exec world').2

variable {part : World σ → γ}

theorem confined_pure (a : α) : Confined part (pure a : Action σ α) := by
  intro world world' hpart
  exact ⟨rfl, hpart⟩

theorem confined_fail (fault : Fault) : Confined part (fail fault : Action σ α) := by
  intro world world' hpart
  exact ⟨rfl, hpart⟩

theorem Spares.confined {action : Action σ PUnit} (h : Spares part action) : Confined part action := by
  intro world world' hpart
  obtain ⟨_, after, hexec, hsame⟩ := h world
  obtain ⟨_, after', hexec', hsame'⟩ := h world'
  rw [hexec, hexec']
  exact ⟨rfl, hsame.trans (hpart.trans hsame'.symm)⟩

theorem Confined.bind {action : Action σ α} {next : α → Action σ β} (h : Confined part action)
    (hnext : ∀ a, Confined part (next a)) : Confined part (action >>= next) := by
  intro world world' hpart
  have hfirst := h world world' hpart
  rw [exec_bind, exec_bind]
  cases hexec : action.exec world with
  | mk result mid =>
    cases hexec' : action.exec world' with
    | mk result' mid' =>
      rw [hexec, hexec'] at hfirst
      obtain ⟨rfl, hmid⟩ := hfirst
      cases result with
      | ok a => exact hnext a mid mid' hmid
      | error fault => exact ⟨rfl, hmid⟩

theorem confined_forM {items : List α} {visit : α → Action σ PUnit}
    (h : ∀ a ∈ items, Confined part (visit a)) : Confined part (items.forM visit) := by
  induction items with
  | nil => exact confined_pure ()
  | cons a items ih =>
    rw [List.forM_eq_forM, List.forM_cons]
    apply Confined.bind (h a List.mem_cons_self)
    intro _
    apply ih
    intro b hb
    exact h b (List.mem_cons_of_mem a hb)

theorem Confined.recover {action onPanic : Action σ α} (h : Confined part action)
    (hpanic : Confined part onPanic) : Confined part (recover action onPanic) := by
  intro world world' hpart
  obtain ⟨hresult, hrest⟩ := h world world' hpart
  by_cases hpanicked : (action.exec world).1 = .error .panicked
  . rw [exec_recover_of_panicked (Prod.ext hpanicked rfl)]
    rw [exec_recover_of_panicked (Prod.ext (hresult.symm.trans hpanicked) rfl)]
    exact hpanic _ _ hrest
  . rw [exec_recover_of_ne hpanicked, exec_recover_of_ne (hresult ▸ hpanicked)]
    exact ⟨hresult, hrest⟩

theorem Confined.prod {part' : World σ → δ} {action : Action σ α} (h : Confined part action)
    (hkeeps : Keeps part' action) : Confined (fun world => (part world, part' world)) action := by
  intro world world' hboth
  obtain ⟨hpart, hpart'⟩ := Prod.mk.inj hboth
  obtain ⟨hresult, hrest⟩ := h world world' hpart
  refine ⟨hresult, ?_⟩
  dsimp only
  rw [hrest, hkeeps world, hkeeps world', hpart']

end Action

theorem Http.Router.confined_serve {part : World σ → γ} {router : Router (Endpoint σ)} {request : Request}
    (h : ∀ endpoint, router.Takes request endpoint → ∀ request, Action.Confined part (endpoint request)) :
    Action.Confined part (router.serve request) := by
  by_cases htakes : ∃ endpoint, router.Takes request endpoint
  . obtain ⟨endpoint, htakes⟩ := htakes
    rw [Router.serve_of_takes htakes]
    exact (h endpoint htakes _).bind fun _ => Action.confined_pure _
  . obtain ⟨response, hserve⟩ := Router.serve_of_not_takes (not_exists.mp htakes)
    rw [hserve]
    exact Action.confined_pure response

end ServiceHost
