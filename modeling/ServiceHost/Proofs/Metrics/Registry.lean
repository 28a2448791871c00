import ServiceHost.Proofs.Action
import ServiceHost.Proofs.Keyed

/-!
This module contains what single operations on the metrics leave behind: one equation for each of them, about
the variables and about the warnings that come with it.
-/

namespace ServiceHost.Metrics

variable {σ : Type}

namespace Registry

theorem find?_request (registry : Registry σ) (kind : Kind) (n name : String) :
    (registry.request kind n).contents.find? name
      =
    if name = n then some ((registry.contents.find? name).getD (.fresh kind)) else registry.contents.find? name := by
  unfold request
  by_cases hfound : registry.contents.contains n
  . rw [if_pos hfound]
    split
    . next h =>
      obtain ⟨v, hv⟩ := Option.isSome_iff_exists.mp hfound
      rw [h, hv, Option.getD_some]
    . rfl
  . rw [if_neg hfound, Keyed.find?_insert]
    split
    . next h =>
      have hnone : registry.contents.find? n = none := by
        simpa [Keyed.contains] using hfound
      rw [h, hnone, Option.getD_none]
    . rfl

theorem find?_update (registry : Registry σ) (handle : Handle) (change : Update) (name : String) :
    (registry.update handle change).contents.find? name
      =
    if name = handle.name then
      (registry.contents.find? name).map fun v => if change.kind = handle.kind then v.apply change else v
    else
      registry.contents.find? name := by
  unfold update
  by_cases hkind : change.kind = handle.kind
  . simp only [hkind, if_true]
    exact Keyed.find?_modify handle.name name (Variable.apply change) registry.contents
  . simp [hkind]

end Registry

theorem publishMetric_exec (name : String) (read : σ → Except Fault Json.Value) (world : World σ) :
    (Action.publishMetric name read).exec world
      =
    (.ok (),
      World.recordAll
        (if world.metrics.contents.contains name then
          [⟨.metrics, .warn, "Replaced published metric variable", [("name", name)]⟩]
        else [])
        { world with metrics := world.metrics.publish name read }) := by
  unfold Action.publishMetric
  rw [Action.exec_bind_ok (Action.exec_get world), Action.exec_bind_ok (Action.exec_change _ world)]
  split
  . rfl
  . rfl

theorem metric_exec (kind : Kind) (name : String) (world : World σ) :
    (Action.metric kind name).exec world
      =
    (.ok ⟨name, kind⟩,
      World.recordAll
        (if (world.metrics.request kind name).hasKind kind name then []
        else [⟨.metrics, .warn, "Metric already registered with a different kind", [("name", name)]⟩])
        { world with metrics := world.metrics.request kind name }) := by
  unfold Action.metric
  rw [Action.exec_bind_ok (Action.exec_change _ world), Action.exec_bind_ok (Action.exec_get _)]
  cases (world.metrics.request kind name).hasKind kind name <;> rfl

@[simp]
theorem metrics_recordAll (events : List Log.Event) (world : World σ) :
    (World.recordAll events world).metrics = world.metrics := by
  induction events generalizing world with
  | nil => rfl
  | cons event events ih => exact ih (world.record event)

end ServiceHost.Metrics
