import ServiceHost.Proofs.Action
import ServiceHost.Proofs.Traversal

/-!
This module contains what the metrics are shown as, and when they are not shown at all: some code of the
application is read for one of them, and ends with a fault.
-/

namespace ServiceHost

variable {σ : Type}

namespace Metrics

def object (members : List (String × Json)) : String :=
  .ofList ('\x7b' :: Text.join [','] (members.map fun (name, value) => Registry.member name value) ++ ['\x7d'])

theorem Registry.render_eq_ok_iff {registry : Registry σ} {state : σ} {text : String} :
    registry.render state = .ok text
      ↔
    ∃ members,
      List.Forall₂ (fun entry member => entry.1 = member.1 ∧ entry.2.toJson state = .ok member.2)
          registry.contents.entries members
        ∧
      text = object members := by
  let shows (entry : String × Variable σ) (shown : String × Json) : Prop :=
    entry.1 = shown.1 ∧ entry.2.toJson state = .ok shown.2
  have hmember (entry : String × Variable σ) (chars : List Char) :
      (entry.2.toJson state >>= fun value => pure (member entry.1 value)) = .ok chars
        ↔
      ∃ shown, shows entry shown ∧ member shown.1 shown.2 = chars := by
    rw [bind_pure_eq_ok_iff]
    constructor
    . rintro ⟨value, hvalue, hchars⟩
      exact ⟨(entry.1, value), ⟨rfl, hvalue⟩, hchars⟩
    . rintro ⟨⟨_, value⟩, ⟨rfl, hvalue⟩, hchars⟩
      exact ⟨value, hvalue, hchars⟩
  unfold render object
  rw [bind_pure_eq_ok_iff]
  simp only [mapM_eq_ok_iff, hmember, forall₂_map_iff]
  constructor
  . rintro ⟨_, ⟨members, hall, rfl⟩, rfl⟩
    exact ⟨members, hall, rfl⟩
  . rintro ⟨members, hall, rfl⟩
    exact ⟨_, ⟨members, hall, rfl⟩, rfl⟩

/-- The first variable that shows no value is a published one, and its reader ends with this fault. -/
def Registry.Breaks (registry : Registry σ) (state : σ) (fault : Fault) : Prop :=
  ∃ name read,
    List.find? (fun entry => !(entry.2.toJson state).isOk) registry.contents.entries = some (name, .published read)
      ∧
    read state = .error fault

theorem Variable.toJson_eq_error_iff {v : Variable σ} {state : σ} {fault : Fault} :
    v.toJson state = .error fault ↔ ∃ read, v = .published read ∧ read state = .error fault := by
  cases v with
  | published read =>
    refine bind_pure_eq_error_iff.trans ?_
    simp
  | _ => simp [toJson]

theorem Registry.render_eq_error_iff {registry : Registry σ} {state : σ} {fault : Fault} :
    registry.render state = .error fault ↔ registry.Breaks state fault := by
  let shown (entry : String × Variable σ) : Except Fault (List Char) :=
    entry.2.toJson state >>= fun value => pure (member entry.1 value)
  have hshown (entry : String × Variable σ) : (shown entry).isOk = (entry.2.toJson state).isOk := by
    unfold shown
    cases entry.2.toJson state <;> rfl
  have hrender : registry.render state = .error fault ↔ List.mapM shown registry.contents.entries = .error fault :=
    bind_pure_eq_error_iff
  rw [hrender, mapM_eq_error_iff]
  simp only [hshown, shown, bind_pure_eq_error_iff, Variable.toJson_eq_error_iff]
  constructor
  . rintro ⟨⟨name, v⟩, hfound, read, rfl, hread⟩
    exact ⟨name, read, hfound, hread⟩
  . rintro ⟨name, read, hfound, hread⟩
    exact ⟨_, hfound, read, rfl, hread⟩

end Metrics

theorem Action.metricsJson_exec (world : World σ) :
    Action.metricsJson.exec world = (world.metrics.render world.state, world) := by
  unfold Action.metricsJson
  rw [Action.exec_bind_ok (Action.exec_get world)]
  cases world.metrics.render world.state <;> rfl

end ServiceHost
