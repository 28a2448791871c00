import ServiceHost.Scenario.Stage

/-!
This module contains the steps in which scripted applications use metrics.
-/

namespace ServiceHost.Scenario

inductive MetricStep where
  | use (kind : Metrics.Kind) (name : String) (updates : List Metrics.Update) (keepAs : Option String)
  | held (name : String) (updates : List Metrics.Update)
  | publish (name : String) (value : Json)
  | idle

def MetricStep.perform : MetricStep → Action Stage Unit
  | .use kind name updates keepAs => do
    let handle ← Action.metric kind name
    updates.forM (Action.updateMetric handle)
    if let some id := keepAs then
      change fun s => { s with handles := s.handles.insert id handle }
  | .held name updates => do
    if let some handle := (← get).state.handles.find? name then
      updates.forM (Action.updateMetric handle)
  | .publish name value => Action.publishMetric name fun _ => .ok (.ofJson value)
  | .idle => return ()

end ServiceHost.Scenario
