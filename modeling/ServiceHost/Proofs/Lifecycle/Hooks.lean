import ServiceHost.Lifecycle.Managed
import ServiceHost.Proofs.Action

/-!
This module contains the calls of the hooks of managed objects, as an observer sees them who keeps a
history in the state of the application, and the reports about the hooks that failed.
-/

namespace ServiceHost.Lifecycle

variable {σ α : Type}

inductive Hook where
  | start
  | stop
  deriving DecidableEq, Repr

namespace Hook

def of : Hook → Managed σ → Action σ (Except String Unit)
  | .start => Managed.start
  | .stop => Managed.stop

def call : Hook → Managed σ → Action σ Unit
  | .start => Objects.startOne
  | .stop => Objects.stopOne

def success : Hook → String → Log.Event
  | .start, name => ⟨.lifecycle, .debug, "Managed object started", [("name", name)]⟩
  | .stop, name => ⟨.lifecycle, .debug, "Managed object stopped", [("name", name)]⟩

def failure : Hook → String → String → Log.Event
  | .start, name, e => ⟨.lifecycle, .warn, "Managed object failed to start", [("name", name), ("error", e)]⟩
  | .stop, name, e => ⟨.lifecycle, .warn, "Managed object failed to stop", [("name", name), ("error", e)]⟩

@[simp]
theorem of_start (object : Managed σ) : Hook.start.of object = object.start := by
  rfl

@[simp]
theorem of_stop (object : Managed σ) : Hook.stop.of object = object.stop := by
  rfl

@[simp]
theorem call_start (object : Managed σ) : Hook.start.call object = Objects.startOne object := by
  rfl

@[simp]
theorem call_stop (object : Managed σ) : Hook.stop.call object = Objects.stopOne object := by
  rfl

theorem call_exec (hook : Hook) (object : Managed σ) (world : World σ) :
    (hook.call object).exec world
      =
    match (hook.of object).exec world with
    | (.ok (.ok ()), world) => (.ok (), world.record (hook.success object.name))
    | (.ok (.error e), world) => (.ok (), world.record (hook.failure object.name e))
    | (.error fault, world) => (.error fault, world) := by
  cases hook with
  | start =>
    rw [call_start, of_start]
    unfold Objects.startOne
    rw [Action.exec_bind]
    rcases object.start.exec world with ⟨fault | e | _, world⟩ <;> rfl
  | stop =>
    rw [call_stop, of_stop]
    unfold Objects.stopOne
    rw [Action.exec_bind]
    rcases object.stop.exec world with ⟨fault | e | _, world⟩ <;> rfl

end Hook

inductive Moment where
  | called (hook : Hook) (position : Nat) (result : Except String Unit)
  | answered

def warnings (world : World σ) : List Log.Event :=
  (world.journal.map (·.event)).filter fun event => event.source = .lifecycle ∧ event.severity = .warn

/-- Between two worlds, an observer has seen some moments, and some failures of hooks were reported. -/
structure Passes (view : σ → List Moment) (moments : List Moment) (failures : List Log.Event)
    (before after : World σ) : Prop where
  seen : view after.state = view before.state ++ moments
  warned : warnings after = warnings before ++ failures

def Shows (view : σ → List Moment) (shown : α → List Moment → Prop) (action : Action σ α) : Prop :=
  ∀ world, ∃ a moments world',
    action.exec world = (.ok a, world') ∧ shown a moments ∧ Passes view moments [] world world'

variable {view : σ → List Moment}

namespace Passes

theorem trans {first second third : World σ} {moments moments' : List Moment}
    {failures failures' : List Log.Event} (h : Passes view moments failures first second)
    (h' : Passes view moments' failures' second third) :
    Passes view (moments ++ moments') (failures ++ failures') first third := by
  constructor
  . rw [h'.seen, h.seen, List.append_assoc]
  . rw [h'.warned, h.warned, List.append_assoc]

theorem of_eq {before after : World σ}
    (h : (after.state, warnings after) = (before.state, warnings before)) :
    Passes view [] [] before after := by
  rw [Prod.mk.injEq] at h
  constructor
  . rw [h.1, List.append_nil]
  . rw [h.2, List.append_nil]

end Passes

theorem shows_pure {shown : α → List Moment → Prop} {a : α} (h : shown a []) :
    Shows view shown (pure a : Action σ α) := by
  intro world
  exact ⟨a, [], world, rfl, h, .of_eq rfl⟩

theorem Shows.bind {β : Type} {shown : α → List Moment → Prop} {shown' : β → List Moment → Prop}
    {action : Action σ α} {next : α → Action σ β} (h : Shows view shown action)
    (hnext : ∀ a moments, shown a moments → Shows view (fun b later => shown' b (moments ++ later)) (next a)) :
    Shows view shown' (action >>= next) := by
  intro world
  obtain ⟨a, moments, mid, hexec, hshown, hpasses⟩ := h world
  obtain ⟨b, later, last, hexec', hshown', hpasses'⟩ := hnext a moments hshown mid
  exact ⟨b, moments ++ later, last, by rw [Action.exec_bind_ok hexec, hexec'], hshown', hpasses.trans hpasses'⟩

theorem Shows.mono {shown shown' : α → List Moment → Prop} {action : Action σ α} (h : Shows view shown action)
    (himp : ∀ a moments, shown a moments → shown' a moments) : Shows view shown' action := by
  intro world
  obtain ⟨a, moments, world', hexec, hshown, hpasses⟩ := h world
  exact ⟨a, moments, world', hexec, himp a moments hshown, hpasses⟩

theorem warnings_record (event : Log.Event) (world : World σ) :
    warnings (world.record event)
      =
    warnings world ++ [event].filter fun event => event.source = .lifecycle ∧ event.severity = .warn := by
  simp [warnings, World.record]

theorem passes_record_success (hook : Hook) (name : String) (world : World σ) :
    Passes view [] [] world (world.record (hook.success name)) := by
  apply Passes.of_eq
  rw [warnings_record]
  cases hook <;> simp [World.record, Hook.success]

theorem passes_record_failure (hook : Hook) (name e : String) (world : World σ) :
    Passes view [] [hook.failure name e] world (world.record (hook.failure name e)) := by
  constructor
  . simp [World.record]
  . rw [warnings_record]
    cases hook <;> simp [Hook.failure]

def Observed (view : σ → List Moment) (objects : List (Managed σ)) : Prop :=
  ∀ i object, objects[i]? = some object → ∀ hook : Hook,
    Shows view (fun result moments => moments = [.called hook i result]) (hook.of object)

structure Turn (σ : Type) where
  object : Managed σ
  position : Nat
  result : Except String Unit

namespace Turn

def place (turn : Turn σ) : Managed σ × Nat :=
  (turn.object, turn.position)

def moment (hook : Hook) (turn : Turn σ) : Moment :=
  .called hook turn.position turn.result

def failure? (hook : Hook) (turn : Turn σ) : Option Log.Event :=
  match turn.result with
  | .ok () => none
  | .error e => some (hook.failure turn.object.name e)

end Turn

theorem call_passes {hook : Hook} {object : Managed σ} {i : Nat}
    (h : Shows view (fun result moments => moments = [.called hook i result]) (hook.of object))
    (world : World σ) :
    ∃ turn : Turn σ,
      turn.place = (object, i)
        ∧
      ∃ world',
        (hook.call object).exec world = (.ok (), world')
          ∧
        Passes view [turn.moment hook] (turn.failure? hook).toList world world' := by
  obtain ⟨result, moments, world', hexec, hmoments, hpasses⟩ := h world
  subst hmoments
  refine ⟨⟨object, i, result⟩, rfl, ?_⟩
  cases result with
  | ok =>
    refine ⟨world'.record (hook.success object.name), ?_, ?_⟩
    . rw [Hook.call_exec, hexec]
    . exact hpasses.trans (passes_record_success hook object.name world')
  | error e =>
    refine ⟨world'.record (hook.failure object.name e), ?_, ?_⟩
    . rw [Hook.call_exec, hexec]
    . exact hpasses.trans (passes_record_failure hook object.name e world')

theorem calls_pass {hook : Hook} {places : List (Managed σ × Nat)}
    (h : ∀ place ∈ places,
      Shows view (fun result moments => moments = [.called hook place.2 result]) (hook.of place.1))
    (world : World σ) :
    ∃ turns : List (Turn σ),
      turns.map Turn.place = places
        ∧
      ∃ world',
        ((places.map (·.1)).forM hook.call).exec world = (.ok (), world')
          ∧
        Passes view (turns.map (Turn.moment hook)) (turns.filterMap (Turn.failure? hook)) world world' := by
  -- a failure is only reported, so the next turn starts from whatever world this one has left
  induction places generalizing world with
  | nil => exact ⟨[], rfl, world, rfl, .of_eq rfl⟩
  | cons place places ih =>
    obtain ⟨turn, hturn, world₁, hcall, hpasses⟩ := call_passes (h place List.mem_cons_self) world
    obtain ⟨turns, hturns, world₂, hcalls, hpasses'⟩ :=
      ih (fun other hother => h other (List.mem_cons_of_mem place hother)) world₁
    refine ⟨turn :: turns, by rw [List.map_cons, hturn, hturns], world₂, ?_, ?_⟩
    . show (hook.call place.1 >>= fun _ => (places.map (·.1)).forM hook.call).exec world = _
      rw [Action.exec_bind_ok hcall, hcalls]
    . have htoList : (turn :: turns).filterMap (Turn.failure? hook)
          = (turn.failure? hook).toList ++ turns.filterMap (Turn.failure? hook) := by
        rw [List.filterMap_cons]
        cases turn.failure? hook <;> rfl
      rw [htoList]
      exact hpasses.trans hpasses'

theorem Observed.shows {objects : List (Managed σ)} (h : Observed view objects) (hook : Hook)
    (place : Managed σ × Nat) (hplace : place ∈ objects.zipIdx) :
    Shows view (fun result moments => moments = [.called hook place.2 result]) (hook.of place.1) := by
  apply h
  rw [List.mem_zipIdx_iff_getElem?] at hplace
  exact hplace

theorem Objects.start_passes (objects : Objects σ) (h : Observed view objects.objects)
    (world : World σ) :
    ∃ turns : List (Turn σ),
      turns.map Turn.place = objects.objects.zipIdx
        ∧
      ∃ world',
        objects.start.exec world = (.ok (), world')
          ∧
        Passes view (turns.map (Turn.moment .start)) (turns.filterMap (Turn.failure? .start))
          world world' := by
  obtain ⟨turns, hturns, world', hexec, hpasses⟩ := calls_pass (h.shows .start) world
  refine ⟨turns, hturns, world', ?_, hpasses⟩
  rw [List.zipIdx_map_fst] at hexec
  exact hexec

theorem Objects.stop_passes (objects : Objects σ) (h : Observed view objects.objects)
    (world : World σ) :
    ∃ turns : List (Turn σ),
      turns.map Turn.place = objects.objects.zipIdx.reverse
        ∧
      ∃ world',
        objects.stop.exec world = (.ok (), world')
          ∧
        Passes view (turns.map (Turn.moment .stop)) (turns.filterMap (Turn.failure? .stop))
          world world' := by
  have hreverse : ∀ place ∈ objects.objects.zipIdx.reverse,
      Shows view (fun result moments => moments = [.called .stop place.2 result])
        (Hook.stop.of place.1) := by
    intro place hplace
    exact h.shows .stop place (List.mem_reverse.mp hplace)
  obtain ⟨turns, hturns, world', hexec, hpasses⟩ := calls_pass hreverse world
  refine ⟨turns, hturns, world', ?_, hpasses⟩
  rw [List.map_reverse, List.zipIdx_map_fst] at hexec
  exact hexec

end ServiceHost.Lifecycle
