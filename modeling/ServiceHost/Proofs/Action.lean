import ServiceHost.World

/-!
This module contains what actions come to when they are carried out: one equation for each way to build
an action, and the actions that always come back without touching some part of the world.
-/

namespace ServiceHost

def World.idle {σ : Type} (state : σ) : World σ :=
  let host : Host := {
    files := ⟨[], []⟩
    process := ⟨[], 1, 1, 1, 0, ⟨0, 0, 0, 0, 0, 0, 0⟩, none⟩
    network := { owns _ := true, connects := true } }
  .new host (.new .info) state

namespace World

variable {σ : Type}

def events (world : World σ) : List Log.Event :=
  world.journal.map (·.event)

def recordAll (events : List Log.Event) (world : World σ) : World σ :=
  events.foldl (fun world event => world.record event) world

@[simp]
theorem recordAll_nil (world : World σ) : recordAll [] world = world := by
  rfl

theorem recordAll_cons (event : Log.Event) (events : List Log.Event) (world : World σ) :
    recordAll (event :: events) world = recordAll events (world.record event) := by
  rfl

theorem recordAll_append (events events' : List Log.Event) (world : World σ) :
    recordAll (events ++ events') world = recordAll events' (recordAll events world) := by
  unfold recordAll
  rw [List.foldl_append]

@[simp]
theorem events_record (event : Log.Event) (world : World σ) :
    (world.record event).events = world.events ++ [event] := by
  simp [World.events, World.record]

@[simp]
theorem events_recordAll (events : List Log.Event) (world : World σ) :
    (recordAll events world).events = world.events ++ events := by
  induction events generalizing world with
  | nil => simp
  | cons event events ih => simp [recordAll_cons, ih]

end World

namespace Action

variable {σ α β γ : Type}

@[simp]
theorem exec_pure (a : α) (world : World σ) :
    (pure a : Action σ α).exec world = (.ok a, world) := by
  rfl

theorem exec_bind (action : Action σ α) (next : α → Action σ β) (world : World σ) :
    (action >>= next).exec world
      =
    match action.exec world with
    | (.ok a, world) => (next a).exec world
    | (.error fault, world) => (.error fault, world) := by
  unfold exec
  rw [ExceptT.run_bind, StateT.run_bind]
  rcases StateT.run action.run world with ⟨result, world⟩
  cases result with
  | ok a => rfl
  | error fault => rfl

theorem exec_bind_ok {action : Action σ α} {next : α → Action σ β} {a : α} {world world' : World σ}
    (h : action.exec world = (.ok a, world')) :
    (action >>= next).exec world = (next a).exec world' := by
  rw [exec_bind, h]

theorem exec_bind_error {action : Action σ α} {next : α → Action σ β} {fault : Fault}
    {world world' : World σ} (h : action.exec world = (.error fault, world')) :
    (action >>= next).exec world = (.error fault, world') := by
  rw [exec_bind, h]

theorem exec_bind_eq_ok {action : Action σ α} {next : α → Action σ β} {b : β} {world last : World σ}
    (h : (action >>= next).exec world = (.ok b, last)) :
    ∃ a mid, action.exec world = (.ok a, mid) ∧ (next a).exec mid = (.ok b, last) := by
  rw [exec_bind] at h
  split at h
  . next a mid hexec => exact ⟨a, mid, hexec, h⟩
  . cases h

theorem exec_bind_pure (action : Action σ α) (f : α → β) (world : World σ) :
    (action >>= fun a => pure (f a)).exec world
      =
    ((action.exec world).1.map f, (action.exec world).2) := by
  rw [exec_bind]
  cases h : action.exec world with
  | mk result world' => cases result <;> rfl

theorem exec_mk (step : World σ → Except Fault α × World σ) (world : World σ) :
    exec (step : Action σ α) world = step world := by
  rfl

theorem exec_bind_attempt {action : Action σ α} {next : Except Fault α → Action σ β} {result : Except Fault α}
    {world world' : World σ} (h : action.exec world = (result, world')) :
    (attempt action >>= next).exec world = (next result).exec world' := by
  have hattempt : (attempt action).exec world = (.ok (action.exec world).1, (action.exec world).2) := rfl
  rw [exec_bind_ok hattempt, h]

theorem exec_recover_of_panicked {action onPanic : Action σ α} {world world' : World σ}
    (h : action.exec world = (.error .panicked, world')) :
    (recover action onPanic).exec world = onPanic.exec world' := by
  unfold recover
  rw [exec_mk, h]
  rfl

theorem exec_recover_of_ne {action onPanic : Action σ α} {world : World σ}
    (h : (action.exec world).1 ≠ .error .panicked) :
    (recover action onPanic).exec world = action.exec world := by
  unfold recover
  rw [exec_mk]
  split
  . next hpanicked => exact absurd (congrArg Prod.fst hpanicked) h
  . rfl

@[simp]
theorem exec_get (world : World σ) : (get : Action σ (World σ)).exec world = (.ok world, world) := by
  rfl

@[simp]
theorem exec_change (f : World σ → World σ) (world : World σ) :
    (change f).exec world = (.ok (), f world) := by
  rfl

@[simp]
theorem exec_fail (fault : Fault) (world : World σ) :
    (fail fault : Action σ α).exec world = (.error fault, world) := by
  rfl

@[simp]
theorem exec_log (source : Log.Source) (severity : Log.Severity) (message : String)
    (fields : List (String × String)) (world : World σ) :
    (log source severity message fields).exec world
      =
    (.ok (), world.record ⟨source, severity, message, fields⟩) := by
  rfl

@[simp]
theorem exec_print (text : String) (world : World σ) :
    (print text).exec world = (.ok (), { world with output := world.output ++ text }) := by
  rfl

@[simp]
theorem exec_listen (address : SocketAddress) (world : World σ) :
    (listen address).exec world
      =
    (.ok (), { world with listening := world.listening ++ [address] }) := by
  rfl

def Returns (p : α → Prop) (action : Action σ α) : Prop :=
  ∀ world a world', action.exec world = (.ok a, world') → p a

theorem returns_pure {p : α → Prop} {a : α} (h : p a) : Returns p (pure a : Action σ α) := by
  intro world b world' hexec
  cases hexec
  exact h

theorem returns_any (action : Action σ α) : Returns (fun _ => True) action := by
  intro _ _ _ _
  trivial

theorem Returns.bind {p : α → Prop} {q : β → Prop} {action : Action σ α} {next : α → Action σ β}
    (h : Returns p action) (hnext : ∀ a, p a → Returns q (next a)) : Returns q (action >>= next) := by
  intro world b world' hexec
  rw [exec_bind] at hexec
  split at hexec
  . next a world₁ hfirst => exact hnext a (h world a world₁ hfirst) world₁ b world' hexec
  . cases hexec

/-- An action that always comes back, and leaves a part of the world as it is. -/
def Spares (part : World σ → γ) (action : Action σ α) : Prop :=
  ∀ world, ∃ a world', action.exec world = (.ok a, world') ∧ part world' = part world

variable {part : World σ → γ}

theorem spares_pure (a : α) : Spares part (pure a : Action σ α) := by
  intro world
  exact ⟨a, world, exec_pure a world, rfl⟩

theorem spares_get : Spares part (get : Action σ (World σ)) := by
  intro world
  exact ⟨world, world, exec_get world, rfl⟩

theorem spares_change {f : World σ → World σ} (h : ∀ world, part (f world) = part world) :
    Spares part (change f) := by
  intro world
  exact ⟨(), f world, exec_change f world, h world⟩

theorem Spares.bind {action : Action σ α} {next : α → Action σ β} (h : Spares part action)
    (hnext : ∀ a, Spares part (next a)) : Spares part (action >>= next) := by
  intro world
  obtain ⟨a, world₁, hexec, hpart⟩ := h world
  obtain ⟨b, world₂, hexec', hpart'⟩ := hnext a world₁
  refine ⟨b, world₂, ?_, hpart'.trans hpart⟩
  rw [exec_bind_ok hexec, hexec']

theorem spares_forM {items : List α} {visit : α → Action σ PUnit}
    (h : ∀ a ∈ items, Spares part (visit a)) : Spares part (items.forM visit) := by
  induction items with
  | nil => exact spares_pure ()
  | cons a items ih =>
    rw [List.forM_eq_forM, List.forM_cons]
    apply Spares.bind (h a List.mem_cons_self)
    intro _
    apply ih
    intro b hb
    exact h b (List.mem_cons_of_mem a hb)

theorem Spares.part_eq {action : Action σ α} {a : α} {world world' : World σ} (h : Spares part action)
    (hexec : action.exec world = (.ok a, world')) : part world' = part world := by
  obtain ⟨b, world₁, hexec', hpart⟩ := h world
  rw [hexec] at hexec'
  cases hexec'
  exact hpart

/-- An action that leaves a part of the world as it is, also where it ends with a fault. -/
def Keeps (part : World σ → γ) (action : Action σ α) : Prop :=
  ∀ world, part (action.exec world).2 = part world

theorem Spares.keeps {action : Action σ α} (h : Spares part action) : Keeps part action := by
  intro world
  obtain ⟨a, world', hexec, hpart⟩ := h world
  rw [hexec]
  exact hpart

theorem keeps_pure (a : α) : Keeps part (pure a : Action σ α) :=
  (spares_pure a).keeps

theorem keeps_fail (fault : Fault) : Keeps part (fail fault : Action σ α) := by
  intro world
  rfl

theorem Keeps.bind {action : Action σ α} {next : α → Action σ β} (h : Keeps part action)
    (hnext : ∀ a, Keeps part (next a)) : Keeps part (action >>= next) := by
  intro world
  have hfirst := h world
  rw [exec_bind]
  split
  . next a world₁ hexec =>
    rw [hexec] at hfirst
    exact (hnext a world₁).trans hfirst
  . next fault world₁ hexec =>
    rw [hexec] at hfirst
    exact hfirst

theorem keeps_forM {items : List α} {visit : α → Action σ PUnit}
    (h : ∀ a ∈ items, Keeps part (visit a)) : Keeps part (items.forM visit) := by
  induction items with
  | nil => exact keeps_pure ()
  | cons a items ih =>
    rw [List.forM_eq_forM, List.forM_cons]
    apply Keeps.bind (h a List.mem_cons_self)
    intro _
    apply ih
    intro b hb
    exact h b (List.mem_cons_of_mem a hb)

theorem Keeps.recover {action onPanic : Action σ α} (h : Keeps part action) (hpanic : Keeps part onPanic) :
    Keeps part (recover action onPanic) := by
  intro world
  have haction := h world
  by_cases hpanicked : (action.exec world).1 = .error .panicked
  . rw [exec_recover_of_panicked (Prod.ext hpanicked rfl)]
    exact (hpanic _).trans haction
  . rw [exec_recover_of_ne hpanicked]
    exact haction

structure Unlogged (part : World σ → γ) (sources : Log.Source → Prop) : Prop where
  record : ∀ event world, sources event.source → part (World.record event world) = part world

theorem Unlogged.log {sources : Log.Source → Prop} (h : Unlogged part sources) {source : Log.Source}
    {severity : Log.Severity} {message : String} {fields : List (String × String)} (hsource : sources source) :
    Spares part (log source severity message fields) := by
  apply spares_change
  intro world
  exact h.record ⟨source, severity, message, fields⟩ world hsource

theorem Unlogged.part_recordAll (h : Unlogged part fun _ => True) (events : List Log.Event) (world : World σ) :
    part (world.recordAll events) = part world := by
  induction events generalizing world with
  | nil => rfl
  | cons event events ih =>
    rw [World.recordAll_cons, ih]
    exact h.record event world trivial

structure Aside (part : World σ → γ) (sources : Log.Source → Prop) : Prop extends Unlogged part sources where
  levels : ∀ levels filter wiring world, part { world with levels, filter, wiring } = part world

namespace Aside

variable {sources : Log.Source → Prop}

theorem applyLevels (h : Aside part sources) (hsource : sources .levels) :
    Spares part applyLevels := by
  unfold Action.applyLevels
  apply Spares.bind spares_get
  intro world
  split
  . split
    . exact h.log hsource
    . next filter _ =>
      split
      . apply spares_change
        intro world
        exact h.levels world.levels (some filter) world.wiring world
      . exact h.log hsource
  . exact spares_pure ()

theorem setLevel (h : Aside part sources) (hsource : sources .levels) (logger : String)
    (level : Log.Level) : Spares part (setLevel logger level) := by
  unfold Action.setLevel
  apply Spares.bind spares_get
  intro world
  split
  . next levels _ =>
    apply Spares.bind
    . apply spares_change
      intro world
      exact h.levels levels world.filter world.wiring world
    . intro _
      apply Spares.bind (h.applyLevels hsource)
      intro _
      exact spares_pure true
  . exact spares_pure false
  . apply Spares.bind (h.log hsource)
    intro _
    exact spares_pure false

end Aside

structure Apart (part : World σ → γ) (sources : Log.Source → Prop) : Prop extends Aside part sources where
  metrics : ∀ metrics world, part { world with metrics } = part world

namespace Apart

variable {sources : Log.Source → Prop}

theorem changeMetrics (h : Apart part sources) (f : World σ → Metrics.Registry σ) :
    Spares part (change fun world => { world with metrics := f world }) := by
  apply spares_change
  intro world
  exact h.metrics (f world) world

theorem metric (h : Apart part sources) (hsource : sources .metrics) (kind : Metrics.Kind)
    (name : String) : Spares part (metric kind name) := by
  unfold Action.metric
  apply Spares.bind (h.changeMetrics fun world => world.metrics.request kind name)
  intro _
  apply Spares.bind spares_get
  intro world
  dsimp only
  split
  . apply Spares.bind (h.log hsource)
    intro _
    exact spares_pure _
  . exact spares_pure _

theorem publishMetric (h : Apart part sources) (hsource : sources .metrics) (name : String)
    (read : σ → Except Fault Json.Value) : Spares part (publishMetric name read) := by
  unfold Action.publishMetric
  apply Spares.bind spares_get
  intro world
  apply Spares.bind (h.changeMetrics fun world => world.metrics.publish name read)
  intro _
  split
  . exact h.log hsource
  . exact spares_pure ()

end Apart

end Action
end ServiceHost
