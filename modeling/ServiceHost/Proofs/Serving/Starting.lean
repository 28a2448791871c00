import ServiceHost.Proofs.Lifecycle.Hooks
import ServiceHost.Serving.Service

/-!
This module contains the start of a service: the admin side, the routers, the managed objects and the
connectors, one after the other. Of these, an observer of hooks sees the managed objects only.
-/

namespace ServiceHost

variable {σ : Type}

def Lifecycle.watched (world : World σ) : σ × List Log.Event :=
  (world.state, Lifecycle.warnings world)

theorem Lifecycle.apart_watched : Action.Apart (watched (σ := σ)) (· ≠ .lifecycle) where
  record event world h := by
    unfold watched
    rw [warnings_record]
    simp [World.record, h]
  metrics _ _ := by rfl
  levels _ _ _ _ := by rfl

section Start

variable {γ : Type} {part : World σ → γ} {sources : Log.Source → Prop}

theorem Http.RouteTable.spares_attach (h : Action.Unlogged part sources) (hsource : sources .routes)
    (table : RouteTable (Endpoint σ)) (method : Method) (path : String) (endpoint : Endpoint σ) :
    Action.Spares part (table.attach method path endpoint) := by
  unfold attach
  split
  . exact Action.spares_pure _
  . apply Action.Spares.bind (h.log hsource)
    intro _
    exact Action.spares_pure _

namespace Admin.Registry

theorem spares_attach (h : Action.Unlogged part sources) (hsource : sources .routes)
    (table : Http.RouteTable (Http.Endpoint σ)) (bindings : List (Http.Method × String × Http.Endpoint σ)) :
    Action.Spares part (attach table bindings) := by
  induction bindings generalizing table with
  | nil => exact Action.spares_pure _
  | cons binding bindings ih =>
    unfold attach
    apply Action.Spares.bind (table.spares_attach h hsource _ _ _)
    intro attached
    split
    . apply ih
    . exact Action.spares_pure _

theorem spares_announce (h : Action.Unlogged part sources) (hsource : sources .admin) (registry : Registry σ)
    (context : String) : Action.Spares part (registry.announce context) := by
  unfold announce
  apply Action.Spares.bind (h.log hsource)
  intro _
  dsimp only
  split
  . apply Action.Spares.bind (h.log hsource)
    intro _
    exact h.log hsource
  . exact h.log hsource

theorem spares_start (h : Action.Unlogged part sources) (hroutes : sources .routes) (hadmin : sources .admin)
    (registry : Registry σ) (table : Http.RouteTable (Http.Endpoint σ)) :
    Action.Spares part (registry.start table) := by
  unfold start
  apply Action.Spares.bind (spares_attach h hroutes table _)
  intro attached
  split
  . exact Action.spares_pure _
  . apply Action.Spares.bind (spares_announce h hadmin _ _)
    intro _
    exact Action.spares_pure _

end Admin.Registry

theorem Serving.spares_announce (h : Action.Unlogged part sources) (hsource : sources .server)
    (connectors : List BoundConnector) : Action.Spares part (connectors.forM announce) := by
  apply Action.spares_forM
  intro connector _
  exact h.log hsource

end Start

theorem Admin.Registry.spares_start_watched (registry : Registry σ) (table : Http.RouteTable (Http.Endpoint σ)) :
    Action.Spares Lifecycle.watched (registry.start table) := by
  apply registry.spares_start Lifecycle.apart_watched.toUnlogged
  . decide
  . decide

namespace Serving

open Lifecycle

variable {view : σ → List Moment}

theorem routerOf_exec (table : Http.RouteTable (Http.Endpoint σ)) (world : World σ) :
    (routerOf table).exec world = (table.router?.elim (.error .panicked) .ok, world) := by
  unfold routerOf
  cases table.router? with
  | none => rfl
  | some router => rfl

theorem routerOf_eq_ok {table : Http.RouteTable (Http.Endpoint σ)} {router : Http.Router (Http.Endpoint σ)}
    {world last : World σ} (h : (routerOf table).exec world = (.ok router, last)) :
    table.router? = some router ∧ last = world := by
  rw [routerOf_exec] at h
  cases hsome : table.router? with
  | none =>
    rw [hsome] at h
    cases h
  | some found =>
    rw [hsome] at h
    cases h
    exact ⟨rfl, rfl⟩

theorem applicationRouter_exec_of_spares {γ : Type} {part : World σ → γ}
    (hcounter : Action.Spares part (Action.metric requestCounter.kind requestCounter.name))
    (hdurations : Action.Spares part (Action.metric requestDurations.kind requestDurations.name))
    (table : Http.RouteTable (Http.Endpoint σ)) (world : World σ) :
    ∃ world',
      (applicationRouter table).exec world = (table.router?.elim (.error .panicked) .ok, world')
        ∧
      part world' = part world := by
  obtain ⟨_, world₁, hrequested, hpart⟩ := hcounter world
  obtain ⟨_, world₂, hrequested', hpart'⟩ := hdurations world₁
  refine ⟨world₂, ?_, hpart'.trans hpart⟩
  unfold applicationRouter
  rw [Action.exec_bind_ok hrequested, Action.exec_bind_ok hrequested', routerOf_exec]

theorem applicationRouter_exec (table : Http.RouteTable (Http.Endpoint σ)) (world : World σ) :
    ∃ world',
      (applicationRouter table).exec world = (table.router?.elim (.error .panicked) .ok, world')
        ∧
      watched world' = watched world := by
  apply applicationRouter_exec_of_spares
  . exact apart_watched.metric (by decide) requestCounter.kind requestCounter.name
  . exact apart_watched.metric (by decide) requestDurations.kind requestDurations.name

theorem applicationRouter_eq_ok {table : Http.RouteTable (Http.Endpoint σ)} {router : Http.Router (Http.Endpoint σ)}
    {world last : World σ} (h : (applicationRouter table).exec world = (.ok router, last)) :
    table.router? = some router := by
  obtain ⟨_, hexec, -⟩ := applicationRouter_exec table world
  have hresult := congrArg Prod.fst (h.symm.trans hexec)
  cases hrouter : table.router? with
  | none =>
    rw [hrouter] at hresult
    cases hresult
  | some found =>
    rw [hrouter] at hresult
    cases hresult
    rfl

namespace BoundServer

theorem start_eq_ok_iff (server : BoundServer) {environment : Environment σ} {service : Service σ}
    {before ready : World σ} :
    (server.start environment).exec before = (.ok (.ok service), ready)
      ↔
    ∃ registry adminRoutes application admin world₁ world₂ world₃,
      (environment.admin.start (.new server.adminPath)).exec before
        =
      (.ok (.ok (), registry, adminRoutes), world₁)
        ∧
      (applicationRouter environment.routes).exec world₁ = (.ok application, world₂)
        ∧
      adminRoutes.router? = some admin
        ∧
      environment.objects.close.start.exec world₂ = (.ok (), world₃)
        ∧
      (server.connectors.forM announce).exec world₃ = (.ok (), ready)
        ∧
      service = ⟨server, application, admin, environment.objects.close⟩ := by
  constructor
  . intro hstart
    unfold start at hstart
    obtain ⟨⟨result, registry, adminRoutes⟩, world₁, hadmin, hstart⟩ := Action.exec_bind_eq_ok hstart
    cases result with
    | error e => cases hstart
    | ok started =>
      obtain ⟨application, world₂, happ, hstart⟩ := Action.exec_bind_eq_ok hstart
      obtain ⟨admin, world₃, hadm, hstart⟩ := Action.exec_bind_eq_ok hstart
      obtain ⟨_, world₄, hobjects, hstart⟩ := Action.exec_bind_eq_ok hstart
      obtain ⟨_, world₅, hannounce, hstart⟩ := Action.exec_bind_eq_ok hstart
      cases hstart
      obtain ⟨hrouter, rfl⟩ := routerOf_eq_ok hadm
      exact ⟨registry, adminRoutes, application, admin, world₁, world₃, world₄, hadmin, happ, hrouter, hobjects,
        hannounce, rfl⟩
  . rintro ⟨registry, adminRoutes, application, admin, world₁, world₂, world₃, hadmin, happ, hrouter, hobjects,
      hannounce, rfl⟩
    have hadm := routerOf_exec adminRoutes world₂
    rw [hrouter] at hadm
    unfold start
    rw [Action.exec_bind_ok hadmin]
    dsimp only
    rw [Action.exec_bind_ok happ, Action.exec_bind_ok hadm, Action.exec_bind_ok hobjects]
    rw [Action.exec_bind_ok hannounce]
    rfl

theorem start_exec (server : BoundServer) {environment : Environment σ} {registry : Admin.Registry σ}
    {adminRoutes : Http.RouteTable (Http.Endpoint σ)} {application admin : Http.Router (Http.Endpoint σ)}
    {world world₁ : World σ}
    (hadmin : (environment.admin.start (.new server.adminPath)).exec world
        =
      (.ok (.ok (), registry, adminRoutes), world₁))
    (happlication : environment.routes.router? = some application)
    (hrouter : adminRoutes.router? = some admin)
    (hobjects : Observed view environment.objects.objects) :
    ∃ turns : List (Turn σ),
      turns.map Turn.place = environment.objects.objects.zipIdx
        ∧
      ∃ begun,
        (server.start environment).exec world
          =
        (.ok (.ok ⟨server, application, admin, environment.objects.close⟩), begun)
          ∧
        Passes view (turns.map (Turn.moment .start)) (turns.filterMap (Turn.failure? .start))
          world begun := by
  -- neither the admin side nor the routers can be seen, so the starts are seen from the first world on
  have hsame := (environment.admin.spares_start_watched (.new server.adminPath)).part_eq hadmin
  obtain ⟨world₂, happ, hsame'⟩ := applicationRouter_exec environment.routes world₁
  rw [happlication] at happ
  have hadm := routerOf_exec adminRoutes world₂
  rw [hrouter] at hadm
  obtain ⟨turns, hturns, world₃, hstart, hpasses⟩ :=
    environment.objects.close.start_passes hobjects world₂
  have hannounce : Action.Spares (watched (σ := σ)) (server.connectors.forM announce) :=
    spares_announce apart_watched.toUnlogged (by decide) server.connectors
  obtain ⟨_, begun, hannounced, hsame''⟩ := hannounce world₃
  refine ⟨turns, hturns, begun, ?_, ?_⟩
  . unfold start
    rw [Action.exec_bind_ok hadmin]
    dsimp only
    rw [Action.exec_bind_ok happ, Action.exec_bind_ok hadm, Action.exec_bind_ok hstart]
    rw [Action.exec_bind_ok hannounced]
    rfl
  . have hquiet : Passes view [] [] world world₂ := .of_eq (hsame'.trans hsame)
    have hpassed := (hquiet.trans hpasses).trans (.of_eq hsame'')
    simp only [List.nil_append, List.append_nil] at hpassed
    exact hpassed

theorem start_exec_of_none (server : BoundServer) {environment : Environment σ}
    {registry : Admin.Registry σ} {adminRoutes : Http.RouteTable (Http.Endpoint σ)}
    {world world₁ : World σ}
    (hadmin : (environment.admin.start (.new server.adminPath)).exec world
        =
      (.ok (.ok (), registry, adminRoutes), world₁))
    (hnone : environment.routes.router? = none ∨ adminRoutes.router? = none) :
    ∃ after,
      (server.start environment).exec world = (.error .panicked, after)
        ∧
      watched after = watched world := by
  have hsame := (environment.admin.spares_start_watched (.new server.adminPath)).part_eq hadmin
  obtain ⟨world₂, happ, hsame'⟩ := applicationRouter_exec environment.routes world₁
  refine ⟨world₂, ?_, hsame'.trans hsame⟩
  unfold start
  rw [Action.exec_bind_ok hadmin]
  dsimp only
  cases happlication : environment.routes.router? with
  | none =>
    rw [happlication] at happ
    rw [Action.exec_bind_error happ]
  | some application =>
    rw [happlication] at happ
    have hadm := routerOf_exec adminRoutes world₂
    rw [hnone.resolve_left (by simp [happlication])] at hadm
    rw [Action.exec_bind_ok happ, Action.exec_bind_error hadm]

end BoundServer

end Serving

end ServiceHost
