import ServiceHost.Config.Validation
import ServiceHost.Proofs.Http.Served
import ServiceHost.Proofs.Registration
import ServiceHost.Proofs.Serving.Course

/-!
This module contains when the two routers of a service can be made, under the context paths of a
configuration that was checked. A brace is the only thing that can prevent it.
-/

namespace ServiceHost

variable {σ α : Type}

namespace Configuration

variable {c : Configuration}

theorem isRoutable_of_pathViolations {path : String} (h : Config.pathViolations path = []) :
    Http.Path.isRoutable (Http.Path.normalize path) = true := by
  unfold Config.pathViolations Config.isContextPath at h
  split at h
  . next hpath =>
    rw [Bool.and_eq_true] at hpath
    exact hpath.2
  . cases h

theorem isRoutable_applicationPath (h : c.violations = []) :
    Http.Path.isRoutable (Http.Path.normalize c.server.applicationPath) = true := by
  unfold violations at h
  simp only [List.append_eq_nil_iff] at h
  exact isRoutable_of_pathViolations h.1.1.1.2

theorem isRoutable_adminPath (h : c.violations = []) :
    Http.Path.isRoutable (Http.Path.normalize c.server.adminPath) = true := by
  unfold violations at h
  simp only [List.append_eq_nil_iff] at h
  exact isRoutable_of_pathViolations h.1.1.2

end Configuration

namespace Serving

open Http (RouteTable Endpoint)
open Http.RouteTable (AllEscaped)

/-- An action comes back where a condition holds, and panics where it does not. -/
def PanicsUnless (p : Prop) (action : Action σ α) : Prop :=
  ∀ world,
    (p → ∃ a after, action.exec world = (.ok a, after))
      ∧
    (¬ p → ∃ after, action.exec world = (.error .panicked, after))

theorem panicsUnless_of_exec {p : Prop} {table : RouteTable (Endpoint σ)}
    {action : Action σ (Http.Router (Endpoint σ))} (hp : (∃ router, table.router? = some router) ↔ p)
    (h : ∀ world, ∃ after, action.exec world = (table.router?.elim (.error .panicked) .ok, after)) :
    PanicsUnless p action := by
  intro world
  obtain ⟨after, hexec⟩ := h world
  rw [hexec, ← hp]
  cases table.router? with
  | none => simp
  | some router => simp

theorem panicsUnless_routerOf {p : Prop} {table : RouteTable (Endpoint σ)}
    (hp : (∃ router, table.router? = some router) ↔ p) : PanicsUnless p (routerOf table) := by
  apply panicsUnless_of_exec hp
  intro world
  exact ⟨world, routerOf_exec table world⟩

theorem panicsUnless_applicationRouter {p : Prop} {table : RouteTable (Endpoint σ)}
    (hp : (∃ router, table.router? = some router) ↔ p) : PanicsUnless p (applicationRouter table) := by
  apply panicsUnless_of_exec hp
  intro world
  obtain ⟨after, hexec, -⟩ := applicationRouter_exec table world
  exact ⟨after, hexec⟩

theorem allEscaped_routes_iff (context : String) (table : RouteTable (Endpoint σ)) :
    AllEscaped context table.routes ↔ AllEscaped context table.bound := by
  unfold AllEscaped
  simp only [RouteTable.mem_routes_iff]

/--
Whatever was registered with an environment, both routers are made, unless a bound path has a brace that is
not doubled, or its context path has.
-/
theorem routers_panic_unless_escaped (c : Configuration) (hvalid : c.violations = [])
    (operations : List (Operation σ)) (world : World σ) :
    ∃ answers site,
      Runs operations (.new c, world) answers site
        ∧
      PanicsUnless (AllEscaped (Http.Path.normalize c.server.applicationPath) site.1.routes.routes)
        (applicationRouter site.1.routes)
        ∧
      ∀ before, ∃ adminRoutes after,
        (site.1.admin.start (.new c.server.adminPath)).exec before
          =
        (.ok (.ok (), site.1.admin.close, adminRoutes), after)
          ∧
        PanicsUnless (AllEscaped (Http.Path.normalize c.server.adminPath) site.1.admin.pairs)
          (routerOf adminRoutes) := by
  obtain ⟨answers, site, hruns⟩ := Runs.exists_runs operations (.new c, world)
  refine ⟨answers, site, hruns, ?_, ?_⟩
  . obtain ⟨calls, hbinds⟩ := hruns.routes
    apply panicsUnless_applicationRouter
    rw [allEscaped_routes_iff]
    exact hbinds.exists_router_iff (Configuration.isRoutable_applicationPath hvalid)
  . intro before
    have hsound := hruns.sound Admin.Registry.sound_new
    obtain ⟨adminRoutes, hbinds, hexec⟩ := hsound.start_of_new c.server.adminPath before
    refine ⟨adminRoutes, _, hexec, ?_⟩
    apply panicsUnless_routerOf
    rw [hbinds.exists_router_iff (Configuration.isRoutable_adminPath hvalid), hbinds.bound]
    rw [Admin.Registry.map_pair_calls]
    rfl

def bracedOperations : List (Operation Unit) :=
  [.route .get "/a\x7d" (fun _ => return .empty 200), .route .get "/b" (fun _ => return .empty 200),
   .view ⟨"Braces", "/a\x7d\x7d", fun _ _ => return .empty 200⟩]

theorem routers_panic_unless_escaped_of_bracedOperations :
    Configuration.default.violations = []
      ∧
    ∃ answers site,
      Runs bracedOperations (.new .default, .idle ()) answers site
        ∧
      PanicsUnless (AllEscaped "/" site.1.routes.routes) (applicationRouter site.1.routes)
        ∧
      ∀ before, ∃ adminRoutes after,
        (site.1.admin.start (.new "/")).exec before
          =
        (.ok (.ok (), site.1.admin.close, adminRoutes), after)
          ∧
        PanicsUnless (AllEscaped "/" site.1.admin.pairs) (routerOf adminRoutes) := by
  have hvalid : Configuration.default.violations = [] := by decide +kernel
  exact ⟨hvalid, routers_panic_unless_escaped .default hvalid bracedOperations (.idle ())⟩

/-- All of these operations are accepted, but the application has no router then. -/
theorem applicationRouter_of_bracedOperations :
    Configuration.default.violations = []
      ∧
    ∃ environment world after,
      Runs bracedOperations (.new .default, .idle ()) [.route (.ok ()), .route (.ok ()), .admin (.ok ())]
        (environment, world)
        ∧
      (applicationRouter environment.routes).exec world = (.error .panicked, after) := by
  have hruns : ∃ environment world,
      Runs bracedOperations (.new .default, .idle ()) [.route (.ok ()), .route (.ok ()), .admin (.ok ())]
        (environment, world)
        ∧
      environment.routes.router?.isNone :=
    ⟨_, _, rfl, by decide +kernel⟩
  obtain ⟨environment, world, hruns, hnone⟩ := hruns
  rw [Option.isNone_iff_eq_none] at hnone
  obtain ⟨after, hexec, -⟩ := applicationRouter_exec environment.routes world
  rw [hnone] at hexec
  exact ⟨by decide +kernel, environment, world, after, hruns, hexec⟩

end Serving

end ServiceHost
