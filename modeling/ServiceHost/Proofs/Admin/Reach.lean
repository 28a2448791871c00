import ServiceHost.Proofs.Http.Served
import ServiceHost.Proofs.Http.Uri
import ServiceHost.Proofs.Registration
import ServiceHost.Proofs.Serving.Routers

/-!
This module contains where the pages and the tasks of the admin side are reached: at the URLs that the index
and the task listing show, as long as these can be the path of a request and are without braces.
-/

namespace ServiceHost

variable {σ : Type}

namespace Http

/-- A request for a URL gets to an endpoint, and the endpoint sees a path of its own. -/
def Router.Offers (router : Router (Endpoint σ)) (method : Method) (url path : String)
    (endpoint : Endpoint σ) : Prop :=
  ∃ uri,
    Uri.parse? url = some uri
      ∧
    ∀ request : Request, request.method = method → request.uri = uri →
      router.serve request = endpoint { request with uri := { uri with path } }

theorem RouteTable.Holds.offers_of_isPlain {table : RouteTable (Endpoint σ)} {calls : List (Call σ)}
    {router : Router (Endpoint σ)} (h : Holds table calls) (hsound : table.Sound)
    (hrouter : table.router? = some router) {call : Call σ} (hcall : call ∈ calls)
    (hroot : call.path ≠ Path.root) (hhead : call.method ≠ .head) (hconnect : call.method ≠ .connect)
    (hplain : Uri.IsPlain (Path.join table.context call.path)) :
    router.Offers call.method (Path.join table.context call.path) call.path call.endpoint := by
  have hslash := Path.head?_join hsound.context (h.isRoutable_of_mem hsound hcall)
  have hliteral : Pattern.IsLiteral (Path.join table.context call.path).toList :=
    fun c hc => (hplain.2 c hc).2
  refine ⟨_, Uri.parse?_of_isPlain hplain hslash, ?_⟩
  intro request hmethod huri
  have hpath : request.uri.path = Path.join table.context call.path := by rw [huri]
  rw [h.serve_of_isLiteral hsound hrouter hcall hroot hliteral hmethod hpath]
  rw [Call.answer_of_method, huri]
  . exact hmethod.trans_ne hhead
  . exact hmethod.trans_ne hconnect

end Http

open Http (Call RouteTable Endpoint)

namespace Admin.Registry

theorem pathOf_ne_root (name : String) : Task.pathOf name ≠ Http.Path.root := by
  intro h
  have := congrArg String.toList h
  simp [pathOf_eq, Http.Path.root] at this

end Admin.Registry

/--
Whatever was registered with an environment, and on whatever table its admin side has started: a page is
reached at the URL to which the index links, and a task at the one that is listed, as long as the URL is
plain.
-/
theorem reach_after_start (c : Configuration) (operations : List (Operation σ)) (world : World σ)
    (context : String) (hcontext : Config.pathViolations context = []) (calls : List (Call σ))
    (first : World σ) :
    ∃ answers site bindings table before,
      Runs operations (.new c, world) answers site
        ∧
      ((RouteTable.new context).attachEach calls).exec first = (.ok (bindings, table), before)
        ∧
      ∀ registry adminRoutes after router,
        (site.1.admin.start table).exec before = (.ok (.ok (), registry, adminRoutes), after) →
        adminRoutes.router? = some router →
          (∀ view ∈ site.1.admin.views,
            Http.Uri.IsPlain (Http.Path.join table.context view.path) →
              router.Offers .get (Http.Path.join table.context view.path) view.path
                (registry.viewEndpoint view))
            ∧
          ∀ task ∈ site.1.admin.tasks,
            Http.Uri.IsPlain (Http.Path.join table.context (Admin.Task.pathOf task.name)) →
              router.Offers .post (Http.Path.join table.context (Admin.Task.pathOf task.name))
                (Admin.Task.pathOf task.name) (Admin.Registry.taskEndpoint task) := by
  obtain ⟨answers, site, hruns⟩ := Runs.exists_runs operations (.new c, world)
  obtain ⟨bindings, table, before, hattach, -⟩ :=
    RouteTable.attachEach_exec calls (RouteTable.new context) first
  refine ⟨answers, site, bindings, table, before, hruns, hattach, ?_⟩
  intro registry adminRoutes after router hstart hrouter
  obtain ⟨rfl, hbinds⟩ := Admin.Registry.binds_of_start_ok hstart
  have hregistry := (hruns.sound Admin.Registry.sound_new).close
  -- the table holds what was bound before the start, and behind it what the start has bound
  have hall := (RouteTable.attachEach_binds hattach).append hbinds
  have hholds := hall.holds (RouteTable.holds_new context)
  have hsound := hall.sound (Configuration.isRoutable_of_pathViolations hcontext)
  have hmem {call : Call σ} (h : call ∈ site.1.admin.close.calls table.context) :
      call ∈ [] ++ (Call.accepted calls bindings ++ site.1.admin.close.calls table.context) := by
    simp [h]
  rw [← hbinds.context]
  constructor
  . intro view hview hplain
    have hcall := hmem (site.1.admin.close.view_mem_calls table.context hview)
    exact hholds.offers_of_isPlain hsound hrouter hcall (hregistry.noRoot view hview)
      Http.Method.noConfusion Http.Method.noConfusion hplain
  . intro task htask hplain
    have hcall := hmem (site.1.admin.close.task_mem_calls table.context htask)
    exact hholds.offers_of_isPlain hsound hrouter hcall (Admin.Registry.pathOf_ne_root task.name)
      Http.Method.noConfusion Http.Method.noConfusion hplain

def statusPage (path : String) : Admin.View Unit :=
  ⟨"Status", path, fun _ _ => return .text 200 "fine"⟩

def pruneTask : Admin.Task Unit :=
  ⟨"prune", fun _ => return .ok ""⟩

theorem reach_after_start_of_statusPage :
    Config.pathViolations "/admin" = []
      ∧
    ∃ environment world registry adminRoutes after router,
      Runs [.view (statusPage "/status"), .task pruneTask] (.new .default, .idle ())
        [.admin (.ok ()), .admin (.ok ())] (environment, world)
        ∧
      (environment.admin.start (.new "/admin")).exec (.idle ())
        =
      (.ok (.ok (), registry, adminRoutes), after)
        ∧
      adminRoutes.router? = some router
        ∧
      router.Offers .get "/admin/status" "/status" (registry.viewEndpoint (statusPage "/status"))
        ∧
      router.Offers .post "/admin/tasks/prune" "/tasks/prune" (Admin.Registry.taskEndpoint pruneTask) := by
  have hcontext : Config.pathViolations "/admin" = [] := by decide
  have hruns : ∃ environment world,
      Runs [.view (statusPage "/status"), .task pruneTask] (.new .default, .idle ())
        [.admin (.ok ()), .admin (.ok ())] (environment, world)
        ∧
      statusPage "/status" ∈ environment.admin.views ∧ pruneTask ∈ environment.admin.tasks
        ∧
      ∀ pair ∈ environment.admin.pairs, Http.Pattern.IsLiteral pair.2.toList :=
    ⟨_, _, rfl, List.mem_append_right _ List.mem_cons_self, List.mem_append_right _ List.mem_cons_self,
      by decide +kernel⟩
  obtain ⟨environment, world, hruns, hpage, htask, hliteral⟩ := hruns
  obtain ⟨adminRoutes, hbinds, hstart⟩ :=
    (hruns.sound Admin.Registry.sound_new).start_of_new "/admin" (.idle ())
  have hescaped : RouteTable.AllEscaped (Http.Path.normalize "/admin") adminRoutes.bound := by
    rw [hbinds.bound, Admin.Registry.map_pair_calls]
    intro pair hpair
    refine ⟨Http.Pattern.isEscaped_of_isLiteral (by decide), ?_⟩
    exact Http.Pattern.isEscaped_of_isLiteral (hliteral pair hpair)
  have hroutable := Configuration.isRoutable_of_pathViolations hcontext
  obtain ⟨router, hrouter⟩ := (hbinds.exists_router_iff hroutable).mpr hescaped
  obtain ⟨answers, site, bindings, table, before, hruns', hattach, hreach⟩ :=
    reach_after_start .default [.view (statusPage "/status"), .task pruneTask] (.idle ()) "/admin" hcontext []
      (.idle ())
  obtain ⟨rfl, rfl⟩ := hruns.unique hruns'
  cases hattach
  obtain ⟨hviews, htasks⟩ := hreach _ adminRoutes _ router hstart hrouter
  refine ⟨hcontext, environment, world, _, adminRoutes, _, router, hruns, hstart, hrouter, ?_, ?_⟩
  . exact hviews (statusPage "/status") hpage (by decide +kernel)
  . exact htasks pruneTask htask (by decide +kernel)

/-- A page whose braces are doubled is accepted, but not reached where the index links to. -/
theorem lost_with_doubled_braces :
    Config.pathViolations "/" = []
      ∧
    Http.Uri.parse? "/a\x7d\x7d" = some ⟨"", "/a\x7d\x7d", none⟩
      ∧
    ∃ environment world registry adminRoutes after router,
      Runs [.view (statusPage "/a\x7d\x7d")] (.new .default, .idle ()) [.admin (.ok ())] (environment, world)
        ∧
      (environment.admin.start (.new "/")).exec (.idle ()) = (.ok (.ok (), registry, adminRoutes), after)
        ∧
      adminRoutes.router? = some router
        ∧
      router.serve ⟨.get, ⟨"", "/a\x7d\x7d", none⟩, "", none⟩ = pure (.empty 404) := by
  have hconcrete : ∃ environment world registry adminRoutes after,
      Runs [.view (statusPage "/a\x7d\x7d")] (.new .default, .idle ()) [.admin (.ok ())] (environment, world)
        ∧
      (environment.admin.start (.new "/")).exec (.idle ()) = (.ok (.ok (), registry, adminRoutes), after)
        ∧
      adminRoutes.router?.isSome
        ∧
      adminRoutes.router?.all fun router => (router.methodsAt? "/a\x7d\x7d".toList).isNone :=
    ⟨_, _, _, _, _, rfl, rfl, by decide +kernel, by decide +kernel⟩
  obtain ⟨environment, world, registry, adminRoutes, after, hruns, hstart, hsome, hmissing⟩ := hconcrete
  obtain ⟨router, hrouter⟩ := Option.isSome_iff_exists.mp hsome
  rw [hrouter, Option.all_some, Option.isNone_iff_eq_none] at hmissing
  have hcontext : Config.pathViolations "/" = [] := by decide
  have huri : Http.Uri.parse? "/a\x7d\x7d" = some ⟨"", "/a\x7d\x7d", none⟩ := by decide +kernel
  refine ⟨hcontext, huri, environment, world, registry, adminRoutes, after, router, hruns, hstart, hrouter, ?_⟩
  unfold Http.Router.serve
  rw [Http.Router.dispatch_of_missing hmissing]

end ServiceHost
