import ServiceHost.Demo
import ServiceHost.Proofs.Admin.Registry
import ServiceHost.Proofs.Command.Server
import ServiceHost.Proofs.Http.Resource
import ServiceHost.Proofs.Operation
import ServiceHost.Proofs.Admin.Frame
import ServiceHost.Proofs.Serving.Course

/-!
This module contains what the demo has registered when its connectors are bound: one route, the verbs of one
resource, a task, a health check and an object beside the reporter of metrics.
-/

namespace ServiceHost

variable {σ γ : Type}

theorem Command.opening_leaves {launch : Launch σ} {c : Configuration} {world world' : World σ}
    {environment : Environment σ} (h : (opening launch c).exec world = (.ok environment, world')) :
    environment.routes = .new c.server.applicationPath
      ∧
    environment.admin = .new
      ∧
    environment.objects.started = false
      ∧
    ∀ object ∈ environment.objects.objects, ∃ id period, object = Metrics.Reporter.managed id period := by
  unfold opening at h
  obtain ⟨_, _, -, h⟩ := Action.exec_bind_eq_ok h
  obtain ⟨_, _, -, h⟩ := Action.exec_bind_eq_ok h
  obtain ⟨_, _, -, h⟩ := Action.exec_bind_eq_ok h
  obtain ⟨_, _, -, h⟩ := Action.exec_bind_eq_ok h
  obtain ⟨⟨_, left⟩, _, hreport, h⟩ := Action.exec_bind_eq_ok h
  cases h
  by_cases hzero : c.metrics.frequency = 0
  . rw [Setup.reportMetrics_exec_of_zero hzero] at hreport
    cases hreport
    exact ⟨rfl, rfl, rfl, fun _ hmem => absurd hmem List.not_mem_nil⟩
  . rw [Setup.reportMetrics_exec_of_ne hzero rfl] at hreport
    cases hreport
    refine ⟨rfl, rfl, rfl, ?_⟩
    rw [show (Environment.new c : Environment σ).objects.objects = [] from rfl, List.nil_append, List.forall_mem_singleton]
    exact ⟨_, _, rfl⟩

theorem Http.Resource.spares_attachVerbs {part : World σ → γ} {sources : Log.Source → Prop}
    (h : Action.Unlogged part sources) (hsource : sources .routes) (resource : Resource σ)
    (table : RouteTable (Endpoint σ)) (verbs : List Verb) : Action.Spares part (resource.attachVerbs table verbs) := by
  induction verbs generalizing table with
  | nil => exact Action.spares_pure _
  | cons verb verbs ih =>
    unfold attachVerbs
    apply Action.Spares.bind (table.spares_attach h hsource _ _ _)
    intro attached
    split
    . apply ih
    . exact Action.spares_pure _

namespace Demo

open Http (Call RouteTable Verb)
open Http.RouteTable (Binds)

def calls (template : String) : List (Call State) :=
  ⟨.get, "/hello", hello template⟩ :: Verb.every.map (greeting template).call

def tasks : List (Admin.Task State) :=
  [.gc, .log, hitsTask]

structure Registered (c : Configuration) (template : String) (environment : Environment State) : Prop where
  routes : Binds (.new c.server.applicationPath) (calls template) environment.routes
  admin : environment.admin = ⟨Admin.View.builtIn, tasks, ⟨[uptimeCheck], false⟩, false⟩
  objects : ∀ object ∈ environment.objects.objects,
    (∃ id period, object = Metrics.Reporter.managed id period) ∨ object = uptime

theorem background_state (f : State → γ) : Action.Background fun world : World State => f world.state where
  record _ _ _ := rfl
  levels _ _ _ _ := rfl
  tickers _ _ := rfl
  purge _ := rfl

theorem setUpUptime_exec {c : Configuration} {environment : Environment State}
    (hadmin : environment.admin = .new) (hopen : environment.objects.started = false) (world : World State) :
    ((setUpUptime c).run environment).exec world
      =
    (.ok (.ok (),
        ⟨environment.routes, ⟨Admin.View.builtIn, [.gc, .log], ⟨[uptimeCheck], false⟩, false⟩,
          ⟨environment.objects.objects ++ [uptime], environment.objects.started⟩⟩),
      world.record ⟨.lifecycle, .debug, "Managed object registered", [("name", "uptime")]⟩) := by
  have hcheck : environment.admin.addCheck uptimeCheck
      = .ok ⟨Admin.View.builtIn, [.gc, .log], ⟨[uptimeCheck], false⟩, false⟩ := by
    rw [hadmin]
    rfl
  let managed : Environment State :=
    { environment with
      objects := { environment.objects with objects := environment.objects.objects ++ [uptime] } }
  exact (Setup.run_bind_ok (Setup.manage_exec hopen uptime world)).trans
    (Setup.run_bind_ok (Setup.check_exec_ok managed hcheck _))

theorem attach_greeting {context : String} {table : RouteTable (Http.Endpoint State)} {template : String}
    (h : Binds (.new context) [⟨.get, "/hello", hello template⟩] table) (world : World State) :
    ∃ table' world',
      ((greeting template).attach table).exec world = (.ok (.ok (), table'), world')
        ∧
      Binds (.new context) (calls template) table'
        ∧
      world'.state = world.state := by
  obtain ⟨result, verbs, late, table', world', hexec, hevery, hverbs, hend⟩ :=
    (greeting template).attachVerbs_exec table Verb.every world
  have hpath : Http.Path.isRoutable "/greeting" = true := by decide
  cases hend with
  | inr hrefused =>
    obtain ⟨verb, rest, e, rfl, rfl, he⟩ := hrefused
    cases Http.Resource.taken_of_refused hevery hverbs he with
    | inl hinvalid => exact absurd (hinvalid.1.symm.trans hpath) Bool.false_ne_true
    | inr htaken =>
      have hbound := htaken.2.1
      rw [h.bound] at hbound
      simp [RouteTable.new, Call.pair, greeting] at hbound
  | inl hdone =>
    obtain ⟨rfl, rfl⟩ := hdone
    rw [List.append_nil] at hevery
    subst hevery
    refine ⟨table', world', hexec, h.append hverbs, ?_⟩
    exact ((greeting template).spares_attachVerbs (background_state id).toUnlogged trivial table Verb.every).part_eq hexec

theorem setUpGreetings_exec (template : String) {context : String} (environment : Environment State)
    {checks : Health.Registry State} (hroutes : environment.routes = .new context)
    (hadmin : environment.admin = ⟨Admin.View.builtIn, [.gc, .log], checks, false⟩) (world : World State) :
    ∃ routes world',
      ((setUpGreetings template).run environment).exec world
        =
      (.ok (.ok (), ⟨routes, ⟨Admin.View.builtIn, tasks, checks, false⟩, environment.objects⟩), world')
        ∧
      Binds (.new context) (calls template) routes
        ∧
      world'.state = world.state := by
  let call : Call State := ⟨.get, "/hello", hello template⟩
  have hpath : Http.Path.isRoutable "/hello" = true := by decide
  obtain ⟨bound, hbind⟩ : ∃ bound, (RouteTable.new context).bind call.method call.path call.endpoint = .ok bound :=
    RouteTable.bind_of_free hpath rfl List.not_mem_nil
  have hattach := RouteTable.attach_exec_ok hbind world
  rw [← hroutes] at hattach
  obtain ⟨routes, world', hgreeting, hbinds, hstate⟩ := attach_greeting (.cons hbind (.nil bound))
    (world.record (RouteTable.report environment.routes.context call.pair))
  have hnames : hitsTask.name ∉ [Admin.Task.gc, Admin.Task.log].map (·.name (σ := State)) := by decide
  have htask : environment.admin.addTask hitsTask = .ok ⟨Admin.View.builtIn, tasks, checks, false⟩ := by
    rw [hadmin, Admin.Registry.addTask_eq_ok_iff]
    exact ⟨⟨rfl, by decide, hnames⟩, rfl⟩
  refine ⟨routes, world', ?_, hbinds, hstate⟩
  refine (Setup.run_bind_ok (Action.exec_bind_ok hattach)).trans ?_
  refine (Setup.run_bind_ok (Action.exec_bind_ok hgreeting)).trans ?_
  exact Setup.run_bind_ok (Setup.task_exec_ok { environment with routes } htask world')

def template? (c : Configuration) : Except Toml.Misfit (Option String) :=
  c.section? "greeting" (greetingForm.decode true defaultTemplate)

theorem setUp_exec_of_error {c : Configuration} {misfit : Toml.Misfit} (h : template? c = .error misfit)
    (environment : Environment State) (world : World State) :
    ((setUp c).run environment).exec world = (.ok (.error misfit.report, environment), world) := by
  unfold template? at h
  unfold setUp
  rw [h]
  rfl

theorem setUp_eq {c : Configuration} {chosen : Option String} (h : template? c = .ok chosen) :
    setUp c = setUpGreetings (chosen.getD defaultTemplate) := by
  unfold template? at h
  unfold setUp
  rw [h]

structure IsLaunch (launch : Launch State) : Prop where
  bundles : launch.bundles = [setUpUptime]
  run : launch.run = setUp

theorem isLaunch_of_bootstrap {arguments : List String} {session : Session State} {b : Bootstrap State}
    {world world' : World State} (h : (application.bootstrap arguments session).exec world = (.ok b, world')) :
    IsLaunch b.launch := by
  cases h
  exact ⟨rfl, rfl⟩

theorem registered_of_setUp {launch : Launch State} (hlaunch : IsLaunch launch) {c : Configuration}
    {environment next : Environment State} {world world' : World State}
    (hroutes : environment.routes = .new c.server.applicationPath) (hadmin : environment.admin = .new)
    (hopen : environment.objects.started = false)
    (hobjects : ∀ object ∈ environment.objects.objects, ∃ id period, object = Metrics.Reporter.managed id period)
    (h : ((Command.setUp launch c).run environment).exec world = (.ok (.ok (), next), world')) :
    ∃ chosen,
      template? c = .ok chosen
        ∧
      Registered c (chosen.getD defaultTemplate) next
        ∧
      world'.state = world.state := by
  let managed : Environment State :=
    ⟨environment.routes, ⟨Admin.View.builtIn, [.gc, .log], ⟨[uptimeCheck], false⟩, false⟩,
      ⟨environment.objects.objects ++ [uptime], environment.objects.started⟩⟩
  let told : World State :=
    world.record ⟨.lifecycle, .debug, "Managed object registered", [("name", "uptime")]⟩
  have hmanaged : Ends c setUpUptime (environment, world) (.ok ()) (managed, told) :=
    setUpUptime_exec hadmin hopen world
  have hbundles : ((launch.runBundles c).run environment).exec world = (.ok (.ok (), managed), told) := by
    unfold Launch.runBundles
    rw [hlaunch.bundles]
    exact Launch.runHooks_exec (.cons hmanaged (.nil _))
  unfold Command.setUp at h
  rw [Setup.run_bind_ok hbundles] at h
  unfold Launch.runApplication at h
  rw [hlaunch.run] at h
  have hsucceed : Succeed c [setUp] (managed, told) (next, world') := Launch.runHooks_exec_iff.mp h
  cases hsucceed with
  | cons hends hnil =>
    cases hnil
    unfold Ends at hends
    dsimp only at hends
    cases htemplate : template? c with
    | error misfit =>
      rw [setUp_exec_of_error htemplate] at hends
      cases hends
    | ok chosen =>
      obtain ⟨routes, world'', hexec, hbinds, hstate⟩ :=
        setUpGreetings_exec (chosen.getD defaultTemplate) managed hroutes rfl told
      rw [setUp_eq htemplate, hexec] at hends
      cases hends
      refine ⟨chosen, rfl, ⟨hbinds, rfl, ?_⟩, hstate⟩
      intro object hobject
      cases List.mem_append.mp hobject with
      | inl hreporter => exact .inl (hobjects object hreporter)
      | inr huptime => exact .inr (List.mem_singleton.mp huptime)

theorem registered_of_prepare {launch : Launch State} (hlaunch : IsLaunch launch) {c : Configuration}
    {world prepared : World State} {server : Serving.BoundServer} {environment : Environment State}
    (h : (Command.prepare launch c).exec world = (.ok (.ok (server, environment)), prepared)) :
    ∃ chosen,
      template? c = .ok chosen
        ∧
      Registered c (chosen.getD defaultTemplate) environment
        ∧
      server.adminPath = c.server.adminPath ∧ server.requestTimeout = c.server.requestTimeout
        ∧
      prepared.state = world.state := by
  unfold Command.prepare at h
  obtain ⟨first, world₁, hopening, h⟩ := Action.exec_bind_eq_ok h
  obtain ⟨hroutes, hadmin, hopen, hobjects⟩ := Command.opening_leaves hopening
  have hapart : Action.Apart (fun world : World State => world.state) fun _ => True :=
    ⟨(background_state id).toAside, fun _ _ => rfl⟩
  have hopened := (Command.spares_opening hapart launch c).part_eq hopening
  obtain ⟨⟨result, next⟩, world₂, hsetUp, h⟩ := Action.exec_bind_eq_ok h
  cases result with
  | error e => cases h
  | ok =>
    obtain ⟨chosen, htemplate, hregistered, hstate⟩ :=
      registered_of_setUp hlaunch hroutes hadmin hopen hobjects hsetUp
    obtain ⟨bound, world₃, hbind, h⟩ := Action.exec_bind_eq_ok h
    cases bound with
    | error e => cases h
    | ok server =>
      cases h
      obtain ⟨connectors, rfl, rfl⟩ := Serving.bind_eq_ok hbind
      exact ⟨chosen, htemplate, hregistered, rfl, rfl, hstate.trans hopened⟩

end Demo
end ServiceHost
