import ServiceHost.Proofs.Health
import ServiceHost.Proofs.Http.Served
import ServiceHost.Proofs.Metrics.Rendering
import ServiceHost.Proofs.Registration

/-!
This module contains how the admin side answers when the code that it runs for a request panics. The panic of a
task or of a probe becomes an answer, but the one of a page, or of a variable that the metrics page shows,
leaves the router, and the request is not answered.
-/

namespace ServiceHost

variable {σ : Type}

open Http (RouteTable Endpoint Router)

namespace Admin

inductive Task.Shows (task : Task σ) :
    Except Fault (Except TaskError String) → Http.Response → List Log.Event → Prop where
  | done (body : String) : Shows task (.ok (.ok body)) (.text 200 body) []
  | rejected (e : TaskError) :
    Shows task (.ok (.error e)) (.text e.status e.message)
      [⟨.tasks, .debug, "Task rejected", [("task", task.name), ("status", e.status.text)]⟩]
  | panicked :
    Shows task (.error .panicked) (.text 500 "Task failed\n")
      [⟨.tasks, .error, "Task panicked", [("task", task.name)]⟩]

namespace Task

variable {task : Task σ} {request : Http.Request} {world last : World σ}

theorem exists_shows (task : Task σ) {result : Except Fault (Except TaskError String)}
    (h : result ≠ .error .stalled) : ∃ response events, task.Shows result response events := by
  cases result with
  | ok result =>
    cases result with
    | ok body => exact ⟨_, _, .done body⟩
    | error e => exact ⟨_, _, .rejected e⟩
  | error fault =>
    cases fault with
    | panicked => exact ⟨_, _, .panicked⟩
    | stalled => exact absurd rfl h

theorem respond_exec_of_error {fault : Fault}
    (h : (task.execute (.ofQuery request.uri.query)).exec world = (.error fault, last)) :
    (task.respond request).exec world = (.error fault, last) := by
  unfold respond
  exact Action.exec_bind_error h

theorem respond_exec_of_ok {result : Except TaskError String} {response : Http.Response} {events : List Log.Event}
    (h : (task.execute (.ofQuery request.uri.query)).exec world = (.ok result, last))
    (hshows : task.Shows (.ok result) response events) :
    (task.respond request).exec world = (.ok response, last.recordAll events) := by
  unfold respond
  rw [Action.exec_bind_ok h]
  cases hshows <;> rfl

theorem recover_exec {result : Except Fault (Except TaskError String)} {response : Http.Response}
    {events : List Log.Event}
    (h : (task.execute (.ofQuery request.uri.query)).exec world = (result, last))
    (hshows : task.Shows result response events) :
    (Action.recover (task.respond request) task.panicked).exec world
      =
    (.ok response, last.recordAll events) := by
  cases result with
  | ok result =>
    have hrespond := respond_exec_of_ok h hshows
    rw [Action.exec_recover_of_ne, hrespond]
    rw [hrespond]
    nofun
  | error fault =>
    have hrespond := respond_exec_of_error h
    cases hshows
    rw [Action.exec_recover_of_panicked hrespond]
    rfl

end Task

variable {registry : Registry σ} {router : Router (Endpoint σ)}

section Takes

variable {request : Http.Request} {world last : World σ}

theorem page_exec {view : View σ} {result : Except Fault Http.Response}
    (htakes : router.Takes request (registry.viewEndpoint view))
    (h : (view.serve registry.checks (router.seen request)).exec world = (result, last)) :
    (router.serve request).exec world
      =
    (result.map fun response => Http.delivered request.method (uncached response), last) := by
  rw [Http.Router.serve_of_takes htakes, Action.exec_bind_pure]
  unfold Registry.viewEndpoint
  rw [Action.exec_bind_pure, h]
  cases result <;> rfl

theorem page_faults_iff {view : View σ} {fault : Fault}
    (htakes : router.Takes request (registry.viewEndpoint view)) :
    (router.serve request).exec world = (.error fault, last)
      ↔
    (view.serve registry.checks (router.seen request)).exec world = (.error fault, last) := by
  cases hserve : (view.serve registry.checks (router.seen request)).exec world with
  | mk result last' =>
    rw [page_exec htakes hserve]
    cases result with
    | ok response => exact ⟨nofun, nofun⟩
    | error fault' => exact Iff.rfl

theorem task_exec {task : Task σ} {result : Except Fault (Except TaskError String)} {response : Http.Response}
    {events : List Log.Event} (htakes : router.Takes request (Registry.taskEndpoint task))
    (h : (task.execute (.ofQuery request.uri.query)).exec world = (result, last))
    (hshows : task.Shows result response events) :
    (router.serve request).exec world
      =
    (.ok (Http.delivered request.method (uncached response)), last.recordAll events) := by
  rw [← Http.Router.query_seen router] at h
  rw [Http.Router.serve_of_takes htakes, Action.exec_bind_pure]
  unfold Registry.taskEndpoint
  rw [Action.exec_bind_pure, Task.recover_exec h hshows]
  rfl

theorem task_exec_of_stalled {task : Task σ} (htakes : router.Takes request (Registry.taskEndpoint task))
    (h : (task.execute (.ofQuery request.uri.query)).exec world = (.error .stalled, last)) :
    (router.serve request).exec world = (.error .stalled, last) := by
  rw [← Http.Router.query_seen router] at h
  have hrespond := Task.respond_exec_of_error h
  rw [Http.Router.serve_of_takes htakes, Action.exec_bind_pure]
  unfold Registry.taskEndpoint
  rw [Action.exec_bind_pure, Action.exec_recover_of_ne, hrespond]
  . rfl
  . rw [hrespond]
    nofun

theorem task_faults_iff {task : Task σ} {fault : Fault}
    (htakes : router.Takes request (Registry.taskEndpoint task)) :
    (router.serve request).exec world = (.error fault, last)
      ↔
    fault = .stalled ∧ (task.execute (.ofQuery request.uri.query)).exec world = (.error .stalled, last) := by
  constructor
  . intro hfault
    cases hexecute : (task.execute (.ofQuery request.uri.query)).exec world with
    | mk result last' =>
      by_cases hstalled : result = .error .stalled
      . subst hstalled
        rw [task_exec_of_stalled htakes hexecute] at hfault
        cases hfault
        exact ⟨rfl, rfl⟩
      . -- a task that shows something is answered
        obtain ⟨response, events, hshows⟩ := task.exists_shows hstalled
        rw [task_exec htakes hexecute hshows] at hfault
        cases hfault
  . rintro ⟨rfl, hexecute⟩
    exact task_exec_of_stalled htakes hexecute

end Takes

theorem metrics_exec_iff (checks : Health.Registry σ) (request : Http.Request) (world : World σ) (fault : Fault)
    (last : World σ) :
    (View.metrics.serve checks request).exec world = (.error fault, last)
      ↔
    last = world ∧ world.metrics.Breaks world.state fault := by
  rw [← Metrics.Registry.render_eq_error_iff]
  have hrender : (View.metrics.serve checks request).exec world
      = ((world.metrics.render world.state).map (.json 200), world) := by
    show (Action.metricsJson >>= fun text => pure (Http.Response.json 200 text)).exec world = _
    rw [Action.exec_bind_pure, Action.metricsJson_exec]
  rw [hrender]
  cases world.metrics.render world.state with
  | ok text => simp [Except.map]
  | error fault' => simp [Except.map, and_comm, eq_comm]

inductive Registry.Serves (registry : Registry σ) (context : String) : Endpoint σ → Prop where
  | index : Serves registry context (registry.indexEndpoint context)
  | page {view : View σ} : view ∈ registry.views → Serves registry context (registry.viewEndpoint view)
  | task {task : Task σ} : task ∈ registry.tasks → Serves registry context (Registry.taskEndpoint task)

theorem serves_of_takes {context context' : String} {table : RouteTable (Endpoint σ)}
    (h : RouteTable.Binds (.new context) (registry.calls context') table) (hrouter : table.router? = some router)
    {request : Http.Request} {endpoint : Endpoint σ} (htakes : router.Takes request endpoint) :
    registry.Serves context' endpoint := by
  obtain ⟨entry, hentry, bound, hbound, rfl⟩ := RouteTable.exists_bound_of_takes hrouter htakes
  refine h.endpoints (p := registry.Serves context') ?_ ?_ entry hentry bound hbound
  . intro entry hentry
    cases hentry
  . unfold Registry.calls
    rw [List.cons_append, List.forall_mem_cons, List.forall_mem_append, List.forall_mem_map, List.forall_mem_map]
    exact ⟨.index, fun view => .page, fun task => .task⟩

theorem faults_iff {context context' : String} {table : RouteTable (Endpoint σ)}
    (h : RouteTable.Binds (.new context) (registry.calls context') table) (hrouter : table.router? = some router)
    (request : Http.Request) (world : World σ) (fault : Fault) (last : World σ) :
    (router.serve request).exec world = (.error fault, last)
      ↔
    (∃ view ∈ registry.views,
      router.Takes request (registry.viewEndpoint view)
        ∧
      (view.serve registry.checks (router.seen request)).exec world = (.error fault, last))
      ∨
    (fault = .stalled
      ∧
    ∃ task ∈ registry.tasks,
      router.Takes request (Registry.taskEndpoint task)
        ∧
      (task.execute (.ofQuery request.uri.query)).exec world = (.error .stalled, last)) := by
  constructor
  . intro hfault
    by_cases htakes : ∃ endpoint, router.Takes request endpoint
    . obtain ⟨endpoint, htakes⟩ := htakes
      cases serves_of_takes h hrouter htakes with
      | index =>
        rw [Http.Router.serve_of_takes htakes] at hfault
        cases hfault
      | page hview => exact .inl ⟨_, hview, htakes, (page_faults_iff htakes).mp hfault⟩
      | task htask =>
        obtain ⟨rfl, hexecute⟩ := (task_faults_iff htakes).mp hfault
        exact .inr ⟨rfl, _, htask, htakes, hexecute⟩
    . -- the router itself answers what it takes nowhere
      obtain ⟨response, hserve⟩ := Http.Router.serve_of_not_takes (not_exists.mp htakes)
      rw [hserve] at hfault
      cases hfault
  . rintro (⟨view, -, htakes, hserve⟩ | ⟨hfault, task, -, htakes, hexecute⟩)
    . exact (page_faults_iff htakes).mpr hserve
    . exact (task_faults_iff htakes).mpr ⟨hfault, hexecute⟩

/--
How the admin side answers requests. A task that fails or panics is answered for, and so is a probe. A page
is not: where it ends with a fault, so does the request, and one of the pages shows the published variables.
-/
structure Answers (router : Router (Endpoint σ)) (registry : Registry σ) : Prop where
  page : ∀ view ∈ registry.views, ∀ request world result last,
    router.Takes request (registry.viewEndpoint view) →
    (view.serve registry.checks (router.seen request)).exec world = (result, last) →
      (router.serve request).exec world
        =
      (result.map fun response => Http.delivered request.method (uncached response), last)
  task : ∀ task ∈ registry.tasks, ∀ request world result last response events,
    router.Takes request (Registry.taskEndpoint task) →
    (task.execute (.ofQuery request.uri.query)).exec world = (result, last) →
    task.Shows result response events →
      (router.serve request).exec world
        =
      (.ok (Http.delivered request.method (uncached response)), last.recordAll events)
  panicked : ∀ request world last,
    (router.serve request).exec world = (.error .panicked, last)
      ↔
    ∃ view ∈ registry.views,
      router.Takes request (registry.viewEndpoint view)
        ∧
      (view.serve registry.checks (router.seen request)).exec world = (.error .panicked, last)
  answered : ∀ request world,
    (∀ view ∈ registry.views, router.Takes request (registry.viewEndpoint view) →
      ∃ response last, (view.serve registry.checks (router.seen request)).exec world = (.ok response, last)) →
    (∀ task ∈ registry.tasks, router.Takes request (Registry.taskEndpoint task) →
      ((task.execute (.ofQuery request.uri.query)).exec world).1 ≠ .error .stalled) →
      ∃ response last, (router.serve request).exec world = (.ok response, last)
  builtIn : ∀ view ∈ View.builtIn, view ∈ registry.views
  metrics : ∀ request world fault last,
    (View.metrics.serve registry.checks request).exec world = (.error fault, last)
      ↔
    last = world ∧ world.metrics.Breaks world.state fault
  healthcheck : (∀ check ∈ registry.checks.checks, check.Ends) → ∀ request world,
    ∃ results response second last,
      (View.healthcheck.serve registry.checks request).exec world = (.ok response, last)
        ∧
      Health.Completes registry.checks.checks world results second
        ∧
      Health.Reports results response

theorem answers_of_binds {context context' : String} {table : RouteTable (Endpoint σ)}
    (h : RouteTable.Binds (.new context) (registry.calls context') table) (hrouter : table.router? = some router)
    (hbuiltIn : ∀ view ∈ View.builtIn, view ∈ registry.views) (hnames : registry.checks.names.Nodup) :
    Answers router registry where
  page := by
    intro view _ request world result last htakes hserve
    exact page_exec htakes hserve
  task := by
    intro task _ request world result last response events htakes hexecute hshows
    exact task_exec htakes hexecute hshows
  panicked := by
    intro request world last
    rw [faults_iff h hrouter]
    constructor
    . rintro (hpage | ⟨hfault, -⟩)
      . exact hpage
      . cases hfault
    . exact .inl
  answered := by
    intro request world hviews htasks
    cases hserve : (router.serve request).exec world with
    | mk result last =>
      cases result with
      | ok response => exact ⟨response, last, rfl⟩
      | error fault =>
        obtain ⟨view, hview, htakes, hfault⟩ | ⟨-, task, htask, htakes, hfault⟩ :=
          (faults_iff h hrouter request world fault last).mp hserve
        . obtain ⟨response, last', hresponse⟩ := hviews view hview htakes
          rw [hresponse] at hfault
          cases hfault
        . exact absurd (congrArg Prod.fst hfault) (htasks task htask htakes)
  builtIn := hbuiltIn
  metrics := metrics_exec_iff registry.checks
  healthcheck := by
    intro hends request world
    obtain ⟨results, response, second, last, hserve, hcompletes, -, hreports⟩ :=
      Health.healthcheck_exec hnames hends request world
    exact ⟨results, response, second, last, hserve, hcompletes, hreports⟩

end Admin

theorem Runs.builtIn {operations : List (Operation σ)} {site site' : Site σ} {answers : List Answer}
    (h : Runs operations site answers site') (hbuiltIn : ∀ view ∈ Admin.View.builtIn, view ∈ site.1.admin.views) :
    ∀ view ∈ Admin.View.builtIn, view ∈ site'.1.admin.views := by
  apply h.keeps (p := fun environment => ∀ view ∈ Admin.View.builtIn, view ∈ environment.admin.views) _ hbuiltIn
  intro operation answer environment next hbuiltIn heffect view hview
  rw [heffect.appends.views]
  exact List.mem_append_left _ (hbuiltIn view hview)

/--
Whatever was registered with an environment, and whatever it does: once its admin side has started, only a page
can leave a request without an answer.
-/
theorem answered_unless_page_faults (c : Configuration) (operations : List (Operation σ)) (world : World σ)
    (context : String) (first : World σ) :
    ∃ answers site adminRoutes after,
      Runs operations (.new c, world) answers site
        ∧
      (site.1.admin.start (.new context)).exec first
        =
      (.ok (.ok (), site.1.admin.close, adminRoutes), after)
        ∧
      ∀ router, adminRoutes.router? = some router → Admin.Answers router site.1.admin.close := by
  obtain ⟨answers, site, hruns⟩ := Runs.exists_runs operations (.new c, world)
  have hsound := hruns.sound Admin.Registry.sound_new
  obtain ⟨adminRoutes, hbinds, hstart⟩ := hsound.start_of_new context first
  refine ⟨answers, site, adminRoutes, _, hruns, hstart, ?_⟩
  intro router hrouter
  exact Admin.answers_of_binds hbinds hrouter (hruns.builtIn fun _ => id) hsound.checks

theorem Admin.Registry.Sound.exists_router {registry : Admin.Registry σ} (h : registry.Sound)
    (hliteral : ∀ pair ∈ registry.pairs, Http.Pattern.IsLiteral pair.2.toList) (first : World σ) :
    ∃ adminRoutes after router,
      (registry.start (.new "/")).exec first = (.ok (.ok (), registry.close, adminRoutes), after)
        ∧
      adminRoutes.router? = some router
        ∧
      ∀ call ∈ registry.close.calls "/", ∀ request : Http.Request,
        request.method = call.method → request.uri.path = call.path → router.Takes request call.endpoint := by
  obtain ⟨adminRoutes, hbinds, hstart⟩ := h.start_of_new "/" first
  have hroot : Http.Path.normalize "/" = "/" := by decide
  rw [hroot] at hbinds
  have hroutable : Http.Path.isRoutable (Http.Path.normalize "/") = true := by decide
  have hholds := hbinds.holds (RouteTable.holds_new "/")
  have hpairs : ∀ pair ∈ adminRoutes.bound, Http.Pattern.IsLiteral pair.2.toList := by
    rw [hbinds.bound, Admin.Registry.map_pair_calls]
    exact hliteral
  obtain ⟨router, hrouter⟩ := (hbinds.exists_router_iff hroutable).mpr fun pair hpair =>
    ⟨Http.Pattern.isEscaped_of_isLiteral (by decide), Http.Pattern.isEscaped_of_isLiteral (hpairs pair hpair)⟩
  refine ⟨adminRoutes, _, router, hstart, hrouter, ?_⟩
  intro call hcall request hmethod hpath
  have hcontext : adminRoutes.context = Http.Path.root := by
    rw [hbinds.context]
    exact hroot
  unfold Router.Takes
  rw [hmethod]
  apply hholds.dispatch_of_escape (hbinds.sound hroutable) hrouter hcall
  rw [RouteTable.servedPath_of_root hcontext, hpath, Http.Pattern.escape_of_isLiteral]
  rw [hholds.bound, List.forall_mem_map] at hpairs
  exact hpairs call hcall

def brokenPage : Admin.View Unit :=
  ⟨"Boom", "/boom", fun _ _ => Action.fail .panicked⟩

def brokenTask : Admin.Task Unit :=
  ⟨"boom", fun _ => Action.fail .panicked⟩

theorem answered_unless_page_faults_of_brokenTask :
    ∃ environment world adminRoutes after router,
      Runs [.task brokenTask] (.new .default, .idle ()) [.admin (.ok ())] (environment, world)
        ∧
      (environment.admin.start (.new "/")).exec (.idle ())
        =
      (.ok (.ok (), environment.admin.close, adminRoutes), after)
        ∧
      adminRoutes.router? = some router
        ∧
      (router.serve ⟨.post, ⟨"", "/tasks/boom", none⟩, "", none⟩).exec (.idle ())
        =
      (.ok (Admin.uncached (.text 500 "Task failed\n")),
        (World.idle ()).record ⟨.tasks, .error, "Task panicked", [("task", "boom")]⟩) := by
  have hruns : ∃ environment world,
      Runs [.task brokenTask] (.new .default, .idle ()) [.admin (.ok ())] (environment, world)
        ∧
      brokenTask ∈ environment.admin.tasks
        ∧
      ∀ pair ∈ environment.admin.pairs, Http.Pattern.IsLiteral pair.2.toList :=
    ⟨_, _, rfl, List.mem_append_right _ List.mem_cons_self, by decide +kernel⟩
  obtain ⟨environment, world, hruns, htask, hliteral⟩ := hruns
  obtain ⟨adminRoutes, after, router, hstart, hrouter, htakes⟩ :=
    (hruns.sound Admin.Registry.sound_new).exists_router hliteral (.idle ())
  obtain ⟨answers, site, adminRoutes', after', hruns', hstart', hanswers⟩ :=
    answered_unless_page_faults .default [.task brokenTask] (.idle ()) "/" (.idle ())
  obtain ⟨rfl, rfl⟩ := hruns.unique hruns'
  rw [hstart] at hstart'
  cases hstart'
  have hboom := htakes _ (environment.admin.close.task_mem_calls "/" htask)
    ⟨.post, ⟨"", "/tasks/boom", none⟩, "", none⟩ rfl rfl
  have hserve := (hanswers router hrouter).task brokenTask htask _ (.idle ()) _ _ _ _ hboom rfl .panicked
  exact ⟨environment, world, adminRoutes, after, router, hruns, hstart, hrouter, hserve⟩

/-- A page that panics leaves its request without an answer, and so does a published variable. -/
theorem unanswered_when_page_panics :
    ∃ environment world adminRoutes after router published,
      Runs [.view brokenPage] (.new .default, .idle ()) [.admin (.ok ())] (environment, world)
        ∧
      (environment.admin.start (.new "/")).exec (.idle ())
        =
      (.ok (.ok (), environment.admin.close, adminRoutes), after)
        ∧
      adminRoutes.router? = some router
        ∧
      (router.serve ⟨.get, ⟨"", "/boom", none⟩, "", none⟩).exec (.idle ()) = (.error .panicked, .idle ())
        ∧
      (Action.publishMetric "depth" fun _ => .error .panicked).exec (.idle ()) = (.ok (), published)
        ∧
      (router.serve ⟨.get, ⟨"", "/metrics", none⟩, "", none⟩).exec published
        =
      (.error .panicked, published) := by
  have hruns : ∃ environment world,
      Runs [.view brokenPage] (.new .default, .idle ()) [.admin (.ok ())] (environment, world)
        ∧
      brokenPage ∈ environment.admin.views ∧ Admin.View.metrics ∈ environment.admin.views
        ∧
      ∀ pair ∈ environment.admin.pairs, Http.Pattern.IsLiteral pair.2.toList :=
    ⟨_, _, rfl, List.mem_append_right _ List.mem_cons_self, List.mem_cons_self, by decide +kernel⟩
  obtain ⟨environment, world, hruns, hpage, hmetrics, hliteral⟩ := hruns
  obtain ⟨adminRoutes, after, router, hstart, hrouter, htakes⟩ :=
    (hruns.sound Admin.Registry.sound_new).exists_router hliteral (.idle ())
  have hboom := htakes _ (environment.admin.close.view_mem_calls "/" hpage)
    ⟨.get, ⟨"", "/boom", none⟩, "", none⟩ rfl rfl
  have hdepth := htakes _ (environment.admin.close.view_mem_calls "/" hmetrics)
    ⟨.get, ⟨"", "/metrics", none⟩, "", none⟩ rfl rfl
  exact ⟨environment, world, adminRoutes, after, router, _, hruns, hstart, hrouter,
    Admin.page_exec hboom rfl, rfl, Admin.page_exec hdepth rfl⟩

end ServiceHost
