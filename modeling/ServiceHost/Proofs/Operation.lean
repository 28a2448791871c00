import ServiceHost.Proofs.Admin.Start
import ServiceHost.Proofs.Setup

/-!
This module contains all that can be done with an environment before a service serves: routes are bound, parts
are registered, and its two sides start. Each operation is answered, and adds at most its own entry to one of
the lists.
-/

namespace ServiceHost

variable {σ : Type}

inductive Operation (σ : Type) where
  | route (method : Http.Method) (path : String) (endpoint : Http.Endpoint σ)
  | resource (resource : Http.Resource σ)
  | view (view : Admin.View σ)
  | task (task : Admin.Task σ)
  | check (check : Health.Check σ)
  | manage (object : Lifecycle.Managed σ)
  | startAdmin (table : Http.RouteTable (Http.Endpoint σ))
  | startObjects

inductive Answer where
  | route (result : Except Http.RouteError Unit)
  | admin (result : Except Admin.AdminError Unit)
  | check (result : Except Health.RegistrationError Unit)
  | object (result : Except String Unit)
  | objects (result : Except Fault Unit)

def Answer.isOk : Answer → Bool
  | .route (.ok ()) | .admin (.ok ()) | .check (.ok ()) | .object (.ok ()) | .objects (.ok ()) => true
  | _ => false

namespace Operation

@[simp]
def view? : Operation σ → Option (Admin.View σ)
  | .view page => some page
  | _ => none

@[simp]
def task? : Operation σ → Option (Admin.Task σ)
  | .task t => some t
  | _ => none

@[simp]
def check? : Operation σ → Option (Health.Check σ)
  | .check c => some c
  | _ => none

@[simp]
def object? : Operation σ → Option (Lifecycle.Managed σ)
  | .manage object => some object
  | _ => none

def startsObjects : Operation σ → Bool
  | .startObjects => true
  | _ => false

def afterAdmin? : Operation σ → Option Answer
  | .view _ => some (.admin (.error .alreadyStarted))
  | .task _ => some (.admin (.error .alreadyStarted))
  | .check c => some (.check (.error (.alreadyStarted c.name)))
  | _ => none

def afterObjects? : Operation σ → Option Answer
  | .manage object => some (.object (.error (Lifecycle.lateMessage object.name)))
  | _ => none

def perform : Operation σ → Setup σ Answer
  | .route method path endpoint => return .route (← Setup.route method path endpoint)
  | .resource r => return .route (← Setup.resource r)
  | .view page => return .admin (← Setup.view page)
  | .task t => return .admin (← Setup.task t)
  | .check c => return .check (← Setup.check c)
  | .manage object => return .object (← Setup.manage object)
  | .startAdmin table => fun environment => do
    let (result, admin, _) ← environment.admin.start table
    return (.admin result, { environment with admin })
  | .startObjects => fun environment => do
    let objects := environment.objects.close
    let result ← objects.start.attempt
    return (.objects result, { environment with objects })

end Operation

def Performs (operation : Operation σ) (site : Site σ) (answer : Answer) (site' : Site σ) : Prop :=
  (operation.perform.run site.1).exec site.2 = (.ok (answer, site'.1), site'.2)

inductive Effect (environment : Environment σ) : Operation σ → Answer → Environment σ → Prop where
  | route {method : Http.Method} {path : String} {endpoint : Http.Endpoint σ}
      {result : Except Http.RouteError Unit} {calls : List (Http.Call σ)}
      {routes : Http.RouteTable (Http.Endpoint σ)} :
    Http.RouteTable.Binds environment.routes calls routes →
    Effect environment (.route method path endpoint) (.route result) { environment with routes }
  | resource {resource : Http.Resource σ} {result : Except Http.RouteError Unit} {calls : List (Http.Call σ)}
      {routes : Http.RouteTable (Http.Endpoint σ)} :
    Http.RouteTable.Binds environment.routes calls routes →
    Effect environment (.resource resource) (.route result) { environment with routes }
  | view {view : Admin.View σ} {admin : Admin.Registry σ} :
    environment.admin.addView view = .ok admin →
    Effect environment (.view view) (.admin (.ok ())) { environment with admin }
  | viewRefused {view : Admin.View σ} {e : Admin.AdminError} :
    environment.admin.addView view = .error e →
    Effect environment (.view view) (.admin (.error e)) environment
  | task {task : Admin.Task σ} {admin : Admin.Registry σ} :
    environment.admin.addTask task = .ok admin →
    Effect environment (.task task) (.admin (.ok ())) { environment with admin }
  | taskRefused {task : Admin.Task σ} {e : Admin.AdminError} :
    environment.admin.addTask task = .error e →
    Effect environment (.task task) (.admin (.error e)) environment
  | check {check : Health.Check σ} {admin : Admin.Registry σ} :
    environment.admin.addCheck check = .ok admin →
    Effect environment (.check check) (.check (.ok ())) { environment with admin }
  | checkRefused {check : Health.Check σ} {e : Health.RegistrationError} :
    environment.admin.addCheck check = .error e →
    Effect environment (.check check) (.check (.error e)) environment
  | object {object : Lifecycle.Managed σ} {objects : Lifecycle.Objects σ} :
    environment.objects.add? object = some objects →
    Effect environment (.manage object) (.object (.ok ())) { environment with objects }
  | objectRefused {object : Lifecycle.Managed σ} :
    environment.objects.add? object = none →
    Effect environment (.manage object) (.object (.error (Lifecycle.lateMessage object.name))) environment
  | adminStarted {table : Http.RouteTable (Http.Endpoint σ)} {result : Except Admin.AdminError Unit} :
    Effect environment (.startAdmin table) (.admin result) { environment with admin := environment.admin.close }
  | objectsStarted {result : Except Fault Unit} :
    Effect environment .startObjects (.objects result)
      { environment with objects := environment.objects.close }

def Setup.register {ε : Type} (add : Admin.Registry σ → Except ε (Admin.Registry σ)) :
    Setup σ (Except ε Unit) := fun environment =>
  match add environment.admin with
  | .ok admin => return (.ok (), { environment with admin })
  | .error e => return (.error e, environment)

theorem Setup.register_exec_ok {ε : Type} {add : Admin.Registry σ → Except ε (Admin.Registry σ)}
    {environment : Environment σ} {admin : Admin.Registry σ} (h : add environment.admin = .ok admin)
    (world : World σ) :
    ((register add).run environment).exec world = (.ok (.ok (), { environment with admin }), world) := by
  simp only [register, StateT.run, h]
  rfl

theorem Setup.register_exec_error {ε : Type} {add : Admin.Registry σ → Except ε (Admin.Registry σ)}
    {environment : Environment σ} {e : ε} (h : add environment.admin = .error e) (world : World σ) :
    ((register add).run environment).exec world = (.ok (.error e, environment), world) := by
  simp only [register, StateT.run, h]
  rfl

theorem Setup.view_eq_register (view : Admin.View σ) :
    Setup.view view = register (Admin.Registry.addView view) := by
  funext environment
  unfold Setup.view register
  cases environment.admin.addView view <;> rfl

theorem Setup.task_eq_register (task : Admin.Task σ) :
    Setup.task task = register (Admin.Registry.addTask task) := by
  funext environment
  unfold Setup.task register
  cases environment.admin.addTask task <;> rfl

theorem Setup.check_eq_register (check : Health.Check σ) :
    Setup.check check = register (Admin.Registry.addCheck check) := by
  funext environment
  unfold Setup.check register
  cases environment.admin.addCheck check <;> rfl

theorem Setup.task_exec_ok {task : Admin.Task σ} (environment : Environment σ) {admin : Admin.Registry σ}
    (h : environment.admin.addTask task = .ok admin) (world : World σ) :
    ((Setup.task task).run environment).exec world = (.ok (.ok (), { environment with admin }), world) := by
  rw [task_eq_register]
  exact register_exec_ok h world

theorem Setup.check_exec_ok {check : Health.Check σ} (environment : Environment σ) {admin : Admin.Registry σ}
    (h : environment.admin.addCheck check = .ok admin) (world : World σ) :
    ((Setup.check check).run environment).exec world = (.ok (.ok (), { environment with admin }), world) := by
  rw [check_eq_register]
  exact register_exec_ok h world

theorem performs_of_eq {α : Type} {operation : Operation σ} {step : Setup σ α} {answer : α → Answer} {a : α}
    {site site' : Site σ} (hperform : operation.perform = do return answer (← step))
    (h : (step.run site.1).exec site.2 = (.ok (a, site'.1), site'.2)) :
    Performs operation site (answer a) site' := by
  unfold Performs
  rw [hperform, StateT.run_bind, Action.exec_bind_ok h]
  rfl

theorem exists_effect_of_register {ε : Type} {operation : Operation σ}
    {add : Admin.Registry σ → Except ε (Admin.Registry σ)} {reply : Except ε Unit → Answer}
    {environment : Environment σ} (hperform : operation.perform = do return reply (← Setup.register add))
    (hok : ∀ admin, add environment.admin = .ok admin →
      Effect environment operation (reply (.ok ())) { environment with admin })
    (herror : ∀ e, add environment.admin = .error e →
      Effect environment operation (reply (.error e)) environment)
    (world : World σ) :
    ∃ answer site',
      Performs operation (environment, world) answer site' ∧ Effect environment operation answer site'.1 := by
  cases h : add environment.admin with
  | ok admin =>
    refine ⟨reply (.ok ()), ({ environment with admin }, world), ?_, hok admin h⟩
    exact performs_of_eq hperform (Setup.register_exec_ok h world)
  | error e =>
    refine ⟨reply (.error e), (environment, world), ?_, herror e h⟩
    exact performs_of_eq hperform (Setup.register_exec_error h world)

theorem Lifecycle.Objects.add?_eq_some_iff {objects next : Objects σ} {object : Managed σ} :
    objects.add? object = some next
      ↔
    objects.started = false ∧ next = { objects with objects := objects.objects ++ [object] } := by
  unfold add?
  split
  . next h => simp [h]
  . next h => simp [h, eq_comm]

theorem exists_effect (operation : Operation σ) (site : Site σ) :
    ∃ answer site', Performs operation site answer site' ∧ Effect site.1 operation answer site'.1 := by
  obtain ⟨environment, world⟩ := site
  cases operation with
  | route method path endpoint =>
    obtain ⟨result, calls, routes, world', hexec, hbinds⟩ :=
      environment.routes.exists_attach ⟨method, path, endpoint⟩ world
    refine ⟨.route result, ({ environment with routes }, world'), performs_of_eq rfl ?_, .route hbinds⟩
    exact Action.exec_bind_ok hexec
  | resource r =>
    obtain ⟨result, _, _, routes, world', hexec, -, hbinds, -⟩ :=
      r.attachVerbs_exec environment.routes Http.Verb.every world
    refine ⟨.route result, ({ environment with routes }, world'), performs_of_eq rfl ?_, .resource hbinds⟩
    exact Action.exec_bind_ok hexec
  | view page =>
    apply exists_effect_of_register
    . rw [← Setup.view_eq_register]
      rfl
    . exact fun _ => .view
    . exact fun _ => .viewRefused
  | task t =>
    apply exists_effect_of_register
    . rw [← Setup.task_eq_register]
      rfl
    . exact fun _ => .task
    . exact fun _ => .taskRefused
  | check c =>
    apply exists_effect_of_register
    . rw [← Setup.check_eq_register]
      rfl
    . exact fun _ => .check
    . exact fun _ => .checkRefused
  | manage object =>
    cases h : environment.objects.add? object with
    | some objects =>
      let event : Log.Event := ⟨.lifecycle, .debug, "Managed object registered", [("name", object.name)]⟩
      refine ⟨.object (.ok ()), ({ environment with objects }, world.record event), performs_of_eq rfl ?_,
        .object h⟩
      simp only [Setup.manage, StateT.run, h]
      rfl
    | none =>
      refine ⟨.object (.error (Lifecycle.lateMessage object.name)), (environment, world),
        performs_of_eq rfl ?_, .objectRefused h⟩
      simp only [Setup.manage, StateT.run, h]
      rfl
  | startAdmin table =>
    obtain ⟨result, table', world', hexec⟩ := environment.admin.exists_start table world
    refine ⟨.admin result, ({ environment with admin := environment.admin.close }, world'), ?_, .adminStarted⟩
    exact Action.exec_bind_ok hexec
  | startObjects =>
    let outcome := environment.objects.close.start.exec world
    refine ⟨.objects outcome.1, ({ environment with objects := environment.objects.close }, outcome.2), ?_,
      .objectsStarted⟩
    rfl

theorem Performs.effect {operation : Operation σ} {site site' : Site σ} {answer : Answer}
    (h : Performs operation site answer site') : Effect site.1 operation answer site'.1 := by
  obtain ⟨answer', site'', h', heffect⟩ := exists_effect operation site
  unfold Performs at h h'
  rw [h] at h'
  simp only [Prod.mk.injEq, Except.ok.injEq] at h'
  rw [h'.1.1, h'.1.2]
  exact heffect

/-- What an operation adds to each list: its own entry when it was accepted, and nothing otherwise. -/
structure Appends (operation : Operation σ) (answer : Answer) (before after : Environment σ) : Prop where
  views : after.admin.views = before.admin.views ++ if answer.isOk then operation.view?.toList else []
  tasks : after.admin.tasks = before.admin.tasks ++ if answer.isOk then operation.task?.toList else []
  checks : after.admin.checks.checks
      =
    before.admin.checks.checks ++ if answer.isOk then operation.check?.toList else []
  objects : after.objects.objects
      =
    before.objects.objects ++ if answer.isOk then operation.object?.toList else []

/-- An operation gets the refusal that a closed side has for it, if it has one. -/
def Refused (refusal? : Operation σ → Option Answer) (operation : Operation σ) (answer : Answer) : Prop :=
  ∀ refusal, refusal? operation = some refusal → answer = refusal

namespace Effect

variable {environment next : Environment σ} {operation : Operation σ} {answer : Answer}

theorem appends (h : Effect environment operation answer next) :
    Appends operation answer environment next := by
  cases h with
  | view h =>
    obtain ⟨-, rfl⟩ := Admin.Registry.addView_eq_ok_iff.mp h
    constructor <;> simp [Answer.isOk]
  | task h =>
    obtain ⟨-, rfl⟩ := Admin.Registry.addTask_eq_ok_iff.mp h
    constructor <;> simp [Answer.isOk]
  | check h =>
    obtain ⟨-, rfl⟩ := Admin.Registry.addCheck_eq_ok_iff.mp h
    constructor <;> simp [Answer.isOk]
  | object h =>
    obtain ⟨-, rfl⟩ := Lifecycle.Objects.add?_eq_some_iff.mp h
    constructor <;> simp [Answer.isOk]
  | viewRefused | taskRefused | checkRefused | objectRefused => constructor <;> simp [Answer.isOk]
  | route | resource => constructor <;> simp
  | adminStarted | objectsStarted =>
    constructor <;> simp [Admin.Registry.close, Health.Registry.freeze, Lifecycle.Objects.close]

theorem sound (h : Effect environment operation answer next) (hsound : environment.admin.Sound) :
    next.admin.Sound := by
  cases h with
  | view h => exact hsound.addView h
  | task h => exact hsound.addTask h
  | check h => exact hsound.addCheck h
  | adminStarted => exact hsound.close
  | viewRefused | taskRefused | checkRefused => exact hsound
  | route | resource | object | objectRefused | objectsStarted => exact hsound

theorem routes (h : Effect environment operation answer next) :
    ∃ calls, environment.routes.Binds calls next.routes := by
  cases h with
  | route h | resource h => exact ⟨_, h⟩
  | view | viewRefused | task | taskRefused | check | checkRefused => exact ⟨[], .nil _⟩
  | object | objectRefused | adminStarted | objectsStarted => exact ⟨[], .nil _⟩

theorem admin_of_start {table : Http.RouteTable (Http.Endpoint σ)}
    (h : Effect environment (.startAdmin table) answer next) : next.admin = environment.admin.close := by
  cases h
  rfl

theorem objects_of_start (h : Effect environment .startObjects answer next) :
    next.objects = environment.objects.close := by
  cases h
  rfl

theorem of_closed (h : Effect environment operation answer next) (hclosed : environment.admin.Closed) :
    next.admin = environment.admin ∧ Refused Operation.afterAdmin? operation answer := by
  cases h with
  | view h => simp [hclosed.addView] at h
  | task h => simp [hclosed.addTask] at h
  | check h => simp [hclosed.addCheck] at h
  | viewRefused h =>
    rw [hclosed.addView] at h
    cases h
    simp [Refused, Operation.afterAdmin?]
  | taskRefused h =>
    rw [hclosed.addTask] at h
    cases h
    simp [Refused, Operation.afterAdmin?]
  | checkRefused h =>
    rw [hclosed.addCheck] at h
    cases h
    simp [Refused, Operation.afterAdmin?]
  | adminStarted => simp [hclosed.close_eq, Refused, Operation.afterAdmin?]
  | route | resource | object | objectRefused | objectsStarted => simp [Refused, Operation.afterAdmin?]

theorem objects_of_closed (h : Effect environment operation answer next)
    (hclosed : environment.objects.started = true) :
    next.objects = environment.objects ∧ Refused Operation.afterObjects? operation answer := by
  cases h with
  | object h => simp [Lifecycle.Objects.add?_eq_some_iff, hclosed] at h
  | objectRefused => simp [Refused, Operation.afterObjects?]
  | objectsStarted => simp [Lifecycle.Objects.close, ← hclosed, Refused, Operation.afterObjects?]
  | route | resource | view | task | check | adminStarted => simp [Refused, Operation.afterObjects?]
  | viewRefused | taskRefused | checkRefused => simp [Refused, Operation.afterObjects?]

theorem objects_of_open (h : Effect environment operation answer next)
    (hopen : environment.objects.started = false) :
    next.objects
      =
    if operation.startsObjects then
      environment.objects.close
    else
      { environment.objects with
        objects := environment.objects.objects ++ operation.object?.toList } := by
  cases h with
  | object h =>
    obtain ⟨-, rfl⟩ := Lifecycle.Objects.add?_eq_some_iff.mp h
    simp [Operation.startsObjects]
  | objectRefused h => simp [Lifecycle.Objects.add?, hopen] at h
  | objectsStarted => simp [Operation.startsObjects]
  | route | resource | view | task | check | adminStarted => simp [Operation.startsObjects]
  | viewRefused | taskRefused | checkRefused => simp [Operation.startsObjects]

end Effect

end ServiceHost
