import ServiceHost.Proofs.Demo.Running
import ServiceHost.Proofs.Http.Takes
import ServiceHost.Proofs.Serving.Routers

/-!
This module contains where the two routers of the demo take requests, and what the endpoints do there. Nothing but
the greetings and the task about them has to do with the state.
-/

namespace ServiceHost.Demo

open Http (Call Endpoint Request Router Verb)
open Http.RouteTable (Binds)

def nameOf (request : Request) : String :=
  ((Admin.Params.ofQuery request.uri.query).first? "name").getD "world"

def wantsReset (request : Request) : Bool :=
  ((Admin.Params.ofQuery request.uri.query).first? "reset").isSome

def withHits (hits : UInt64) (world : World State) : World State :=
  { world with state := { world.state with hits } }

theorem hello_exec (template : String) (request : Request) (world : World State) :
    (hello template request).exec world
      =
    (.ok (.text 200 (fill template (nameOf request) ++ "\n")), withHits (world.state.hits + 1) world) := by
  rfl

theorem greeting_exec (template : String) (request : Request) (world : World State) :
    ((greeting template).endpoint .get request).exec world
      =
    (.ok (.json 200 (Json.object [("message", .string (fill template "world"))]).compact),
      withHits (world.state.hits + 1) world) := by
  rfl

theorem greeting_exec_of_ne (template : String) {verb : Verb} (h : verb ≠ .get) (request : Request) :
    (greeting template).endpoint verb request = pure Http.RestError.methodNotAllowed.response := by
  cases verb with
  | get => exact absurd rfl h
  | post | put | delete | head => rfl

theorem hitsTask_exec (request : Request) (world : World State) :
    (hitsTask.execute (.ofQuery request.uri.query)).exec world
      =
    let hits := if wantsReset request then 0 else world.state.hits
    (.ok (.ok ("hits: " ++ toString hits ++ "\n")), withHits hits world) := by
  unfold wantsReset hitsTask
  dsimp only
  split <;> rfl

section Routers

variable {c : Configuration} {template : String}

def registry : Admin.Registry State :=
  ⟨Admin.View.builtIn, tasks, ⟨[uptimeCheck], true⟩, true⟩

structure Serves (c : Configuration) (template : String) (service : Serving.Service State) : Prop where
  valid : c.violations = []
  timeout : service.server.requestTimeout = c.server.requestTimeout
  application : ∃ table, Binds (.new c.server.applicationPath) (calls template) table
    ∧ table.router? = some service.application
  admin : ∃ table, Binds (.new c.server.adminPath) (registry.calls (Http.Path.normalize c.server.adminPath)) table
    ∧ table.router? = some service.admin

theorem answers_iff {call : Call State} (hcall : call ∈ calls template) (method : Http.Method) :
    call.Answers (calls template) method
      ↔
    call.method = method ∨ (call.path = "/hello" ∧ method = .head) := by
  unfold Call.Answers
  apply or_congr_right
  obtain rfl | hverb := List.mem_cons.mp hcall
  . constructor
    . rintro ⟨hhead, -, -⟩
      exact ⟨rfl, hhead⟩
    . rintro ⟨-, hhead⟩
      refine ⟨hhead, rfl, ?_⟩
      unfold calls
      rw [List.forall_mem_cons, List.forall_mem_map]
      exact ⟨nofun, fun verb _ hpath => absurd hpath (by simp [Http.Resource.call, greeting])⟩
  . obtain ⟨verb, -, rfl⟩ := List.mem_map.mp hverb
    constructor
    . rintro ⟨-, -, hnone⟩
      have hhead : (greeting template).call .head ∈ calls template :=
        List.mem_cons_of_mem _ (List.mem_map_of_mem (Verb.mem_every .head))
      exact absurd rfl (hnone _ hhead rfl)
    . rintro ⟨hpath, -⟩
      exact absurd hpath (by simp [Http.Resource.call, greeting])

theorem keeps_of_mem_calls {context : String} {call : Call State} (hcall : call ∈ registry.calls context)
    (hhits : ¬ (call.path = "/tasks/hits" ∧ call.method = .post)) (request : Request) :
    Action.Keeps (fun world => world.state) (call.endpoint request) := by
  unfold Admin.Registry.calls at hcall
  obtain hpage | htask := List.mem_append.mp hcall
  . obtain rfl | hview := List.mem_cons.mp hpage
    . exact Action.keeps_pure _
    . obtain ⟨view, hbuiltIn, rfl⟩ := List.mem_map.mp hview
      have hquiet : Health.Quiet (fun world : World State => world.state) registry.checks.checks := by
        intro check hcheck world
        cases List.mem_singleton.mp hcheck
        rfl
      exact (Admin.View.keeps_builtIn (background_state id) hquiet hbuiltIn _).bind fun _ => Action.keeps_pure _
  . obtain ⟨task, hmem, rfl⟩ := List.mem_map.mp htask
    apply Admin.Task.keeps_endpoint (background_state id)
    intro params
    simp only [registry, tasks, List.mem_cons, List.not_mem_nil, or_false] at hmem
    obtain rfl | rfl | rfl := hmem
    . exact (Admin.Task.spares_gc (background_state id) params).keeps
    . exact (Admin.Task.spares_log (background_state id) params).keeps
    . exact absurd ⟨rfl, rfl⟩ hhits

variable {service : Serving.Service State} (h : Serves c template service)
include h

theorem Serves.application_takes_iff {request : Request} {endpoint : Endpoint State} :
    service.application.Takes request endpoint
      ↔
    ∃ call ∈ calls template,
      request.IsAt c.server.applicationPath call.path
        ∧
      call.endpoint = endpoint
        ∧
      (call.method = request.method ∨ (call.path = "/hello" ∧ request.method = .head)) := by
  obtain ⟨table, hbinds, hrouter⟩ := h.application
  rw [hbinds.takes_iff (Configuration.isRoutable_applicationPath h.valid) hrouter]
  constructor
  . rintro ⟨call, hcall, hat, hendpoint, hanswers⟩
    exact ⟨call, hcall, hat, hendpoint, (answers_iff hcall _).mp hanswers⟩
  . rintro ⟨call, hcall, hat, hendpoint, hmethod⟩
    exact ⟨call, hcall, hat, hendpoint, (answers_iff hcall _).mpr hmethod⟩

theorem Serves.admin_takes_iff {request : Request} {endpoint : Endpoint State} :
    service.admin.Takes request endpoint
      ↔
    ∃ call ∈ registry.calls (Http.Path.normalize c.server.adminPath),
      request.IsAt c.server.adminPath call.path
        ∧
      call.endpoint = endpoint
        ∧
      call.Answers (registry.calls (Http.Path.normalize c.server.adminPath)) request.method := by
  obtain ⟨table, hbinds, hrouter⟩ := h.admin
  exact hbinds.takes_iff (Configuration.isRoutable_adminPath h.valid) hrouter

theorem Serves.takes_hello {request : Request} (hat : request.IsAt c.server.applicationPath "/hello")
    (hmethod : request.method ∈ [Http.Method.get, .head]) : service.application.Takes request (hello template) := by
  rw [h.application_takes_iff]
  refine ⟨_, List.mem_cons_self, hat, rfl, ?_⟩
  simpa [eq_comm] using hmethod

theorem Serves.takes_greeting {request : Request} (hat : request.IsAt c.server.applicationPath "/greeting")
    (verb : Verb) (hmethod : request.method = verb.method) :
    service.application.Takes request ((greeting template).endpoint verb) := by
  rw [h.application_takes_iff]
  exact ⟨_, List.mem_cons_of_mem _ (List.mem_map_of_mem verb.mem_every), hat, rfl, .inl hmethod.symm⟩

theorem Serves.takes_hits {request : Request} (hat : request.IsAt c.server.adminPath "/tasks/hits")
    (hmethod : request.method = .post) :
    service.admin.Takes request (Admin.Registry.taskEndpoint hitsTask) := by
  rw [h.admin_takes_iff]
  have htask : hitsTask ∈ registry.tasks := List.mem_cons_of_mem _ (List.mem_cons_of_mem _ List.mem_cons_self)
  exact ⟨_, registry.task_mem_calls _ htask, hat, rfl, .inl hmethod.symm⟩

theorem Serves.keeps_application {request : Request}
    (hhello : ¬ (request.IsAt c.server.applicationPath "/hello" ∧ request.method ∈ [Http.Method.get, .head]))
    (hgreeting : ¬ (request.IsAt c.server.applicationPath "/greeting" ∧ request.method = .get)) :
    Action.Keeps (fun world => world.state) (service.application.serve request) := by
  by_cases htakes : ∃ endpoint, service.application.Takes request endpoint
  . obtain ⟨endpoint, htakes⟩ := htakes
    rw [Router.serve_of_takes htakes]
    obtain ⟨call, hcall, hat, rfl, hmethod⟩ := h.application_takes_iff.mp htakes
    obtain rfl | hverb := List.mem_cons.mp hcall
    . exact absurd ⟨hat, by simpa [eq_comm] using hmethod⟩ hhello
    . obtain ⟨verb, -, rfl⟩ := List.mem_map.mp hverb
      have hother : verb ≠ .get := by
        rintro rfl
        obtain hget | ⟨hpath, -⟩ := hmethod
        . exact hgreeting ⟨hat, hget.symm⟩
        . exact absurd hpath (by simp [Http.Resource.call, greeting])
      unfold Http.Resource.call
      dsimp only
      rw [greeting_exec_of_ne template hother]
      exact (Action.keeps_pure _).bind fun _ => Action.keeps_pure _
  . obtain ⟨response, hserve⟩ := Router.serve_of_not_takes (not_exists.mp htakes)
    rw [hserve]
    exact Action.keeps_pure response

theorem Serves.keeps_admin {request : Request}
    (hhits : ¬ (request.IsAt c.server.adminPath "/tasks/hits" ∧ request.method = .post)) :
    Action.Keeps (fun world => world.state) (service.admin.serve request) := by
  by_cases htakes : ∃ endpoint, service.admin.Takes request endpoint
  . obtain ⟨endpoint, htakes⟩ := htakes
    rw [Router.serve_of_takes htakes]
    refine Action.Keeps.bind ?_ fun _ => Action.keeps_pure _
    obtain ⟨call, hcall, hat, rfl, hanswers⟩ := h.admin_takes_iff.mp htakes
    apply keeps_of_mem_calls hcall
    rintro ⟨hpath, hpost⟩
    obtain hmethod | ⟨-, hget, -⟩ := hanswers
    . exact hhits ⟨hpath ▸ hat, hmethod.symm.trans hpost⟩
    . exact absurd (hget.symm.trans hpost) Http.Method.noConfusion
  . obtain ⟨response, hserve⟩ := Router.serve_of_not_takes (not_exists.mp htakes)
    rw [hserve]
    exact Action.keeps_pure response

end Routers

end ServiceHost.Demo
