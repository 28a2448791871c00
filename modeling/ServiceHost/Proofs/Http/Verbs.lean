import ServiceHost.Proofs.Http.Resource
import ServiceHost.Proofs.Http.Served
import ServiceHost.Proofs.Json.Reading

/-!
This module contains how a resource is served where nothing else is bound: every request for one of its verbs gets
to this verb, and what comes of it is shown as JSON.
-/

namespace ServiceHost.Http

variable {σ : Type}

theorem RestError.parse?_response (e : RestError) :
    Json.parse? e.response.body = some (.object [("error", .string e.message)]) := by
  have hvalue : (Json.object [("error", .string e.message)]).IsValue :=
    ⟨List.pairwise_singleton _ _, trivial, trivial⟩
  have hplain : (Json.object [("error", .string e.message)]).Unembedded (some Json.embeddingName) := by
    refine ⟨?_, trivial, trivial⟩
    rintro _ ⟨⟩
    change some Json.embeddingName ≠ some "error"
    decide
  have hdepth : (Json.object [("error", .string e.message)]).depth ≤ Json.maxDepth := by
    simp [Json.depth, Json.membersDepth, Json.maxDepth]
  obtain ⟨read, hread, houtline⟩ := Json.Reader.parse?_compact hvalue hplain hdepth
  rw [← Json.eq_member_of_outline houtline]
  exact hread

def RestError.reports : Except RestError Json → List Log.Event
  | .error (.internal cause) => [⟨.resources, .error, "Resource failed", [("error", cause)]⟩]
  | _ => []

def RestError.shown : Except RestError Json → Response
  | .ok value => .json 200 value.compact
  | .error e => e.response

structure Verb.Shows (verb : Verb) (result : Except RestError Json) (response : Response) : Prop where
  headers : response.headers = [("content-type", "application/json")]
  ok : ∀ value, result = .ok value → response.status = 200 ∧ (verb ≠ .head → response.body = value.compact)
  error : ∀ e, result = .error e →
    response.status = e.status
      ∧
    (verb ≠ .head → Json.parse? response.body = some (.object [("error", .string e.message)]))
  head : verb = .head → response.body = ""

theorem Verb.shows_delivered (verb : Verb) (result : Except RestError Json) :
    verb.Shows result (delivered verb.method (RestError.shown result)) := by
  have hdelivered : delivered verb.method (RestError.shown result)
      = if verb = .head then (RestError.shown result).withoutBody else RestError.shown result := by
    cases verb <;> rfl
  rw [hdelivered]
  split
  . next hhead =>
    refine ⟨?_, ?_, ?_, fun _ => rfl⟩
    . cases result <;> rfl
    . rintro _ rfl
      exact ⟨rfl, fun hne => absurd hhead hne⟩
    . rintro _ rfl
      exact ⟨rfl, fun hne => absurd hhead hne⟩
  . next hother =>
    refine ⟨?_, ?_, ?_, fun hhead => absurd hhead hother⟩
    . cases result <;> rfl
    . rintro _ rfl
      exact ⟨rfl, fun _ => rfl⟩
    . rintro e rfl
      exact ⟨rfl, fun _ => e.parse?_response⟩

theorem Request.isAt_iff_of_isLiteral {context path : String} (hroot : path ≠ Path.root)
    (hliteral : Pattern.IsLiteral (Path.join (Path.normalize context) path).toList) (request : Request) :
    request.IsAt context path ↔ request.uri.path = Path.join (Path.normalize context) path := by
  unfold IsAt
  rw [RouteTable.servedPath_of_ne_root hroot]
  change (Path.join (Path.normalize context) path).toList = _ ↔ _
  rw [← Pattern.escape_of_isLiteral hliteral, ← String.toList_inj]
  exact ⟨fun h => (Pattern.escape_injective h).symm, fun h => congrArg Pattern.escape h.symm⟩

namespace Resource

open RouteTable (Binds Holds AllEscaped)

variable {resource : Resource σ} {table table' : RouteTable (Endpoint σ)} {calls : List (Call σ)}
  {router : Router (Endpoint σ)} {context : String}

theorem endpoint_exec_of_ok {verb : Verb} {answer : Request → Action σ (Except RestError Json)}
    (h : resource.implementation verb = some answer) {request : Request} {world after : World σ}
    {result : Except RestError Json} (hexec : (answer request).exec world = (.ok result, after)) :
    (resource.endpoint verb request).exec world
      =
    (.ok (RestError.shown result), after.recordAll (RestError.reports result)) := by
  unfold endpoint
  rw [h]
  refine (Action.exec_bind_ok hexec).trans ?_
  cases result with
  | ok value => rfl
  | error e => cases e <;> rfl

theorem endpoint_exec_of_error {verb : Verb} {answer : Request → Action σ (Except RestError Json)}
    (h : resource.implementation verb = some answer) {request : Request} {world after : World σ} {fault : Fault}
    (hexec : (answer request).exec world = (.error fault, after)) :
    (resource.endpoint verb request).exec world = (.error fault, after) := by
  unfold endpoint
  rw [h]
  exact Action.exec_bind_error hexec

theorem endpoint_of_none {verb : Verb} (h : resource.implementation verb = none) (request : Request) :
    resource.endpoint verb request = pure (RestError.shown (.error .methodNotAllowed)) := by
  unfold endpoint
  rw [h]
  rfl

structure Serves (resource : Resource σ) (router : Router (Endpoint σ)) (request : Request) : Prop where
  implemented : ∀ verb answer, request.method = verb.method → resource.implementation verb = some answer →
    ∀ world,
      (∀ result after, (answer (router.seen request)).exec world = (.ok result, after) →
        ∃ response,
          (router.serve request).exec world = (.ok response, after.recordAll (RestError.reports result))
            ∧
          verb.Shows result response)
        ∧
      ∀ fault after, (answer (router.seen request)).exec world = (.error fault, after) →
        (router.serve request).exec world = (.error fault, after)
  unimplemented : ∀ verb, request.method = verb.method → resource.implementation verb = none →
    ∃ response, router.serve request = pure response ∧ verb.Shows (.error .methodNotAllowed) response
  others : (∀ verb : Verb, request.method ≠ verb.method) →
    router.serve request = pure ⟨405, [("allow", "GET,HEAD,POST,PUT,DELETE")], ""⟩

theorem onPath_call (resource : Resource σ) (verbs : List Verb) :
    Call.onPath resource.path (verbs.map resource.call) = verbs.map resource.call := by
  unfold Call.onPath
  rw [List.filter_eq_self, List.forall_mem_map]
  intro verb _
  exact decide_eq_true rfl

theorem onPath_of_others {path : String} (h : ∀ call ∈ calls, call.path ≠ path) : Call.onPath path calls = [] := by
  unfold Call.onPath
  rw [List.filter_eq_nil_iff]
  intro call hcall hpath
  exact h call hcall (of_decide_eq_true hpath)

theorem find?_of_others {later : List (Call σ)}
    (h : Holds table (calls ++ Verb.every.map resource.call ++ later))
    (hcalls : ∀ call ∈ calls, call.path ≠ resource.path) (hlater : ∀ call ∈ later, call.path ≠ resource.path) :
    table.paths.find? resource.path
      =
    some ⟨Verb.every.map fun verb => (verb.method, resource.endpoint verb)⟩ := by
  have hpath : Call.onPath resource.path (calls ++ Verb.every.map resource.call ++ later)
      = Verb.every.map resource.call := by
    rw [Call.onPath, List.filter_append, List.filter_append]
    change Call.onPath _ calls ++ Call.onPath _ (Verb.every.map resource.call) ++ Call.onPath _ later = _
    rw [onPath_of_others hcalls, onPath_call, onPath_of_others hlater, List.nil_append, List.append_nil]
  rw [h.find?, hpath]
  rfl

theorem serves_of_methodsAt? {request : Request}
    (h : router.methodsAt? request.uri.path.toList
      =
    some ⟨Verb.every.map fun verb => (verb.method, resource.endpoint verb)⟩) : resource.Serves router request := by
  have hserve {verb : Verb} (hmethod : request.method = verb.method) :
      router.serve request
        =
      do return delivered verb.method (← resource.endpoint verb (router.seen request)) := by
    rw [← hmethod]
    apply Router.serve_of_takes
    apply Router.dispatch_of_some h
    rw [hmethod]
    cases verb <;> rfl
  constructor
  case implemented =>
    intro verb answer hmethod hanswer world
    rw [hserve hmethod]
    constructor
    . intro result after hexec
      refine ⟨_, ?_, verb.shows_delivered result⟩
      exact Action.exec_bind_ok (endpoint_exec_of_ok hanswer hexec)
    . intro fault after hexec
      exact Action.exec_bind_error (endpoint_exec_of_error hanswer hexec)
  case unimplemented =>
    intro verb hmethod hnone
    rw [hserve hmethod, endpoint_of_none hnone]
    exact ⟨_, rfl, verb.shows_delivered _⟩
  case others =>
    intro hothers
    have hnone : MethodTable.answering? request.method
        ⟨Verb.every.map fun verb => (verb.method, resource.endpoint verb)⟩ = none := by
      rw [MethodTable.answering?_eq_none_iff, MethodTable.mem_allowed_iff]
      rintro (hmem | ⟨hhead, -⟩)
      . unfold MethodTable.methods at hmem
        rw [List.map_map] at hmem
        obtain ⟨verb, -, hmethod⟩ := List.mem_map.mp hmem
        exact hothers verb hmethod.symm
      . exact hothers .head hhead
    unfold Router.serve
    rw [Router.dispatch_of_none h hnone]
    rfl

/--
A resource that is registered where nothing is bound serves every request for its place, whatever else is bound to
other paths, unless a brace keeps the table from being served at all.
-/
theorem served_by_verbs (resource : Resource σ) (hbinds : Binds (.new context) calls table)
    (hcontext : Path.isRoutable (Path.normalize context) = true) (hpath : Path.isRoutable resource.path = true)
    (hfree : ∀ method, (method, resource.path) ∉ table.routes) (world : World σ) :
    ∃ table' world',
      (resource.attach table).exec world = (.ok (.ok (), table'), world')
        ∧
      ∀ later served, Binds table' later served → (∀ call ∈ later, call.path ≠ resource.path) →
        ((∃ router, served.router? = some router) ↔ AllEscaped (Path.normalize context) served.routes)
          ∧
        ∀ router, served.router? = some router →
          ∀ request : Request, request.IsAt context resource.path → resource.Serves router request := by
  simp only [RouteTable.mem_routes_iff] at hfree
  obtain ⟨result, verbs, late, table', world', hexec, hevery, hverbs, hend⟩ :=
    resource.attachVerbs_exec table Verb.every world
  cases hend with
  | inr hrefused =>
    obtain ⟨verb, rest, e, rfl, rfl, he⟩ := hrefused
    cases taken_of_refused hevery hverbs he with
    | inl hinvalid => exact absurd (hinvalid.1.symm.trans hpath) Bool.false_ne_true
    | inr htaken => exact absurd htaken.2.1 (hfree verb.method)
  | inl hdone =>
    obtain ⟨rfl, rfl⟩ := hdone
    rw [List.append_nil] at hevery
    subst hevery
    refine ⟨table', world', hexec, ?_⟩
    intro later served hlater hothers
    have hall := (hbinds.append hverbs).append hlater
    constructor
    . rw [hall.exists_router_iff hcontext]
      unfold AllEscaped
      simp only [RouteTable.mem_routes_iff]
    . intro router hrouter request hat
      have hplace : served.servedPath resource.path = (.new context : RouteTable Unit).servedPath resource.path :=
        RouteTable.servedPath_congr hall.context _
      unfold Request.IsAt at hat
      rw [← hplace] at hat
      have hcalls : ∀ call ∈ calls, call.path ≠ resource.path := by
        intro call hcall heq
        apply hfree call.method
        rw [(hbinds.holds (RouteTable.holds_new context)).bound, ← heq]
        exact List.mem_map_of_mem hcall
      apply serves_of_methodsAt?
      rw [RouteTable.methodsAt?_of_escape (hall.sound hcontext) hrouter hpath hat]
      have hholds := hall.holds (RouteTable.holds_new context)
      rw [List.nil_append] at hholds
      exact find?_of_others hholds hcalls hothers

def ledger : Resource Unit :=
  ⟨"/ledger", fun
    | .get => some fun _ => return .ok (.array [.integer 1, .null])
    | .post => some fun _ => return .error (.internal "disk \"full\"")
    | _ => none⟩

def toLedger (method : Method) : Request :=
  ⟨method, ⟨"", "/api/ledger", none⟩, "", none⟩

theorem served_by_verbs_of_ledger :
    Binds (.new "/api") [] (RouteTable.new "/api" : RouteTable (Endpoint Unit))
      ∧
    Path.isRoutable (Path.normalize "/api") = true
      ∧
    Path.isRoutable ledger.path = true
      ∧
    (∀ method, (method, ledger.path) ∉ (RouteTable.new "/api" : RouteTable (Endpoint Unit)).routes)
      ∧
    ∃ table' world' router,
      (ledger.attach (.new "/api")).exec (.idle ()) = (.ok (.ok (), table'), world')
        ∧
      table'.router? = some router
        ∧
      (∃ response,
        (router.serve (toLedger .get)).exec (.idle ()) = (.ok response, .idle ())
          ∧
        response.status = 200 ∧ response.body = "[1,null]")
        ∧
      (∃ response,
        (router.serve (toLedger .post)).exec (.idle ())
          =
        (.ok response, (World.idle ()).record ⟨.resources, .error, "Resource failed", [("error", "disk \"full\"")]⟩)
          ∧
        Json.parse? response.body = some (.object [("error", .string "internal error: disk \"full\"")]))
        ∧
      (∃ response, router.serve (toLedger .head) = pure response ∧ response.status = 405 ∧ response.body = "")
        ∧
      router.serve (toLedger .patch) = pure ⟨405, [("allow", "GET,HEAD,POST,PUT,DELETE")], ""⟩ := by
  have hbinds : Binds (.new "/api") [] (RouteTable.new "/api" : RouteTable (Endpoint Unit)) := .nil _
  have hcontext : Path.isRoutable (Path.normalize "/api") = true := by decide
  have hpath : Path.isRoutable ledger.path = true := by decide
  have hfree : ∀ method, (method, ledger.path) ∉ (RouteTable.new "/api" : RouteTable (Endpoint Unit)).routes := by
    intro method hmem
    exact absurd (RouteTable.mem_routes_iff.mp hmem) List.not_mem_nil
  refine ⟨hbinds, hcontext, hpath, hfree, ?_⟩
  obtain ⟨table', world', hexec, hserved⟩ := served_by_verbs ledger hbinds hcontext hpath hfree (.idle ())
  have hrouter : ∃ router, table'.router? = some router := by
    cases hexec
    exact ⟨_, rfl⟩
  obtain ⟨router, hrouter⟩ := hrouter
  have hserves (method : Method) : ledger.Serves router (toLedger method) := by
    apply (hserved [] table' (.nil table') (List.forall_mem_nil _)).2 router hrouter
    rw [Request.isAt_iff_of_isLiteral (by decide) (by decide)]
    change "/api/ledger" = Path.join (Path.normalize "/api") "/ledger"
    decide
  refine ⟨table', world', router, hexec, hrouter, ?_, ?_, ?_, ?_⟩
  . obtain ⟨response, hserve, hshows⟩ := ((hserves .get).implemented .get _ rfl rfl (.idle ())).1 _ _ rfl
    obtain ⟨hstatus, hbody⟩ := hshows.ok _ rfl
    refine ⟨response, hserve, hstatus, ?_⟩
    rw [hbody (by decide)]
    decide +kernel
  . obtain ⟨response, hserve, hshows⟩ := ((hserves .post).implemented .post _ rfl rfl (.idle ())).1 _ _ rfl
    exact ⟨response, hserve, (hshows.error _ rfl).2 (by decide)⟩
  . obtain ⟨response, hserve, hshows⟩ := (hserves .head).unimplemented .head rfl rfl
    exact ⟨response, hserve, (hshows.error _ rfl).1, hshows.head rfl⟩
  . apply (hserves .patch).others
    rintro (_ | _ | _ | _ | _) <;> nofun

/-- A resource whose braces are doubled is registered, but not served at its path. -/
theorem missed_at_doubled_braces :
    ∃ table world router,
      (Resource.attach ⟨"/a\x7d\x7d", greeting.implementation⟩ (.new "/")).exec (.idle ())
        =
      (.ok (.ok (), table), world)
        ∧
      table.router? = some router
        ∧
      router.serve ⟨.get, ⟨"", "/a\x7d\x7d", none⟩, "", none⟩ = pure (.empty 404) :=
  ⟨_, _, _, rfl, rfl, rfl⟩

end Resource
end ServiceHost.Http
