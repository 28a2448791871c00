import ServiceHost.Proofs.Http.Assembly
import ServiceHost.Proofs.Http.Binding

/-!
This module contains where the router of a table takes requests, in terms of the calls that bound its
endpoints. The paths are ones without braces.
-/

namespace ServiceHost

namespace Http

variable {σ : Type}

namespace RouteTable

variable {ε : Type}

theorem router?_of_isLiteral {table : RouteTable ε}
    (hcontext : table.contextSegments.any ContextSegment.isForbidden = false)
    (hpaths : ∀ entry ∈ table.paths, entry.2.methods.Nodup
      ∧ Pattern.IsLiteral entry.1.toList
      ∧ Pattern.IsLiteral (table.servedPath entry.1).toList) :
    table.router?
      =
    some ⟨table.contextSegments,
      table.paths.entries.map fun entry => ((table.servedPath entry.1).toList.map .char, entry.2)⟩ := by
  unfold router?
  rw [hcontext]
  rw [mapM_eq_some_iff.mpr
    (forall₂_map (g := fun entry => ((table.servedPath entry.1).toList.map .char, entry.2)) ?_)]
  . rfl
  . intro entry hentry
    obtain ⟨hmethods, hpath, hserved⟩ := hpaths entry hentry
    dsimp only
    rw [Pattern.ofText?_of_isLiteral hpath, Pattern.ofText?_of_isLiteral hserved]
    simp [hmethods]

theorem contextSegments_of_root {table : RouteTable ε} (h : table.context = Path.root) :
    table.contextSegments = [] := by
  unfold contextSegments
  rw [if_pos h]

theorem exists_router_of_isLiteral {table : RouteTable ε}
    (hcontext : table.contextSegments.any ContextSegment.isForbidden = false)
    (hpaths : ∀ entry ∈ table.paths, entry.2.methods.Nodup
      ∧ Pattern.IsLiteral entry.1.toList
      ∧ Pattern.IsLiteral (table.servedPath entry.1).toList) :
    ∃ router, table.router? = some router ∧ router.context = table.contextSegments
      ∧ ∀ path : String, router.methodsAt? path.toList
        =
      (List.find? (fun entry => table.servedPath entry.1 == path) table.paths.entries).map (·.2) := by
  refine ⟨_, router?_of_isLiteral hcontext hpaths, rfl, ?_⟩
  intro path
  unfold Router.methodsAt?
  have haccepts : (fun route : Pattern × MethodTable ε => route.1.accepts path.toList) ∘
        (fun entry : String × MethodTable ε => ((table.servedPath entry.1).toList.map .char, entry.2))
      = fun entry => table.servedPath entry.1 == path := by
    funext entry
    dsimp only [Function.comp_apply]
    rw [Pattern.accepts_map_char, Bool.eq_iff_iff, beq_iff_eq, beq_iff_eq, String.toList_inj]
  rw [List.find?_map, haccepts, Option.map_map]
  rfl

theorem exists_router_of_root {table : RouteTable ε} (hroot : table.context = Path.root)
    (hpaths : ∀ entry ∈ table.paths, entry.2.methods.Nodup ∧ Pattern.IsLiteral entry.1.toList) :
    ∃ router, table.router? = some router ∧ router.context = []
      ∧ ∀ path : String, router.methodsAt? path.toList = table.paths.find? path := by
  have hserved : table.servedPath = id := by
    funext path
    exact servedPath_of_root hroot path
  have hsegments := contextSegments_of_root hroot
  have hforbidden : table.contextSegments.any ContextSegment.isForbidden = false := by
    rw [hsegments]
    rfl
  have hliteral : ∀ entry ∈ table.paths, entry.2.methods.Nodup
      ∧ Pattern.IsLiteral entry.1.toList
      ∧ Pattern.IsLiteral (table.servedPath entry.1).toList := by
    intro entry hentry
    rw [hserved]
    exact ⟨(hpaths entry hentry).1, (hpaths entry hentry).2, (hpaths entry hentry).2⟩
  obtain ⟨router, hrouter, hcontext, hlookup⟩ := exists_router_of_isLiteral hforbidden hliteral
  refine ⟨router, hrouter, hcontext.trans hsegments, ?_⟩
  intro path
  rw [hlookup, hserved, Keyed.find?_eq_list_find?]
  rfl

end RouteTable

/-- A method gets to an endpoint on a path: to its own one, or for HEAD to the one of GET. -/
def Call.Reaches (calls : List (Call σ)) (method : Method) (path : String) : Prop :=
  ∃ call ∈ calls, call.path = path ∧ (call.method = method ∨ (method = .head ∧ call.method = .get))

def Call.answer (call : Call σ) (request : Request) : Action σ Response := do
  let response ← call.endpoint request
  return delivered request.method response

structure Dispatches (router : Router (Endpoint σ)) (calls : List (Call σ)) : Prop where
  own : ∀ call ∈ calls, ∀ request : Request,
    call.path = request.uri.path → call.method = request.method →
      router.serve request = call.answer request
  head : ∀ call ∈ calls, ∀ request : Request,
    call.path = request.uri.path → call.method = .get → request.method = .head →
      (∀ other ∈ calls, other.path = request.uri.path → other.method ≠ .head) →
        router.serve request = call.answer request
  refused : ∀ request : Request,
    (∃ call ∈ calls, call.path = request.uri.path) →
      ¬ Call.Reaches calls request.method request.uri.path →
        ∃ methods : List Method,
          (methods.map (·.name)).Nodup
            ∧
          (∀ method, method ∈ methods ↔ Call.Reaches calls method request.uri.path)
            ∧
          router.serve request
            =
          pure ⟨405, [("allow", ",".intercalate (methods.map (·.name)))], ""⟩
  missing : ∀ request : Request,
    (∀ call ∈ calls, call.path ≠ request.uri.path) → router.serve request = pure (.empty 404)

namespace Router

theorem view_of_root {ε : Type} {router : Router ε} (hcontext : router.context = []) (uri : Uri) :
    router.view uri = uri := by
  unfold view
  rw [hcontext]

theorem serve_of_endpoint {router : Router (Endpoint σ)} {request : Request} {endpoint : Endpoint σ}
    (hcontext : router.context = [])
    (h : router.dispatch request.method request.uri.path = .endpoint endpoint) :
    router.serve request = do return delivered request.method (← endpoint request) := by
  unfold serve
  rw [h, view_of_root hcontext]

theorem dispatch_of_some {ε : Type} {router : Router ε} {method : Method} {path : String}
    {table : MethodTable ε} {endpoint : ε} (h : router.methodsAt? path.toList = some table)
    (hanswer : table.answering? method = some endpoint) :
    router.dispatch method path = .endpoint endpoint := by
  unfold dispatch
  rw [h]
  dsimp only
  rw [hanswer]

theorem dispatch_of_none {ε : Type} {router : Router ε} {method : Method} {path : String}
    {table : MethodTable ε} (h : router.methodsAt? path.toList = some table)
    (hanswer : table.answering? method = none) :
    router.dispatch method path = .methodNotAllowed table.allowed := by
  unfold dispatch
  rw [h]
  dsimp only
  rw [hanswer]

theorem dispatch_of_missing {ε : Type} {router : Router ε} {method : Method} {path : String}
    (h : router.methodsAt? path.toList = none) : router.dispatch method path = .notFound := by
  unfold dispatch
  rw [h]

end Router

def Call.table (path : String) (calls : List (Call σ)) : MethodTable (Endpoint σ) :=
  ⟨(onPath path calls).map entry⟩

namespace Call

theorem mem_methods_table_iff (path : String) (calls : List (Call σ)) (method : Method) :
    method ∈ (table path calls).methods ↔ ∃ call ∈ calls, call.path = path ∧ call.method = method := by
  simp [table, MethodTable.methods, onPath, entry, and_assoc]

theorem mem_allowed_table_iff (path : String) (calls : List (Call σ)) (method : Method) :
    method ∈ (table path calls).allowed ↔ Reaches calls method path := by
  rw [MethodTable.mem_allowed_iff, mem_methods_table_iff, mem_methods_table_iff]
  unfold Reaches
  grind

theorem isRoutable_of_reaches {calls : List (Call σ)} {method : Method} {path : String}
    (hroutable : ∀ call ∈ calls, call.method.isRoutable = true) (h : Reaches calls method path) :
    method.isRoutable = true := by
  obtain ⟨call, hcall, -, hmethod⟩ := h
  cases hmethod with
  | inl hmethod => exact hmethod ▸ hroutable call hcall
  | inr hmethod =>
    rw [hmethod.1]
    rfl

theorem names_allowed_nodup {path : String} {calls : List (Call σ)}
    (hroutable : ∀ call ∈ calls, call.method.isRoutable = true) :
    ((table path calls).allowed.map (·.name)).Nodup := by
  unfold List.Nodup
  rw [List.pairwise_map]
  apply List.Pairwise.imp_of_mem _ (table path calls).allowed_nodup
  intro a b ha hb hne hname
  rw [mem_allowed_table_iff] at ha hb
  apply hne
  exact Method.name_injOn (isRoutable_of_reaches hroutable ha) (isRoutable_of_reaches hroutable hb) hname

theorem methods_table_nodup {calls : List (Call σ)} (path : String)
    (h : (calls.map pair).Nodup) : (table path calls).methods.Nodup := by
  have := RouteTable.methods_onPath_nodup path h
  simpa [table, MethodTable.methods, Function.comp_def, entry] using this

theorem entry_mem_table {call : Call σ} {calls : List (Call σ)} (h : call ∈ calls) :
    call.entry ∈ (table call.path calls).entries := by
  unfold table onPath
  apply List.mem_map_of_mem
  simp [h]

theorem find?_table {call : Call σ} {calls : List (Call σ)} (h : (calls.map pair).Nodup)
    (hcall : call ∈ calls) :
    (table call.path calls).find? call.method = some call.endpoint := by
  exact MethodTable.find?_of_mem (methods_table_nodup _ h) (entry_mem_table hcall)

end Call

theorem RouteTable.Holds.find?_of_mem {table : RouteTable (Endpoint σ)} {calls : List (Call σ)} {call : Call σ}
    (h : Holds table calls) (hcall : call ∈ calls) :
    table.paths.find? call.path = some (Call.table call.path calls) := by
  rw [h.find?, if_neg]
  . rfl
  . apply List.ne_nil_of_mem (a := call)
    simp [Call.onPath, hcall]

theorem RouteTable.Holds.dispatches {table : RouteTable (Endpoint σ)} {calls : List (Call σ)}
    {router : Router (Endpoint σ)} (h : Holds table calls) (hcontext : router.context = [])
    (hpaths : ∀ path : String, router.methodsAt? path.toList = table.paths.find? path) :
    Dispatches router calls := by
  have hbound : ∀ call ∈ calls, router.methodsAt? call.path.toList = some (Call.table call.path calls) := by
    intro call hcall
    rw [hpaths, h.find?_of_mem hcall]
  constructor
  case own =>
    intro call hcall request hpath hmethod
    apply Router.serve_of_endpoint hcontext
    rw [← hpath, ← hmethod]
    apply Router.dispatch_of_some (hbound call hcall)
    unfold MethodTable.answering?
    rw [Call.find?_table h.nodup hcall]
  case head =>
    intro call hcall request hpath hget hhead hnone
    apply Router.serve_of_endpoint hcontext
    rw [← hpath, hhead]
    apply Router.dispatch_of_some (hbound call hcall)
    have hnohead : (Call.table call.path calls).find? .head = none := by
      rw [MethodTable.find?_eq_none_iff, Call.mem_methods_table_iff]
      rintro ⟨other, hother, hsame, hmethod⟩
      exact hnone other hother (hsame.trans hpath) hmethod
    unfold MethodTable.answering?
    rw [hnohead, ← hget, Call.find?_table h.nodup hcall]
    rfl
  case refused =>
    rintro request ⟨call, hcall, hpath⟩ hreach
    refine ⟨(Call.table call.path calls).allowed, ?_, ?_, ?_⟩
    . apply Call.names_allowed_nodup
      exact h.routable
    . intro method
      rw [Call.mem_allowed_table_iff, hpath]
    . have hnone : (Call.table call.path calls).answering? request.method = none := by
        rw [MethodTable.answering?_eq_none_iff, Call.mem_allowed_table_iff, hpath]
        exact hreach
      unfold Router.serve
      rw [← hpath, Router.dispatch_of_none (hbound call hcall) hnone]
      rfl
  case missing =>
    intro request hmissing
    have hnone : router.methodsAt? request.uri.path.toList = none := by
      rw [hpaths, h.find?, if_pos]
      unfold Call.onPath
      rw [List.filter_eq_nil_iff]
      intro call hcall
      simpa using hmissing call hcall
    unfold Router.serve
    rw [Router.dispatch_of_missing hnone]

/--
After any run of calls on the root, the endpoints are served where the accepted calls put them, and
the refused ones have made no difference.
-/
theorem serve_after_calls (context : String) (hroot : Path.normalize context = Path.root)
    (calls : List (Call σ)) (hcalls : ∀ call ∈ calls, Pattern.IsLiteral call.path.toList)
    (world : World σ) :
    ∃ answers table router world',
      ((RouteTable.new context).attachEach calls).exec world = (.ok (answers, table), world')
        ∧
      answers.length = calls.length
        ∧
      table.router? = some router
        ∧
      ((Call.accepted calls answers).map Call.pair).Nodup
        ∧
      Dispatches router (Call.accepted calls answers)
        ∧
      ∀ i e, answers[i]? = some (.error e) →
        ((RouteTable.new context).attachEach (calls.eraseIdx i)).exec world
          =
        (.ok (answers.eraseIdx i, table), world') := by
  obtain ⟨answers, table, world', hexec, hlength⟩ :=
    RouteTable.attachEach_exec calls (RouteTable.new context) world
  obtain ⟨hholds, hcontext⟩ := (RouteTable.holds_new context).attachEach hexec
  rw [List.nil_append] at hholds
  have hliteral : ∀ entry ∈ table.paths, entry.2.methods.Nodup ∧ Pattern.IsLiteral entry.1.toList := by
    intro entry hentry
    obtain ⟨hmethods, call, hcall, hpath⟩ := hholds.paths entry hentry
    exact ⟨hmethods, hpath ▸ hcalls call (Call.mem_of_mem_accepted hcall)⟩
  obtain ⟨router, hrouter, hsegments, hpaths⟩ :=
    RouteTable.exists_router_of_root (hcontext.trans hroot) hliteral
  refine ⟨answers, table, router, world', hexec, hlength, hrouter, hholds.nodup, ?_, ?_⟩
  . exact hholds.dispatches hsegments hpaths
  . intro i e hi
    exact RouteTable.attachEach_eraseIdx hexec hi

def greets (text : String) : Endpoint Unit := fun _ => return .text 200 text

def greetingCalls : List (Call Unit) :=
  [⟨.get, "/hello", greets "hello"⟩, ⟨.get, "/hello", greets "again"⟩,
   ⟨.post, "/hello", greets "posted"⟩, ⟨.get, "hello", greets "lost"⟩]

theorem serve_after_greetingCalls :
    Path.normalize "/" = Path.root
      ∧
    (∀ call ∈ greetingCalls, Pattern.IsLiteral call.path.toList)
      ∧
    ∃ table router world',
      ((RouteTable.new "/").attachEach greetingCalls).exec (.idle ())
        =
      (.ok ([.ok (), .error (.duplicate .get "/hello"), .ok (), .error (.invalidPath "hello")], table),
        world')
        ∧
      table.router? = some router
        ∧
      Dispatches router [⟨.get, "/hello", greets "hello"⟩, ⟨.post, "/hello", greets "posted"⟩] := by
  have hroot : Path.normalize "/" = Path.root := by decide
  have hcalls : ∀ call ∈ greetingCalls, Pattern.IsLiteral call.path.toList := by
    simp only [greetingCalls, List.forall_mem_cons]
    decide
  have hrun : ∃ table world',
      ((RouteTable.new "/").attachEach greetingCalls).exec (.idle ())
        =
      (.ok ([.ok (), .error (.duplicate .get "/hello"), .ok (), .error (.invalidPath "hello")], table),
        world') := ⟨_, _, rfl⟩
  obtain ⟨table, world', hrun⟩ := hrun
  obtain ⟨answers, _, router, _, hexec, -, hrouter, -, hdispatches, -⟩ :=
    serve_after_calls "/" hroot greetingCalls hcalls (.idle ())
  rw [hrun] at hexec
  cases hexec
  exact ⟨hroot, hcalls, table, router, world', hrun, hrouter, hdispatches⟩

end Http
end ServiceHost
