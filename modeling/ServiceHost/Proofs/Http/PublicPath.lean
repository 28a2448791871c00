import ServiceHost.Proofs.Http.Nesting
import ServiceHost.Proofs.Http.Uri
import ServiceHost.Proofs.Serving.Routers

/-!
This module contains the public paths that are reported when endpoints are bound, and where the router takes
requests for them. They agree except for the root path below another context path: it is served at the
context path itself, and reported with a slash behind it, where nothing is served.
-/

namespace ServiceHost.Http

variable {σ : Type}

theorem Path.isLiteral_normalize {context : String} (h : Pattern.IsLiteral context.toList) :
    Pattern.IsLiteral (normalize context).toList := by
  rw [toList_normalize, Pattern.IsLiteral, List.forall_mem_cons]
  refine ⟨by decide, ?_⟩
  intro c hc
  exact h c (Text.mem_of_mem_trim hc)

/-- Requests for a path get to the endpoint of a call, and the endpoint sees the path that it was bound to. -/
def Router.Serves (router : Router (Endpoint σ)) (path : String) (call : Call σ) : Prop :=
  ∀ request : Request, request.method = call.method → request.uri.path = path →
    router.serve request = call.answer (request.withPath call.path)

/-- Requests for a path find nothing, whatever their method is. -/
def Router.Misses (router : Router (Endpoint σ)) (path : String) : Prop :=
  ∀ request : Request, request.uri.path = path → router.serve request = pure (.empty 404)

namespace RouteTable

variable {table : RouteTable (Endpoint σ)} {calls : List (Call σ)} {router : Router (Endpoint σ)}
  {call : Call σ}

theorem attachEach_exec_reports {table table' : RouteTable (Endpoint σ)} {calls : List (Call σ)}
    {answers : List (Except RouteError Unit)} {world world' : World σ}
    (hexec : (table.attachEach calls).exec world = (.ok (answers, table'), world')) :
    world'
      =
    world.recordAll (((Call.accepted calls answers).map Call.pair).map (report table.context)) := by
  induction calls generalizing table answers world with
  | nil =>
    cases hexec
    rfl
  | cons call calls ih =>
    cases hbind : table.bind call.method call.path call.endpoint with
    | error e =>
      obtain ⟨rest, last, final, hrest, -⟩ := attachEach_exec calls table world
      rw [attachEach_cons_of_error hbind hrest] at hexec
      cases hexec
      exact ih hrest
    | ok bound =>
      obtain ⟨rest, last, final, hrest, -⟩ := attachEach_exec calls bound (world.record _)
      rw [attachEach_cons_of_ok hbind hrest] at hexec
      cases hexec
      obtain ⟨-, -, -, hbound⟩ := bind_eq_ok hbind
      have hcontext : bound.context = table.context := by rw [hbound]
      rw [ih hrest, hcontext]
      rfl

theorem Holds.serves_servedPath (h : Holds table calls) (hsound : table.Sound)
    (hrouter : table.router? = some router) (hcall : call ∈ calls)
    (hcontext : Pattern.IsLiteral table.context.toList) (hpath : Pattern.IsLiteral call.path.toList) :
    router.Serves (table.servedPath call.path) call := by
  have hliteral := isLiteral_servedPath hcontext hpath
  intro request hmethod hat
  exact h.serve_of_servedPath hsound hrouter hcall hliteral hmethod hat

theorem servedPath_eq_join {ε : Type} {table : RouteTable ε} {path : String}
    (h : ¬ (path = Path.root ∧ table.context ≠ Path.root)) :
    table.servedPath path = Path.join table.context path := by
  by_cases hpath : path = Path.root
  . have hcontext : table.context = Path.root := by
      by_contra hcontext
      exact h ⟨hpath, hcontext⟩
    rw [servedPath_of_root hcontext, Path.join, if_pos hcontext]
  . exact servedPath_of_ne_root hpath

theorem Binds.misses_join_root {context : String} (h : Binds (.new context) calls table)
    (hcontext : Path.isRoutable (Path.normalize context) = true) (hrouter : table.router? = some router)
    (hliteral : Pattern.IsLiteral (Path.normalize context).toList)
    (hroot : Path.normalize context ≠ Path.root) :
    router.Misses (Path.join (Path.normalize context) Path.root) := by
  intro request hpath
  have hsound := h.sound hcontext
  rw [Path.join, if_neg hroot] at hpath
  apply (h.servesOnly hcontext hrouter).others
  intro pair hpair hat
  have hpairRoutable : Path.isRoutable pair.2 = true :=
    ((h.holds (holds_new context)).forall_paths_iff fun path => Path.isRoutable path = true).mp
      hsound.paths pair hpair
  have hescape : Pattern.escape (Path.normalize context ++ Path.root).toList
      = (Path.normalize context ++ Path.root).toList := by
    apply Pattern.escape_of_isLiteral
    rw [String.toList_append]
    intro c hc
    rw [List.mem_append] at hc
    cases hc with
    | inl hc => exact hliteral c hc
    | inr hc =>
      have hslash : Pattern.IsLiteral Path.root.toList := by decide
      exact hslash c hc
  have hplace : (RouteTable.new context : RouteTable Unit).context ≠ Path.root := hroot
  unfold Request.IsAt at hat
  rw [hpath, hescape, String.toList_inj] at hat
  by_cases hown : pair.2 = Path.root
  . rw [hown, servedPath_rootPath] at hat
    exact absurd (String.append_eq_left_iff.mp hat.symm) (by decide)
  . rw [servedPath_of_ne hplace hown] at hat
    exact hown ((String.append_right_inj _).mp hat)

end RouteTable

/--
Whatever calls bind endpoints under a context path without braces that was checked, each accepted one is
reported with its public path, and at that path the router takes the requests of its method to its endpoint.
The one exception is the root path when the context path is another one: it is served at the context path
itself, and nothing at the path that was reported. A public path that can be the path of a target is one.
-/
theorem reported_path_serves (context : String) (hcontext : Config.pathViolations context = [])
    (hplain : Pattern.IsLiteral context.toList) (calls : List (Call σ)) (world : World σ) :
    ∃ answers table,
      ((RouteTable.new context).attachEach calls).exec world
        =
      (.ok (answers, table),
        world.recordAll (((Call.accepted calls answers).map Call.pair).map
          (RouteTable.report (Path.normalize context))))
        ∧
      answers.length = calls.length
        ∧
      ((∀ call ∈ Call.accepted calls answers, Pattern.IsLiteral call.path.toList) →
        ∃ router, table.router? = some router)
        ∧
      ∀ router, table.router? = some router →
        ∀ call ∈ Call.accepted calls answers, Pattern.IsLiteral call.path.toList →
          (Uri.IsPlain (Path.join (Path.normalize context) call.path) →
            Uri.parse? (Path.join (Path.normalize context) call.path)
              =
            some ⟨"", Path.join (Path.normalize context) call.path, none⟩)
            ∧
          if call.path = Path.root ∧ Path.normalize context ≠ Path.root then
            router.Serves (Path.normalize context) call
              ∧
            router.Misses (Path.join (Path.normalize context) call.path)
          else
            router.Serves (Path.join (Path.normalize context) call.path) call := by
  have hroutable := Configuration.isRoutable_of_pathViolations hcontext
  have hliteral := Path.isLiteral_normalize hplain
  obtain ⟨answers, table, after, hexec, hlength⟩ :=
    RouteTable.attachEach_exec calls (RouteTable.new context) world
  have hbinds := RouteTable.attachEach_binds hexec
  have hholds := hbinds.holds (RouteTable.holds_new context)
  rw [List.nil_append] at hholds
  have hsound := hbinds.sound hroutable
  have hnormal : table.context = Path.normalize context := hbinds.context
  refine ⟨answers, table, ?_, hlength, ?_, ?_⟩
  . rw [hexec, RouteTable.attachEach_exec_reports hexec]
    rfl
  . intro hcalls
    rw [hbinds.exists_router_iff hroutable, hholds.bound]
    intro pair hpair
    obtain ⟨call, hcall, rfl⟩ := List.mem_map.mp hpair
    exact ⟨Pattern.isEscaped_of_isLiteral hliteral, Pattern.isEscaped_of_isLiteral (hcalls call hcall)⟩
  . intro router hrouter call hcall hpath
    have hserves := hholds.serves_servedPath hsound hrouter hcall (hnormal ▸ hliteral) hpath
    constructor
    . intro htarget
      apply Uri.parse?_of_isPlain htarget
      exact Path.head?_join hroutable (hholds.isRoutable_of_mem hsound hcall)
    . rw [← hnormal]
      split
      . next hroot =>
        rw [hroot.1, RouteTable.servedPath_rootPath] at hserves
        rw [hroot.1, hnormal]
        rw [hnormal] at hserves hroot
        exact ⟨hserves, hbinds.misses_join_root hroutable hrouter hliteral hroot.2⟩
      . next hroot =>
        rw [RouteTable.servedPath_eq_join hroot] at hserves
        exact hserves

def homeCalls : List (Call Unit) :=
  [⟨.get, "/", greets "home"⟩, ⟨.post, "/notes/", greets "noted"⟩, ⟨.get, "notes", greets "lost"⟩]

theorem reported_path_serves_of_homeCalls :
    Config.pathViolations "/app/" = []
      ∧
    Pattern.IsLiteral "/app/".toList
      ∧
    ∃ table router,
      ((RouteTable.new "/app/").attachEach homeCalls).exec (.idle ())
        =
      (.ok ([.ok (), .ok (), .error (.invalidPath "notes")], table),
        (World.idle ()).recordAll
          [⟨.routes, .debug, "Route bound", [("method", "GET"), ("path", "/app/")]⟩,
           ⟨.routes, .debug, "Route bound", [("method", "POST"), ("path", "/app/notes/")]⟩])
        ∧
      table.router? = some router
        ∧
      Uri.parse? "/app/notes/" = some ⟨"", "/app/notes/", none⟩
        ∧
      router.Serves "/app/notes/" ⟨.post, "/notes/", greets "noted"⟩
        ∧
      router.Serves "/app" ⟨.get, "/", greets "home"⟩
        ∧
      router.Misses "/app/" := by
  have hcontext : Config.pathViolations "/app/" = [] := by decide
  have hplain : Pattern.IsLiteral "/app/".toList := by decide
  obtain ⟨answers, table, hexec, -, hrouter, hserves⟩ :=
    reported_path_serves "/app/" hcontext hplain homeCalls (.idle ())
  have hrun : ∃ bound world',
      ((RouteTable.new "/app/").attachEach homeCalls).exec (.idle ())
        =
      (.ok ([.ok (), .ok (), .error (.invalidPath "notes")], bound), world') := ⟨_, _, rfl⟩
  obtain ⟨bound, world', hrun⟩ := hrun
  obtain ⟨hanswers, -⟩ := Prod.mk.inj (Except.ok.inj (congrArg Prod.fst (hexec.symm.trans hrun)))
  subst hanswers
  have haccepted : Call.accepted homeCalls [.ok (), .ok (), .error (.invalidPath "notes")]
      = [⟨.get, "/", greets "home"⟩, ⟨.post, "/notes/", greets "noted"⟩] := rfl
  have hnormal : Path.normalize "/app/" = "/app" := by decide
  rw [haccepted, hnormal] at hexec hserves
  rw [haccepted] at hrouter
  obtain ⟨router, hrouter⟩ := hrouter (by decide)
  obtain ⟨-, hhome⟩ := hserves router hrouter ⟨.get, "/", greets "home"⟩ (by simp) (by decide)
  rw [if_pos (by decide)] at hhome
  obtain ⟨hparse, hnotes⟩ := hserves router hrouter ⟨.post, "/notes/", greets "noted"⟩ (by simp) (by decide)
  rw [if_neg (by decide)] at hnotes
  exact ⟨hcontext, hplain, table, router, hexec, hrouter, hparse (by decide +kernel), hnotes, hhome⟩

/-- The root path is bound and reported below a context path, and nothing is served where it was reported. -/
theorem root_missed_where_reported :
    Config.pathViolations "/p" = []
      ∧
    Uri.parse? "/p/" = some ⟨"", "/p/", none⟩
      ∧
    ∃ table router,
      ((RouteTable.new "/p").attachEach [⟨.get, "/", greets "home"⟩]).exec (.idle ())
        =
      (.ok ([.ok ()], table),
        (World.idle ()).record ⟨.routes, .debug, "Route bound", [("method", "GET"), ("path", "/p/")]⟩)
        ∧
      table.router? = some router
        ∧
      router.serve ⟨.get, ⟨"", "/p/", none⟩, "", none⟩ = pure (.empty 404) := by
  have hconcrete : ∃ table,
      ((RouteTable.new "/p").attachEach [⟨.get, "/", greets "home"⟩]).exec (.idle ())
        =
      (.ok ([.ok ()], table),
        (World.idle ()).record ⟨.routes, .debug, "Route bound", [("method", "GET"), ("path", "/p/")]⟩)
        ∧
      table.router?.isSome
        ∧
      table.router?.all fun router => (router.methodsAt? "/p/".toList).isNone :=
    ⟨_, rfl, by decide +kernel, by decide +kernel⟩
  obtain ⟨table, hexec, hsome, hmissing⟩ := hconcrete
  obtain ⟨router, hrouter⟩ := Option.isSome_iff_exists.mp hsome
  rw [hrouter, Option.all_some, Option.isNone_iff_eq_none] at hmissing
  refine ⟨by decide, by decide +kernel, table, router, hexec, hrouter, ?_⟩
  unfold Router.serve
  rw [Router.dispatch_of_missing hmissing]

end ServiceHost.Http
