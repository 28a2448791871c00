import ServiceHost.Proofs.Http.Served

/-!
This module contains routers of the same bindings under two context paths. The one below a context path
answers what the one at the root answers for the rest of the path, and nothing outside of the context path.
-/

namespace ServiceHost.Http

variable {σ : Type}

def Request.withPath (path : String) (request : Request) : Request :=
  { request with uri := { request.uri with path } }

/--
A router takes a request where another one takes the request for some path: to the same endpoint, which
sees that path, and so with the same answer.
-/
structure Router.Mirrors (nested root : Router (Endpoint σ)) (request : Request) (path : String) : Prop where
  takes : ∀ endpoint, nested.Takes request endpoint ↔ root.Takes (request.withPath path) endpoint
  seen : ∀ endpoint, nested.Takes request endpoint →
    nested.seen request = request.withPath path ∧ root.seen (request.withPath path) = request.withPath path
  serve : nested.serve request = root.serve (request.withPath path)

/--
A router answers below a context path as another one does at the root. The context path itself stands for
the root path; with a slash behind it and nothing else it is a path that nothing is bound to.
-/
structure Router.Nests (context : String) (nested root : Router (Endpoint σ)) : Prop where
  own : ∀ request : Request, request.uri.path = context → Mirrors nested root request Path.root
  below : ∀ (request : Request) (path : String), path.toList.head? = some '/' → path ≠ Path.root →
    request.uri.path = context ++ path → Mirrors nested root request path
  elsewhere : ∀ request : Request, request.uri.path ≠ context →
    (∀ path : String, path.toList.head? = some '/' → path ≠ Path.root →
      request.uri.path ≠ context ++ path) →
        nested.serve request = pure (.empty 404)

namespace Router

variable {nested root : Router (Endpoint σ)} {request : Request} {path : String}

theorem serve_congr (hdispatch : nested.dispatch request.method request.uri.path = root.dispatch request.method path)
    (hseen : ∀ endpoint, nested.Takes request endpoint → nested.seen request = root.seen (request.withPath path)) :
    nested.serve request = root.serve (request.withPath path) := by
  have hshifted : root.dispatch (request.withPath path).method (request.withPath path).uri.path
      = nested.dispatch request.method request.uri.path := hdispatch.symm
  cases htarget : nested.dispatch request.method request.uri.path with
  | notFound =>
    unfold serve
    rw [hshifted, htarget]
  | methodNotAllowed allowed =>
    unfold serve
    rw [hshifted, htarget]
  | endpoint endpoint =>
    rw [serve_of_takes htarget, serve_of_takes (hshifted.trans htarget), hseen endpoint htarget]
    rfl

theorem mirrors_of_methodsAt? (hroot : root.context = [])
    (hmethods : nested.methodsAt? request.uri.path.toList = root.methodsAt? path.toList)
    (hview : ∀ table, root.methodsAt? path.toList = some table →
      nested.view request.uri = { request.uri with path }) : Mirrors nested root request path := by
  have hdispatch : nested.dispatch request.method request.uri.path = root.dispatch request.method path := by
    unfold dispatch
    rw [hmethods]
  have hseenRoot : root.seen (request.withPath path) = request.withPath path := by
    unfold seen
    rw [view_of_root hroot]
  have hseen : ∀ endpoint, nested.Takes request endpoint → nested.seen request = request.withPath path := by
    intro endpoint htakes
    unfold Takes at htakes
    cases hbound : root.methodsAt? path.toList with
    | none =>
      rw [dispatch_of_missing (hmethods.trans hbound)] at htakes
      cases htakes
    | some table =>
      unfold seen
      rw [hview table hbound]
      rfl
  constructor
  case takes =>
    intro endpoint
    unfold Takes
    rw [hdispatch]
    rfl
  case seen =>
    intro endpoint htakes
    exact ⟨hseen endpoint htakes, hseenRoot⟩
  case serve =>
    apply serve_congr hdispatch
    intro endpoint htakes
    rw [hseen endpoint htakes, hseenRoot]

end Router

namespace RouteTable

def under {ε : Type} (context : String) (table : RouteTable ε) : RouteTable ε :=
  { table with context }

theorem under_new (context : String) :
    (new context : RouteTable (Endpoint σ)).under Path.root = new Path.root := by
  rfl

theorem bind_under {ε : Type} (context : String) (table : RouteTable ε) (method : Method) (path : String)
    (endpoint : ε) :
    (table.under context).bind method path endpoint = (table.bind method path endpoint).map (under context) := by
  unfold bind
  rw [apply_ite (Except.map (under context)), apply_ite (Except.map (under context))]
  rw [apply_ite (Except.map (under context))]
  rfl

theorem attachEach_under (context : String) {calls : List (Call σ)} {table table' : RouteTable (Endpoint σ)}
    {answers : List (Except RouteError Unit)} {world world' : World σ}
    (h : (table.attachEach calls).exec world = (.ok (answers, table'), world')) (other : World σ) :
    ∃ other', ((table.under context).attachEach calls).exec other
      =
    (.ok (answers, table'.under context), other') := by
  induction calls generalizing table answers world other with
  | nil =>
    cases h
    exact ⟨other, rfl⟩
  | cons call calls ih =>
    have hunder := bind_under context table call.method call.path call.endpoint
    cases hbind : table.bind call.method call.path call.endpoint with
    | error e =>
      obtain ⟨rest, last, final, hrest, -⟩ := attachEach_exec calls table world
      rw [attachEach_cons_of_error hbind hrest] at h
      cases h
      rw [hbind] at hunder
      obtain ⟨other', hother⟩ := ih hrest other
      exact ⟨other', attachEach_cons_of_error hunder hother⟩
    | ok bound =>
      obtain ⟨rest, last, final, hrest, -⟩ := attachEach_exec calls bound (world.record _)
      rw [attachEach_cons_of_ok hbind hrest] at h
      cases h
      rw [hbind] at hunder
      obtain ⟨other', hother⟩ := ih hrest (other.record (report context call.pair))
      exact ⟨other', attachEach_cons_of_ok hunder hother⟩

section

variable {ε : Type} {table : RouteTable ε}

theorem isLiteral_servedPath {path : String} (hcontext : Pattern.IsLiteral table.context.toList)
    (hpath : Pattern.IsLiteral path.toList) : Pattern.IsLiteral (table.servedPath path).toList := by
  by_cases hroot : table.context = Path.root
  . rw [servedPath_of_root hroot]
    exact hpath
  . by_cases hroot' : path = Path.root
    . rw [hroot', servedPath_rootPath]
      exact hcontext
    . rw [servedPath_of_ne hroot hroot', String.toList_append]
      intro c hc
      rw [List.mem_append] at hc
      cases hc with
      | inl hc => exact hcontext c hc
      | inr hc => exact hpath c hc

theorem find?_servedPath (hpaths : ∀ entry ∈ table.paths, Path.isRoutable entry.1 = true) {path : String}
    (hpath : path ≠ "") :
    (List.find? (fun entry => table.servedPath entry.1 == table.servedPath path) table.paths.entries).map (·.2)
      =
    table.paths.find? path := by
  rw [Keyed.find?_eq_list_find?]
  apply congrArg
  apply List.find?_congr
  intro entry hentry
  rw [Bool.eq_iff_iff, beq_iff_eq, beq_iff_eq]
  constructor
  . intro h
    exact table.eq_of_servedPath_eq (Path.ne_empty_of_isRoutable (hpaths entry hentry)) hpath h
  . intro h
    rw [h]

end

/-- The routers of a table and of its routes at the root, where no brace is in the way. -/
theorem nests_of_isLiteral {table : RouteTable (Endpoint σ)} {start : List Char}
    (hne : table.context ≠ Path.root)
    (hstart : table.context.toList = '/' :: start)
    (hcontext : Pattern.IsLiteral table.context.toList)
    (hforbidden : table.contextSegments.any ContextSegment.isForbidden = false)
    (hliteral : ∀ entry ∈ table.paths, entry.2.methods.Nodup ∧ Pattern.IsLiteral entry.1.toList)
    (hroutable : ∀ entry ∈ table.paths, Path.isRoutable entry.1 = true) :
    ∃ nested root, table.router? = some nested ∧ (table.under Path.root).router? = some root
      ∧ Router.Nests table.context nested root := by
  have hserved : ∀ entry ∈ table.paths, entry.2.methods.Nodup
      ∧ Pattern.IsLiteral entry.1.toList
      ∧ Pattern.IsLiteral (table.servedPath entry.1).toList := by
    intro entry hentry
    obtain ⟨hmethods, hpath⟩ := hliteral entry hentry
    exact ⟨hmethods, hpath, isLiteral_servedPath hcontext hpath⟩
  obtain ⟨nested, hnested, hsegments, hlookup⟩ := exists_router_of_isLiteral hforbidden hserved
  have hunder : (table.under Path.root).context = Path.root := rfl
  obtain ⟨root, hroot, hbare, hlookup'⟩ := exists_router_of_root hunder hliteral
  rw [contextSegments, if_neg hne, hstart, List.drop_one, List.tail_cons] at hsegments
  -- wherever a path is served, its bindings are found
  have hmethods : ∀ path, path ≠ "" →
      nested.methodsAt? (table.servedPath path).toList = root.methodsAt? path.toList := by
    intro path hpath
    rw [hlookup, hlookup', find?_servedPath hroutable hpath]
    rfl
  refine ⟨nested, root, hnested, hroot, ?_⟩
  constructor
  case own =>
    intro request hrequest
    apply Router.mirrors_of_methodsAt? hbare
    . rw [hrequest, ← hmethods Path.root (by decide), servedPath_rootPath]
    . intro _ _
      apply Router.view_of_context hsegments
      rw [hrequest, hstart]
  case below =>
    intro request path hslash hpath hrequest
    have hempty : path ≠ "" := by
      rintro rfl
      cases hslash
    apply Router.mirrors_of_methodsAt? hbare
    . rw [hrequest, ← servedPath_of_ne hne hpath, hmethods path hempty]
    . intro methods hbound
      rw [hlookup'] at hbound
      apply Router.view_of_append hsegments (hroutable _ (Keyed.mem_of_find? hbound))
      rw [hrequest, String.toList_append, hstart]
  case elsewhere =>
    intro request hown hbelow
    have hmissing : nested.methodsAt? request.uri.path.toList = none := by
      rw [hlookup, Option.map_eq_none_iff, List.find?_eq_none]
      intro entry hentry
      rw [beq_iff_eq]
      intro heq
      by_cases hpath : entry.1 = Path.root
      . rw [hpath, servedPath_rootPath] at heq
        exact hown heq.symm
      . obtain ⟨rest, hrest, -⟩ := Path.exists_of_isRoutable (hroutable entry hentry)
        rw [servedPath_of_ne hne hpath] at heq
        exact hbelow entry.1 (by rw [hrest]; rfl) hpath heq.symm
    unfold Router.serve
    rw [Router.dispatch_of_missing hmissing]

end RouteTable

/--
The same calls on a context path and on the root are answered alike, accepted or refused, and the routers
that come of them answer alike: the one below the context path what the one at the root answers.
-/
theorem nests_after_calls (context : String) (hcontext : Path.normalize context ≠ Path.root)
    (hliteral : Pattern.IsLiteral (Path.normalize context).toList)
    (hsegments : ∀ segment ∈ Text.pieces '/' (Path.normalize context).toList,
      segment.head? ≠ some ':' ∧ segment.head? ≠ some '*')
    (calls : List (Call σ)) (hcalls : ∀ call ∈ calls, Pattern.IsLiteral call.path.toList)
    (world world' : World σ) :
    ∃ answers below above nested root after after',
      ((RouteTable.new context).attachEach calls).exec world = (.ok (answers, below), after)
        ∧
      ((RouteTable.new Path.root).attachEach calls).exec world' = (.ok (answers, above), after')
        ∧
      below.router? = some nested
        ∧
      above.router? = some root
        ∧
      Router.Nests (Path.normalize context) nested root := by
  obtain ⟨answers, table, after, hexec, -⟩ := RouteTable.attachEach_exec calls (.new context) world
  obtain ⟨after', hexec'⟩ := RouteTable.attachEach_under Path.root hexec world'
  rw [RouteTable.under_new] at hexec'
  obtain ⟨hholds, hnormal⟩ := (RouteTable.holds_new context).attachEach hexec
  rw [List.nil_append] at hholds
  have hnew : (RouteTable.new context : RouteTable (Endpoint σ)).context = Path.normalize context := rfl
  rw [hnew] at hnormal
  obtain ⟨start, hstart⟩ := Path.exists_normalize context
  rw [← hnormal] at hcontext hliteral hsegments hstart ⊢
  have hforbidden := RouteTable.forbidden_of_isPlainSegment hstart
    (Path.isPlainSegment_of_isLiteral hliteral hsegments)
  have hpaths : ∀ entry ∈ table.paths, entry.2.methods.Nodup ∧ Pattern.IsLiteral entry.1.toList := by
    intro entry hentry
    obtain ⟨hmethods, call, hcall, hpath⟩ := hholds.paths entry hentry
    exact ⟨hmethods, hpath ▸ hcalls call (Call.mem_of_mem_accepted hcall)⟩
  have hroutable : ∀ entry ∈ table.paths, Path.isRoutable entry.1 = true := by
    apply (RouteTable.attachEach_binds hexec).paths
    simp [RouteTable.new]
  obtain ⟨nested, root, hnested, hroot, hnests⟩ :=
    RouteTable.nests_of_isLiteral hcontext hstart hliteral hforbidden hpaths hroutable
  exact ⟨answers, table, _, nested, root, after, after', hexec, hexec', hnested, hroot, hnests⟩

def echoesTarget : Endpoint Unit := fun request => return .text 200 request.uri.text

def pageCalls : List (Call Unit) :=
  [⟨.get, "/", echoesTarget⟩, ⟨.get, "/page", echoesTarget⟩, ⟨.get, "page", echoesTarget⟩]

theorem nests_after_pageCalls :
    Path.normalize "app/v1/" = "/app/v1"
      ∧
    ∃ below above nested root after after',
      ((RouteTable.new "app/v1/").attachEach pageCalls).exec (.idle ())
        =
      (.ok ([.ok (), .ok (), .error (.invalidPath "page")], below), after)
        ∧
      ((RouteTable.new Path.root).attachEach pageCalls).exec (.idle ())
        =
      (.ok ([.ok (), .ok (), .error (.invalidPath "page")], above), after')
        ∧
      below.router? = some nested
        ∧
      above.router? = some root
        ∧
      Router.Nests "/app/v1" nested root := by
  have hnormal : Path.normalize "app/v1/" = "/app/v1" := by decide
  have hcalls : ∀ call ∈ pageCalls, Pattern.IsLiteral call.path.toList := by
    simp only [pageCalls, List.forall_mem_cons]
    decide
  have hrun : ∃ table world',
      ((RouteTable.new "app/v1/").attachEach pageCalls).exec (.idle ())
        =
      (.ok ([.ok (), .ok (), .error (.invalidPath "page")], table), world') := ⟨_, _, rfl⟩
  obtain ⟨table, world', hrun⟩ := hrun
  have hnests := nests_after_calls "app/v1/" (by decide) (by decide) (by decide) pageCalls hcalls
    (.idle ()) (.idle ())
  rw [hnormal, hrun] at hnests
  obtain ⟨_, _, above, nested, root, _, after', hexec, hexec', hnested, hroot, hnests⟩ := hnests
  cases hexec
  exact ⟨hnormal, table, above, nested, root, world', after', hrun, hexec', hnested, hroot, hnests⟩

end ServiceHost.Http
