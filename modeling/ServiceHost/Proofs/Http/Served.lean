import ServiceHost.Proofs.Http.Dispatch

/-!
This module contains which tables can be served, in terms of the pairs that are bound in them, and where
their routers take a request below a context path.
-/

namespace ServiceHost.Http

variable {σ : Type}

namespace RouteTable

variable {table : RouteTable (Endpoint σ)} {calls : List (Call σ)}

theorem Binds.sound {context : String} (h : Binds (.new context) calls table)
    (hcontext : Path.isRoutable (Path.normalize context) = true) : table.Sound where
  context := by
    rw [h.context]
    exact hcontext
  methods := by
    intro entry hentry
    exact ((h.holds (holds_new context)).paths entry hentry).1
  paths := by
    apply h.paths
    simp [new]

theorem Holds.forall_paths_iff (h : Holds table calls) (p : String → Prop) :
    (∀ entry ∈ table.paths, p entry.1) ↔ ∀ pair ∈ table.bound, p pair.2 := by
  rw [h.bound, List.forall_mem_map]
  constructor
  . intro hpaths call hcall
    exact hpaths _ (Keyed.mem_of_find? (h.find?_of_mem hcall))
  . intro hcalls entry hentry
    obtain ⟨-, call, hcall, hpath⟩ := h.paths entry hentry
    rw [← hpath]
    exact hcalls call hcall

/-- The braces of all paths are doubled, and where there is one also those of the context path. -/
def AllEscaped (context : String) (pairs : List (Method × String)) : Prop :=
  ∀ pair ∈ pairs, Pattern.IsEscaped context.toList ∧ Pattern.IsEscaped pair.2.toList

theorem Binds.exists_router_iff {context : String} (h : Binds (.new context) calls table)
    (hcontext : Path.isRoutable (Path.normalize context) = true) :
    (∃ router, table.router? = some router) ↔ AllEscaped (Path.normalize context) table.bound := by
  have hholds := h.holds (holds_new context)
  unfold AllEscaped
  rw [← hholds.forall_paths_iff
    fun path => Pattern.IsEscaped (Path.normalize context).toList ∧ Pattern.IsEscaped path.toList]
  constructor
  . rintro ⟨router, hrouter⟩
    have hescaped := ((router?_eq_some_iff (h.sound hcontext) router).mp hrouter).1
    rw [h.context] at hescaped
    exact hescaped
  . intro hescaped
    refine ⟨_, (router?_eq_some_iff (h.sound hcontext) _).mpr ⟨?_, rfl⟩⟩
    rw [h.context]
    exact hescaped

end RouteTable

theorem ContextSegment.below?_append (segments pieces : List (List Char)) :
    below? segments (segments ++ pieces) = some pieces := by
  induction segments with
  | nil => rfl
  | cons segment segments ih => simp [below?, ih]

namespace Router

variable {ε : Type} {router : Router ε} {uri : Uri} {start : List Char}

theorem view_of_relative {relative : List Char} (hcontext : router.context ≠ [])
    (h : router.relative? uri.path.toList = some relative) :
    router.view uri = { uri with path := .ofList relative } := by
  unfold view
  rw [h]
  cases hcases : router.context with
  | nil => exact absurd hcases hcontext
  | cons => rfl

theorem view_of_context (hcontext : router.context = Text.pieces '/' start)
    (huri : uri.path.toList = '/' :: start) : router.view uri = { uri with path := Path.root } := by
  apply view_of_relative
  . rw [hcontext]
    exact Text.pieces_ne_nil _ _
  . rw [huri]
    show (ContextSegment.below? router.context (Text.pieces '/' start)).map _ = _
    have hbelow := ContextSegment.below?_append (Text.pieces '/' start) []
    rw [List.append_nil] at hbelow
    rw [hcontext, hbelow]
    rfl

theorem view_of_append (hcontext : router.context = Text.pieces '/' start) {path : String}
    (hpath : Path.isRoutable path = true) (huri : uri.path.toList = '/' :: start ++ path.toList) :
    router.view uri = { uri with path } := by
  obtain ⟨rest, hrest, hhead⟩ := Path.exists_of_isRoutable hpath
  have hrelative : router.relative? uri.path.toList = some path.toList := by
    rw [huri, hrest, List.cons_append]
    show (ContextSegment.below? router.context (Text.pieces '/' (start ++ '/' :: rest))).map _ = _
    rw [Text.pieces_append, hcontext, ContextSegment.below?_append]
    simp [Text.join_pieces, hhead]
  rw [view_of_relative _ hrelative]
  . simp
  . rw [hcontext]
    exact Text.pieces_ne_nil _ _

theorem view_of_join {table : RouteTable ε}
    (hcontext : Path.isRoutable table.context = true) (hrouter : router.context = table.contextSegments)
    {path : String} (hpath : Path.isRoutable path = true)
    (huri : uri.path = Path.join table.context path) : router.view uri = { uri with path } := by
  by_cases hbare : table.context = Path.root
  . rw [Path.join, if_pos hbare] at huri
    rw [view_of_root (hrouter.trans (RouteTable.contextSegments_of_root hbare)), ← huri]
  . obtain ⟨start, hstart, -⟩ := Path.exists_of_isRoutable hcontext
    have hsegments : router.context = Text.pieces '/' start := by
      rw [hrouter, RouteTable.contextSegments, if_neg hbare, hstart]
      rfl
    apply view_of_append hsegments hpath
    rw [huri, Path.join, if_neg hbare, String.toList_append, hstart]

end Router

theorem Call.answer_of_method {call : Call σ} {request : Request} (h : request.method ≠ .head)
    (h' : request.method ≠ .connect) : call.answer request = call.endpoint request := by
  unfold answer delivered
  simp [h, h']

def Router.Takes {ε : Type} (router : Router ε) (request : Request) (endpoint : ε) : Prop :=
  router.dispatch request.method request.uri.path = .endpoint endpoint

def Router.seen {ε : Type} (router : Router ε) (request : Request) : Request :=
  { request with uri := router.view request.uri }

theorem Router.query_seen {ε : Type} (router : Router ε) (request : Request) :
    (router.seen request).uri.query = request.uri.query := by
  unfold seen view
  dsimp only
  split
  . rfl
  . split <;> rfl

theorem Router.serve_of_takes {router : Router (Endpoint σ)} {request : Request} {endpoint : Endpoint σ}
    (h : router.Takes request endpoint) :
    router.serve request = do return delivered request.method (← endpoint (router.seen request)) := by
  unfold serve
  rw [h]
  rfl

theorem Router.serve_of_not_takes {router : Router (Endpoint σ)} {request : Request}
    (h : ∀ endpoint, ¬ router.Takes request endpoint) : ∃ response, router.serve request = pure response := by
  unfold serve
  split
  . exact ⟨_, rfl⟩
  . exact ⟨_, rfl⟩
  . next endpoint htakes => exact absurd htakes (h endpoint)

theorem RouteTable.exists_bound_of_takes {ε : Type} {table : RouteTable ε} {router : Router ε}
    (hrouter : table.router? = some router) {request : Request} {endpoint : ε} (h : router.Takes request endpoint) :
    ∃ entry ∈ table.paths, ∃ bound ∈ entry.2.entries, bound.2 = endpoint := by
  unfold Router.Takes Router.dispatch at h
  split at h
  . cases h
  . next methods hmethods =>
    split at h
    . next answering hanswering =>
      cases h
      unfold Router.methodsAt? at hmethods
      rw [Option.map_eq_some_iff] at hmethods
      obtain ⟨route, hroute, rfl⟩ := hmethods
      obtain ⟨entry, hentry, heq⟩ := exists_entry_of_router? hrouter route (List.mem_of_find?_eq_some hroute)
      rw [← heq] at hanswering
      obtain ⟨m, hbound⟩ := MethodTable.exists_of_answering? hanswering
      exact ⟨entry, hentry, _, hbound, rfl⟩
    . cases h

namespace RouteTable

variable {table : RouteTable (Endpoint σ)} {calls : List (Call σ)} {router : Router (Endpoint σ)}
  {call : Call σ}

theorem Holds.isRoutable_of_mem (h : Holds table calls) (hsound : table.Sound) (hcall : call ∈ calls) :
    Path.isRoutable call.path = true := by
  have hpaths := (h.forall_paths_iff fun path => Path.isRoutable path = true).mp hsound.paths
  rw [h.bound, List.forall_mem_map] at hpaths
  exact hpaths call hcall

theorem Holds.dispatch_of_escape (h : Holds table calls) (hsound : table.Sound)
    (hrouter : table.router? = some router) (hcall : call ∈ calls) {path : String}
    (hserved : (table.servedPath call.path).toList = Pattern.escape path.toList) :
    router.dispatch call.method path = .endpoint call.endpoint := by
  have hmethods := methodsAt?_of_escape hsound hrouter (h.isRoutable_of_mem hsound hcall) hserved
  rw [h.find?_of_mem hcall] at hmethods
  apply Router.dispatch_of_some hmethods
  unfold MethodTable.answering?
  rw [Call.find?_table h.nodup hcall]

theorem Holds.serve_of_servedPath (h : Holds table calls) (hsound : table.Sound)
    (hrouter : table.router? = some router) (hcall : call ∈ calls)
    (hliteral : Pattern.IsLiteral (table.servedPath call.path).toList) {request : Request}
    (hmethod : request.method = call.method) (hpath : request.uri.path = table.servedPath call.path) :
    router.serve request = call.answer { request with uri := { request.uri with path := call.path } } := by
  have hserved : (table.servedPath call.path).toList = Pattern.escape request.uri.path.toList := by
    rw [hpath, Pattern.escape_of_isLiteral hliteral]
  have hcontext : router.context = table.contextSegments := by
    rw [((router?_eq_some_iff hsound router).mp hrouter).2]
  have hview : router.view request.uri = { request.uri with path := call.path } := by
    by_cases hroot : call.path = Path.root
    . rw [hroot, servedPath_rootPath] at hpath
      rw [hroot]
      by_cases hbare : table.context = Path.root
      . rw [Router.view_of_root (hcontext.trans (contextSegments_of_root hbare)), ← hbare, ← hpath]
      . obtain ⟨start, hstart, -⟩ := Path.exists_of_isRoutable hsound.context
        have hsegments : router.context = Text.pieces '/' start := by
          rw [hcontext, contextSegments, if_neg hbare, hstart]
          rfl
        exact Router.view_of_context hsegments (by rw [hpath, hstart])
    . rw [servedPath_of_ne_root hroot] at hpath
      exact Router.view_of_join hsound.context hcontext (h.isRoutable_of_mem hsound hcall) hpath
  unfold Router.serve
  rw [hmethod, h.dispatch_of_escape hsound hrouter hcall hserved, hview]
  rfl

theorem Holds.serve_of_isLiteral (h : Holds table calls) (hsound : table.Sound)
    (hrouter : table.router? = some router) (hcall : call ∈ calls) (hroot : call.path ≠ Path.root)
    (hliteral : Pattern.IsLiteral (Path.join table.context call.path).toList) {request : Request}
    (hmethod : request.method = call.method) (hpath : request.uri.path = Path.join table.context call.path) :
    router.serve request = call.answer { request with uri := { request.uri with path := call.path } } := by
  rw [← servedPath_of_ne_root hroot] at hliteral hpath
  exact h.serve_of_servedPath hsound hrouter hcall hliteral hmethod hpath

end RouteTable

/-- A request is for the place where a path is served below a context path; braces are doubled there. -/
def Request.IsAt (context path : String) (request : Request) : Prop :=
  ((RouteTable.new context : RouteTable Unit).servedPath path).toList = Pattern.escape request.uri.path.toList

instance (context path : String) (request : Request) : Decidable (request.IsAt context path) :=
  inferInstanceAs (Decidable (_ = Pattern.escape request.uri.path.toList))

/-- A router serves the places of some pairs below a context path, and no other. -/
structure Router.ServesOnly (context : String) (pairs : List (Method × String)) (router : Router (Endpoint σ)) :
    Prop where
  bound : ∀ pair ∈ pairs, ∀ request : Request, request.IsAt context pair.2 →
    router.dispatch request.method request.uri.path ≠ .notFound
  others : ∀ request : Request, (∀ pair ∈ pairs, ¬ request.IsAt context pair.2) →
    router.serve request = pure (.empty 404)

namespace RouteTable

theorem servedPath_congr {ε ε' : Type} {table : RouteTable ε} {table' : RouteTable ε'}
    (h : table.context = table'.context) (path : String) : table.servedPath path = table'.servedPath path := by
  unfold servedPath publicPath
  rw [h]

theorem methodsAt?_eq_none_iff {ε : Type} {table : RouteTable ε} (h : table.Sound) {router : Router ε}
    (hrouter : table.router? = some router) (path : List Char) :
    router.methodsAt? path = none
      ↔
    ∀ entry ∈ table.paths, (table.servedPath entry.1).toList ≠ Pattern.escape path := by
  obtain ⟨hescaped, rfl⟩ := (router?_eq_some_iff h router).mp hrouter
  unfold Router.methodsAt?
  rw [Option.map_eq_none_iff, List.find?_eq_none, List.forall_mem_map]
  apply forall₂_congr
  intro entry hentry
  obtain ⟨literal, hliteral⟩ := (isEscaped_servedPath_iff (h.paths entry hentry)).mpr (hescaped entry hentry)
  rw [patternOf_of_escape hliteral, Pattern.accepts_map_char, beq_iff_eq, hliteral, ne_eq, not_iff_not]
  exact ⟨congrArg Pattern.escape, Pattern.escape_injective⟩

theorem Binds.methodsAt?_eq_none_iff {context : String} {table : RouteTable (Endpoint σ)} {calls : List (Call σ)}
    {router : Router (Endpoint σ)} (h : Binds (.new context) calls table)
    (hcontext : Path.isRoutable (Path.normalize context) = true) (hrouter : table.router? = some router)
    (request : Request) :
    router.methodsAt? request.uri.path.toList = none ↔ ∀ pair ∈ table.bound, ¬ request.IsAt context pair.2 := by
  have hplace (path : String) : table.servedPath path = (RouteTable.new context : RouteTable Unit).servedPath path :=
    servedPath_congr h.context path
  rw [RouteTable.methodsAt?_eq_none_iff (h.sound hcontext) hrouter]
  rw [(h.holds (holds_new context)).forall_paths_iff
    fun path => (table.servedPath path).toList ≠ Pattern.escape request.uri.path.toList]
  simp only [hplace, Request.IsAt, ne_eq]

theorem Binds.servesOnly {context : String} {table : RouteTable (Endpoint σ)} {calls : List (Call σ)}
    {router : Router (Endpoint σ)} (h : Binds (.new context) calls table)
    (hcontext : Path.isRoutable (Path.normalize context) = true) (hrouter : table.router? = some router) :
    router.ServesOnly context table.bound := by
  have hmissing := h.methodsAt?_eq_none_iff hcontext hrouter
  constructor
  case bound =>
    intro pair hpair request hat hnotFound
    cases hmethods : router.methodsAt? request.uri.path.toList with
    | none => exact (hmissing request).mp hmethods pair hpair hat
    | some table =>
      unfold Router.dispatch at hnotFound
      rw [hmethods] at hnotFound
      dsimp only at hnotFound
      split at hnotFound <;> cases hnotFound
  case others =>
    intro request hothers
    unfold Router.serve
    rw [Router.dispatch_of_missing ((hmissing request).mpr hothers)]

end RouteTable

end ServiceHost.Http
