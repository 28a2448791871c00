import ServiceHost.Proofs.Admin.Registry
import ServiceHost.Proofs.Http.Path

/-!
This module contains what becomes of a table that the admin side starts on: it gets a route for the index,
for every page and for every task, up to the first that it has already.
-/

namespace ServiceHost

variable {σ : Type}

def Http.Call.binding (call : Http.Call σ) : Http.Method × String × Http.Endpoint σ :=
  (call.method, call.path, call.endpoint)

namespace Admin.Registry

open Http (Call RouteTable Endpoint RouteError)
open Http.RouteTable (Binds)

def calls (registry : Registry σ) (context : String) : List (Call σ) :=
  ⟨.get, Http.Path.root, registry.indexEndpoint context⟩ ::
    registry.views.map (fun view => ⟨.get, view.path, registry.viewEndpoint view⟩) ++
    registry.tasks.map fun task => ⟨.post, Task.pathOf task.name, taskEndpoint task⟩

def pairs (registry : Registry σ) : List (Http.Method × String) :=
  (.get, "/") :: registry.views.map (fun view => (.get, view.path)) ++
    registry.tasks.map fun task => (.post, "/tasks/" ++ task.name)

def announcements (registry : Registry σ) (context : String) : List Log.Event :=
  [⟨.admin, .info, "tasks =\n\n" ++ registry.taskListing context, []⟩] ++
    (if registry.checks.names = [] then [⟨.admin, .warn, noChecksBanner, []⟩] else []) ++
    [⟨.admin, .debug, "health checks", [("names", Text.quotedList registry.checks.names)]⟩]

theorem bindings_eq (registry : Registry σ) (context : String) :
    registry.bindings context = (registry.calls context).map Call.binding := by
  simp [bindings, calls, Function.comp_def, Call.binding]

theorem pathOf_eq (name : String) : Task.pathOf name = "/tasks/" ++ name := by
  rfl

theorem map_pair_calls (registry : Registry σ) (context : String) :
    (registry.calls context).map Call.pair = registry.pairs := by
  simp [calls, pairs, Function.comp_def, Call.pair, pathOf_eq, Http.Path.root]

theorem view_mem_calls (registry : Registry σ) (context : String) {view : View σ}
    (h : view ∈ registry.views) :
    ⟨.get, view.path, registry.viewEndpoint view⟩ ∈ registry.calls context := by
  unfold calls
  rw [List.mem_append]
  exact .inl (List.mem_cons_of_mem _ (List.mem_map.mpr ⟨view, h, rfl⟩))

theorem task_mem_calls (registry : Registry σ) (context : String) {task : Task σ}
    (h : task ∈ registry.tasks) :
    ⟨.post, Task.pathOf task.name, taskEndpoint task⟩ ∈ registry.calls context := by
  unfold calls
  rw [List.mem_append]
  exact .inr (List.mem_map.mpr ⟨task, h, rfl⟩)

section Attaching

variable {table table' : RouteTable (Endpoint σ)} {calls before after : List (Call σ)}

theorem attach_append (h : Binds table calls table') (rest : List (Http.Method × String × Endpoint σ))
    (world : World σ) :
    (attach table (calls.map Call.binding ++ rest)).exec world
      =
    (attach table' rest).exec
      (world.recordAll ((calls.map Call.pair).map (RouteTable.report table.context))) := by
  induction h generalizing world with
  | nil => rfl
  | @cons table bound table' call calls hbind hbinds ih =>
    obtain ⟨-, -, -, hbound⟩ := RouteTable.bind_eq_ok hbind
    have hcontext : bound.context = table.context := by rw [hbound]
    rw [List.map_cons, List.cons_append, attach]
    unfold Call.binding
    dsimp only
    rw [Action.exec_bind_ok (RouteTable.attach_exec_ok hbind world)]
    dsimp only
    rw [List.map_cons, List.map_cons, World.recordAll_cons, ← hcontext]
    exact ih _

theorem attach_exec_ok (h : Binds table calls table') (world : World σ) :
    (attach table (calls.map Call.binding)).exec world
      =
    (.ok (.ok (), table'), world.recordAll ((calls.map Call.pair).map (RouteTable.report table.context))) := by
  have hexec := attach_append h [] world
  rw [List.append_nil] at hexec
  exact hexec

theorem attach_exec_error {call : Call σ} {e : RouteError} (h : Binds table before table')
    (he : table'.bind call.method call.path call.endpoint = .error e) (world : World σ) :
    (attach table ((before ++ call :: after).map Call.binding)).exec world
      =
    (.ok (.error e, table'),
      world.recordAll ((before.map Call.pair).map (RouteTable.report table.context))) := by
  rw [List.map_append, attach_append h, List.map_cons, attach]
  unfold Call.binding
  dsimp only
  rw [Action.exec_bind_ok (RouteTable.attach_exec_error he _)]
  rfl

end Attaching

theorem announce_exec (registry : Registry σ) (context : String) (world : World σ) :
    (registry.announce context).exec world
      =
    (.ok (), world.recordAll (registry.announcements context)) := by
  unfold announce announcements
  rw [Action.exec_bind_ok (Action.exec_log ..)]
  split <;> rfl

variable {registry : Registry σ} {table table' : RouteTable (Endpoint σ)}

theorem start_exec_ok (h : Binds table (registry.close.calls table.context) table') (world : World σ) :
    (registry.start table).exec world
      =
    (.ok (.ok (), registry.close, table'),
      world.recordAll
        (registry.pairs.map (RouteTable.report table.context) ++
          registry.announcements table.context)) := by
  unfold start
  dsimp only
  rw [bindings_eq, Action.exec_bind_ok (attach_exec_ok h world)]
  dsimp only
  rw [Action.exec_bind_ok (announce_exec ..), h.context, map_pair_calls, World.recordAll_append]
  rfl

theorem start_exec_error {before after : List (Call σ)} {call : Call σ} {e : RouteError}
    (h : Binds table before table')
    (hcalls : registry.close.calls table.context = before ++ call :: after)
    (he : table'.bind call.method call.path call.endpoint = .error e) (world : World σ) :
    (registry.start table).exec world
      =
    (.ok (.error (.route e), registry.close, table'),
      world.recordAll ((before.map Call.pair).map (RouteTable.report table.context))) := by
  unfold start
  dsimp only
  rw [bindings_eq, hcalls, Action.exec_bind_ok (attach_exec_error h he world)]
  rfl

theorem binds_of_start_ok {next : Registry σ} {world world' : World σ}
    (h : (registry.start table).exec world = (.ok (.ok (), next, table'), world')) :
    next = registry.close ∧ Binds table (registry.close.calls table.context) table' := by
  cases RouteTable.binds_or_refused table (registry.close.calls table.context) with
  | inl hbinds =>
    obtain ⟨last, hbinds⟩ := hbinds
    rw [start_exec_ok hbinds] at h
    cases h
    exact ⟨rfl, hbinds⟩
  | inr hrefused =>
    obtain ⟨before, call, after, last, e, hcalls, hbefore, he⟩ := hrefused
    rw [start_exec_error hbefore hcalls he] at h
    cases h

theorem exists_start (registry : Registry σ) (table : RouteTable (Endpoint σ)) (world : World σ) :
    ∃ result table' world',
      (registry.start table).exec world = (.ok (result, registry.close, table'), world') := by
  cases RouteTable.binds_or_refused table (registry.close.calls table.context) with
  | inl h =>
    obtain ⟨table', h⟩ := h
    exact ⟨_, _, _, start_exec_ok h world⟩
  | inr h =>
    obtain ⟨before, call, after, table', e, hcalls, h, he⟩ := h
    exact ⟨_, _, _, start_exec_error h hcalls he world⟩

theorem Sound.pairs_nodup (h : registry.Sound) : registry.pairs.Nodup := by
  have hviews : (registry.views.map fun view => (Http.Method.get, view.path)).Nodup := by
    have hinjective : Function.Injective fun path : String => (Http.Method.get, path) := by
      intro a b hab
      exact congrArg Prod.snd hab
    have := h.paths.map hinjective
    rw [List.map_map] at this
    exact this
  have htasks : (registry.tasks.map fun task => (Http.Method.post, "/tasks/" ++ task.name)).Nodup := by
    have hinjective : Function.Injective fun name => (Http.Method.post, "/tasks/" ++ name) := by
      intro a b hab
      exact (String.append_right_inj _).mp (congrArg Prod.snd hab)
    have := h.names.map hinjective
    rw [List.map_map] at this
    exact this
  unfold pairs
  rw [List.cons_append, List.nodup_cons, List.nodup_append]
  refine ⟨?_, hviews, htasks, ?_⟩
  . rw [List.mem_append, not_or]
    constructor
    . simp only [List.mem_map, Prod.mk.injEq, true_and, not_exists, not_and]
      exact h.noRoot
    . simp
  . intro a ha b hb hab
    rw [List.mem_map] at ha hb
    obtain ⟨view, -, rfl⟩ := ha
    obtain ⟨task, -, rfl⟩ := hb
    cases hab

theorem isRoutable_pathOf {name : String} (h : isTaskName name = true) :
    Http.Path.isRoutable (Task.pathOf name) = true := by
  unfold isTaskName at h
  simp only [Bool.and_eq_true] at h
  exact h.2

theorem Sound.calls_routable (h : registry.Sound) (context : String) :
    ∀ call ∈ registry.calls context,
      Http.Path.isRoutable call.path = true ∧ call.method.isRoutable = true := by
  unfold calls
  rw [List.cons_append, List.forall_mem_cons, List.forall_mem_append]
  rw [List.forall_mem_map, List.forall_mem_map]
  refine ⟨⟨Http.Path.isRoutable_root, rfl⟩, ?_, ?_⟩
  . intro view hview
    exact ⟨h.routable view hview, rfl⟩
  . intro task htask
    exact ⟨isRoutable_pathOf (h.tasks task htask), rfl⟩

theorem Sound.start_of_free (h : registry.Sound) (hfree : ∀ pair ∈ registry.pairs, pair ∉ table.bound)
    (world : World σ) :
    ∃ table',
      Binds table (registry.close.calls table.context) table'
        ∧
      (registry.start table).exec world
        =
      (.ok (.ok (), registry.close, table'),
        world.recordAll
          (registry.pairs.map (RouteTable.report table.context) ++ registry.announcements table.context)) := by
  have hpairs := map_pair_calls registry.close table.context
  obtain ⟨table', hbinds⟩ :=
    RouteTable.exists_binds table (h.close.calls_routable _) (hpairs ▸ h.close.pairs_nodup) (hpairs ▸ hfree)
  exact ⟨table', hbinds, start_exec_ok hbinds world⟩

theorem Sound.start_of_new (h : registry.Sound) (context : String) (world : World σ) :
    ∃ table',
      Binds (.new context) (registry.close.calls (Http.Path.normalize context)) table'
        ∧
      (registry.start (.new context)).exec world
        =
      (.ok (.ok (), registry.close, table'),
        world.recordAll
          (registry.pairs.map (RouteTable.report (Http.Path.normalize context)) ++
            registry.announcements (Http.Path.normalize context))) := by
  have hfree : ∀ pair ∈ registry.pairs, pair ∉ (RouteTable.new context : RouteTable (Endpoint σ)).bound := by
    simp [RouteTable.new]
  exact h.start_of_free hfree world

theorem Sound.start_of_taken (h : registry.Sound) {before after : List (Http.Method × String)}
    {pair : Http.Method × String} (hpairs : registry.pairs = before ++ pair :: after)
    (hfree : ∀ pair ∈ before, pair ∉ table.bound) (htaken : pair ∈ table.bound) (world : World σ) :
    ∃ calls table',
      calls.map Call.pair = before
        ∧
      Binds table calls table'
        ∧
      (registry.start table).exec world
        =
      (.ok (.error (.route (.duplicate pair.1 pair.2)), registry.close, table'),
        world.recordAll (before.map (RouteTable.report table.context))) := by
  -- the split of the pairs is one of the calls, which are closed over the frozen checks
  have hmap := (map_pair_calls registry.close table.context).trans hpairs
  obtain ⟨early, others, hcalls, rfl, hothers⟩ := List.map_eq_append_iff.mp hmap
  obtain ⟨call, late, rfl, rfl, rfl⟩ := List.map_eq_cons_iff.mp hothers
  have hroutable := h.close.calls_routable table.context
  have hnodup := h.close.pairs_nodup
  rw [hcalls, List.forall_mem_append, List.forall_mem_cons] at hroutable
  rw [← map_pair_calls _ table.context, hmap] at hnodup
  obtain ⟨table', hbinds⟩ := RouteTable.exists_binds table hroutable.1 (List.nodup_append.mp hnodup).1
    hfree
  have htaken' : call.pair ∈ table'.bound := by
    rw [hbinds.bound]
    exact List.mem_append_left _ htaken
  refine ⟨early, table', rfl, hbinds, ?_⟩
  exact start_exec_error hbinds hcalls (RouteTable.bind_of_taken hroutable.2.1.1 hroutable.2.1.2 htaken') world

end Admin.Registry
end ServiceHost
