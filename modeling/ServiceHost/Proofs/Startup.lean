import ServiceHost.Proofs.Registration
import ServiceHost.Proofs.Serving.Course

/-!
This module contains the start of the admin side of any environment, whatever was registered and on
whatever table. A service starts it on a table of its own, and never fails by it.
-/

namespace ServiceHost

variable {σ : Type}

open Http (Call RouteTable Endpoint)

namespace Admin.Registry

inductive Starts (registry : Registry σ) (table : RouteTable (Endpoint σ)) (before : World σ) :
    Except AdminError Unit → RouteTable (Endpoint σ) → World σ → Prop where
  | complete {table' : RouteTable (Endpoint σ)} {after : World σ} :
    (∀ pair ∈ registry.pairs, pair ∉ table.routes) →
    table'.routes.Perm (table.routes ++ registry.pairs) →
    after.events
      =
    before.events ++ registry.pairs.map (RouteTable.report table.context) ++
      registry.announcements table.context →
    Starts registry table before (.ok ()) table' after
  | refused {early late : List (Http.Method × String)} {pair : Http.Method × String}
      {table' : RouteTable (Endpoint σ)} {after : World σ} :
    registry.pairs = early ++ pair :: late →
    (∀ other ∈ early, other ∉ table.routes) →
    pair ∈ table.routes →
    table'.routes.Perm (table.routes ++ early) →
    after.events = before.events ++ early.map (RouteTable.report table.context) →
    Starts registry table before (.error (.route (.duplicate pair.1 pair.2))) table' after

theorem Starts.ok_iff {registry : Registry σ} {table table' : RouteTable (Endpoint σ)} {before after : World σ}
    {result : Except AdminError Unit} (h : registry.Starts table before result table' after) :
    result = .ok () ↔ ∀ pair ∈ registry.pairs, pair ∉ table.routes := by
  cases h with
  | complete hfree => exact ⟨fun _ => hfree, fun _ => rfl⟩
  | @refused _ _ pair _ _ hpairs _ htaken =>
    constructor
    . intro hok
      cases hok
    . intro hfree
      exact absurd htaken (hfree pair (by simp [hpairs]))

theorem exists_first {α : Type} {p : α → Prop} [DecidablePred p] {l : List α} (h : ∃ a ∈ l, p a) :
    ∃ before a after, l = before ++ a :: after ∧ (∀ b ∈ before, ¬ p b) ∧ p a := by
  have hsome : (l.find? fun a => decide (p a)).isSome := by simpa using h
  obtain ⟨a, ha⟩ := Option.isSome_iff_exists.mp hsome
  obtain ⟨hp, before, after, hl, hbefore⟩ := List.find?_eq_some_iff_append.mp ha
  exact ⟨before, a, after, hl, by simpa using hbefore, by simpa using hp⟩

theorem Sound.exists_starts {registry : Registry σ} {table : RouteTable (Endpoint σ)} {calls : List (Call σ)}
    (h : registry.Sound) (hholds : table.Holds calls) (before : World σ) :
    ∃ result table' after,
      (registry.start table).exec before = (.ok (result, registry.close, table'), after)
        ∧
      registry.Starts table before result table' after
        ∧
      table'.routes.Nodup := by
  by_cases hfree : ∀ pair ∈ registry.pairs, pair ∉ table.bound
  . obtain ⟨table', hbinds, hexec⟩ := h.start_of_free hfree before
    refine ⟨_, _, _, hexec, ?_, (hbinds.holds hholds).routes_nodup⟩
    apply Starts.complete
    . simpa only [RouteTable.mem_routes_iff] using hfree
    . exact hbinds.routes_perm (map_pair_calls registry.close _)
    . rw [World.events_recordAll, List.append_assoc]
  -- some pair is taken, and the first such pair is the one that ends the start
  . have htaken : ∃ pair ∈ registry.pairs, pair ∈ table.bound := by simpa using hfree
    obtain ⟨early, pair, late, hpairs, hearly, htaken⟩ := exists_first htaken
    obtain ⟨calls, table', hcalls, hbinds, hexec⟩ := h.start_of_taken hpairs hearly htaken before
    refine ⟨_, _, _, hexec, ?_, (hbinds.holds hholds).routes_nodup⟩
    apply Starts.refused hpairs
    . simpa only [RouteTable.mem_routes_iff] using hearly
    . exact RouteTable.mem_routes_iff.mpr htaken
    . exact hbinds.routes_perm hcalls
    . exact World.events_recordAll _ _

theorem Sound.start_returns_ok {registry : Registry σ} (h : registry.Sound) (context : String) :
    Action.Returns (fun outcome => outcome.1 = .ok ()) (registry.start (.new context)) := by
  intro world outcome world' hexec
  obtain ⟨table', -, hstart⟩ := h.start_of_new context world
  rw [hstart] at hexec
  cases hexec
  rfl

end Admin.Registry

namespace Serving

theorem conclude_returns (signal : Action σ Unit) (ending : Ending) :
    Action.Returns (· = ending.result) (Service.conclude signal ending) := by
  cases ending with
  | shutdown =>
    refine .bind (Action.returns_any _) fun _ _ => ?_
    refine .bind (Action.returns_any _) fun _ _ => ?_
    exact Action.returns_pure rfl
  | connectorReturned =>
    refine .bind (Action.returns_any _) fun _ _ => ?_
    exact Action.returns_pure rfl
  | connectorFailed reason => exact Action.returns_pure rfl

theorem Service.close_returns (service : Service σ) (signal : Action σ Unit) (ending : Ending) (crew : Crew)
    (events : List (Event σ)) : Action.Returns (· = ending.result) (service.close signal ending crew events) := by
  have hstop (result : Except ServerError Unit) (hresult : result = ending.result) :
      Action.Returns (· = ending.result) (do
        service.objects.stop
        Action.log .server .info "Server stopped" []
        return result) := by
    refine .bind (Action.returns_any _) fun _ _ => ?_
    refine .bind (Action.returns_any _) fun _ _ => ?_
    exact Action.returns_pure hresult
  unfold close
  refine .bind (conclude_returns signal ending) fun result hresult => ?_
  refine .bind (Action.returns_any _) fun drain _ => ?_
  cases drain with
  | inTime => exact hstop result hresult
  | late waiting => exact .bind (Action.returns_any _) fun _ _ => hstop result hresult

theorem Service.live_returns (service : Service σ) (course : Course σ) :
    Action.Returns (fun result => ∃ ending : Ending, result = ending.result) (service.live course) := by
  unfold live
  refine .bind (Action.returns_any _) fun ⟨ending, crew, rest⟩ _ => ?_
  intro world result world' hexec
  exact ⟨ending, service.close_returns course.signal ending crew rest world result world' hexec⟩

namespace BoundServer

theorem start_returns_ok (server : BoundServer) {environment : Environment σ}
    (hadmin : environment.admin.Sound) :
    Action.Returns (fun result => ∃ service, result = .ok service) (server.start environment) := by
  unfold start
  refine .bind (hadmin.start_returns_ok server.adminPath) ?_
  rintro ⟨result, registry, adminRoutes⟩ rfl
  refine .bind (Action.returns_any _) fun application _ => ?_
  refine .bind (Action.returns_any _) fun admin _ => ?_
  refine .bind (Action.returns_any _) fun _ _ => ?_
  refine .bind (Action.returns_any _) fun _ _ => ?_
  exact Action.returns_pure ⟨_, rfl⟩

theorem serve_returns (server : BoundServer) {environment : Environment σ} (course : Course σ)
    (hadmin : environment.admin.Sound) :
    Action.Returns (fun result => ∃ ending : Ending, result = ending.result)
      (server.serve environment course) := by
  unfold serve
  refine .bind (server.start_returns_ok hadmin) ?_
  rintro _ ⟨service, rfl⟩
  exact service.live_returns course

end BoundServer
end Serving

/--
However an environment was registered into, the start of its admin side is refused only by a table that has
one of its pairs already. A service starts it on a table of its own.
-/
theorem start_on_any_table (c : Configuration) (operations : List (Operation σ)) (world : World σ)
    (context : String) (calls : List (Call σ)) (first : World σ) :
    ∃ answers site bindings table before result table' after,
      Runs operations (.new c, world) answers site
        ∧
      ((RouteTable.new context).attachEach calls).exec first = (.ok (bindings, table), before)
        ∧
      (site.1.admin.start table).exec before = (.ok (result, site.1.admin.close, table'), after)
        ∧
      site.1.admin.Starts table before result table' after
        ∧
      (result = .ok () ↔ ∀ pair ∈ site.1.admin.pairs, pair ∉ table.routes)
        ∧
      site.1.admin.pairs.Nodup ∧ table'.routes.Nodup
        ∧
      (∀ context world, ∃ table' world',
        (site.1.admin.start (.new context)).exec world = (.ok (.ok (), site.1.admin.close, table'), world'))
        ∧
      ∀ (server : Serving.BoundServer) (course : Serving.Course σ) world e world',
        (server.serve site.1 course).exec world ≠ (.ok (.error (.admin e)), world') := by
  obtain ⟨answers, site, hruns⟩ := Runs.exists_runs operations (.new c, world)
  have hsound := hruns.sound Admin.Registry.sound_new
  obtain ⟨bindings, table, before, hattach, -⟩ :=
    RouteTable.attachEach_exec calls (RouteTable.new context) first
  obtain ⟨hholds, -⟩ := (RouteTable.holds_new context).attachEach hattach
  obtain ⟨result, table', after, hstart, hstarts, hnodup⟩ := hsound.exists_starts hholds before
  refine ⟨answers, site, bindings, table, before, result, table', after, hruns, hattach, hstart, hstarts,
    hstarts.ok_iff, hsound.pairs_nodup, hnodup, ?_, ?_⟩
  . intro context world
    obtain ⟨table', -, hstart⟩ := hsound.start_of_new context world
    exact ⟨table', _, hstart⟩
  . intro server course world e world' hexec
    obtain ⟨ending, hending⟩ := server.serve_returns course hsound world _ world' hexec
    cases ending <;> cases hending

end ServiceHost
