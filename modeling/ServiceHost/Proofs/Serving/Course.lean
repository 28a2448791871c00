import ServiceHost.Proofs.Metrics.Ticking
import ServiceHost.Proofs.Serving.Crew
import ServiceHost.Proofs.Serving.Starting

/-!
This module contains the whole life of a service, as an observer sees it: every managed object is started
before the first request is answered, and every one is stopped, in the reverse order, once the tasks of all
connectors have ended or the time is over that they were given for it.
-/

namespace ServiceHost.Serving

open Lifecycle

variable {σ : Type} {view : σ → List Moment}

def Answers (moments : List Moment) : Prop :=
  ∀ moment ∈ moments, moment = .answered

def OnlyAnswers {α : Type} (view : σ → List Moment) (action : Action σ α) : Prop :=
  Shows view (fun _ moments => Answers moments) action

theorem Answers.append {moments moments' : List Moment} (h : Answers moments) (h' : Answers moments') :
    Answers (moments ++ moments') :=
  List.forall_mem_append.mpr ⟨h, h'⟩

theorem onlyAnswers_of_spares {α : Type} {action : Action σ α} (h : Action.Spares watched action) :
    OnlyAnswers view action := by
  intro world
  obtain ⟨a, world', hexec, hsame⟩ := h world
  exact ⟨a, [], world', hexec, nofun, .of_eq hsame⟩

theorem spares_advance_watched (milliseconds : Nat) :
    Action.Spares (watched (σ := σ)) (Action.advance milliseconds) :=
  Action.spares_advance apart_watched.toUnlogged (by decide) (fun _ _ => rfl) (fun _ _ => rfl) milliseconds

/-- Whatever is done beside the service shows nothing but requests. -/
def Discloses (view : σ → List Moment) (events : List (Event σ)) : Prop :=
  ∀ action, .act action ∈ events → OnlyAnswers view (Action.attempt action)

theorem Discloses.mono {events events' : List (Event σ)} (h : Discloses view events) (hsubset : events' ⊆ events) :
    Discloses view events' :=
  fun action hmem => h action (hsubset hmem)

theorem Discloses.perform {event : Event σ} {events : List (Event σ)} (h : Discloses view (event :: events)) :
    OnlyAnswers view event.perform := by
  cases event with
  | act action =>
    apply Shows.bind (h action List.mem_cons_self)
    intro _ moments hmoments
    apply shows_pure
    rw [List.append_nil]
    exact hmoments
  | pass milliseconds => exact onlyAnswers_of_spares (spares_advance_watched _)
  | shutdown | notice | finish => exact shows_pure nofun

structure EndsAfter (n : Nat) (events past rest : List (Event σ)) (ending : Ending) : Prop where
  events : events = past ++ rest
  past : ∃ early event, past = early ++ [event]
    ∧
  event.Ends n ending ∧ ∀ other ∈ early, ∀ ending, ¬ other.Ends n ending

theorem ending?_eq_some_iff {n : Nat} {crew : Crew} (h : ∀ i, i ∈ crew.running ↔ i < n) {event : Event σ}
    {ending : Ending} : event.ending? crew = some ending ↔ event.Ends n ending := by
  cases event with
  | act | pass | notice => exact ⟨nofun, nofun⟩
  | shutdown =>
    constructor
    . intro heq
      cases heq
      exact .shutdown
    . intro hends
      cases hends
      rfl
  | finish connector outcome =>
    by_cases hlt : connector < n
    . have hrunning := (h connector).mpr hlt
      cases outcome with
      | ok value =>
        simp only [Event.ending?, hrunning, if_true, Option.some.injEq]
        exact ⟨fun heq => heq ▸ .returned hlt, fun hends => by cases hends; rfl⟩
      | error reason =>
        simp only [Event.ending?, hrunning, if_true, Option.some.injEq]
        exact ⟨fun heq => heq ▸ .failed hlt, fun hends => by cases hends; rfl⟩
    . have hrunning : connector ∉ crew.running := fun hmem => hlt ((h connector).mp hmem)
      simp only [Event.ending?, hrunning, if_false, reduceCtorEq, false_iff]
      intro hends
      cases hends <;> contradiction

theorem mem_running_applyTo {n : Nat} {crew : Crew} (h : ∀ i, i ∈ crew.running ↔ i < n) {event : Event σ}
    (hends : ∀ ending, ¬ event.Ends n ending) (i : Nat) : i ∈ (event.applyTo crew).running ↔ i < n := by
  rw [Crew.running_applyTo]
  cases event with
  | finish connector outcome =>
    have hother : connector ∉ crew.running := by
      intro hmem
      have hlt := (h connector).mp hmem
      cases outcome with
      | ok => exact hends _ (.returned hlt)
      | error => exact hends _ (.failed hlt)
    simpa [Event.finished?, List.erase_of_not_mem hother] using h i
  | act | pass | shutdown | notice => exact h i

theorem serveUntil_shows {n : Nat} {crew : Crew} {events : List (Event σ)} (hrunning : ∀ i, i ∈ crew.running ↔ i < n)
    (hevents : Discloses view events) (hends : ∃ event ∈ events, ∃ ending, event.Ends n ending) :
    Shows view
      (fun outcome moments => Answers moments ∧ ∃ past,
        EndsAfter n events past outcome.2.2 outcome.1 ∧ outcome.2.1 = crew.after past)
      (Service.serveUntil crew events) := by
  induction events generalizing crew with
  | nil =>
    obtain ⟨_, hmem, -⟩ := hends
    cases hmem
  | cons event events ih =>
    unfold Service.serveUntil
    cases hending : event.ending? crew with
    | some ending =>
      have hfirst := (ending?_eq_some_iff hrunning).mp hending
      exact shows_pure ⟨nofun, [event], ⟨rfl, [], event, rfl, hfirst, nofun⟩, rfl⟩
    | none =>
      have hnone : ∀ ending, ¬ event.Ends n ending := by
        intro ending hfirst
        rw [(ending?_eq_some_iff hrunning).mpr hfirst] at hending
        cases hending
      have hlater : ∃ event ∈ events, ∃ ending, event.Ends n ending := by
        obtain ⟨other, hmem, ending, hother⟩ := hends
        obtain rfl | hmem := List.mem_cons.mp hmem
        . exact absurd hother (hnone ending)
        . exact ⟨other, hmem, ending, hother⟩
      apply Shows.bind hevents.perform
      intro _ moments hmoments
      apply (ih (mem_running_applyTo hrunning hnone) (hevents.mono (List.subset_cons_self event events)) hlater).mono
      rintro ⟨ending, crew', rest⟩ later ⟨hanswers, past, hafter, hcrew⟩
      obtain ⟨hsplit, early, last, rfl, hlast, hearly⟩ := hafter
      refine ⟨hmoments.append hanswers, event :: (early ++ [last]), ⟨?_, event :: early, last, rfl, hlast, ?_⟩, hcrew⟩
      . rw [hsplit]
        rfl
      . exact List.forall_mem_cons.mpr ⟨hnone, hearly⟩

def durationOf : List (Event σ) → Nat
  | [] => 0
  | event :: events => event.period + durationOf events

/-- How the wait for some tasks ends, with some events to come and some milliseconds left. -/
inductive Waits (crew : Crew) (left : Nat) (events : List (Event σ)) : Drain → Prop where
  | inTime (early late : List (Event σ)) :
    events = early ++ late →
    durationOf early ≤ left →
    (crew.after early).running = [] →
    Waits crew left events .inTime
  | late (early late : List (Event σ)) :
    events = early ++ late →
    durationOf early ≤ left →
    (∀ event ∈ late.head?, left < durationOf early + event.period) →
    (crew.after early).running ≠ [] →
    Waits crew left events (.late (crew.after early).waiting)

theorem Waits.cons {crew : Crew} {left : Nat} {event : Event σ} {events : List (Event σ)} {drain : Drain}
    (hleft : event.period ≤ left) (h : Waits (event.applyTo crew) (left - event.period) events drain) :
    Waits crew left (event :: events) drain := by
  have hsplit {early late : List (Event σ)} (h : events = early ++ late) :
      event :: events = (event :: early) ++ late := by
    rw [h, List.cons_append]
  cases h with
  | inTime early late hevents htime hnone =>
    refine .inTime _ late (hsplit hevents) ?_ hnone
    unfold durationOf
    omega
  | late early late hevents htime hlate hsome =>
    refine .late _ late (hsplit hevents) ?_ ?_ hsome
    . unfold durationOf
      omega
    . intro next hnext
      have hover := hlate next hnext
      unfold durationOf
      omega

theorem drain_shows {crew : Crew} {left : Nat} {events : List (Event σ)} (hevents : Discloses view events) :
    Shows view (fun drain moments => Answers moments ∧ Waits crew left events drain)
      (Service.drain crew left events) := by
  have hover (drain : Drain) {crew : Crew} {left : Nat} {events : List (Event σ)}
      (hwaits : Waits crew left events drain) :
      Shows view (fun drain moments => Answers moments ∧ Waits crew left events drain) (do
        Action.advance left
        return drain) := by
    apply Shows.bind (onlyAnswers_of_spares (spares_advance_watched left))
    intro _ moments hmoments
    apply shows_pure
    rw [List.append_nil]
    exact ⟨hmoments, hwaits⟩
  induction events generalizing crew left with
  | nil =>
    unfold Service.drain
    by_cases hrunning : crew.running = []
    . rw [if_pos hrunning]
      exact shows_pure ⟨nofun, .inTime [] [] rfl (Nat.zero_le left) hrunning⟩
    . rw [if_neg hrunning]
      exact hover _ (.late [] [] rfl (Nat.zero_le left) nofun hrunning)
  | cons event events ih =>
    unfold Service.drain
    by_cases hrunning : crew.running = []
    . rw [if_pos hrunning]
      exact shows_pure ⟨nofun, .inTime [] _ rfl (Nat.zero_le left) hrunning⟩
    rw [if_neg hrunning]
    by_cases hleft : left < event.period
    . rw [if_pos hleft]
      refine hover _ (.late [] (event :: events) rfl (Nat.zero_le left) ?_ hrunning)
      intro next hnext
      cases hnext
      exact Nat.lt_add_left 0 hleft
    . rw [if_neg hleft]
      apply Shows.bind hevents.perform
      intro _ moments hmoments
      apply (ih (hevents.mono (List.subset_cons_self event events))).mono
      intro drain later hlater
      exact ⟨hmoments.append hlater.1, hlater.2.cons (Nat.le_of_not_lt hleft)⟩

/--
How the wait ends for so many connectors, of which some may have ended before, when they have some milliseconds
for it: every connector has ended by then, or some connector has not when time or all events are over.
-/
inductive Drains (n : Nat) (past : List (Event σ)) (grace : Nat) (rest : List (Event σ)) : Drain → Prop where
  | inTime {early late : List (Event σ)} :
    rest = early ++ late →
    durationOf early ≤ grace →
    (∀ i < n, i ∈ (past ++ early).filterMap Event.finished?) →
    Drains n past grace rest .inTime
  | late {early late : List (Event σ)} :
    rest = early ++ late →
    durationOf early ≤ grace →
    (∀ event ∈ late.head?, grace < durationOf early + event.period) →
    (∃ i < n, i ∉ (past ++ early).filterMap Event.finished?) →
    Drains n past grace rest (.late ((List.range n).countP (· ∉ early.filterMap Event.noticed?)))

theorem Waits.drains {n grace : Nat} {past rest : List (Event σ)} {drain : Drain}
    (h : Waits ((Crew.spawn n).after past).trigger grace rest drain) : Drains n past grace rest drain := by
  have hrunning (early : List (Event σ)) (i : Nat) :
      i ∈ (((Crew.spawn n).after past).trigger.after early).running
        ↔
      i < n ∧ i ∉ (past ++ early).filterMap Event.finished? := by
    have hnodup : ((Crew.spawn n).after past).trigger.running.Nodup := Crew.nodup_running_after n past
    rw [Crew.mem_running_after hnodup]
    show i ∈ ((Crew.spawn n).after past).running ∧ _ ↔ _
    rw [Crew.mem_running_spawn_after, List.filterMap_append, List.mem_append, not_or, and_assoc]
  cases h with
  | inTime early late hsplit htime hnone =>
    refine .inTime hsplit htime ?_
    intro i hlt
    by_contra hmem
    have hmem' := (hrunning early i).mpr ⟨hlt, hmem⟩
    rw [hnone] at hmem'
    cases hmem'
  | late early late hsplit htime hlate hsome =>
    rw [Crew.waiting_after (Crew.coordinator_spawn_after n past)]
    refine .late hsplit htime hlate ?_
    obtain ⟨i, hmem⟩ := List.exists_mem_of_ne_nil _ hsome
    exact ⟨i, (hrunning early i).mp hmem⟩

def Ending.result : Ending → Except ServerError Unit
  | .shutdown | .connectorReturned => .ok ()
  | .connectorFailed reason => .error (.connector reason)

structure Life (σ : Type) where
  started : List (Turn σ)
  begun : World σ
  answers : List Moment
  past : List (Event σ)
  rest : List (Event σ)
  ending : Ending
  served : World σ
  drain : Drain
  drained : World σ
  stopped : List (Turn σ)

namespace Life

def moments (life : Life σ) : List Moment :=
  life.started.map (Turn.moment .start) ++ life.answers ++ life.stopped.map (Turn.moment .stop)

def failures (life : Life σ) : List Log.Event :=
  life.started.filterMap (Turn.failure? .start) ++ life.stopped.filterMap (Turn.failure? .stop)

structure Between (view : σ → List Moment) (service : Service σ) (course : Course σ) (life : Life σ)
    (before after : World σ) : Prop where
  started : life.started.map Turn.place = service.objects.objects.zipIdx
  starting : Passes view (life.started.map (Turn.moment .start))
    (life.started.filterMap (Turn.failure? .start)) before life.begun
  ends : EndsAfter service.server.connectors.length (course.events service) life.past life.rest life.ending
  serving : (Service.serveUntil service.crew (course.events service)).exec life.begun
    =
  (.ok (life.ending, service.crew.after life.past, life.rest), life.served)
  drains : Drains service.server.connectors.length life.past (service.server.shutdownGrace * 1000) life.rest life.drain
  draining : ∃ concluded,
    (Service.conclude course.signal life.ending).exec life.served = (.ok life.ending.result, concluded)
      ∧
    (Service.drain (service.crew.after life.past).trigger (service.server.shutdownGrace * 1000) life.rest).exec
        concluded
      =
    (.ok life.drain, life.drained)
  answered : Answers life.answers
  answering : Passes view life.answers [] life.begun life.drained
  stopped : life.stopped.map Turn.place = service.objects.objects.zipIdx.reverse
  stopping : Passes view (life.stopped.map (Turn.moment .stop))
    (life.stopped.filterMap (Turn.failure? .stop)) life.drained after

theorem Between.passes {service : Service σ} {course : Course σ} {life : Life σ} {before after : World σ}
    (h : life.Between view service course before after) :
    Passes view life.moments life.failures before after := by
  have hpasses := (h.starting.trans h.answering).trans h.stopping
  rw [List.append_nil] at hpasses
  exact hpasses

end Life

def Silent (view : σ → List Moment) (action : Action σ Unit) : Prop :=
  Shows view (fun _ moments => moments = []) action

theorem conclude_passes {signal : Action σ Unit} (h : Silent view signal) (ending : Ending) (world : World σ) :
    ∃ concluded,
      (Service.conclude signal ending).exec world = (.ok ending.result, concluded)
        ∧
      Passes view [] [] world concluded := by
  have hrecord (severity : Log.Severity) (message : String) (world : World σ) :
      Passes view [] [] world (world.record ⟨.server, severity, message, []⟩) :=
    .of_eq (apart_watched.record _ _ Log.Source.noConfusion)
  cases ending with
  | shutdown =>
    obtain ⟨_, _, signalled, hexec, rfl, hpasses⟩ := h world
    refine ⟨_, ?_, hpasses.trans (hrecord .info "Shutdown requested" signalled)⟩
    unfold Service.conclude
    rw [Action.exec_bind_ok hexec]
    rfl
  | connectorReturned => exact ⟨_, rfl, hrecord .warn "Connector stopped unexpectedly" world⟩
  | connectorFailed reason => exact ⟨world, rfl, .of_eq rfl⟩

theorem Service.close_exec (service : Service σ) {signal : Action σ Unit} {ending : Ending} {crew : Crew}
    {events : List (Event σ)} {drain : Drain} {world concluded drained : World σ}
    (hobjects : Observed view service.objects.objects)
    (hconclude : (conclude signal ending).exec world = (.ok ending.result, concluded))
    (hdrain : (Service.drain crew.trigger (service.server.shutdownGrace * 1000) events).exec concluded
        =
      (.ok drain, drained)) :
    ∃ turns : List (Turn σ),
      turns.map Turn.place = service.objects.objects.zipIdx.reverse
        ∧
      ∃ after,
        (service.close signal ending crew events).exec world = (.ok ending.result, after)
          ∧
        Passes view (turns.map (Turn.moment .stop)) (turns.filterMap (Turn.failure? .stop))
          drained after := by
  -- whether the drain was late only decides about one more report
  have hlate : ∃ reported,
      watched reported = watched drained
        ∧
      (service.close signal ending crew events).exec world
        =
      (do
        service.objects.stop
        Action.log .server .info "Server stopped" []
        return ending.result : Action σ (Except ServerError Unit)).exec reported := by
    unfold close
    rw [Action.exec_bind_ok hconclude, Action.exec_bind_ok hdrain]
    cases drain with
    | inTime => exact ⟨drained, rfl, rfl⟩
    | late waiting =>
      refine ⟨drained.record _, apart_watched.record _ _ ?_, Action.exec_bind_ok (Action.exec_log ..)⟩
      exact Log.Source.noConfusion
  obtain ⟨reported, hsame, hclose⟩ := hlate
  obtain ⟨turns, hturns, stopped, hstop, hpasses⟩ := service.objects.stop_passes hobjects reported
  let after := stopped.record ⟨.server, .info, "Server stopped", []⟩
  refine ⟨turns, hturns, after, ?_, ?_⟩
  . rw [hclose, Action.exec_bind_ok hstop]
    rfl
  . have hreported : Passes view [] [] drained reported := .of_eq hsame
    have hlogged : Passes view [] [] stopped after := .of_eq (apart_watched.record _ _ (by decide))
    have hpassed := (hreported.trans hpasses).trans hlogged
    simp only [List.nil_append, List.append_nil] at hpassed
    exact hpassed

theorem exists_life (service : Service σ) (course : Course σ) {started : List (Turn σ)}
    {before begun : World σ} (hobjects : Observed view service.objects.objects)
    (hstarted : started.map Turn.place = service.objects.objects.zipIdx)
    (hstarting : Passes view (started.map (Turn.moment .start)) (started.filterMap (Turn.failure? .start))
      before begun)
    (hsignal : Silent view course.signal) (hevents : Discloses view (course.events service))
    (hends : ∃ event ∈ course.events service, ∃ ending, event.Ends service.server.connectors.length ending) :
    ∃ (life : Life σ) (after : World σ),
      (service.live course).exec begun = (.ok life.ending.result, after)
        ∧
      life.Between view service course before after := by
  have hrunning (i : Nat) : i ∈ service.crew.running ↔ i < service.server.connectors.length := by
    rw [Service.crew, Crew.running_spawn, List.mem_range]
  obtain ⟨⟨ending, _, rest⟩, early, served, hserve, ⟨hearly, past, hafter, rfl⟩, hanswering⟩ :=
    serveUntil_shows hrunning hevents hends begun
  obtain ⟨concluded, hconclude, hquiet⟩ := conclude_passes hsignal ending served
  have hrest : Discloses view rest := hevents.mono (hafter.events ▸ List.subset_append_right past rest)
  obtain ⟨drain, late, drained, hdrain, ⟨hlate, hwaits⟩, hlateness⟩ := drain_shows hrest concluded
  obtain ⟨stopped, hstopped, after, hclose, hstopping⟩ := service.close_exec hobjects hconclude hdrain
  refine ⟨⟨started, begun, early ++ late, past, rest, ending, served, drain, drained, stopped⟩, after, ?_, ?_⟩
  . unfold Service.live
    rw [Action.exec_bind_ok hserve, hclose]
  . constructor
    case started => exact hstarted
    case starting => exact hstarting
    case ends => exact hafter
    case serving => exact hserve
    case drains => exact hwaits.drains
    case draining => exact ⟨concluded, hconclude, hdrain⟩
    case answered => exact hearly.append hlate
    case answering => exact hanswering.trans (hquiet.trans hlateness)
    case stopped => exact hstopped
    case stopping => exact hstopping

/--
Once the admin side has started, a service either lives a whole life, or it has no routers; then it ends
before any hook is called.
-/
theorem BoundServer.serve_between_hooks (server : BoundServer) {environment : Environment σ}
    (course : Course σ) {registry : Admin.Registry σ}
    {adminRoutes : Http.RouteTable (Http.Endpoint σ)} {world world₁ : World σ}
    (hadmin : (environment.admin.start (.new server.adminPath)).exec world
        =
      (.ok (.ok (), registry, adminRoutes), world₁))
    (hobjects : Observed view environment.objects.objects)
    (hsignal : Silent view course.signal)
    (hevents : ∀ service, Discloses view (course.events service)) :
    (environment.routes.router? = none ∨ adminRoutes.router? = none →
      ∃ after,
        (server.serve environment course).exec world = (.error .panicked, after)
          ∧
        Passes view [] [] world after)
      ∧
    (∀ application admin,
      environment.routes.router? = some application →
      adminRoutes.router? = some admin →
        let service : Service σ := ⟨server, application, admin, environment.objects.close⟩
        (∃ event ∈ course.events service, ∃ ending, event.Ends server.connectors.length ending) →
          ∃ (life : Life σ) (after : World σ),
            (server.serve environment course).exec world = (.ok life.ending.result, after)
              ∧
            life.Between view service course world after
              ∧
            Passes view life.moments life.failures world after) := by
  constructor
  . intro hnone
    obtain ⟨after, hstart, hsame⟩ := server.start_exec_of_none hadmin hnone
    refine ⟨after, ?_, .of_eq hsame⟩
    unfold serve
    rw [Action.exec_bind_error hstart]
  . intro application admin happlication hrouter service hends
    obtain ⟨started, hstarted, begun, hstart, hstarting⟩ :=
      server.start_exec hadmin happlication hrouter hobjects
    obtain ⟨life, after, hrest, hbetween⟩ :=
      exists_life service course hobjects hstarted hstarting hsignal (hevents service) hends
    refine ⟨life, after, ?_, hbetween, hbetween.passes⟩
    unfold serve
    rw [Action.exec_bind_ok hstart]
    exact hrest

def note (moment : Moment) : Action (List Moment) Unit :=
  Action.change fun world => { world with state := world.state ++ [moment] }

theorem shows_note {α : Type} {shown : α → List Moment → Prop} {moment : Moment} {a : α}
    (h : shown a [moment]) : Shows id shown (do note moment; return a) := by
  intro world
  exact ⟨a, [moment], { world with state := world.state ++ [moment] }, rfl, h, rfl,
    (List.append_nil _).symm⟩

def witnessed (name : String) (position : Nat) (start stop : Except String Unit) :
    Managed (List Moment) where
  name
  start := do
    note (.called .start position start)
    return start
  stop := do
    note (.called .stop position stop)
    return stop

def witnessedObjects : List (Managed (List Moment)) :=
  [witnessed "cache" 0 (.error "cold") (.ok ()), witnessed "queue" 1 (.ok ()) (.error "busy")]

def brokenCourse : Course (List Moment) where
  signal := return ()
  events _ :=
    [.notice 1, .act (note .answered), .finish 0 (.error "broken"), .notice 1, .act (note .answered), .pass 7000,
      .finish 1 (.ok ())]

def witnessedEnvironment (routes : Http.RouteTable (Http.Endpoint (List Moment))) :
    Environment (List Moment) :=
  ⟨routes, ⟨[], [], .empty, false⟩, ⟨witnessedObjects, false⟩⟩

def bareServer : BoundServer :=
  ⟨[], "/", 30, 5⟩

def busyServer : BoundServer :=
  let listener (side : Side) (port : Nat) : BoundConnector := ⟨side, .http, ⟨.v4 [127, 0, 0, 1], port⟩⟩
  ⟨[listener .application 8080, listener .application 8090, listener .admin 8081], "/", 30, 5⟩

theorem observed_witnessedObjects : Observed id witnessedObjects := by
  intro i object hi hook
  have hcases : (i = 0 ∧ object = witnessed "cache" 0 (.error "cold") (.ok ()))
      ∨ (i = 1 ∧ object = witnessed "queue" 1 (.ok ()) (.error "busy")) := by
    match i with
    | 0 => exact .inl ⟨rfl, (Option.some.inj hi).symm⟩
    | 1 => exact .inr ⟨rfl, (Option.some.inj hi).symm⟩
    | i + 2 => simp [witnessedObjects] at hi
  obtain ⟨rfl, rfl⟩ | ⟨rfl, rfl⟩ := hcases <;> cases hook <;> exact shows_note rfl

theorem discloses_brokenCourse (service : Service (List Moment)) : Discloses id (brokenCourse.events service) := by
  intro action hmem
  have hnote : action = note .answered := by
    simpa [brokenCourse] using hmem
  subst hnote
  exact fun world => ⟨.ok (), [.answered], _, rfl, by simp [Answers], rfl, (List.append_nil _).symm⟩

theorem serve_between_hooks_of_brokenCourse :
    ∃ (registry : Admin.Registry (List Moment)) (routes : Http.RouteTable (Http.Endpoint (List Moment)))
        (application admin : Http.Router (Http.Endpoint (List Moment))) (world₁ : World (List Moment)),
      let environment := witnessedEnvironment (.new "/")
      (environment.admin.start (.new "/")).exec (.idle []) = (.ok (.ok (), registry, routes), world₁)
        ∧
      environment.routes.router? = some application
        ∧
      routes.router? = some admin
        ∧
      Observed id environment.objects.objects
        ∧
      ∃ (life : Life (List Moment)) (after : World (List Moment)),
        (busyServer.serve environment brokenCourse).exec (.idle []) = (.ok life.ending.result, after)
          ∧
        life.Between id ⟨busyServer, application, admin, environment.objects.close⟩ brokenCourse
          (.idle []) after := by
  let environment := witnessedEnvironment (.new "/")
  have hstart : ∃ registry routes world₁,
      (environment.admin.start (.new "/")).exec (.idle []) = (.ok (.ok (), registry, routes), world₁)
        ∧
      environment.routes.router?.isSome ∧ routes.router?.isSome :=
    ⟨_, _, _, rfl, by decide, by decide +kernel⟩
  obtain ⟨registry, routes, world₁, hadmin, happlication, hrouter⟩ := hstart
  obtain ⟨application, happlication⟩ := Option.isSome_iff_exists.mp happlication
  obtain ⟨admin, hrouter⟩ := Option.isSome_iff_exists.mp hrouter
  have hobjects : Observed id environment.objects.objects := observed_witnessedObjects
  have hall := busyServer.serve_between_hooks brokenCourse hadmin hobjects (shows_pure rfl) discloses_brokenCourse
  have hends : Event.Ends 3 (.finish 0 (.error "broken") : Event (List Moment)) (.connectorFailed "broken") :=
    .failed (by decide)
  obtain ⟨life, after, hserve, hbetween, -⟩ :=
    hall.2 application admin happlication hrouter ⟨_, by simp [brokenCourse], _, hends⟩
  exact ⟨registry, routes, application, admin, world₁, hadmin, happlication, hrouter, hobjects, life, after,
    hserve, hbetween⟩

/-- A path with a lone brace can be bound, but no router can be made of it: then nobody is started. -/
theorem serve_with_lone_brace :
    ∃ (routes adminRoutes : Http.RouteTable (Http.Endpoint (List Moment)))
        (registry : Admin.Registry (List Moment)) (world₁ after : World (List Moment)),
      let environment := witnessedEnvironment routes
      (Http.RouteTable.new "/").bind .get "/a\x7d" (fun _ => return .empty 200) = .ok routes
        ∧
      (environment.admin.start (.new "/")).exec (.idle []) = (.ok (.ok (), registry, adminRoutes), world₁)
        ∧
      (busyServer.serve environment brokenCourse).exec (.idle []) = (.error .panicked, after)
        ∧
      after.state = [] := by
  have hroutes : ∃ routes,
      (Http.RouteTable.new "/").bind .get "/a\x7d" (fun _ => return .empty 200) = .ok routes
        ∧
      (routes : Http.RouteTable (Http.Endpoint (List Moment))).router?.isNone :=
    ⟨_, rfl, by decide +kernel⟩
  obtain ⟨routes, hbind, hnone⟩ := hroutes
  rw [Option.isNone_iff_eq_none] at hnone
  let environment := witnessedEnvironment routes
  have hstart : ∃ registry adminRoutes world₁,
      (environment.admin.start (.new "/")).exec (.idle [])
        =
      (.ok (.ok (), registry, adminRoutes), world₁) := ⟨_, _, _, rfl⟩
  obtain ⟨registry, adminRoutes, world₁, hadmin⟩ := hstart
  obtain ⟨after, hpanic, hsame⟩ :=
    busyServer.start_exec_of_none hadmin (.inl hnone)
  refine ⟨routes, adminRoutes, registry, world₁, after, hbind, hadmin, ?_, congrArg Prod.fst hsame⟩
  unfold BoundServer.serve
  exact Action.exec_bind_error hpanic

end ServiceHost.Serving
