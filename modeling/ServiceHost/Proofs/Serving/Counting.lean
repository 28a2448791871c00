import ServiceHost.Proofs.Admin.Frame
import ServiceHost.Proofs.Metrics.Registry
import ServiceHost.Proofs.Serving.Course

/-!
This module contains which requests a service counts: the requests to the application that its router has
answered, whatever the answer is. One that takes too long is answered as well, but not counted.
-/

namespace ServiceHost

variable {σ : Type}

namespace Serving

open Http (Router Endpoint)

def tallies (world : World σ) : Option (Metrics.Variable σ) × Option (Metrics.Variable σ) :=
  (world.metrics.contents.find? "http.requests", world.metrics.contents.find? "http.request_duration_ms")

/-- So many requests are counted, and so many durations are recorded. -/
def Counts (n : Nat) (world : World σ) : Prop :=
  ∃ summary : Metrics.Summary,
    tallies world = (some (.counter (.ofNat n)), some (.histogram summary)) ∧ summary.count = .ofNat n

/-- No code but the one of the service itself has to do with these metrics. -/
structure Discreet (environment : Environment σ) : Prop where
  routes : ∀ entry ∈ environment.routes.paths, ∀ bound ∈ entry.2.entries, ∀ request,
    Action.Keeps tallies (bound.2 request)
  admin : environment.admin.close.Leaves tallies
  objects : ∀ object ∈ environment.objects.objects,
    (∃ id period, object = Metrics.Reporter.managed id period) ∨ Action.Keeps tallies object.start

/-- How the application comes to an end with a request. One that is late is given up before it gets there. -/
def Service.outcome (service : Service σ) (arrival : Arrival) (before : World σ) :
    Except Fault Http.Response × World σ :=
  if arrival.isLate service.server.requestTimeout then (.error .stalled, before)
  else (service.application.serve arrival.marked).exec before

structure Exchange (σ : Type) where
  side : Side
  arrival : Arrival
  before : World σ
  answer : Answer
  after : World σ

namespace Exchange

def answered (exchange : Exchange σ) : Bool :=
  exchange.side = .application && exchange.answer matches .response _

def timedOut (service : Service σ) (exchange : Exchange σ) : Bool :=
  exchange.side = .application && (service.outcome exchange.arrival exchange.before).1 matches .error .stalled

def incoming (exchange : Exchange σ) : Side × Arrival :=
  (exchange.side, exchange.arrival)

end Exchange

inductive Exchanges (service : Service σ) : World σ → List (Exchange σ) → World σ → Prop where
  | nil (world : World σ) : Exchanges service world [] world
  | cons {exchange : Exchange σ} {exchanges : List (Exchange σ)} {first last : World σ} :
    exchange.before = first →
    (service.answer exchange.side exchange.arrival).exec first = (.ok exchange.answer, exchange.after) →
    Exchanges service exchange.after exchanges last →
    Exchanges service first (exchange :: exchanges) last

theorem Exchanges.forall_of_answer {service : Service σ} {first last : World σ} {exchanges : List (Exchange σ)}
    {p : Exchange σ → Prop} (h : Exchanges service first exchanges last)
    (hp : ∀ exchange : Exchange σ,
      (service.answer exchange.side exchange.arrival).exec exchange.before = (.ok exchange.answer, exchange.after) →
        p exchange) : ∀ exchange ∈ exchanges, p exchange := by
  induction h with
  | nil => exact fun _ hmem => absurd hmem List.not_mem_nil
  | cons hbefore hanswer _ ih =>
    rw [List.forall_mem_cons]
    exact ⟨hp _ (hbefore ▸ hanswer), ih⟩

theorem background_tallies : Action.Background (tallies (σ := σ)) where
  record _ _ _ := rfl
  levels _ _ _ _ := rfl
  tickers _ _ := rfl
  purge _ := rfl

namespace Counts

variable {n : Nat} {world world' : World σ}

theorem of_tallies (h : Counts n world) (hsame : tallies world' = tallies world) : Counts n world' := by
  unfold Counts
  rw [hsame]
  exact h

theorem track (h : Counts n world) {elapsed : Float}
    (htrack : (Service.track elapsed).exec world = (.ok (), world')) : Counts (n + 1) world' := by
  obtain ⟨summary, htallies, hcount⟩ := h
  obtain ⟨hrequests, hdurations⟩ := Prod.mk.inj htallies
  cases htrack
  refine ⟨summary.record elapsed, ?_, ?_⟩
  . unfold tallies
    dsimp only
    rw [Metrics.Registry.find?_update, Metrics.Registry.find?_update, hrequests]
    rw [Metrics.Registry.find?_update, Metrics.Registry.find?_update, hdurations]
    simp [requestCounter, requestDurations, Metrics.Update.kind, Metrics.Variable.apply, UInt64.ofNat_add]
  . unfold Metrics.Summary.record
    split
    . next hzero =>
      rw [UInt64.ofNat_add, ← hcount, hzero]
      rfl
    . rw [UInt64.ofNat_add, ← hcount]
      rfl

end Counts

theorem applicationRouter_counts {table : Http.RouteTable (Endpoint σ)} {router : Router (Endpoint σ)}
    {world last : World σ} (hfresh : tallies world = (none, none))
    (h : (applicationRouter table).exec world = (.ok router, last)) :
    table.router? = some router ∧ Counts 0 last := by
  obtain ⟨hrequests, hdurations⟩ := Prod.mk.inj hfresh
  unfold applicationRouter at h
  rw [Action.exec_bind_ok (Metrics.metric_exec ..), Action.exec_bind_ok (Metrics.metric_exec ..)] at h
  obtain ⟨hrouter, rfl⟩ := routerOf_eq_ok h
  refine ⟨hrouter, .empty, ?_, rfl⟩
  unfold tallies
  simp [Metrics.Registry.find?_request, hrequests, hdurations, requestCounter, requestDurations,
    Metrics.Variable.fresh]

def Arrival.answer (arrival : Arrival) : Except Fault Http.Response → Answer
  | .ok response => .response (identified arrival.id response)
  | .error .stalled => .response (identified arrival.id (.empty 408))
  | .error .panicked => .closed

def adminAnswer : Except Fault Http.Response → Answer
  | .ok response => .response response
  | .error .stalled => .pending
  | .error .panicked => .closed

theorem Service.track_exec (elapsed : Float) (world : World σ) :
    (track elapsed).exec world = (.ok (), ((track elapsed).exec world).2) := by
  rfl

theorem Service.outcome_of_isLate (service : Service σ) {arrival : Arrival} {before : World σ}
    (h : arrival.isLate service.server.requestTimeout = true) :
    service.outcome arrival before = (.error .stalled, before) := by
  unfold outcome
  rw [if_pos h]

theorem Service.outcome_of_not_isLate (service : Service σ) {arrival : Arrival} {before : World σ}
    (h : ¬ arrival.isLate service.server.requestTimeout = true) :
    service.outcome arrival before = (service.application.serve arrival.marked).exec before := by
  unfold outcome
  rw [if_neg h]

theorem Service.answer_application_exec_eq (service : Service σ) (arrival : Arrival) (before : World σ) :
    (service.answer .application arrival).exec before
      =
    (.ok (arrival.answer (service.outcome arrival before).1),
      match service.outcome arrival before with
      | (.ok _, mid) => ((track arrival.milliseconds).exec mid).2
      | (.error _, mid) => mid) := by
  have hanswer : service.answer .application arrival = service.answerApplication arrival := rfl
  rw [hanswer]
  unfold answerApplication outcome
  dsimp only
  split
  . rfl
  . cases hserve : (service.application.serve arrival.marked).exec before with
    | mk result mid =>
      rw [Action.exec_bind_attempt hserve]
      cases result with
      | ok response =>
        dsimp only
        rw [Action.exec_bind_ok (track_exec _ mid), Action.exec_pure]
        rfl
      | error fault => cases fault <;> rfl

theorem Service.answer_application_exec (service : Service σ) (arrival : Arrival) (before : World σ) :
    ∃ after,
      (service.answer .application arrival).exec before
        =
      (.ok (arrival.answer (service.outcome arrival before).1), after)
        ∧
      (after = (service.outcome arrival before).2
        ∨
      (track arrival.milliseconds).exec (service.outcome arrival before).2 = (.ok (), after)) := by
  rw [answer_application_exec_eq]
  cases service.outcome arrival before with
  | mk result mid =>
    cases result with
    | ok response => exact ⟨_, rfl, .inr (track_exec _ mid)⟩
    | error fault => exact ⟨_, rfl, .inl rfl⟩

theorem Service.keeps_outcome {γ : Type} {part : World σ → γ} (service : Service σ)
    (h : ∀ request, Action.Keeps part (service.application.serve request)) (arrival : Arrival) (before : World σ) :
    part (service.outcome arrival before).2 = part before := by
  unfold outcome
  split
  . rfl
  . exact h arrival.marked before

theorem Service.answer_admin_exec (service : Service σ) (arrival : Arrival) (before : World σ) :
    (service.answer .admin arrival).exec before
      =
    (.ok (adminAnswer ((service.admin.serve arrival.request).exec before).1),
      ((service.admin.serve arrival.request).exec before).2) := by
  cases hserve : (service.admin.serve arrival.request).exec before with
  | mk result mid =>
    have hanswer : (service.answer .admin arrival).exec before = _ := Action.exec_bind_attempt hserve
    rw [hanswer]
    cases result with
    | ok response => rfl
    | error fault => cases fault <;> rfl

structure Service.Discreet (service : Service σ) : Prop where
  application : ∀ request, Action.Keeps tallies (service.application.serve request)
  admin : ∀ request, Action.Keeps tallies (service.admin.serve request)

structure Exchange.Tallied (service : Service σ) (exchange : Exchange σ) : Prop where
  counted : ∀ n, Counts n exchange.before → ∃ m,
    Counts m exchange.after
      ∧
    m + (exchange.timedOut service).toNat = n + exchange.answered.toNat
  late : exchange.timedOut service →
    exchange.answer = .response (identified exchange.arrival.id (.empty 408))
  admin : exchange.side = .admin → tallies exchange.after = tallies exchange.before

namespace Service

variable {service : Service σ}

theorem answer_application (h : service.Discreet) (arrival : Arrival) (before : World σ) :
    ∃ answer after,
      (service.answer .application arrival).exec before = (.ok answer, after)
        ∧
      Exchange.Tallied service ⟨.application, arrival, before, answer, after⟩ := by
  have hkeeps := service.keeps_outcome h.application arrival before
  refine ⟨_, _, service.answer_application_exec_eq arrival before, ?_⟩
  cases houtcome : service.outcome arrival before with
  | mk result mid =>
    rw [houtcome] at hkeeps
    -- only an answer of the router is tracked, but a late one is an answer, too
    cases result with
    | ok response =>
      refine ⟨?_, ?_, nofun⟩
      . intro n hcounts
        refine ⟨n + 1, (hcounts.of_tallies hkeeps).track (track_exec _ mid), ?_⟩
        simp [Exchange.timedOut, Exchange.answered, Arrival.answer, houtcome]
      . simp [Exchange.timedOut, houtcome]
    | error fault =>
      cases fault with
      | stalled =>
        refine ⟨?_, fun _ => rfl, nofun⟩
        intro n hcounts
        refine ⟨n, hcounts.of_tallies hkeeps, ?_⟩
        simp [Exchange.timedOut, Exchange.answered, Arrival.answer, houtcome]
      | panicked =>
        refine ⟨?_, ?_, nofun⟩
        . intro n hcounts
          refine ⟨n, hcounts.of_tallies hkeeps, ?_⟩
          simp [Exchange.timedOut, Exchange.answered, Arrival.answer, houtcome]
        . simp [Exchange.timedOut, houtcome]

theorem answer_admin (h : service.Discreet) (arrival : Arrival) (before : World σ) :
    ∃ answer after,
      (service.answer .admin arrival).exec before = (.ok answer, after)
        ∧
      Exchange.Tallied service ⟨.admin, arrival, before, answer, after⟩ := by
  have hkeeps := h.admin arrival.request before
  refine ⟨_, _, service.answer_admin_exec arrival before, ?_, nofun, fun _ => hkeeps⟩
  intro n hcounts
  exact ⟨n, hcounts.of_tallies hkeeps, rfl⟩

theorem exists_answer (service : Service σ) (side : Side) (arrival : Arrival) (before : World σ) :
    ∃ answer after, (service.answer side arrival).exec before = (.ok answer, after) := by
  cases side with
  | application =>
    obtain ⟨after, hanswer, -⟩ := service.answer_application_exec arrival before
    exact ⟨_, after, hanswer⟩
  | admin => exact ⟨_, _, service.answer_admin_exec arrival before⟩

theorem answerAll_cons_exec (service : Service σ) {side : Side} {arrival : Arrival} {answer : Answer}
    {requests : List (Side × Arrival)} {answers : List Answer} {first second last : World σ}
    (hanswer : (service.answer side arrival).exec first = (.ok answer, second))
    (hrest : (service.answerAll requests).exec second = (.ok answers, last)) :
    (service.answerAll ((side, arrival) :: requests)).exec first = (.ok (answer :: answers), last) := by
  unfold answerAll
  rw [Action.exec_bind_ok hanswer, Action.exec_bind_ok hrest]
  rfl

theorem exists_exchanges_of_requests (service : Service σ) (requests : List (Side × Arrival)) (first : World σ) :
    ∃ exchanges last,
      exchanges.map Exchange.incoming = requests
        ∧
      Exchanges service first exchanges last
        ∧
      (service.answerAll requests).exec first = (.ok (exchanges.map (·.answer)), last) := by
  induction requests generalizing first with
  | nil => exact ⟨[], first, rfl, .nil first, rfl⟩
  | cons incoming requests ih =>
    obtain ⟨side, arrival⟩ := incoming
    obtain ⟨answer, after, hanswer⟩ := service.exists_answer side arrival first
    obtain ⟨exchanges, last, rfl, hexchanges, hrest⟩ := ih after
    let exchange : Exchange σ := ⟨side, arrival, first, answer, after⟩
    exact ⟨exchange :: exchanges, last, rfl, .cons rfl hanswer hexchanges, service.answerAll_cons_exec hanswer hrest⟩

theorem Discreet.tallied (h : service.Discreet) {exchange : Exchange σ}
    (hanswer : (service.answer exchange.side exchange.arrival).exec exchange.before
        =
      (.ok exchange.answer, exchange.after)) : exchange.Tallied service := by
  obtain ⟨side, arrival, before, answer, after⟩ := exchange
  cases side with
  | application =>
    obtain ⟨_, _, hexec, htallied⟩ := service.answer_application h arrival before
    cases hexec.symm.trans hanswer
    exact htallied
  | admin =>
    obtain ⟨_, _, hexec, htallied⟩ := service.answer_admin h arrival before
    cases hexec.symm.trans hanswer
    exact htallied

theorem exists_exchanges (h : service.Discreet) (requests : List (Side × Arrival)) (first : World σ) :
    ∃ exchanges last,
      exchanges.map Exchange.incoming = requests
        ∧
      Exchanges service first exchanges last
        ∧
      (service.answerAll requests).exec first = (.ok (exchanges.map (·.answer)), last)
        ∧
      ∀ exchange ∈ exchanges, exchange.Tallied service := by
  obtain ⟨exchanges, last, hrequests, hexchanges, hexec⟩ := service.exists_exchanges_of_requests requests first
  exact ⟨exchanges, last, hrequests, hexchanges, hexec, hexchanges.forall_of_answer fun _ => h.tallied⟩

end Service

theorem countP_singleton_toNat {α : Type} (p : α → Bool) (a : α) : [a].countP p = (p a).toNat := by
  rw [List.countP_singleton]
  cases p a <;> rfl

theorem Exchanges.after_last {service : Service σ} {first last : World σ} {seen : List (Exchange σ)}
    {exchange : Exchange σ} (h : Exchanges service first (seen ++ [exchange]) last) : exchange.after = last := by
  induction seen generalizing first with
  | nil =>
    cases h with
    | cons _ _ hnil =>
      cases hnil
      rfl
  | cons other seen ih =>
    cases h with
    | cons _ _ hrest => exact ih hrest

theorem Exchanges.invariant {service : Service σ} {p : List (Exchange σ) → World σ → Prop} {first last : World σ}
    {exchanges : List (Exchange σ)} (h : Exchanges service first exchanges last)
    (hstep : ∀ (seen : List (Exchange σ)) (exchange : Exchange σ),
      (service.answer exchange.side exchange.arrival).exec exchange.before = (.ok exchange.answer, exchange.after) →
      p seen exchange.before → p (seen ++ [exchange]) exchange.after)
    {earlier : List (Exchange σ)} (hfirst : p earlier first) {seen rest : List (Exchange σ)} {exchange : Exchange σ}
    (hsplit : exchanges = seen ++ exchange :: rest) :
    (service.answer exchange.side exchange.arrival).exec exchange.before = (.ok exchange.answer, exchange.after)
      ∧
    p (earlier ++ seen) exchange.before
      ∧
    p (earlier ++ seen ++ [exchange]) exchange.after := by
  induction h generalizing earlier seen with
  | nil => simp at hsplit
  | @cons head tail first last hbefore hanswer _ ih =>
    subst hbefore
    have hnext := hstep earlier head hanswer hfirst
    cases seen with
    | nil =>
      obtain ⟨rfl, rfl⟩ := List.cons_eq_cons.mp hsplit
      rw [List.append_nil]
      exact ⟨hanswer, hfirst, hnext⟩
    | cons other seen =>
      obtain ⟨rfl, rfl⟩ := List.cons_eq_cons.mp hsplit
      rw [List.append_cons]
      exact ih hnext rfl

theorem Exchanges.counts {service : Service σ} (hdiscreet : service.Discreet) {first last : World σ}
    {exchanges : List (Exchange σ)} (h : Exchanges service first exchanges last) (hcounts : Counts 0 first)
    {seen rest : List (Exchange σ)} {exchange : Exchange σ} (hsplit : exchanges = seen ++ exchange :: rest) :
    ∃ n,
      Counts n exchange.after
        ∧
      n + (seen ++ [exchange]).countP (Exchange.timedOut service) = (seen ++ [exchange]).countP Exchange.answered := by
  let p (seen : List (Exchange σ)) (world : World σ) : Prop :=
    ∃ n, Counts n world ∧ n + seen.countP (Exchange.timedOut service) = seen.countP Exchange.answered
  have hstep (seen : List (Exchange σ)) (exchange : Exchange σ)
      (hanswer : (service.answer exchange.side exchange.arrival).exec exchange.before
          =
        (.ok exchange.answer, exchange.after))
      (hseen : p seen exchange.before) : p (seen ++ [exchange]) exchange.after := by
    obtain ⟨n, hn, hsum⟩ := hseen
    obtain ⟨m, hm, hsum'⟩ := (hdiscreet.tallied hanswer).counted n hn
    refine ⟨m, hm, ?_⟩
    rw [List.countP_append, List.countP_append, countP_singleton_toNat, countP_singleton_toNat]
    omega
  have hzero : p [] first := ⟨0, hcounts, rfl⟩
  exact (h.invariant hstep hzero hsplit).2.2

theorem keeps_start {γ : Type} {part : World σ → γ} (hpart : Action.Background part) {objects : Lifecycle.Objects σ}
    (h : ∀ object ∈ objects.objects,
      (∃ id period, object = Metrics.Reporter.managed id period) ∨ Action.Keeps part object.start) :
    Action.Keeps part objects.start := by
  unfold Lifecycle.Objects.start
  apply Action.keeps_forM
  intro object hobject
  have hstart : Action.Keeps part object.start := by
    obtain ⟨id, period, rfl⟩ | hkeeps := h object hobject
    . exact (Metrics.Reporter.spares_start hpart.tickers id period).keeps.bind fun _ => Action.keeps_pure _
    . exact hkeeps
  unfold Lifecycle.Objects.startOne
  apply hstart.bind
  intro result
  split
  . exact (hpart.log trivial).keeps
  . exact (hpart.log trivial).keeps

theorem BoundServer.start_discreet (server : BoundServer) {environment : Environment σ} (h : Discreet environment)
    {before ready : World σ} {service : Service σ} (hfresh : tallies before = (none, none))
    (hstart : (server.start environment).exec before = (.ok (.ok service), ready)) :
    service.Discreet ∧ Counts 0 ready := by
  obtain ⟨registry, adminRoutes, application, admin, world₁, world₂, world₃, hadmin, happ, hrouter, hobjects,
    hannounce, rfl⟩ := server.start_eq_ok_iff.mp hstart
  have hsame₁ := (environment.admin.spares_start background_tallies.toUnlogged trivial trivial _).part_eq hadmin
  obtain ⟨happlication, hcounts⟩ := applicationRouter_counts (hsame₁.trans hfresh) happ
  have hkeeps : Action.Keeps tallies environment.objects.close.start := keeps_start background_tallies h.objects
  have hsame₃ := hkeeps world₂
  rw [hobjects] at hsame₃
  have hsame₄ := (spares_announce background_tallies.toUnlogged trivial server.connectors).part_eq hannounce
  refine ⟨⟨?_, ?_⟩, hcounts.of_tallies (hsame₄.trans hsame₃)⟩
  . intro request
    apply Router.keeps_serve
    intro endpoint htakes
    obtain ⟨entry, hentry, bound, hbound, rfl⟩ := Http.RouteTable.exists_bound_of_takes happlication htakes
    exact h.routes entry hentry bound hbound
  . intro request
    obtain ⟨-, hbinds⟩ := Admin.Registry.binds_of_start_ok hadmin
    apply Router.keeps_serve
    intro endpoint htakes
    exact h.admin.keeps_endpoint background_tallies (Admin.serves_of_takes hbinds hrouter htakes)

/--
After each request to a service, the counter and the number of durations are both the number of requests to the
application that were answered so far, without those that took too long: these are answered as well. Requests to
the admin side change neither.
-/
theorem counted_unless_late (server : BoundServer) {environment : Environment σ} (h : Discreet environment)
    {before ready : World σ} {service : Service σ} (hfresh : tallies before = (none, none))
    (hstart : (server.start environment).exec before = (.ok (.ok service), ready))
    (requests : List (Side × Arrival)) :
    Counts 0 ready
      ∧
    ∃ exchanges last,
      exchanges.map Exchange.incoming = requests
        ∧
      Exchanges service ready exchanges last
        ∧
      (service.answerAll requests).exec ready = (.ok (exchanges.map (·.answer)), last)
        ∧
      (∀ seen exchange rest, exchanges = seen ++ exchange :: rest → ∃ n,
        Counts n exchange.after
          ∧
        n + (seen ++ [exchange]).countP (Exchange.timedOut service)
          =
        (seen ++ [exchange]).countP Exchange.answered)
        ∧
      ∀ exchange ∈ exchanges,
        (exchange.timedOut service →
          exchange.answer = .response (identified exchange.arrival.id (.empty 408)))
          ∧
        (exchange.side = .admin → tallies exchange.after = tallies exchange.before) := by
  obtain ⟨hdiscreet, hzero⟩ := server.start_discreet h hfresh hstart
  obtain ⟨exchanges, last, hrequests, hexchanges, hexec, htallied⟩ :=
    service.exists_exchanges hdiscreet requests ready
  refine ⟨hzero, exchanges, last, hrequests, hexchanges, hexec, ?_, ?_⟩
  . intro seen exchange rest hsplit
    exact hexchanges.counts hdiscreet hzero hsplit
  . intro exchange hmem
    exact ⟨(htallied exchange hmem).late, (htallied exchange hmem).admin⟩

def slowCalls : List (Http.Call Unit) :=
  [⟨.get, "/hello", fun _ => return .text 200 "hello"⟩, ⟨.get, "/slow", fun _ => Action.fail .stalled⟩]

def arrivalAt (path : String) (elapsed : Nat) : Arrival :=
  ⟨⟨.get, ⟨"", path, none⟩, "", some "1"⟩, "2", elapsed⟩

theorem exists_slowService :
    ∃ (environment : Environment Unit) (service : Service Unit) (ready : World Unit),
      Discreet environment
        ∧
      (bareServer.start environment).exec (.idle ()) = (.ok (.ok service), ready)
        ∧
      service.server = bareServer
        ∧
      Http.Dispatches service.application slowCalls := by
  have hroutable : ∀ call ∈ slowCalls, Http.Path.isRoutable call.path = true ∧ call.method.isRoutable = true := by
    simp only [slowCalls, List.forall_mem_cons]
    decide
  obtain ⟨table, hbinds⟩ :=
    Http.RouteTable.exists_binds (.new "/") hroutable (by decide) (by simp [Http.RouteTable.new])
  have hholds := hbinds.holds (Http.RouteTable.holds_new "/")
  rw [List.nil_append] at hholds
  have hliteral : ∀ entry ∈ table.paths, entry.2.methods.Nodup ∧ Http.Pattern.IsLiteral entry.1.toList := by
    intro entry hentry
    obtain ⟨hmethods, call, hcall, hpath⟩ := hholds.paths entry hentry
    have hcalls : ∀ call ∈ slowCalls, Http.Pattern.IsLiteral call.path.toList := by
      simp only [slowCalls, List.forall_mem_cons]
      decide
    exact ⟨hmethods, hpath ▸ hcalls call hcall⟩
  have hcontext : table.context = Http.Path.root := hbinds.context.trans (by decide)
  obtain ⟨application, happlication, hsegments, hpaths⟩ := Http.RouteTable.exists_router_of_root hcontext hliteral
  obtain ⟨adminRoutes, world₁, admin, hadmin, hrouter, -⟩ :=
    (Admin.Registry.sound_new (σ := Unit)).exists_router (by decide +kernel) (.idle ())
  let environment : Environment Unit := ⟨table, .new, .empty⟩
  have hobjects : Lifecycle.Observed (fun _ => []) environment.objects.objects := by
    intro i object hi
    cases hi
  have hadmin' : (environment.admin.start (.new bareServer.adminPath)).exec (.idle ()) = _ := hadmin
  obtain ⟨_, -, ready, hstart, -⟩ := bareServer.start_exec hadmin' happlication hrouter hobjects
  refine ⟨environment, _, ready, ⟨?_, ⟨?_, ?_, ?_⟩, ?_⟩, hstart, rfl, hholds.dispatches hsegments hpaths⟩
  . apply hbinds.endpoints (p := fun endpoint => ∀ request, Action.Keeps tallies (endpoint request))
    . simp [Http.RouteTable.new]
    . simp only [slowCalls, List.forall_mem_cons]
      exact ⟨fun _ => Action.keeps_pure _, fun _ => Action.keeps_fail .stalled, by simp⟩
  . exact fun view hview => .inl hview
  . exact fun task htask => .inl htask
  . intro check hcheck
    cases hcheck
  . intro object hobject
    cases hobject

section Slow

variable {service : Service Unit} (hserver : service.server = bareServer)
  (h : Http.Dispatches service.application slowCalls)
include hserver h

theorem outcome_hello (world : World Unit) :
    service.outcome (arrivalAt "/hello" 0) world = (.ok (.text 200 "hello"), world) := by
  unfold Service.outcome
  rw [hserver, if_neg (by decide)]
  rw [h.own ⟨.get, "/hello", fun _ => return .text 200 "hello"⟩ List.mem_cons_self _ rfl rfl]
  rfl

theorem outcome_slow (world : World Unit) :
    service.outcome (arrivalAt "/slow" 0) world = (.error .stalled, world) := by
  unfold Service.outcome
  rw [hserver, if_neg (by decide)]
  rw [h.own ⟨.get, "/slow", fun _ => Action.fail .stalled⟩ (List.mem_cons_of_mem _ List.mem_cons_self) _ rfl rfl]
  rfl

omit h in
theorem outcome_late (world : World Unit) :
    service.outcome (arrivalAt "/hello" 30000000000) world = (.error .stalled, world) := by
  unfold Service.outcome
  rw [hserver, if_pos (by decide)]

theorem answer_slow (world : World Unit) :
    (service.answer .application (arrivalAt "/slow" 0)).exec world
      =
    (.ok (.response (identified "1" (.empty 408))), world) := by
  rw [service.answer_application_exec_eq, outcome_slow hserver h]
  rfl

end Slow

section Fixed

variable {service : Service Unit} {exchange : Exchange Unit} {arrival : Arrival}
  (hincoming : exchange.incoming = (.application, arrival))
include hincoming

theorem timedOut_of_incoming :
    exchange.timedOut service = ((service.outcome arrival exchange.before).1 matches .error .stalled) := by
  obtain ⟨hside, harrival⟩ := Prod.mk.inj hincoming
  unfold Exchange.timedOut
  rw [hside, harrival]
  rfl

theorem answered_of_incoming {response : Http.Response} (hanswer : .response response = exchange.answer) :
    exchange.answered = true := by
  unfold Exchange.answered
  rw [← hanswer, (Prod.mk.inj hincoming).1]
  rfl

end Fixed

def slowRequests : List (Side × Arrival) :=
  [(.application, arrivalAt "/hello" 0), (.application, arrivalAt "/slow" 0),
    (.application, arrivalAt "/hello" 30000000000)]

def slowAnswers : List Answer :=
  [.text 200 "hello", .empty 408, .empty 408].map fun response => .response (identified "1" response)

theorem slowRequests_exec {service : Service Unit} (hserver : service.server = bareServer)
    (h : Http.Dispatches service.application slowCalls) (ready : World Unit) :
    ∃ last, (service.answerAll slowRequests).exec ready = (.ok slowAnswers, last) := by
  have hhello := service.answer_application_exec_eq (arrivalAt "/hello" 0) ready
  rw [outcome_hello hserver h] at hhello
  have hlate (world : World Unit) := service.answer_application_exec_eq (arrivalAt "/hello" 30000000000) world
  simp only [outcome_late hserver] at hlate
  exact ⟨_, service.answerAll_cons_exec hhello
    (service.answerAll_cons_exec (answer_slow hserver h _) (service.answerAll_cons_exec (hlate _) rfl))⟩

theorem counted_unless_late_of_slowService :
    ∃ (environment : Environment Unit) (service : Service Unit) (ready last : World Unit),
      Discreet environment
        ∧
      tallies (World.idle ()) = (none, none)
        ∧
      (bareServer.start environment).exec (.idle ()) = (.ok (.ok service), ready)
        ∧
      (service.answerAll slowRequests).exec ready = (.ok slowAnswers, last)
        ∧
      Counts 1 last := by
  obtain ⟨environment, service, ready, hdiscreet, hstart, hserver, hdispatches⟩ := exists_slowService
  have hfresh : tallies (World.idle ()) = (none, none) := rfl
  obtain ⟨-, exchanges, last, hrequests, hexchanges, hexec, hcounts, -⟩ :=
    counted_unless_late bareServer hdiscreet hfresh hstart slowRequests
  obtain ⟨after, hanswers⟩ := slowRequests_exec hserver hdispatches ready
  rw [hanswers] at hexec
  obtain rfl : after = last := congrArg Prod.snd hexec
  obtain ⟨first, _, rfl, hfirst, hrest⟩ := List.map_eq_cons_iff.mp hrequests
  obtain ⟨second, _, rfl, hsecond, hrest⟩ := List.map_eq_cons_iff.mp hrest
  obtain ⟨third, _, rfl, hthird, hnil⟩ := List.map_eq_cons_iff.mp hrest
  obtain rfl := List.map_eq_nil_iff.mp hnil
  obtain ⟨hone, htwo, hthree⟩ :
      .response _ = first.answer ∧ .response _ = second.answer ∧ .response _ = third.answer := by
    simpa [slowAnswers] using congrArg Prod.fst hexec
  have hintime : first.timedOut service = false := by
    rw [timedOut_of_incoming hfirst, outcome_hello hserver hdispatches]
  have hnever : second.timedOut service = true := by
    rw [timedOut_of_incoming hsecond, outcome_slow hserver hdispatches]
  have hlate : third.timedOut service = true := by
    rw [timedOut_of_incoming hthird, outcome_late hserver]
  obtain ⟨n, hn, hsum⟩ := hcounts [first, second] third [] rfl
  simp only [List.cons_append, List.nil_append, List.countP_cons, List.countP_nil, hintime, hnever, hlate,
    answered_of_incoming hfirst hone, answered_of_incoming hsecond htwo, answered_of_incoming hthird hthree] at hsum
  obtain rfl : n = 1 := by simpa using hsum
  have hall : Exchanges service ready ([first, second] ++ [third]) after := hexchanges
  rw [hall.after_last] at hn
  exact ⟨environment, service, ready, after, hdiscreet, hfresh, hstart, hanswers, hn⟩

/-- A request that takes too long is answered, but not counted. -/
theorem late_request_not_counted :
    ∃ (environment : Environment Unit) (service : Service Unit) (ready : World Unit),
      Discreet environment
        ∧
      tallies (World.idle ()) = (none, none)
        ∧
      (bareServer.start environment).exec (.idle ()) = (.ok (.ok service), ready)
        ∧
      (service.answerAll [(.application, arrivalAt "/slow" 0)]).exec ready
        =
      (.ok [.response (identified "1" (.empty 408))], ready)
        ∧
      Counts 0 ready := by
  obtain ⟨environment, service, ready, hdiscreet, hstart, hserver, hdispatches⟩ := exists_slowService
  obtain ⟨-, hcounts⟩ := bareServer.start_discreet hdiscreet rfl hstart
  refine ⟨environment, service, ready, hdiscreet, rfl, hstart, ?_, hcounts⟩
  exact service.answerAll_cons_exec (answer_slow hserver hdispatches ready) rfl

end Serving
end ServiceHost
