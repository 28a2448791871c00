import ServiceHost.Proofs.Admin.Confinement
import ServiceHost.Proofs.Admin.Reach
import ServiceHost.Proofs.Serving.Counting
import ServiceHost.Proofs.Serving.Routers

/-!
This module contains that the two sides of a service are isolated from each other, although both come from one
environment: what is registered with the admin side makes no difference to the answers of the application, requests
to the application make none to the answers of the admin side, and no path of one is served by the other.
-/

namespace ServiceHost

variable {σ γ δ : Type}

open Http (Endpoint RouteTable)
open Http.RouteTable (AllEscaped)

namespace Serving

def requestMetrics : List Metrics.Handle :=
  [requestCounter, requestDurations]

/-- A part of the world that a service itself does not touch. -/
structure Untouched (part : World σ → γ) : Prop extends Action.Unwatched part where
  request : ∀ handle ∈ requestMetrics, ∀ world,
    part { world with metrics := world.metrics.request handle.kind handle.name } = part world
  update : ∀ handle ∈ requestMetrics, ∀ update world,
    part { world with metrics := world.metrics.update handle update } = part world

namespace Untouched

variable {part : World σ → γ}

theorem spares_metric (h : Untouched part) {handle : Metrics.Handle} (hhandle : handle ∈ requestMetrics) :
    Action.Spares part (Action.metric handle.kind handle.name) := by
  unfold Action.metric
  apply Action.Spares.bind (Action.spares_change (h.request handle hhandle))
  intro _
  apply Action.Spares.bind Action.spares_get
  intro world
  dsimp only
  split
  . apply Action.Spares.bind (h.log trivial)
    intro _
    exact Action.spares_pure _
  . exact Action.spares_pure _

theorem spares_track (h : Untouched part) (elapsed : Float) :
    Action.Spares part (Service.track elapsed : Action σ Unit) := by
  unfold Service.track
  apply Action.Spares.bind (Action.spares_change (h.update requestCounter List.mem_cons_self _))
  intro _
  exact Action.spares_change (h.update requestDurations (List.mem_cons_of_mem _ List.mem_cons_self) _)

theorem applicationRouter_exec (h : Untouched part) (table : RouteTable (Endpoint σ)) (world : World σ) :
    ∃ world',
      (applicationRouter table).exec world = (table.router?.elim (.error .panicked) .ok, world')
        ∧
      part world' = part world := by
  apply applicationRouter_exec_of_spares
  . exact h.spares_metric List.mem_cons_self
  . exact h.spares_metric (List.mem_cons_of_mem _ List.mem_cons_self)

theorem part_applicationRouter (h : Untouched part) {table : RouteTable (Endpoint σ)}
    {router : Http.Router (Endpoint σ)} {world last : World σ}
    (hexec : (applicationRouter table).exec world = (.ok router, last)) : part last = part world := by
  obtain ⟨_, hexec', hpart⟩ := h.applicationRouter_exec table world
  cases congrArg Prod.snd (hexec.symm.trans hexec')
  exact hpart

theorem part_answer (h : Untouched part) {service : Service σ} {arrival : Arrival} {answer : Answer}
    {before after : World σ} (hanswer : (service.answer .application arrival).exec before = (.ok answer, after)) :
    answer = arrival.answer (service.outcome arrival before).1
      ∧
    part after = part (service.outcome arrival before).2 := by
  -- the service tracks the request or does not; the part stays the same in either case
  obtain ⟨after', hexec, hafter⟩ := service.answer_application_exec arrival before
  rw [hanswer] at hexec
  cases hexec
  refine ⟨rfl, ?_⟩
  cases hafter with
  | inl hsame => rw [hsame]
  | inr htrack => exact (h.spares_track _).part_eq htrack

end Untouched

def arrivalsTo (side : Side) (requests : List (Side × Arrival)) : List Arrival :=
  (requests.filter (·.1 = side)).map (·.2)

def requestsTo (side : Side) (requests : List (Side × Arrival)) : List Http.Request :=
  (arrivalsTo side requests).map (·.request)

def onSide (side : Side) (exchanges : List (Exchange σ)) : List (Exchange σ) :=
  exchanges.filter (·.side = side)

theorem arrivalsTo_incoming (side : Side) (exchanges : List (Exchange σ)) :
    arrivalsTo side (exchanges.map Exchange.incoming) = (onSide side exchanges).map (·.arrival) := by
  unfold arrivalsTo onSide
  rw [List.filter_map, List.map_map]
  rfl

def SparedByOthers (side : Side) (part : World σ → γ) (exchanges : List (Exchange σ)) : Prop :=
  ∀ exchange ∈ exchanges, exchange.side ≠ side → part exchange.after = part exchange.before

section TwoRuns

variable {side : Side} {part : World σ → γ} {service service' : Service σ}

theorem Exchanges.exists_later {first last : World σ} {exchanges rest : List (Exchange σ)} {exchange : Exchange σ}
    (h : Exchanges service first exchanges last) (hspared : SparedByOthers side part exchanges)
    (hside : onSide side exchanges = exchange :: rest) :
    ∃ later,
      Exchanges service exchange.after later last ∧ SparedByOthers side part later ∧ onSide side later = rest
        ∧
      (service.answer exchange.side exchange.arrival).exec exchange.before = (.ok exchange.answer, exchange.after)
        ∧
      part exchange.before = part first := by
  induction h with
  | nil => cases hside
  | @cons head tail first last hbefore hanswer hrest ih =>
    obtain ⟨hhead, htail⟩ := List.forall_mem_cons.mp hspared
    unfold onSide at hside
    by_cases hown : head.side = side
    . rw [List.filter_cons_of_pos (by simpa using hown)] at hside
      obtain ⟨rfl, hothers⟩ := List.cons_eq_cons.mp hside
      exact ⟨tail, hrest, htail, hothers, hbefore ▸ hanswer, congrArg part hbefore⟩
    . rw [List.filter_cons_of_neg (by simpa using hown)] at hside
      obtain ⟨later, hlater, hspared', hrest', hexec, hpart⟩ := ih htail hside
      refine ⟨later, hlater, hspared', hrest', hexec, hpart.trans ?_⟩
      rw [hhead hown, hbefore]

/--
Two runs from worlds with the same part, in which alike requests are made to a side: what the side relates in one
step, it relates all the time, whatever is asked of the other side in between.
-/
theorem Exchanges.forall₂ {alike : Arrival → Arrival → Prop} {related : Exchange σ → Exchange σ → Prop}
    {first first' last last' : World σ} {exchanges exchanges' : List (Exchange σ)}
    (hstep : ∀ arrival arrival' before before' answer answer' after after',
      alike arrival arrival' → part before = part before' →
      (service.answer side arrival).exec before = (.ok answer, after) →
      (service'.answer side arrival').exec before' = (.ok answer', after') →
        related ⟨side, arrival, before, answer, after⟩ ⟨side, arrival', before', answer', after'⟩
          ∧
        part after = part after')
    (h : Exchanges service first exchanges last) (h' : Exchanges service' first' exchanges' last')
    (hspared : SparedByOthers side part exchanges) (hspared' : SparedByOthers side part exchanges')
    (halike : List.Forall₂ alike ((onSide side exchanges).map (·.arrival)) ((onSide side exchanges').map (·.arrival)))
    (hfirst : part first = part first') :
    List.Forall₂ related (onSide side exchanges) (onSide side exchanges') := by
  -- the induction is on the exchanges with this side: each one starts where the part has not changed since the last
  rw [List.forall₂_map_left_iff, List.forall₂_map_right_iff] at halike
  generalize hown : onSide side exchanges = own at halike
  generalize hown' : onSide side exchanges' = own' at halike
  induction own generalizing own' exchanges exchanges' first first' with
  | nil =>
    cases halike
    exact .nil
  | cons exchange rest ih =>
    obtain ⟨exchange', rest', hhead, hrest, rfl⟩ := List.forall₂_cons_left_iff.mp halike
    have hside : exchange.side = side := by
      have hmem : exchange ∈ onSide side exchanges := hown ▸ List.mem_cons_self
      simpa [onSide] using (List.mem_filter.mp hmem).2
    have hside' : exchange'.side = side := by
      have hmem : exchange' ∈ onSide side exchanges' := hown' ▸ List.mem_cons_self
      simpa [onSide] using (List.mem_filter.mp hmem).2
    obtain ⟨later, hlater, hkept, hownLater, hanswer, hbefore⟩ := h.exists_later hspared hown
    obtain ⟨later', hlater', hkept', hownLater', hanswer', hbefore'⟩ := h'.exists_later hspared' hown'
    obtain ⟨_, arrival, before, answer, after⟩ := exchange
    obtain ⟨_, arrival', before', answer', after'⟩ := exchange'
    subst hside hside'
    obtain ⟨hrelated, hafter⟩ := hstep arrival arrival' before before' answer answer' after after' hhead
      (hbefore.trans (hfirst.trans hbefore'.symm)) hanswer hanswer'
    exact .cons hrelated (ih hlater hlater' hkept hkept' hafter hownLater rest' hownLater' hrest)

end TwoRuns

structure Service.Handles (service : Service σ) (first : World σ) (requests : List (Side × Arrival))
    (exchanges : List (Exchange σ)) (last : World σ) : Prop where
  incoming : exchanges.map Exchange.incoming = requests
  made : Exchanges service first exchanges last
  answers : (service.answerAll requests).exec first = (.ok (exchanges.map (·.answer)), last)

/-- The endpoints behind a router have nothing to do with the ids of requests. -/
def IgnoresIds (router : Http.Router (Endpoint σ)) : Prop :=
  ∀ request id, router.serve { request with id } = router.serve request

/-- The application cannot tell two requests apart, and both take too long or neither does. -/
structure Service.CannotTell (service : Service σ) (arrival arrival' : Arrival) : Prop where
  request : arrival.request = arrival'.request
  id : arrival.id = arrival'.id ∨ IgnoresIds service.application
  late : arrival.isLate service.server.requestTimeout = arrival'.isLate service.server.requestTimeout

/--
What came of the request is the same in two exchanges with the application, and their answers show it with nothing
else but the id of the request.
-/
def Exchange.Agrees (exchange exchange' : Exchange σ) : Prop :=
  ∃ outcome, exchange.answer = exchange.arrival.answer outcome ∧ exchange'.answer = exchange'.arrival.answer outcome

/--
Two services, each in some world, answer requests that the application cannot tell apart alike, as long as no
request to the admin side of either one changes a part of the world.
-/
def Service.AnswersLike (own : World σ → γ) (service service' : Service σ) (first first' : World σ) : Prop :=
  ∀ requests requests',
    List.Forall₂ service.CannotTell (arrivalsTo .application requests) (arrivalsTo .application requests') →
    ∃ exchanges exchanges' last last',
      service.Handles first requests exchanges last ∧ service'.Handles first' requests' exchanges' last'
        ∧
      (SparedByOthers .application own exchanges → SparedByOthers .application own exchanges' →
        List.Forall₂ Exchange.Agrees (onSide .application exchanges) (onSide .application exchanges'))

def Exchange.ShowsFigures (service : Service σ) (registry : Admin.Registry σ) (exchange : Exchange σ) : Prop :=
  ∃ view ∈ Admin.View.figures, service.admin.Takes exchange.arrival.request (registry.viewEndpoint view)

/--
In every world, the same requests to the admin side have the same answers whatever is asked of the application in
between, unless they are for one of the pages that show the figures of the whole service.
-/
def Service.AdminUnmoved (service : Service σ) (registry : Admin.Registry σ) : Prop :=
  ∀ first requests requests', requestsTo .admin requests = requestsTo .admin requests' →
    ∃ exchanges exchanges' last last',
      service.Handles first requests exchanges last ∧ service.Handles first requests' exchanges' last'
        ∧
      List.Forall₂
        (fun exchange exchange' => ¬ exchange.ShowsFigures service registry → exchange.answer = exchange'.answer)
        (onSide .admin exchanges) (onSide .admin exchanges')

theorem Service.exists_handles (service : Service σ) (first : World σ) (requests : List (Side × Arrival)) :
    ∃ exchanges last, service.Handles first requests exchanges last := by
  obtain ⟨exchanges, last, hincoming, hexchanges, hexec⟩ := service.exists_exchanges_of_requests requests first
  exact ⟨exchanges, last, hincoming, hexchanges, hexec⟩

theorem Service.outcome_alike {own : World σ → γ} {service service' : Service σ}
    (hserver : service'.server = service.server) (happlication : service'.application = service.application)
    (hconfined : ∀ request, Action.Confined own (service.application.serve request)) {arrival arrival' : Arrival}
    (h : service.CannotTell arrival arrival') {before before' : World σ} (hsame : own before = own before') :
    (service.outcome arrival before).1 = (service'.outcome arrival' before').1
      ∧
    own (service.outcome arrival before).2 = own (service'.outcome arrival' before').2 := by
  have hserve : service.application.serve arrival.marked = service.application.serve arrival'.marked := by
    unfold Arrival.marked
    rw [h.request]
    cases h.id with
    | inl hid => rw [hid]
    | inr hignores => exact (hignores _ _).trans (hignores _ _).symm
  unfold outcome
  rw [hserver, happlication, h.late, hserve]
  split
  . exact ⟨rfl, hsame⟩
  . exact hconfined _ before before' hsame

theorem Service.answersLike {own : World σ → γ} (h : Untouched own) {service service' : Service σ}
    (hserver : service'.server = service.server) (happlication : service'.application = service.application)
    (hconfined : ∀ request, Action.Confined own (service.application.serve request)) {first first' : World σ}
    (hfirst : own first = own first') : service.AnswersLike own service' first first' := by
  intro requests requests' hrequests
  obtain ⟨exchanges, last, hhandles⟩ := service.exists_handles first requests
  obtain ⟨exchanges', last', hhandles'⟩ := service'.exists_handles first' requests'
  refine ⟨exchanges, exchanges', last, last', hhandles, hhandles', ?_⟩
  intro hspared hspared'
  rw [← hhandles.incoming, ← hhandles'.incoming, arrivalsTo_incoming, arrivalsTo_incoming] at hrequests
  apply Exchanges.forall₂ _ hhandles.made hhandles'.made hspared hspared' hrequests hfirst
  intro arrival arrival' before before' answer answer' after after' halike hbefore hanswer hanswer'
  obtain ⟨hresult, hrest⟩ := service.outcome_alike hserver happlication hconfined halike hbefore
  obtain ⟨hanswered, hafter⟩ := h.part_answer hanswer
  obtain ⟨hanswered', hafter'⟩ := h.part_answer hanswer'
  rw [← hresult] at hanswered'
  exact ⟨⟨_, hanswered, hanswered'⟩, hafter.trans (hrest.trans hafter'.symm)⟩

/-- The code of the application has to do with nothing but a part of the world that the service does not touch. -/
structure OwnedByApplication (own : World σ → γ) (environment : Environment σ) : Prop where
  untouched : Untouched own
  routes : ∀ entry ∈ environment.routes.paths, ∀ bound ∈ entry.2.entries, ∀ request,
    Action.Confined own (bound.2 request)
  objects : ∀ object ∈ environment.objects.objects,
    (∃ id period, object = Metrics.Reporter.managed id period) ∨ Action.Confined own object.start

/--
The code of the admin side has to do with nothing but the log levels and a part of the world that the service does
not touch, and the code of the application leaves both as they are.
-/
structure OwnedByAdmin (mine : World σ → γ) (environment : Environment σ) : Prop where
  untouched : Untouched mine
  levels : ∀ levels filter wiring world, mine { world with levels, filter, wiring } = mine world
  purge : ∀ world, mine { world with host := world.host.purged } = mine world
  admin : environment.admin.close.Secluded (settings mine)
  routes : ∀ entry ∈ environment.routes.paths, ∀ bound ∈ entry.2.entries, ∀ request,
    Action.Keeps (settings mine) (bound.2 request)

theorem OwnedByApplication.confined_start {own : World σ → γ} {environment : Environment σ}
    (h : OwnedByApplication own environment) : Action.Confined own environment.objects.close.start := by
  unfold Lifecycle.Objects.start
  apply Action.confined_forM
  intro object hobject
  have hstart : Action.Confined own object.start := by
    obtain ⟨id, period, rfl⟩ | hconfined := h.objects object hobject
    . exact (Metrics.Reporter.spares_start h.untouched.tickers id period).confined.bind fun _ => Action.confined_pure _
    . exact hconfined
  unfold Lifecycle.Objects.startOne
  apply hstart.bind
  intro result
  split
  . exact (h.untouched.log trivial).confined
  . exact (h.untouched.log trivial).confined

theorem BoundServer.start_alike (server : BoundServer) {own : World σ → γ} {environment environment' : Environment σ}
    (hown : OwnedByApplication own environment) (hsound : environment'.admin.Sound)
    (hroutes : environment'.routes = environment.routes) (hobjects : environment'.objects = environment.objects)
    (hroutable : Http.Path.isRoutable (Http.Path.normalize server.adminPath) = true)
    (hescaped : AllEscaped (Http.Path.normalize server.adminPath) environment'.admin.pairs)
    {before before' ready : World σ} {service : Service σ} (hsame : own before' = own before)
    (hstart : (server.start environment).exec before = (.ok (.ok service), ready)) :
    ∃ service' ready',
      (server.start environment').exec before' = (.ok (.ok service'), ready')
        ∧
      service'.server = service.server
        ∧
      service'.application = service.application
        ∧
      own ready' = own ready := by
  have huntouched := hown.untouched
  obtain ⟨registry, adminRoutes, application, admin, world₁, world₂, world₃, hadmin, happ, hrouter, hstarted,
    hannounce, rfl⟩ := server.start_eq_ok_iff.mp hstart
  -- the admin side starts by itself
  obtain ⟨adminRoutes', hbinds', hadmin'⟩ := hsound.start_of_new server.adminPath before'
  generalize before'.recordAll _ = world₁' at hadmin'
  obtain ⟨admin', hrouter'⟩ : ∃ admin', adminRoutes'.router? = some admin' := by
    rw [hbinds'.exists_router_iff hroutable, hbinds'.bound, Admin.Registry.map_pair_calls]
    exact hescaped
  have hpart₁ := (environment.admin.spares_start huntouched.toUnlogged trivial trivial _).part_eq hadmin
  have hpart₁' := (environment'.admin.spares_start huntouched.toUnlogged trivial trivial _).part_eq hadmin'
  -- the application and the managed objects start as those of the other service have
  have hpart₂ := huntouched.part_applicationRouter happ
  obtain ⟨world₂', happ', hpart₂'⟩ := huntouched.applicationRouter_exec environment.routes world₁'
  rw [applicationRouter_eq_ok happ, ← hroutes] at happ'
  have hstart₂ : own world₂ = own world₂' := by
    rw [hpart₂, hpart₁, hpart₂', hpart₁', hsame]
  obtain ⟨hresult, hpart₃⟩ := hown.confined_start world₂ world₂' hstart₂
  rw [hstarted] at hresult hpart₃
  obtain ⟨_, ready', hannounce', hpart₄'⟩ :=
    spares_announce huntouched.toUnlogged trivial server.connectors (environment.objects.close.start.exec world₂').2
  have hpart₄ := (spares_announce huntouched.toUnlogged trivial server.connectors).part_eq hannounce
  refine ⟨_, ready', server.start_eq_ok_iff.mpr ⟨_, adminRoutes', application, admin', _, world₂', _, hadmin', happ',
    hrouter', ?_, hannounce', rfl⟩, rfl, rfl, ?_⟩
  . rw [hobjects]
    exact Prod.ext hresult.symm rfl
  . rw [hpart₄', hpart₄, ← hpart₃]

/-- An endpoint of the admin side shows the figures of the whole service, or it has to do with nothing but a part. -/
def FiguresOrConfined (part : World σ → γ) (registry : Admin.Registry σ) (endpoint : Endpoint σ) : Prop :=
  (∃ view ∈ Admin.View.figures,
    endpoint = registry.viewEndpoint view ∧ ∀ request, Action.Keeps part (endpoint request))
    ∨
  ∀ request, Action.Confined part (endpoint request)

section AdminSide

variable {part : World σ → γ} {service : Service σ} {registry : Admin.Registry σ}

theorem Service.admin_serve_cases
    (hadmin : ∀ request endpoint, service.admin.Takes request endpoint → FiguresOrConfined part registry endpoint)
    (request : Http.Request) :
    ((∃ view ∈ Admin.View.figures, service.admin.Takes request (registry.viewEndpoint view))
      ∧
    Action.Keeps part (service.admin.serve request))
      ∨
    Action.Confined part (service.admin.serve request) := by
  by_cases htakes : ∃ endpoint, service.admin.Takes request endpoint
  . obtain ⟨endpoint, htakes⟩ := htakes
    rw [Http.Router.serve_of_takes htakes]
    obtain ⟨view, hview, rfl, hkeeps⟩ | hconfined := hadmin request endpoint htakes
    . exact .inl ⟨⟨view, hview, htakes⟩, (hkeeps _).bind fun _ => Action.keeps_pure _⟩
    . exact .inr ((hconfined _).bind fun _ => Action.confined_pure _)
  . obtain ⟨response, hserve⟩ := Http.Router.serve_of_not_takes (not_exists.mp htakes)
    rw [hserve]
    exact .inr (Action.confined_pure response)

theorem Service.adminUnmoved (huntouched : Untouched part)
    (hadmin : ∀ request endpoint, service.admin.Takes request endpoint → FiguresOrConfined part registry endpoint)
    (hkeeps : ∀ request, Action.Keeps part (service.application.serve request)) : service.AdminUnmoved registry := by
  intro first requests requests' hrequests
  obtain ⟨exchanges, last, hhandles⟩ := service.exists_handles first requests
  obtain ⟨exchanges', last', hhandles'⟩ := service.exists_handles first requests'
  refine ⟨exchanges, exchanges', last, last', hhandles, hhandles', ?_⟩
  unfold requestsTo at hrequests
  rw [← hhandles.incoming, ← hhandles'.incoming, arrivalsTo_incoming, arrivalsTo_incoming] at hrequests
  have hspared (exchange : Exchange σ)
      (hanswer : (service.answer exchange.side exchange.arrival).exec exchange.before
          =
        (.ok exchange.answer, exchange.after))
      (hside : exchange.side ≠ .admin) : part exchange.after = part exchange.before := by
    obtain ⟨side, arrival, before, answer, after⟩ := exchange
    cases side with
    | admin => exact absurd rfl hside
    | application => exact (huntouched.part_answer hanswer).2.trans (service.keeps_outcome hkeeps arrival before)
  have halike : List.Forall₂ (fun arrival arrival' : Arrival => arrival.request = arrival'.request)
      ((onSide .admin exchanges).map (·.arrival)) ((onSide .admin exchanges').map (·.arrival)) :=
    List.forall₂_map_left_iff.mp (List.forall₂_map_right_iff.mp (List.forall₂_eq_eq_eq ▸ hrequests))
  apply Exchanges.forall₂ _ hhandles.made hhandles'.made (hhandles.made.forall_of_answer hspared)
    (hhandles'.made.forall_of_answer hspared) halike rfl
  intro arrival arrival' before before' answer answer' after after' hrequest hbefore hanswer hanswer'
  rw [Service.answer_admin_exec] at hanswer hanswer'
  cases hanswer
  cases hanswer'
  rw [← hrequest]
  obtain ⟨hfigures, hserve⟩ | hserve := service.admin_serve_cases hadmin arrival.request
  . refine ⟨fun hother => absurd hfigures hother, ?_⟩
    rw [hserve before, hserve before', hbefore]
  . obtain ⟨hresult, hrest⟩ := hserve before before' hbefore
    rw [hresult]
    exact ⟨fun _ => rfl, hrest⟩

end AdminSide

namespace OwnedByAdmin

variable {mine : World σ → γ} {environment : Environment σ}

theorem background (h : OwnedByAdmin mine environment) : Action.Background mine :=
  { toUnlogged := h.untouched.toUnlogged, levels := h.levels, tickers := h.untouched.tickers, purge := h.purge }

theorem untouched_settings (h : OwnedByAdmin mine environment) : Untouched (settings mine) :=
  { unwatched_settings h.background with
    request := fun handle hhandle world =>
      congrArg (fun own => (world.levels, world.host.allocator, own)) (h.untouched.request handle hhandle world)
    update := fun handle hhandle update world =>
      congrArg (fun own => (world.levels, world.host.allocator, own)) (h.untouched.update handle hhandle update world) }

end OwnedByAdmin

/--
What is registered with the admin side of an environment makes no difference to its application: another environment
with the same routes starts, too, unless a brace on its admin side is not doubled, and then it answers requests that
the application cannot tell apart alike. Requests to the application make no difference to what the admin side
answers, but for the figures of the whole service. And each side serves what is bound there, and nothing else.
-/
theorem sides_are_isolated (c : Configuration) (hvalid : c.violations = []) {operations : List (Operation σ)}
    {world : World σ} {answers : List ServiceHost.Answer} {site : Site σ}
    (hruns : Runs operations (.new c, world) answers site)
    (server : BoundServer) (hserver : server.adminPath = c.server.adminPath) {before ready : World σ}
    {service : Service σ} (hstart : (server.start site.1).exec before = (.ok (.ok service), ready)) :
    (∀ (own : World σ → γ) (operations' : List (Operation σ)) (world' before' : World σ)
        (answers' : List ServiceHost.Answer) (site' : Site σ),
      OwnedByApplication own site.1 →
      Runs operations' (.new c, world') answers' site' →
      site'.1.routes = site.1.routes → site'.1.objects = site.1.objects →
      AllEscaped (Http.Path.normalize c.server.adminPath) site'.1.admin.pairs →
      own before' = own before →
        ∃ service' ready',
          (server.start site'.1).exec before' = (.ok (.ok service'), ready')
            ∧
          service.AnswersLike own service' ready ready')
      ∧
    (∀ mine : World σ → δ, OwnedByAdmin mine site.1 → service.AdminUnmoved site.1.admin.close)
      ∧
    service.application.ServesOnly c.server.applicationPath site.1.routes.bound
      ∧
    service.admin.ServesOnly c.server.adminPath site.1.admin.pairs := by
  have hroutable := Configuration.isRoutable_adminPath hvalid
  rw [← hserver] at hroutable
  obtain ⟨_, adminRoutes, application, admin, _, _, _, hadmin, happ, hrouter, _, _, rfl⟩ :=
    server.start_eq_ok_iff.mp hstart
  have happlication := applicationRouter_eq_ok happ
  obtain ⟨rfl, hbinds⟩ := Admin.Registry.binds_of_start_ok hadmin
  refine ⟨?_, ?_, ?_, ?_⟩
  . intro own operations' world' before' answers' site' hown hruns' hroutes hobjects hescaped hsame
    rw [← hserver] at hescaped
    obtain ⟨service', ready', hstart', hserver', hshared, hready⟩ :=
      server.start_alike hown (hruns'.sound Admin.Registry.sound_new) hroutes hobjects hroutable hescaped hsame hstart
    refine ⟨service', ready', hstart', Service.answersLike hown.untouched hserver' hshared ?_ hready.symm⟩
    intro request
    apply Http.Router.confined_serve
    intro endpoint htakes
    obtain ⟨entry, hentry, bound, hbound, rfl⟩ := RouteTable.exists_bound_of_takes happlication htakes
    exact hown.routes entry hentry bound hbound
  . intro mine hmine
    apply Service.adminUnmoved hmine.untouched_settings
    . intro request endpoint htakes
      exact hmine.admin.endpoint_cases hmine.background (Admin.serves_of_takes hbinds hrouter htakes)
    . intro request
      apply Http.Router.keeps_serve
      intro endpoint htakes
      obtain ⟨entry, hentry, bound, hbound, rfl⟩ := RouteTable.exists_bound_of_takes happlication htakes
      exact hmine.routes entry hentry bound hbound
  . obtain ⟨calls, hcalls⟩ := hruns.routes
    exact hcalls.servesOnly (Configuration.isRoutable_applicationPath hvalid) happlication
  . have honly := hbinds.servesOnly hroutable hrouter
    rw [hbinds.bound, Admin.Registry.map_pair_calls, hserver] at honly
    exact honly

def greetingRoute : Operation Unit :=
  .route .get "/hello" fun _ => return .text 200 "hello"

def calmCheck : Health.Check Unit where
  name := "calm"
  probe := fun world => (⟨0, .ok .ok⟩, world)

def adminOperations : List (Operation Unit) :=
  [.view (statusPage "/status"), .task pruneTask, .check calmCheck]

theorem untouched_state : Untouched fun world : World Unit => world.state where
  record _ _ _ := rfl
  tickers _ _ := rfl
  request _ _ _ := rfl
  update _ _ _ _ := rfl

theorem exists_start_of_isLiteral {environment : Environment Unit} (hsound : environment.admin.Sound)
    (hliteral : ∀ pair ∈ environment.admin.pairs, Http.Pattern.IsLiteral pair.2.toList)
    (happlication : environment.routes.router?.isSome) (hobjects : environment.objects = .empty)
    (before : World Unit) :
    ∃ service ready, (bareServer.start environment).exec before = (.ok (.ok service), ready) := by
  obtain ⟨application, happlication⟩ := Option.isSome_iff_exists.mp happlication
  obtain ⟨adminRoutes, world, admin, hadmin, hrouter, -⟩ := hsound.exists_router hliteral before
  have hobserved : Lifecycle.Observed (fun _ => []) environment.objects.objects := by
    rw [hobjects]
    intro i object hi
    cases hi
  have hadmin' : (environment.admin.start (.new bareServer.adminPath)).exec before = _ := hadmin
  obtain ⟨_, -, ready, hstart, -⟩ := bareServer.start_exec hadmin' happlication hrouter hobserved
  exact ⟨_, ready, hstart⟩

structure StatusSites (site site' : Site Unit) : Prop where
  runs : Runs (greetingRoute :: adminOperations) (.new .default, .idle ())
    [.route (.ok ()), .admin (.ok ()), .admin (.ok ()), .check (.ok ())] site
  runs' : Runs [greetingRoute] (.new .default, .idle ()) [.route (.ok ())] site'
  routes : site'.1.routes = site.1.routes
  paths : site.1.routes.paths.entries = [("/hello", ⟨[(.get, fun _ => return .text 200 "hello")]⟩)]
  bound : site.1.routes.bound = [(.get, "/hello")]
  objects : site.1.objects = .empty
  objects' : site'.1.objects = .empty
  close : site.1.admin.close
    =
  ⟨Admin.View.builtIn ++ [statusPage "/status"], [.gc, .log, pruneTask], ⟨[calmCheck], true⟩, true⟩
  router : site.1.routes.router?.isSome
  literal : ∀ pair ∈ site.1.admin.pairs, Http.Pattern.IsLiteral pair.2.toList
  literal' : ∀ pair ∈ site'.1.admin.pairs, Http.Pattern.IsLiteral pair.2.toList

namespace StatusSites

theorem exists_sites : ∃ site site', StatusSites site site' :=
  ⟨(_, _), (_, _), rfl, rfl, rfl, rfl, rfl, rfl, rfl, rfl, by decide +kernel, by decide +kernel, by decide +kernel⟩

variable {site site' : Site Unit} (h : StatusSites site site')
include h

theorem exists_start :
    ∃ service ready, (bareServer.start site.1).exec (.idle ()) = (.ok (.ok service), ready) :=
  exists_start_of_isLiteral (h.runs.sound Admin.Registry.sound_new) h.literal h.router h.objects (.idle ())

theorem allEscaped : AllEscaped "/" site'.1.admin.pairs := by
  intro pair hpair
  exact ⟨Http.Pattern.isEscaped_of_isLiteral (by decide), Http.Pattern.isEscaped_of_isLiteral (h.literal' pair hpair)⟩

theorem forall_bound {p : Endpoint Unit → Prop} (hgreeting : p fun _ => return .text 200 "hello") :
    ∀ entry ∈ site.1.routes.paths, ∀ bound ∈ entry.2.entries, p bound.2 := by
  change ∀ entry ∈ site.1.routes.paths.entries, _
  rw [h.paths]
  simp only [List.mem_singleton, forall_eq]
  exact hgreeting

theorem ownedByApplication : OwnedByApplication (fun world : World Unit => world.state) site.1 where
  untouched := untouched_state
  routes := h.forall_bound (p := fun endpoint => ∀ request, Action.Confined _ (endpoint request))
    fun _ => Action.confined_pure _
  objects := by
    rw [h.objects]
    exact fun _ hmem => absurd hmem List.not_mem_nil

theorem secluded : site.1.admin.close.Secluded (settings fun world : World Unit => world.state) := by
  rw [h.close]
  constructor
  case views =>
    rw [List.forall_mem_append, List.forall_mem_singleton]
    exact ⟨fun _ => .inl, .inr fun _ => Action.confined_pure _⟩
  case tasks =>
    simp only [List.forall_mem_cons]
    refine ⟨.inl ?_, .inl ?_, .inr fun _ => Action.confined_pure _, ?_⟩
    . exact List.mem_cons_self
    . exact List.mem_cons_of_mem _ List.mem_cons_self
    . exact fun _ hmem => absurd hmem List.not_mem_nil
  case checks =>
    unfold Health.Secluded
    rw [List.forall_mem_singleton]
    exact Action.confined_pure _

theorem ownedByAdmin : OwnedByAdmin (fun world : World Unit => world.state) site.1 where
  untouched := untouched_state
  levels _ _ _ _ := rfl
  purge _ := rfl
  admin := h.secluded
  routes := h.forall_bound (p := fun endpoint => ∀ request, Action.Keeps _ (endpoint request))
    fun _ => Action.keeps_pure _

end StatusSites

theorem sides_are_isolated_of_statusPage :
    Configuration.default.violations = []
      ∧
    ∃ (site site' : Site Unit) (service service' : Service Unit) (ready ready' : World Unit),
      Runs (greetingRoute :: adminOperations) (.new .default, .idle ())
        [.route (.ok ()), .admin (.ok ()), .admin (.ok ()), .check (.ok ())] site
        ∧
      Runs [greetingRoute] (.new .default, .idle ()) [.route (.ok ())] site'
        ∧
      (bareServer.start site.1).exec (.idle ()) = (.ok (.ok service), ready)
        ∧
      (bareServer.start site'.1).exec (.idle ()) = (.ok (.ok service'), ready')
        ∧
      service.AnswersLike World.state service' ready ready'
        ∧
      service.AdminUnmoved site.1.admin.close
        ∧
      service.application.ServesOnly "/" [(.get, "/hello")]
        ∧
      service.admin.ServesOnly "/" site.1.admin.pairs := by
  have hvalid : Configuration.default.violations = [] := by decide +kernel
  obtain ⟨site, site', hsites⟩ := StatusSites.exists_sites
  obtain ⟨service, ready, hstart⟩ := hsites.exists_start
  obtain ⟨happlications, hunmoved, honly, honly'⟩ :=
    sides_are_isolated .default hvalid hsites.runs bareServer rfl hstart
  obtain ⟨service', ready', hstart', halike⟩ :=
    happlications _ _ _ _ _ _ hsites.ownedByApplication hsites.runs' hsites.routes
      (hsites.objects'.trans hsites.objects.symm) hsites.allEscaped rfl
  rw [hsites.bound] at honly
  exact ⟨hvalid, site, site', service, service', ready, ready', hsites.runs, hsites.runs', hstart, hstart', halike,
    hunmoved _ hsites.ownedByAdmin, honly, honly'⟩

/-- One page with a lone brace on the admin side, and an application that would be served is not. -/
theorem unserved_beside_lone_brace :
    Configuration.default.violations = []
      ∧
    ∃ (site site' : Site Unit) (service : Service Unit) (ready after : World Unit),
      Runs [greetingRoute] (.new .default, .idle ()) [.route (.ok ())] site
        ∧
      Runs [greetingRoute, .view (statusPage "/a\x7d")] (.new .default, .idle ()) [.route (.ok ()), .admin (.ok ())] site'
        ∧
      site'.1.routes = site.1.routes ∧ site'.1.objects = site.1.objects
        ∧
      (bareServer.start site.1).exec (.idle ()) = (.ok (.ok service), ready)
        ∧
      (bareServer.start site'.1).exec (.idle ()) = (.error .panicked, after) := by
  have hvalid : Configuration.default.violations = [] := by decide +kernel
  have hconcrete : ∃ environment environment' world world',
      Runs [greetingRoute] (.new .default, .idle ()) [.route (.ok ())] (environment, world)
        ∧
      Runs [greetingRoute, .view (statusPage "/a\x7d")] (.new .default, .idle ()) [.route (.ok ()), .admin (.ok ())]
        (environment', world')
        ∧
      environment'.routes = environment.routes ∧ environment'.objects = environment.objects
        ∧
      environment.objects = .empty
        ∧
      environment.routes.router?.isSome
        ∧
      (∀ pair ∈ environment.admin.pairs, Http.Pattern.IsLiteral pair.2.toList)
        ∧
      (.get, "/a\x7d") ∈ environment'.admin.pairs :=
    ⟨_, _, _, _, rfl, rfl, rfl, rfl, rfl, by decide +kernel, by decide +kernel, by decide +kernel⟩
  obtain ⟨environment, environment', world, world', hruns, hruns', hroutes, hobjects, hempty, happlication, hliteral,
    hpage⟩ := hconcrete
  obtain ⟨service, ready, hstart⟩ :=
    exists_start_of_isLiteral (hruns.sound Admin.Registry.sound_new) hliteral happlication hempty (.idle ())
  obtain ⟨adminRoutes, hbinds, hadmin⟩ := (hruns'.sound Admin.Registry.sound_new).start_of_new "/" (.idle ())
  have hnone : adminRoutes.router? = none := by
    rw [Option.eq_none_iff_forall_ne_some]
    intro router hrouter
    have hescaped := (hbinds.exists_router_iff (by decide)).mp ⟨router, hrouter⟩
    rw [hbinds.bound, Admin.Registry.map_pair_calls] at hescaped
    obtain ⟨-, hpath⟩ := hescaped _ hpage
    rw [← Http.Pattern.isSome_ofText?_iff (by decide)] at hpath
    exact absurd hpath (by decide)
  have hadmin' : (environment'.admin.start (.new bareServer.adminPath)).exec (.idle ()) = _ := hadmin
  obtain ⟨after, hpanic, -⟩ := bareServer.start_exec_of_none hadmin' (.inr hnone)
  exact ⟨hvalid, _, _, service, ready, after, hruns, hruns', hroutes, hobjects, hstart, hpanic⟩

end Serving
end ServiceHost
