import Mathlib.Data.List.DropRight
import ServiceHost.Proofs.Demo.Routes
import ServiceHost.Proofs.Serving.Isolation
import ServiceHost.Proofs.Text.Replacing

/-!
This module contains what the demo answers, whatever is asked of it: greetings, which have the name in the first
open place of the template, and how many of them there were since the number was last set back.
-/

namespace ServiceHost.Demo

open Http (Router RouteTable)
open Serving (Side Arrival Exchange)

theorem replacesFirst_fill (template name : String) :
    Text.ReplacesFirst ['\x7b', '\x7d'] name.toList template.toList (fill template name).toList := by
  unfold fill
  rw [String.toList_ofList]
  exact Text.replacesFirst_replaceFirst _ _ _

def IsTo (side : Side) (context path : String) (methods : List Http.Method) (exchange : Exchange State) : Prop :=
  exchange.side = side
    ∧
  exchange.arrival.request.IsAt context path
    ∧
  exchange.arrival.request.method ∈ methods

instance (side : Side) (context path : String) (methods : List Http.Method) (exchange : Exchange State) :
    Decidable (IsTo side context path methods exchange) :=
  inferInstanceAs (Decidable (exchange.side = side ∧ exchange.arrival.request.IsAt context path ∧ _ ∈ methods))

abbrev ToHello (c : Configuration) : Exchange State → Prop :=
  IsTo .application c.server.applicationPath "/hello" [.get, .head]

abbrev ToGreeting (c : Configuration) : Exchange State → Prop :=
  IsTo .application c.server.applicationPath "/greeting" [.get]

abbrev ToHits (c : Configuration) : Exchange State → Prop :=
  IsTo .admin c.server.adminPath "/tasks/hits" [.post]

abbrev IsLate (c : Configuration) (exchange : Exchange State) : Prop :=
  exchange.side = .application ∧ exchange.arrival.isLate c.server.requestTimeout = true

def status? : Serving.Answer → Option Http.Status
  | .response response => some response.status
  | .closed | .pending => none

abbrev Greets (c : Configuration) (exchange : Exchange State) : Prop :=
  (ToHello c exchange ∨ ToGreeting c exchange) ∧ status? exchange.answer = some 200

abbrev Resets (c : Configuration) (exchange : Exchange State) : Prop :=
  ToHits c exchange ∧ wantsReset exchange.arrival.request = true

def hitsOf (c : Configuration) (exchanges : List (Exchange State)) : Nat :=
  (exchanges.rtakeWhile fun exchange => ¬ Resets c exchange).countP fun exchange => Greets c exchange

def Counted (c : Configuration) (seen : List (Exchange State)) (world : World State) : Prop :=
  world.state.hits = .ofNat (hitsOf c seen)

structure Follows (c : Configuration) (template : String) (seen : List (Exchange State))
    (exchange : Exchange State) : Prop where
  hello : ToHello c exchange → ¬ IsLate c exchange → ∃ text : String,
    Text.ReplacesFirst ['\x7b', '\x7d'] (nameOf exchange.arrival.request).toList template.toList text.toList
      ∧
    exchange.answer
      =
    exchange.arrival.answer (.ok (Http.delivered exchange.arrival.request.method (.text 200 (text ++ "\n"))))
  greeting : ToGreeting c exchange → ¬ IsLate c exchange → ∃ text : String,
    Text.ReplacesFirst ['\x7b', '\x7d'] "world".toList template.toList text.toList
      ∧
    exchange.answer
      =
    exchange.arrival.answer (.ok (.json 200 (Json.object [("message", .string text)]).compact))
  late : IsLate c exchange →
    exchange.answer = .response (Serving.identified exchange.arrival.id (.empty 408))
  hits : ToHits c exchange →
    exchange.answer
      =
    .response (Admin.uncached (.text 200 ("hits: " ++ toString (hitsOf c (seen ++ [exchange]) % 2 ^ 64) ++ "\n")))
  others : ¬ Greets c exchange → ¬ Resets c exchange → exchange.after.state.hits = exchange.before.state.hits

theorem hitsOf_concat (c : Configuration) (seen : List (Exchange State)) (exchange : Exchange State) :
    hitsOf c (seen ++ [exchange])
      =
    if Resets c exchange then 0 else hitsOf c seen + if Greets c exchange then 1 else 0 := by
  unfold hitsOf
  rw [List.rtakeWhile_concat]
  by_cases hresets : Resets c exchange
  . simp [hresets]
  . simp [hresets, List.countP_append]

theorem not_resets_of_application {c : Configuration} {exchange : Exchange State} (h : exchange.side = .application) :
    ¬ Resets c exchange := by
  rintro ⟨⟨hadmin, -⟩, -⟩
  exact absurd (h.symm.trans hadmin) Side.noConfusion

theorem not_greets_of_admin {c : Configuration} {exchange : Exchange State} (h : exchange.side = .admin) :
    ¬ Greets c exchange := by
  rintro ⟨⟨happlication, -⟩ | ⟨happlication, -⟩, -⟩
  . exact absurd (h.symm.trans happlication) Side.noConfusion
  . exact absurd (h.symm.trans happlication) Side.noConfusion

theorem status?_identified (id : String) (response : Http.Response) :
    status? (.response (Serving.identified id response)) = some response.status := by
  unfold status? Serving.identified
  dsimp only
  split <;> rfl

theorem not_greets_of_late {c : Configuration} {exchange : Exchange State} {id : String}
    (h : exchange.answer = .response (Serving.identified id (.empty 408))) : ¬ Greets c exchange := by
  rintro ⟨-, hstatus⟩
  rw [h, status?_identified] at hstatus
  exact absurd hstatus (by decide)

theorem greets_of_answer {c : Configuration} {exchange : Exchange State} {response : Http.Response}
    (hto : ToHello c exchange ∨ ToGreeting c exchange) (h : exchange.answer = exchange.arrival.answer (.ok response))
    (hstatus : response.status = 200) : Greets c exchange := by
  refine ⟨hto, ?_⟩
  rw [h, ← hstatus]
  exact status?_identified _ response

theorem status_delivered (method : Http.Method) (response : Http.Response) :
    (Http.delivered method response).status = response.status := by
  unfold Http.delivered
  split <;> rfl

theorem untouched_state : Serving.Untouched fun world : World State => world.state where
  record _ _ _ := rfl
  tickers _ _ := rfl
  request _ _ _ := rfl
  update _ _ _ _ := rfl

section Serves

variable {c : Configuration} {template : String} {service : Serving.Service State} (h : Serves c template service)
  {exchange : Exchange State}
  (hanswer : (service.answer exchange.side exchange.arrival).exec exchange.before
      =
    (.ok exchange.answer, exchange.after))
include h hanswer

theorem Serves.late_answered (hlate : IsLate c exchange) :
    exchange.answer = .response (Serving.identified exchange.arrival.id (.empty 408))
      ∧
    exchange.after.state.hits = exchange.before.state.hits := by
  obtain ⟨hside, hlate⟩ := hlate
  rw [hside] at hanswer
  obtain ⟨hanswered, hafter⟩ := untouched_state.part_answer hanswer
  rw [service.outcome_of_isLate (h.timeout ▸ hlate)] at hanswered hafter
  exact ⟨hanswered, congrArg State.hits hafter⟩

theorem Serves.part_answer (hside : exchange.side = .application) (hintime : ¬ IsLate c exchange) :
    exchange.answer
      =
    exchange.arrival.answer ((service.application.serve exchange.arrival.marked).exec exchange.before).1
      ∧
    exchange.after.state = ((service.application.serve exchange.arrival.marked).exec exchange.before).2.state := by
  rw [hside] at hanswer
  have hanswered := untouched_state.part_answer hanswer
  rw [service.outcome_of_not_isLate fun hlate => hintime ⟨hside, h.timeout ▸ hlate⟩] at hanswered
  exact hanswered

theorem Serves.hello_answered (hto : ToHello c exchange) (hintime : ¬ IsLate c exchange) :
    exchange.answer
      =
    exchange.arrival.answer (.ok (Http.delivered exchange.arrival.request.method
      (.text 200 (fill template (nameOf exchange.arrival.request) ++ "\n"))))
      ∧
    exchange.after.state.hits = exchange.before.state.hits + 1 := by
  obtain ⟨hside, hat, hmethod⟩ := hto
  obtain ⟨hanswered, hafter⟩ := h.part_answer hanswer hside hintime
  have hname : nameOf (service.application.seen exchange.arrival.marked) = nameOf exchange.arrival.request := by
    unfold nameOf
    rw [Router.query_seen]
    rfl
  have htakes : service.application.Takes exchange.arrival.marked (hello template) := h.takes_hello hat hmethod
  rw [Router.serve_of_takes htakes, Action.exec_bind_pure, hello_exec, hname] at hanswered hafter
  exact ⟨hanswered, congrArg State.hits hafter⟩

theorem Serves.greeting_answered (hto : ToGreeting c exchange) (hintime : ¬ IsLate c exchange) :
    exchange.answer
      =
    exchange.arrival.answer (.ok (.json 200 (Json.object [("message", .string (fill template "world"))]).compact))
      ∧
    exchange.after.state.hits = exchange.before.state.hits + 1 := by
  obtain ⟨hside, hat, hmethod⟩ := hto
  have hget : exchange.arrival.marked.method = .get := List.mem_singleton.mp hmethod
  obtain ⟨hanswered, hafter⟩ := h.part_answer hanswer hside hintime
  have htakes : service.application.Takes exchange.arrival.marked ((greeting template).endpoint .get) :=
    h.takes_greeting hat .get hget
  rw [Router.serve_of_takes htakes, Action.exec_bind_pure, greeting_exec, hget] at hanswered hafter
  exact ⟨hanswered, congrArg State.hits hafter⟩

theorem Serves.hits_answered (hto : ToHits c exchange) :
    exchange.after.state.hits
      =
    (if wantsReset exchange.arrival.request then 0 else exchange.before.state.hits)
      ∧
    exchange.answer
      =
    .response (Admin.uncached (.text 200 ("hits: " ++ toString exchange.after.state.hits ++ "\n"))) := by
  obtain ⟨hside, hat, hmethod⟩ := hto
  have hpost : exchange.arrival.request.method = .post := List.mem_singleton.mp hmethod
  have hexec := hitsTask_exec exchange.arrival.request exchange.before
  rw [hside, Serving.Service.answer_admin_exec] at hanswer
  rw [Admin.task_exec (h.takes_hits hat hpost) hexec (.done _), hpost] at hanswer
  obtain ⟨hanswered, hafter⟩ := Prod.mk.inj hanswer
  rw [← hafter]
  exact ⟨rfl, (Except.ok.inj hanswered).symm⟩

theorem Serves.other_answered (hhello : ¬ ToHello c exchange) (hgreeting : ¬ ToGreeting c exchange)
    (hhits : ¬ ToHits c exchange) : exchange.after.state.hits = exchange.before.state.hits := by
  cases hside : exchange.side with
  | application =>
    by_cases hlate : IsLate c exchange
    . exact (h.late_answered hanswer hlate).2
    . obtain ⟨-, hafter⟩ := h.part_answer hanswer hside hlate
      have hkeeps : Action.Keeps _ (service.application.serve exchange.arrival.marked) :=
        h.keeps_application (fun hto => hhello ⟨hside, hto⟩)
          fun hto => hgreeting ⟨hside, hto.1, List.mem_singleton.mpr hto.2⟩
      exact congrArg State.hits (hafter.trans (hkeeps exchange.before))
  | admin =>
    rw [hside, Serving.Service.answer_admin_exec] at hanswer
    have hkeeps := h.keeps_admin fun hto => hhits ⟨hside, hto.1, List.mem_singleton.mpr hto.2⟩
    rw [← (Prod.mk.inj hanswer).2]
    exact congrArg State.hits (hkeeps exchange.before)

theorem Serves.hits_after :
    exchange.after.state.hits
      =
    if Resets c exchange then 0 else exchange.before.state.hits + if Greets c exchange then 1 else 0 := by
  by_cases hlate : IsLate c exchange
  . obtain ⟨hanswered, hafter⟩ := h.late_answered hanswer hlate
    rw [if_neg (not_resets_of_application hlate.1), if_neg (not_greets_of_late hanswered), UInt64.add_zero, hafter]
  by_cases hhello : ToHello c exchange
  . obtain ⟨hanswered, hafter⟩ := h.hello_answered hanswer hhello hlate
    have hgreets : Greets c exchange := greets_of_answer (.inl hhello) hanswered (status_delivered _ _)
    rw [if_neg (not_resets_of_application hhello.1), if_pos hgreets, hafter]
  by_cases hgreeting : ToGreeting c exchange
  . obtain ⟨hanswered, hafter⟩ := h.greeting_answered hanswer hgreeting hlate
    have hgreets : Greets c exchange := greets_of_answer (.inr hgreeting) hanswered rfl
    rw [if_neg (not_resets_of_application hgreeting.1), if_pos hgreets, hafter]
  have hgreets : ¬ Greets c exchange := by
    rintro ⟨hto | hto, -⟩
    . exact hhello hto
    . exact hgreeting hto
  rw [if_neg hgreets, UInt64.add_zero]
  by_cases hhits : ToHits c exchange
  . rw [(h.hits_answered hanswer hhits).1]
    simp only [Resets, hhits, true_and]
  . rw [if_neg fun hresets => hhits hresets.1]
    exact h.other_answered hanswer hhello hgreeting hhits

theorem Serves.follows {seen : List (Exchange State)} (hseen : Counted c seen exchange.before) :
    Counted c (seen ++ [exchange]) exchange.after ∧ Follows c template seen exchange := by
  have hafter : Counted c (seen ++ [exchange]) exchange.after := by
    unfold Counted at hseen ⊢
    rw [h.hits_after hanswer, hitsOf_concat, hseen]
    split
    . rfl
    . split
      . rw [UInt64.ofNat_add]
        rfl
      . rw [UInt64.add_zero, Nat.add_zero]
  refine ⟨hafter, ?_, ?_, ?_, ?_, ?_⟩
  . intro hto hintime
    exact ⟨_, replacesFirst_fill template _, (h.hello_answered hanswer hto hintime).1⟩
  . intro hto hintime
    exact ⟨_, replacesFirst_fill template _, (h.greeting_answered hanswer hto hintime).1⟩
  . intro hlate
    exact (h.late_answered hanswer hlate).1
  . intro hto
    rw [(h.hits_answered hanswer hto).2, hafter]
    rfl
  . intro hgreets hresets
    rw [h.hits_after hanswer, if_neg hresets, if_neg hgreets, UInt64.add_zero]

end Serves

theorem serves_of_start {c : Configuration} (hvalid : c.violations = []) {template : String}
    {environment : Environment State} (hregistered : Registered c template environment) {server : Serving.BoundServer}
    (hserver : server.adminPath = c.server.adminPath ∧ server.requestTimeout = c.server.requestTimeout)
    {before ready : World State} {service : Serving.Service State}
    (hstart : (server.start environment).exec before = (.ok (.ok service), ready)) :
    Serves c template service ∧ ready.state.hits = before.state.hits := by
  obtain ⟨closed, adminRoutes, application, admin, world₁, world₂, world₃, hadmin, happ, hrouter, hobjects, hannounce,
    rfl⟩ := server.start_eq_ok_iff.mp hstart
  have hclosed : environment.admin.close = registry := by
    rw [hregistered.admin]
    rfl
  obtain ⟨-, hbinds⟩ := Admin.Registry.binds_of_start_ok hadmin
  rw [hclosed, hserver.1] at hbinds
  refine ⟨⟨hvalid, hserver.2, ⟨_, hregistered.routes, Serving.applicationRouter_eq_ok happ⟩, _, hbinds, hrouter⟩, ?_⟩
  have hhits : Action.Background fun world : World State => world.state.hits := background_state State.hits
  have hsame₁ := (environment.admin.spares_start hhits.toUnlogged trivial trivial _).part_eq hadmin
  have hsame₂ := untouched_state.part_applicationRouter happ
  have hkeeps : Action.Keeps (fun world : World State => world.state.hits) environment.objects.close.start := by
    apply Serving.keeps_start hhits
    intro object hobject
    cases hregistered.objects object hobject with
    | inl hreporter => exact .inl hreporter
    | inr huptime =>
      rw [huptime]
      exact .inr fun _ => rfl
  have hsame₃ := hkeeps world₂
  rw [hobjects] at hsame₃
  have hsame₄ := (Serving.spares_announce hhits.toUnlogged trivial server.connectors).part_eq hannounce
  exact hsame₄.trans (hsame₃.trans ((congrArg State.hits hsame₂).trans hsame₁))

/--
Whatever is asked of the demo once it serves: the task about the greetings reports how many there were since the last
request that has set the number back, or since the start, and nothing else changes that number. The greetings
themselves are the template with the name in its first open place.
-/
theorem hits_since_reset {launch : Launch State} (hlaunch : IsLaunch launch) {c : Configuration}
    (hvalid : c.violations = []) {world prepared ready : World State} (hfresh : world.state.hits = 0)
    {server : Serving.BoundServer} {environment : Environment State} {service : Serving.Service State}
    (hprepare : (Command.prepare launch c).exec world = (.ok (.ok (server, environment)), prepared))
    (hstart : (server.start environment).exec prepared = (.ok (.ok service), ready))
    (requests : List (Side × Arrival)) :
    ∃ chosen exchanges last,
      template? c = .ok chosen
        ∧
      service.Handles ready requests exchanges last
        ∧
      ∀ seen exchange rest, exchanges = seen ++ exchange :: rest →
        Follows c (chosen.getD defaultTemplate) seen exchange := by
  obtain ⟨chosen, htemplate, hregistered, hpath, htimeout, hprepared⟩ := registered_of_prepare hlaunch hprepare
  obtain ⟨hserves, hready⟩ := serves_of_start hvalid hregistered ⟨hpath, htimeout⟩ hstart
  obtain ⟨exchanges, last, hhandles⟩ := service.exists_handles ready requests
  refine ⟨chosen, exchanges, last, htemplate, hhandles, ?_⟩
  intro seen exchange rest hsplit
  have hfirst : Counted c [] ready := by
    show ready.state.hits = 0
    rw [hready, hprepared, hfresh]
  obtain ⟨hanswer, hseen, -⟩ :=
    hhandles.made.invariant (fun seen exchange hanswer (hseen : Counted c seen exchange.before) =>
      (hserves.follows hanswer hseen).1) hfirst hsplit
  exact (hserves.follows hanswer hseen).2

def serverLaunch : Launch State where
  application := "gantry-demo"
  run := setUp
  arguments := ["server"]
  bundles := [setUpUptime]
  source := .files
  session := session [] .terminate

theorem isLaunch_serverLaunch : IsLaunch serverLaunch := by
  have hbootstrap : (application.bootstrap ["server"] (session [] .terminate)).exec (.idle .new)
      = (.ok ⟨serverLaunch, Application.commands⟩, .idle .new) := rfl
  exact isLaunch_of_bootstrap hbootstrap

def begin (launch : Launch State) (c : Configuration) : Action State (Except RunError (Serving.Service State)) := do
  match ← Command.prepare launch c with
  | .error e => return .error e
  | .ok (server, environment) =>
    match ← server.start environment with
    | .error e => return .error (.server e)
    | .ok service => return .ok service

theorem exists_start_of_begin {launch : Launch State} {c : Configuration} {world ready : World State}
    {service : Serving.Service State} (h : (begin launch c).exec world = (.ok (.ok service), ready)) :
    ∃ server environment prepared,
      (Command.prepare launch c).exec world = (.ok (.ok (server, environment)), prepared)
        ∧
      (server.start environment).exec prepared = (.ok (.ok service), ready) := by
  unfold begin at h
  obtain ⟨result, prepared, hprepare, h⟩ := Action.exec_bind_eq_ok h
  cases result with
  | error e => cases h
  | ok result =>
    obtain ⟨server, environment⟩ := result
    obtain ⟨started, _, hstart, h⟩ := Action.exec_bind_eq_ok h
    cases started with
    | error e => cases h
    | ok service =>
      cases h
      exact ⟨server, environment, prepared, hprepare, hstart⟩

theorem exists_begin :
    ∃ service ready, (begin serverLaunch .default).exec (.idle .new) = (.ok (.ok service), ready) := by
  have hbegin : (((begin serverLaunch .default).exec (.idle .new)).1.toOption.bind Except.toOption).isSome = true := by
    decide +kernel
  generalize (begin serverLaunch .default).exec (.idle .new) = outcome at hbegin
  obtain ⟨result, ready⟩ := outcome
  cases result with
  | error fault => cases hbegin
  | ok result =>
    cases result with
    | error e => cases hbegin
    | ok service => exact ⟨service, ready, rfl⟩

def hitsArrival : Side × Arrival :=
  (.admin, ⟨⟨.post, ⟨"", "/tasks/hits", none⟩, "", none⟩, "3", 0⟩)

theorem hits_since_reset_of_serverLaunch :
    IsLaunch serverLaunch
      ∧
    Configuration.default.violations = []
      ∧
    (World.idle State.new).state.hits = 0
      ∧
    ∃ server environment prepared service ready answer last,
      (Command.prepare serverLaunch .default).exec (.idle .new) = (.ok (.ok (server, environment)), prepared)
        ∧
      (server.start environment).exec prepared = (.ok (.ok service), ready)
        ∧
      (service.answerAll [(.application, Serving.arrivalAt "/hello" 0), hitsArrival]).exec ready
        =
      (.ok [answer, .response (Admin.uncached (.text 200 "hits: 1\n"))], last) := by
  have hvalid : Configuration.default.violations = [] := by decide +kernel
  obtain ⟨service, ready, hbegin⟩ := exists_begin
  obtain ⟨server, environment, prepared, hprepare, hstart⟩ := exists_start_of_begin hbegin
  obtain ⟨chosen, exchanges, last, -, hhandles, hfollows⟩ :=
    hits_since_reset isLaunch_serverLaunch hvalid rfl hprepare hstart
      [(.application, Serving.arrivalAt "/hello" 0), hitsArrival]
  obtain ⟨first, _, rfl, hfirst, hrest⟩ := List.map_eq_cons_iff.mp hhandles.incoming
  obtain ⟨second, _, rfl, hsecond, hnil⟩ := List.map_eq_cons_iff.mp hrest
  obtain rfl := List.map_eq_nil_iff.mp hnil
  obtain ⟨hside, harrival⟩ := Prod.mk.inj hfirst
  obtain ⟨hside', harrival'⟩ := Prod.mk.inj hsecond
  have hhello : ToHello .default first := by
    refine ⟨hside, ?_⟩
    rw [harrival]
    decide
  have hhits : ToHits .default second := by
    refine ⟨hside', ?_⟩
    rw [harrival']
    decide
  have hintime : ¬ IsLate .default first := by
    rintro ⟨-, hlate⟩
    rw [harrival] at hlate
    exact absurd hlate (by decide)
  have hgreets : Greets .default first := by
    obtain ⟨text, -, hanswer⟩ := (hfollows [] first [second] rfl).hello hhello hintime
    exact greets_of_answer (.inl hhello) hanswer (status_delivered _ _)
  have hresets : ¬ Resets .default second := by
    rintro ⟨-, hreset⟩
    rw [harrival'] at hreset
    revert hreset
    decide
  have hcount : hitsOf .default ([first] ++ [second]) = 1 := by
    rw [hitsOf_concat, if_neg hresets, if_neg (not_greets_of_admin hside'), ← List.nil_append [first], hitsOf_concat,
      if_neg (not_resets_of_application hside), if_pos hgreets]
    rfl
  have hanswer := (hfollows [first] second [] rfl).hits hhits
  rw [hcount] at hanswer
  refine ⟨isLaunch_serverLaunch, hvalid, rfl, server, environment, prepared, service, ready, first.answer, last,
    hprepare, hstart, ?_⟩
  rw [hhandles.answers, List.map_cons, List.map_singleton, hanswer]
  rfl

end ServiceHost.Demo
