import ServiceHost.Proofs.Admin.Answers

/-!
This module contains which answers of the admin side are kept out of caches. Whatever a page or a task answers
is, and whatever headers it sets itself. What the router answers alone, for lack of an endpoint, is not.
-/

namespace ServiceHost

variable {σ : Type}

open Http (Endpoint Request Response Router)

namespace Http

theorem Response.headerValues_setHeader (name value : String) (response : Response) :
    (response.setHeader name value).headerValues name = [value] := by
  unfold headerValues setHeader
  rw [List.filter_append, List.filter_filter]
  simp

theorem headerValues_delivered (name : String) (method : Method) (response : Response) :
    (delivered method response).headerValues name = response.headerValues name := by
  unfold delivered
  split
  . rfl
  . rfl

inductive Router.Refused {ε : Type} (router : Router ε) (request : Request) : Response → Prop where
  | notFound : router.dispatch request.method request.uri.path = .notFound → Refused router request (.empty 404)
  | methodNotAllowed {allowed : List Method} :
    router.dispatch request.method request.uri.path = .methodNotAllowed allowed →
      Refused router request (refusal allowed)

theorem Router.Refused.headers {ε : Type} {router : Router ε} {request : Request} {response : Response}
    (h : router.Refused request response) : response.headerValues "cache-control" = [] := by
  cases h <;> rfl

theorem Router.takes_or_refuses (router : Router (Endpoint σ)) (request : Request) :
    (∃ endpoint, router.Takes request endpoint)
      ∨
    ∃ response, router.Refused request response ∧ router.serve request = pure response := by
  unfold Router.Takes Router.serve
  split
  . next h => exact .inr ⟨_, .notFound h, rfl⟩
  . next allowed h => exact .inr ⟨_, .methodNotAllowed h, rfl⟩
  . next endpoint h => exact .inl ⟨endpoint, h⟩

end Http

namespace Admin

/-- The one header that is about caches keeps a response out of them. -/
def Uncached (response : Response) : Prop :=
  response.headerValues "cache-control" = ["must-revalidate,no-cache,no-store"]

theorem uncached_spec (response : Response) : Uncached (uncached response) := by
  exact Response.headerValues_setHeader "cache-control" cacheControl response

variable {registry : Registry σ} {context : String} {endpoint : Endpoint σ}

theorem Registry.Serves.returns_uncached (h : registry.Serves context endpoint) (request : Request) :
    Action.Returns Uncached (endpoint request) := by
  cases h with
  | index => exact Action.returns_pure (uncached_spec _)
  | page _ =>
    refine .bind (Action.returns_any _) fun response _ => ?_
    exact Action.returns_pure (uncached_spec response)
  | task _ =>
    refine .bind (Action.returns_any _) fun response _ => ?_
    exact Action.returns_pure (uncached_spec response)

theorem Registry.Serves.serve_returns_uncached (h : registry.Serves context endpoint)
    {router : Router (Endpoint σ)} {request : Request} (htakes : router.Takes request endpoint) :
    Action.Returns Uncached (router.serve request) := by
  rw [Router.serve_of_takes htakes]
  refine .bind (h.returns_uncached _) fun response hresponse => ?_
  apply Action.returns_pure
  unfold Uncached
  rw [Http.headerValues_delivered]
  exact hresponse

end Admin

/--
Whatever was registered with an environment, and wherever its admin side has started: a request that gets to an
endpoint is answered with exactly one header about caches, which keeps the answer out of them. The other
requests are answered by the router alone, without such a header.
-/
theorem uncached_unless_refused (c : Configuration) (operations : List (Operation σ)) (world : World σ)
    (context : String) (first : World σ) :
    ∃ answers site adminRoutes after,
      Runs operations (.new c, world) answers site
        ∧
      (site.1.admin.start (.new context)).exec first
        =
      (.ok (.ok (), site.1.admin.close, adminRoutes), after)
        ∧
      ∀ router, adminRoutes.router? = some router → ∀ request before response last,
        (router.serve request).exec before = (.ok response, last) →
          (∃ endpoint,
            site.1.admin.close.Serves adminRoutes.context endpoint ∧ router.Takes request endpoint
              ∧
            Admin.Uncached response)
            ∨
          (router.Refused request response ∧ response.headerValues "cache-control" = []) := by
  obtain ⟨answers, site, hruns⟩ := Runs.exists_runs operations (.new c, world)
  obtain ⟨adminRoutes, hbinds, hstart⟩ := (hruns.sound Admin.Registry.sound_new).start_of_new context first
  refine ⟨answers, site, adminRoutes, _, hruns, hstart, ?_⟩
  intro router hrouter request before response last hserve
  obtain ⟨endpoint, htakes⟩ | ⟨refusal, hrefused, hpure⟩ := router.takes_or_refuses request
  . have hserves := Admin.serves_of_takes hbinds hrouter htakes
    have huncached := hserves.serve_returns_uncached htakes before response last hserve
    refine .inl ⟨endpoint, ?_, htakes, huncached⟩
    rw [hbinds.context]
    exact hserves
  . rw [hpure] at hserve
    cases hserve
    exact .inr ⟨hrefused, hrefused.headers⟩

def cachedPage : Admin.View Unit :=
  ⟨"Status", "/status", fun _ _ =>
    return ⟨200, [("cache-control", "public"), ("cache-control", "max-age=60")], "fine"⟩⟩

theorem uncached_unless_refused_of_cachedPage :
    ∃ environment world adminRoutes after router response,
      Runs [.view cachedPage] (.new .default, .idle ()) [.admin (.ok ())] (environment, world)
        ∧
      (environment.admin.start (.new "/")).exec (.idle ())
        =
      (.ok (.ok (), environment.admin.close, adminRoutes), after)
        ∧
      adminRoutes.router? = some router
        ∧
      (router.serve ⟨.get, ⟨"", "/status", none⟩, "", none⟩).exec (.idle ()) = (.ok response, .idle ())
        ∧
      Admin.Uncached response := by
  have hruns : ∃ environment world,
      Runs [.view cachedPage] (.new .default, .idle ()) [.admin (.ok ())] (environment, world)
        ∧
      cachedPage ∈ environment.admin.views
        ∧
      ∀ pair ∈ environment.admin.pairs, Http.Pattern.IsLiteral pair.2.toList :=
    ⟨_, _, rfl, List.mem_append_right _ List.mem_cons_self, by decide +kernel⟩
  obtain ⟨environment, world, hruns, hpage, hliteral⟩ := hruns
  obtain ⟨adminRoutes, after, router, hstart, hrouter, htakes⟩ :=
    (hruns.sound Admin.Registry.sound_new).exists_router hliteral (.idle ())
  obtain ⟨answers, site, adminRoutes', after', hruns', hstart', hanswers⟩ :=
    uncached_unless_refused .default [.view cachedPage] (.idle ()) "/" (.idle ())
  obtain ⟨rfl, rfl⟩ := hruns.unique hruns'
  rw [hstart] at hstart'
  cases hstart'
  have hstatus := htakes _ (environment.admin.close.view_mem_calls "/" hpage)
    ⟨.get, ⟨"", "/status", none⟩, "", none⟩ rfl rfl
  have hserve : (router.serve ⟨.get, ⟨"", "/status", none⟩, "", none⟩).exec (.idle ()) = (.ok _, .idle ()) :=
    Admin.page_exec hstatus rfl
  refine ⟨environment, world, adminRoutes, after, router, _, hruns, hstart, hrouter, hserve, ?_⟩
  obtain ⟨endpoint, -, -, huncached⟩ | ⟨hrefused, -⟩ := hanswers router hrouter _ _ _ _ hserve
  . exact huncached
  . cases hrefused

/-- A path that is not there, and a method that a page does not have, are answered without a word about caches. -/
theorem refused_without_cacheControl :
    ∃ adminRoutes after router,
      ((Environment.new .default : Environment Unit).admin.start (.new "/")).exec (.idle ())
        =
      (.ok (.ok (), Admin.Registry.new.close, adminRoutes), after)
        ∧
      adminRoutes.router? = some router
        ∧
      router.serve ⟨.get, ⟨"", "/missing", none⟩, "", none⟩ = pure ⟨404, [], ""⟩
        ∧
      router.serve ⟨.post, ⟨"", "/ping", none⟩, "", none⟩ = pure ⟨405, [("allow", "GET,HEAD")], ""⟩ := by
  have hconcrete : ∃ adminRoutes after,
      ((Environment.new .default : Environment Unit).admin.start (.new "/")).exec (.idle ())
        =
      (.ok (.ok (), Admin.Registry.new.close, adminRoutes), after)
        ∧
      adminRoutes.router?.isSome
        ∧
      (adminRoutes.router?.all fun router =>
        (router.methodsAt? "/missing".toList).isNone)
        ∧
      adminRoutes.router?.all fun router =>
        (router.methodsAt? "/ping".toList).any fun table =>
          (table.answering? .post).isNone && table.allowed = [.get, .head] :=
    ⟨_, _, rfl, by decide +kernel, by decide +kernel, by decide +kernel⟩
  obtain ⟨adminRoutes, after, hstart, hsome, hmissing, hping⟩ := hconcrete
  obtain ⟨router, hrouter⟩ := Option.isSome_iff_exists.mp hsome
  rw [hrouter, Option.all_some] at hmissing hping
  rw [Option.isNone_iff_eq_none] at hmissing
  obtain ⟨table, htable, hpost⟩ := (Option.any_eq_true _ _).mp hping
  rw [Bool.and_eq_true, Option.isNone_iff_eq_none, decide_eq_true_iff] at hpost
  obtain ⟨hnone, hallowed⟩ := hpost
  refine ⟨adminRoutes, after, router, hstart, hrouter, ?_, ?_⟩
  . unfold Router.serve
    rw [Router.dispatch_of_missing hmissing]
    rfl
  . unfold Router.serve
    rw [Router.dispatch_of_none htable hnone, hallowed]
    rfl

end ServiceHost
