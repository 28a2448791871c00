import ServiceHost.Command.Server
import ServiceHost.Proofs.Serving.Binding
import ServiceHost.Proofs.Setup

/-!
This module contains the stages of a service: bundles, the application, connectors, serving. Nothing of a
stage happens unless every stage before it has succeeded.
-/

namespace ServiceHost

variable {σ γ : Type}

namespace Command

variable {part : World σ → γ}

theorem spares_setLoggers (h : Action.Apart part fun _ => True) (loggers : List (String × String)) :
    Action.Spares part (setLoggers loggers) := by
  induction loggers with
  | nil => exact Action.spares_pure ()
  | cons logger loggers ih =>
    unfold setLoggers
    dsimp only
    split
    . apply Action.Spares.bind (h.setLevel trivial _ _)
      intro _
      exact ih
    . exact ih

theorem spares_installLevels (h : Action.Apart part fun _ => True) (root : Log.Level) :
    Action.Spares part (installLevels root) := by
  unfold installLevels
  apply Action.Spares.bind Action.spares_get
  intro world
  split
  . exact Action.spares_change fun world => h.levels _ _ _ world
  . apply Action.Spares.bind (Action.spares_change fun world => h.levels _ world.filter _ world)
    intro _
    exact h.log trivial

theorem spares_configureLog (h : Action.Apart part fun _ => True) (c : Config.Logging) :
    Action.Spares part (configureLog c) := by
  unfold configureLog
  apply Action.Spares.bind (spares_installLevels h _)
  intro _
  apply Action.Spares.bind (spares_setLoggers h c.loggers.entries)
  intro _
  exact h.applyLevels trivial

theorem spares_publishProcess (h : Action.Apart part fun _ => True) :
    Action.Spares part (publishProcess : Action σ Unit) := by
  unfold publishProcess
  apply Action.Spares.bind Action.spares_get
  intro world
  apply Action.Spares.bind (h.publishMetric trivial _ _)
  intro _
  exact h.publishMetric trivial _ _

theorem spares_opening (h : Action.Apart part fun _ => True) (launch : Launch σ) (c : Configuration) :
    Action.Spares part (opening launch c) := by
  unfold opening
  apply Action.Spares.bind (spares_configureLog h c.logging)
  intro _
  apply Action.Spares.bind (h.log trivial)
  intro _
  apply Action.Spares.bind (h.changeMetrics fun _ => .empty)
  intro _
  apply Action.Spares.bind (spares_publishProcess h)
  intro _
  apply Action.Spares.bind (Setup.spares_reportMetrics h c.metrics _)
  intro opened
  exact Action.spares_pure _

def outside (world : World σ) : Host × String × List Ticker × List SocketAddress × σ :=
  (world.host, world.output, world.tickers, world.listening, world.state)

theorem apart_outside : Action.Apart (outside (σ := σ)) fun _ => True where
  record _ _ _ := by rfl
  metrics _ _ := by rfl
  levels _ _ _ _ := by rfl

def bindAndServe (launch : Launch σ) (c : Configuration) (environment : Environment σ) :
    Action σ (Except RunError Unit) := do
  match ← Serving.bind c.server with
  | .error e => return .error (.server e)
  | .ok server =>
    match ← server.serve environment (courseOf launch.session) with
    | .error e => return .error (.server e)
    | .ok () => return .ok ()

def goOn (next : Environment σ → Action σ (Except RunError Unit)) :
    Except RunError Unit × Environment σ → Action σ (Except RunError Unit)
  | (.error e, _) => return .error e
  | (.ok (), environment) => next environment

theorem runServer_eq (launch : Launch σ) (c : Configuration) :
    runServer launch c = (do
      let environment ← opening launch c
      (Launch.runHooks c launch.bundles).run environment >>= goOn fun environment =>
        (Launch.runHooks c [launch.run]).run environment >>= goOn (bindAndServe launch c)) := by
  unfold runServer prepare setUp Launch.runBundles Launch.runApplication
  simp only [bind_assoc, StateT.run_bind]
  congr 1
  funext environment
  congr 1
  funext ⟨result, environment⟩
  cases result with
  | error e => rfl
  | ok =>
    unfold goOn
    dsimp only
    congr 1
    funext ⟨result, environment⟩
    cases result with
    | error e => rfl
    | ok =>
      unfold bindAndServe
      dsimp only
      rw [bind_assoc]
      congr 1
      funext bound
      cases bound with
      | error e => rfl
      | ok server => rfl

def served (outcome : Except Fault (Except Serving.ServerError Unit) × World σ) :
    Except Fault (Except RunError Unit) × World σ :=
  (outcome.1.map (·.mapError .server), outcome.2)

/--
How a service that finds some site ends. Where a stage does not succeed, the world is the one that this
stage has left, so nothing of a later stage has happened.
-/
inductive Stages (launch : Launch σ) (c : Configuration) (site : Site σ) :
    Except Fault (Except RunError Unit) × World σ → Prop where
  | bundle {before after : List (SetupHook σ)} {hook : SetupHook σ} {site' : Site σ}
      {outcome : Except Fault (Except RunError Unit) × World σ} :
    launch.bundles = before ++ hook :: after →
    Succeed c before site site' →
    Breaks c hook site' outcome →
    Stages launch c site outcome
  | application {site' : Site σ} {outcome : Except Fault (Except RunError Unit) × World σ} :
    Succeed c launch.bundles site site' →
    Breaks c launch.run site' outcome →
    Stages launch c site outcome
  | connector {middle site' : Site σ} {before after : List (Serving.Side × Config.Connector)}
      {side : Serving.Side} {refused : Config.Connector} {bound : List Serving.BoundConnector}
      {e : Serving.ServerError} :
    Succeed c launch.bundles site middle →
    Ends c launch.run middle (.ok ()) site' →
    c.server.applicationConnectors.map (.application, ·) ++ c.server.adminConnectors.map (.admin, ·)
      = before ++ (side, refused) :: after →
    Serving.Bind site'.2.host [] before bound →
    Serving.bindConnector site'.2.host (bound.map (·.address)) side refused = .error e →
    Stages launch c site (.ok (.error (.server e)), Serving.listeningOn bound site'.2)
  | serving {middle site' : Site σ} {bound : List Serving.BoundConnector} :
    Succeed c launch.bundles site middle →
    Ends c launch.run middle (.ok ()) site' →
    Serving.Bind site'.2.host []
      (c.server.applicationConnectors.map (.application, ·) ++ c.server.adminConnectors.map (.admin, ·)) bound →
    Stages launch c site
      (served
        ((Serving.BoundServer.serve ⟨bound, c.server.adminPath, c.server.requestTimeout, c.server.shutdownGrace⟩
          site'.1 (courseOf launch.session)).exec (Serving.listeningOn bound site'.2)))

theorem bindAndServe_of_error {launch : Launch σ} {c : Configuration} {environment : Environment σ}
    {world world' : World σ} {e : Serving.ServerError}
    (h : (Serving.bind c.server).exec world = (.ok (.error e), world')) :
    (bindAndServe launch c environment).exec world = (.ok (.error (.server e)), world') := by
  unfold bindAndServe
  rw [Action.exec_bind_ok h]
  rfl

theorem bindAndServe_of_ok {launch : Launch σ} {c : Configuration} {environment : Environment σ}
    {world world' : World σ} {server : Serving.BoundServer}
    (h : (Serving.bind c.server).exec world = (.ok (.ok server), world')) :
    (bindAndServe launch c environment).exec world
      =
    served ((server.serve environment (courseOf launch.session)).exec world') := by
  unfold bindAndServe served
  rw [Action.exec_bind_ok h]
  dsimp only
  rw [Action.exec_bind]
  rcases (server.serve environment (courseOf launch.session)).exec world' with ⟨_ | _ | _, world⟩ <;> rfl

theorem goOn_exec {c : Configuration} {hooks : List (SetupHook σ)} {site site' : Site σ}
    (h : Succeed c hooks site site') (next : Environment σ → Action σ (Except RunError Unit)) :
    ((Launch.runHooks c hooks).run site.1 >>= goOn next).exec site.2 = (next site'.1).exec site'.2 := by
  rw [Action.exec_bind_ok (Launch.runHooks_exec h)]
  rfl

theorem Stages.exec {launch : Launch σ} {c : Configuration} {site : Site σ}
    {outcome : Except Fault (Except RunError Unit) × World σ} (h : Stages launch c site outcome) :
    ((Launch.runHooks c launch.bundles).run site.1 >>= goOn fun environment =>
      (Launch.runHooks c [launch.run]).run environment >>= goOn (bindAndServe launch c)).exec site.2
      =
    outcome := by
  cases h with
  | bundle hbundles hbefore hbreaks =>
    rw [hbundles]
    exact Launch.runHooks_of_breaks hbefore hbreaks _ _ fun _ _ => rfl
  | @application site' _ hbundles hbreaks =>
    rw [goOn_exec hbundles]
    have hnil : Succeed c [] site' site' := .nil site'
    exact Launch.runHooks_of_breaks hnil hbreaks [] _ fun _ _ => rfl
  | @connector _ site' _ _ _ _ _ _ hbundles hrun hconnectors hbind hrefused =>
    rw [goOn_exec hbundles, goOn_exec (.cons hrun (.nil site'))]
    exact bindAndServe_of_error (Serving.bind_exec_error hconnectors hbind hrefused)
  | @serving _ site' _ hbundles hrun hbind =>
    rw [goOn_exec hbundles, goOn_exec (.cons hrun (.nil site'))]
    exact bindAndServe_of_ok (Serving.bind_exec_ok hbind)

theorem exists_stages (launch : Launch σ) (c : Configuration) (site : Site σ) :
    ∃ outcome, Stages launch c site outcome := by
  cases succeed_or_breaks c launch.bundles site with
  | inr h =>
    obtain ⟨before, hook, after, site', outcome, hbundles, hbefore, hbreaks⟩ := h
    exact ⟨outcome, .bundle hbundles hbefore hbreaks⟩
  | inl h =>
    obtain ⟨middle, hbundles⟩ := h
    cases ends_or_breaks c launch.run middle with
    | inr h =>
      obtain ⟨outcome, hbreaks⟩ := h
      exact ⟨outcome, .application hbundles hbreaks⟩
    | inl h =>
      obtain ⟨site', hrun⟩ := h
      cases Serving.bind_or_refused site'.2.host [] (Serving.connectorsOf c.server) with
      | inr h =>
        obtain ⟨before, side, refused, after, bound, e, hconnectors, hbind, hrefused⟩ := h
        exact ⟨_, .connector hbundles hrun hconnectors hbind hrefused⟩
      | inl h =>
        obtain ⟨bound, hbind⟩ := h
        exact ⟨_, .serving hbundles hrun hbind⟩

/--
With a configuration, the command that runs a service goes through its stages in order: how it ends, and
the world that it leaves, are exactly what the stages say.
-/
theorem server_run_iff_stages {launch : Launch σ} {c : Configuration} {world world₁ : World σ}
    (hconfiguration : (configuration launch).exec world = (.ok (.ok c), world₁)) :
    ∃ site : Site σ,
      (opening launch c).exec world₁ = (.ok site.1, site.2)
        ∧
      outside site.2 = outside world₁
        ∧
      (∀ message, (RunError.setup message).message? = some message)
        ∧
      ∀ outcome, (server.run launch).exec world = outcome ↔ Stages launch c site outcome := by
  obtain ⟨environment, world₂, hopening, houtside⟩ := spares_opening apart_outside launch c world₁
  refine ⟨(environment, world₂), hopening, houtside, fun _ => rfl, ?_⟩
  have hexec : ∀ outcome, Stages launch c (environment, world₂) outcome →
      (server.run launch).exec world = outcome := by
    intro outcome h
    unfold server
    dsimp only
    rw [Action.exec_bind_ok hconfiguration]
    dsimp only
    rw [runServer_eq, Action.exec_bind_ok hopening]
    exact h.exec
  intro outcome
  constructor
  . intro hrun
    -- every run has its stages, and a run has only one end
    obtain ⟨outcome', h⟩ := exists_stages launch c (environment, world₂)
    rw [hexec outcome' h] at hrun
    exact hrun ▸ h
  . exact hexec outcome

def failingLaunch : Launch (List String) where
  application := "app"
  run := tells "app" (.ok ())
  arguments := ["server"]
  bundles := [tells "one" (.ok ()), tells "two" (.error "bundle two failed"), tells "three" (.ok ())]
  source _ := return .ok .default
  session := ⟨fun _ => [.shutdown], .terminate⟩

def plainLaunch : Launch (List String) :=
  { failingLaunch with bundles := [tells "one" (.ok ())] }

def heldReason : String := "Address already in use (os error 98)"

def heldWorld : World (List String) :=
  let idle : World (List String) := .idle []
  let network : Network := { idle.host.network with
    listen _ address := if address.port = 8081 then .error heldReason else .ok () }
  { idle with host := { idle.host with network } }

theorem stages_of_plainLaunch {site : Site (List String)} (h : outside site.2 = outside heldWorld) :
    ∃ world,
      Stages plainLaunch .default site
        (.ok (.error (.server (.bind "127.0.0.1:8081" (.refused heldReason)))), world)
        ∧
      world.state = ["one", "app"] ∧ world.listening = [⟨.v4 [0, 0, 0, 0], 8080⟩] := by
  unfold outside at h
  simp only [Prod.mk.injEq] at h
  obtain ⟨hhost, -, -, hlistening, hstate⟩ := h
  let first : Site (List String) := (site.1, { site.2 with state := site.2.state ++ ["one"] })
  let second : Site (List String) := (first.1, { first.2 with state := first.2.state ++ ["app"] })
  have hone : Ends .default (tells "one" (.ok ())) site (.ok ()) first := rfl
  have happ : Ends .default (tells "app" (.ok ())) first (.ok ()) second := rfl
  have hhost' : second.2.host = heldWorld.host := hhost
  let open8080 : Serving.BoundConnector := ⟨.application, .http, ⟨.v4 [0, 0, 0, 0], 8080⟩⟩
  have hopen : Serving.bindConnector heldWorld.host [] .application (.http "0.0.0.0:8080") = .ok open8080 := by
    rfl
  have hheld : Serving.bindConnector heldWorld.host [open8080.address] .admin (.http "127.0.0.1:8081")
      = .error (.bind "127.0.0.1:8081" (.refused heldReason)) := by
    rfl
  refine ⟨Serving.listeningOn [open8080] second.2, ?_, ?_, ?_⟩
  . refine .connector (.cons hone (.nil first)) happ rfl (.cons ?_ (.nil _)) ?_
    . rw [hhost']
      exact hopen
    . rw [hhost']
      exact hheld
  . show (site.2.state ++ ["one"]) ++ ["app"] = ["one", "app"]
    rw [hstate]
    rfl
  . show site.2.listening ++ [open8080.address] = [⟨.v4 [0, 0, 0, 0], 8080⟩]
    rw [hlistening]
    rfl

theorem stages_of_failingLaunch {site : Site (List String)} (h : outside site.2 = outside (World.idle [])) :
    ∃ world,
      Stages failingLaunch .default site (.ok (.error (.setup "bundle two failed")), world)
        ∧
      world.state = ["one", "two"] ∧ world.listening = [] := by
  unfold outside at h
  simp only [Prod.mk.injEq] at h
  obtain ⟨-, -, -, hlistening, hstate⟩ := h
  let first : Site (List String) := (site.1, { site.2 with state := site.2.state ++ ["one"] })
  let second : Site (List String) := (first.1, { first.2 with state := first.2.state ++ ["two"] })
  have hone : Ends .default (tells "one" (.ok ())) site (.ok ()) first := rfl
  have htwo : Ends .default (tells "two" (.error "bundle two failed")) first
      (.error "bundle two failed") second := rfl
  refine ⟨second.2, .bundle rfl (.cons hone (.nil first)) (.failed htwo), ?_, hlistening⟩
  show (site.2.state ++ ["one"]) ++ ["two"] = ["one", "two"]
  rw [hstate]
  rfl

theorem server_run_of_failingLaunch :
    (configuration failingLaunch).exec (.idle []) = (.ok (.ok .default), .idle [])
      ∧
    (∃ world,
      (server.run failingLaunch).exec (.idle []) = (.ok (.error (.setup "bundle two failed")), world)
        ∧
      world.state = ["one", "two"] ∧ world.listening = [])
      ∧
    (configuration plainLaunch).exec heldWorld = (.ok (.ok .default), heldWorld)
      ∧
    ∃ world,
      (server.run plainLaunch).exec heldWorld
        =
      (.ok (.error (.server (.bind "127.0.0.1:8081" (.refused heldReason)))), world)
        ∧
      world.state = ["one", "app"] ∧ world.listening = [⟨.v4 [0, 0, 0, 0], 8080⟩] := by
  have hfailing : (configuration failingLaunch).exec (.idle []) = (.ok (.ok .default), .idle []) := by
    rfl
  have hplain : (configuration plainLaunch).exec heldWorld = (.ok (.ok .default), heldWorld) := by
    rfl
  refine ⟨hfailing, ?_, hplain, ?_⟩
  . obtain ⟨site, -, houtside, -, hrun⟩ := server_run_iff_stages hfailing
    obtain ⟨world, hstages, hleft⟩ := stages_of_failingLaunch houtside
    exact ⟨world, (hrun _).mpr hstages, hleft⟩
  . obtain ⟨site, -, houtside, -, hrun⟩ := server_run_iff_stages hplain
    obtain ⟨world, hstages, hleft⟩ := stages_of_plainLaunch houtside
    exact ⟨world, (hrun _).mpr hstages, hleft⟩

end Command

end ServiceHost
