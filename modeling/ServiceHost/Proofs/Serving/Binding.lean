import ServiceHost.Proofs.Action
import ServiceHost.Serving.Connector

/-!
This module contains how connectors are bound: one after the other, up to the first that cannot be, and
nothing but the list of addresses that are listened on changes.
-/

namespace ServiceHost.Serving

variable {σ : Type}

def listeningOn (bound : List BoundConnector) (world : World σ) : World σ :=
  { world with listening := world.listening ++ bound.map (·.address) }

@[simp]
theorem listeningOn_nil (world : World σ) : listeningOn [] world = world := by
  unfold listeningOn
  rw [List.map_nil, List.append_nil]

@[simp]
theorem host_listeningOn (bound : List BoundConnector) (world : World σ) :
    (listeningOn bound world).host = world.host := by
  rfl

theorem listeningOn_cons (connector : BoundConnector) (bound : List BoundConnector) (world : World σ) :
    listeningOn (connector :: bound) world = listeningOn bound (listeningOn [connector] world) := by
  simp [listeningOn]

inductive Bind (host : Host) :
    List SocketAddress → List (Side × Config.Connector) → List BoundConnector → Prop where
  | nil (taken : List SocketAddress) : Bind host taken [] []
  | cons {taken : List SocketAddress} {side : Side} {c : Config.Connector} {connector : BoundConnector}
      {connectors : List (Side × Config.Connector)} {bound : List BoundConnector} :
    bindConnector host taken side c = .ok connector →
    Bind host (taken ++ [connector.address]) connectors bound →
    Bind host taken ((side, c) :: connectors) (connector :: bound)

theorem bind_or_refused (host : Host) (taken : List SocketAddress)
    (connectors : List (Side × Config.Connector)) :
    (∃ bound, Bind host taken connectors bound)
      ∨
    ∃ before side c after bound e,
      connectors = before ++ (side, c) :: after
        ∧
      Bind host taken before bound
        ∧
      bindConnector host (taken ++ bound.map (·.address)) side c = .error e := by
  induction connectors generalizing taken with
  | nil => exact .inl ⟨[], .nil taken⟩
  | cons first connectors ih =>
    obtain ⟨side, c⟩ := first
    cases h : bindConnector host taken side c with
    | error e =>
      refine .inr ⟨[], side, c, connectors, [], e, rfl, .nil taken, ?_⟩
      rw [List.map_nil, List.append_nil, h]
    | ok connector =>
      cases ih (taken ++ [connector.address]) with
      | inl hrest =>
        obtain ⟨bound, hrest⟩ := hrest
        exact .inl ⟨connector :: bound, .cons h hrest⟩
      | inr hrest =>
        obtain ⟨before, side', c', after, bound, e, hconnectors, hbound, he⟩ := hrest
        refine .inr ⟨(side, c) :: before, side', c', after, connector :: bound, e, ?_, .cons h hbound, ?_⟩
        . rw [hconnectors, List.cons_append]
        . rw [List.map_cons, ← he, List.append_assoc, List.singleton_append]

theorem openConnector_exec (taken : List SocketAddress) (side : Side) (c : Config.Connector)
    (world : World σ) :
    (openConnector taken side c).exec world
      =
    match bindConnector world.host taken side c with
    | .error e => (.ok (.error e), world)
    | .ok connector => (.ok (.ok connector), listeningOn [connector] world) := by
  unfold openConnector
  rw [Action.exec_bind_ok (Action.exec_get world)]
  cases bindConnector world.host taken side c <;> rfl

theorem bindConnectors_cons_of_ok {world : World σ} {bound : List BoundConnector} {side : Side}
    {c : Config.Connector} {connector : BoundConnector}
    (h : bindConnector world.host (bound.map (·.address)) side c = .ok connector)
    (rest : List (Side × Config.Connector)) :
    (bindConnectors bound ((side, c) :: rest)).exec world
      =
    (bindConnectors (bound ++ [connector]) rest).exec (listeningOn [connector] world) := by
  have hopen := openConnector_exec (bound.map (·.address)) side c world
  rw [h] at hopen
  rw [bindConnectors, Action.exec_bind_ok hopen]

theorem bindConnectors_cons_of_error {world : World σ} {bound : List BoundConnector} {side : Side}
    {c : Config.Connector} {e : ServerError}
    (h : bindConnector world.host (bound.map (·.address)) side c = .error e)
    (rest : List (Side × Config.Connector)) :
    (bindConnectors bound ((side, c) :: rest)).exec world = (.ok (.error e), world) := by
  have hopen := openConnector_exec (bound.map (·.address)) side c world
  rw [h] at hopen
  rw [bindConnectors, Action.exec_bind_ok hopen]
  rfl

theorem bindConnectors_append (bound : List BoundConnector) (world : World σ)
    {bound' : List BoundConnector} {connectors : List (Side × Config.Connector)}
    {taken : List SocketAddress} (h : Bind world.host taken connectors bound') (htaken : bound.map (·.address) = taken)
    (rest : List (Side × Config.Connector)) :
    (bindConnectors bound (connectors ++ rest)).exec world
      =
    (bindConnectors (bound ++ bound') rest).exec (listeningOn bound' world) := by
  -- the host stays the same while more and more addresses are taken
  generalize hhost : world.host = host at h
  induction h generalizing bound world with
  | nil => rw [List.nil_append, List.append_nil, listeningOn_nil]
  | @cons taken side c connector connectors bound' hbind _ ih =>
    rw [← htaken, ← hhost] at hbind
    rw [List.cons_append, bindConnectors_cons_of_ok hbind]
    rw [ih (bound ++ [connector]) (listeningOn [connector] world)]
    . rw [← listeningOn_cons, List.append_assoc, List.singleton_append]
    . rw [List.map_append, List.map_cons, List.map_nil, htaken]
    . exact hhost

theorem bind_exec_ok {c : Config.Server} {bound : List BoundConnector} {world : World σ}
    (h : Bind world.host [] (connectorsOf c) bound) :
    (bind c).exec world
      =
    (.ok (.ok ⟨bound, c.adminPath, c.requestTimeout, c.shutdownGrace⟩), listeningOn bound world) := by
  have hexec := bindConnectors_append [] world h rfl []
  rw [List.append_nil, List.nil_append] at hexec
  unfold bind
  rw [Action.exec_bind, hexec]
  rfl

theorem bind_exec_error {c : Config.Server} {before after : List (Side × Config.Connector)} {side : Side}
    {connector : Config.Connector} {bound : List BoundConnector} {e : ServerError} {world : World σ}
    (hconnectors : connectorsOf c = before ++ (side, connector) :: after)
    (hbound : Bind world.host [] before bound)
    (he : bindConnector world.host (bound.map (·.address)) side connector = .error e) :
    (bind c).exec world = (.ok (.error e), listeningOn bound world) := by
  have hexec := bindConnectors_append [] world hbound rfl ((side, connector) :: after)
  rw [List.nil_append] at hexec
  rw [← host_listeningOn bound world] at he
  unfold bind
  rw [Action.exec_bind, hconnectors, hexec, bindConnectors_cons_of_error he]
  rfl

theorem bind_eq_ok {c : Config.Server} {server : BoundServer} {world world' : World σ}
    (h : (bind c).exec world = (.ok (.ok server), world')) :
    ∃ bound,
      server = ⟨bound, c.adminPath, c.requestTimeout, c.shutdownGrace⟩
        ∧
      world' = listeningOn bound world := by
  cases bind_or_refused world.host [] (connectorsOf c) with
  | inl hbound =>
    obtain ⟨bound, hbound⟩ := hbound
    rw [bind_exec_ok hbound] at h
    cases h
    exact ⟨bound, rfl, rfl⟩
  | inr hrefused =>
    obtain ⟨before, side, refused, after, bound, e, hconnectors, hbound, he⟩ := hrefused
    rw [bind_exec_error hconnectors hbound he] at h
    cases h

end ServiceHost.Serving
