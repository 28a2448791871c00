import ServiceHost.Proofs.Config.Validation
import ServiceHost.Proofs.Serving.Binding

/-!
This module contains how the binding of connectors agrees with the checks of their configuration. What a connector
itself can be blamed for is refused by both, and by binding alone only what the machine does not allow.
-/

namespace ServiceHost.Serving

variable {σ : Type}

open Config (Violation)

inductive ServerError.Blames (c : Config.Connector) : ServerError → Prop where
  | address : Blames c (.bind c.address .invalidAddress)
  | credentials : Blames c (.credentials c.address .notNamed)

inductive ServerError.OfMachine : ServerError → Prop where
  | refused (address reason : String) : OfMachine (.bind address (.refused reason))
  | noCertificate (address path : String) : OfMachine (.credentials address (.noCertificate path))
  | noPrivateKey (address path : String) : OfMachine (.credentials address (.noPrivateKey path))
  | unusable (address : String) : OfMachine (.credentials address .unusable)

theorem loadCredentials_ne_notNamed (host : Host) (certificate privateKey : String) :
    loadCredentials host certificate privateKey ≠ .error .notNamed := by
  unfold loadCredentials
  split
  . nofun
  . nofun
  . split <;> nofun

theorem prepareTransport_eq_notNamed_iff {host : Host} {c : Config.Connector} :
    prepareTransport host c = .error .notNamed ↔ c.hasCredentials = false := by
  unfold prepareTransport Config.Connector.hasCredentials
  cases c.transport with
  | http => simp
  | https =>
    cases c.certificate with
    | none => simp
    | some certificate =>
      cases c.privateKey with
      | none => simp
      | some privateKey => simp [loadCredentials_ne_notNamed]

theorem bindConnector_of_no_address {c : Config.Connector} (h : c.hasAddress = false) (host : Host)
    (taken : List SocketAddress) (side : Side) :
    bindConnector host taken side c = .error (.bind c.address .invalidAddress) := by
  unfold Config.Connector.hasAddress at h
  rw [Option.isSome_eq_false_iff, Option.isNone_iff_eq_none] at h
  unfold bindConnector
  rw [h]

theorem bindConnector_of_no_credentials {c : Config.Connector} (haddress : c.hasAddress = true)
    (h : c.hasCredentials = false) (host : Host) (taken : List SocketAddress) (side : Side) :
    bindConnector host taken side c = .error (.credentials c.address .notNamed) := by
  obtain ⟨address, hparse⟩ := Option.isSome_iff_exists.mp haddress
  unfold bindConnector
  rw [hparse]
  dsimp only
  rw [prepareTransport_eq_notNamed_iff.mpr h]

theorem ofMachine_of_bindConnector {c : Config.Connector} {host : Host} {taken : List SocketAddress} {side : Side}
    {e : ServerError} (haddress : c.hasAddress = true) (hcredentials : c.hasCredentials = true)
    (h : bindConnector host taken side c = .error e) : e.OfMachine := by
  obtain ⟨address, hparse⟩ := Option.isSome_iff_exists.mp haddress
  unfold bindConnector at h
  rw [hparse] at h
  dsimp only at h
  split at h
  . next reason hreason =>
    cases h
    cases reason with
    | notNamed =>
      rw [prepareTransport_eq_notNamed_iff, hcredentials] at hreason
      cases hreason
    | noCertificate path => exact .noCertificate _ path
    | noPrivateKey path => exact .noPrivateKey _ path
    | unusable => exact .unusable _
  . split at h
    . cases h
      exact .refused _ _
    . cases h

theorem ServerError.OfMachine.not_blames {e : ServerError} (h : e.OfMachine) (c : Config.Connector) :
    ¬ e.Blames c := by
  cases h <;> nofun

theorem exists_blame_of_violations {c : Config.Connector} (h : c.violations ≠ []) (host : Host)
    (taken : List SocketAddress) (side : Side) :
    ∃ e, bindConnector host taken side c = .error e ∧ e.Blames c := by
  rw [ne_eq, c.violations_eq_nil_iff] at h
  by_cases haddress : c.hasAddress = true
  . have hcredentials : c.hasCredentials = false := by
      rw [← Bool.not_eq_true]
      exact fun hcredentials => h ⟨haddress, hcredentials⟩
    exact ⟨_, bindConnector_of_no_credentials haddress hcredentials host taken side, .credentials⟩
  . rw [Bool.not_eq_true] at haddress
    exact ⟨_, bindConnector_of_no_address haddress host taken side, .address⟩

theorem map_snd_connectorsOf (c : Configuration) : (connectorsOf c.server).map (·.2) = c.connectors := by
  unfold connectorsOf Configuration.connectors
  simp [Function.comp_def]

theorem Bind.exists_of_mem {host : Host} {taken : List SocketAddress}
    {connectors : List (Side × Config.Connector)} {bound : List BoundConnector} (h : Bind host taken connectors bound) :
    ∀ entry ∈ connectors, ∃ taken connector, bindConnector host taken entry.1 entry.2 = .ok connector := by
  induction h with
  | nil => nofun
  | cons hbind _ ih => exact List.forall_mem_cons.mpr ⟨⟨_, _, hbind⟩, ih⟩

/--
A connector passes the checks of its configuration exactly if it cannot be blamed when it is bound. So what is
accepted can fail to be bound on account of the machine only, and what is refused for a connector is never bound.
-/
theorem binding_agrees_with_checks :
    (∀ (connector : Config.Connector) (host : Host) (taken : List SocketAddress) (side : Side),
      connector.violations = []
        ↔
      ∀ e, bindConnector host taken side connector = .error e → ¬ e.Blames connector)
      ∧
    (∀ (c : Configuration) (world : World σ), c.validated = .ok c →
      ∃ result after,
        (bind c.server).exec world = (.ok result, after) ∧ ∀ e, result = .error e → e.OfMachine)
      ∧
    ∀ (c : Configuration) (world : World σ) (violations : List Violation),
      c.validated = .error (.invalid violations) →
      (∃ violation ∈ violations, violation.OfConnector) →
      ∃ e after, (bind c.server).exec world = (.ok (.error e), after) := by
  refine ⟨?_, ?_, ?_⟩
  . intro connector host taken side
    constructor
    . intro hnone e he
      obtain ⟨haddress, hcredentials⟩ := connector.violations_eq_nil_iff.mp hnone
      exact (ofMachine_of_bindConnector haddress hcredentials he).not_blames connector
    . intro hblameless
      by_contra hsome
      obtain ⟨e, he, hblames⟩ := exists_blame_of_violations hsome host taken side
      exact hblameless e he hblames
  . intro c world hvalid
    have hnone := Configuration.connector_violations_eq_nil (Configuration.violations_of_validated hvalid)
    cases bind_or_refused world.host [] (connectorsOf c.server) with
    | inl hbound =>
      obtain ⟨bound, hbound⟩ := hbound
      exact ⟨_, _, bind_exec_ok hbound, nofun⟩
    | inr hrefused =>
      obtain ⟨before, side, connector, rest, bound, e, hconnectors, hbound, he⟩ := hrefused
      refine ⟨_, _, bind_exec_error hconnectors hbound he, ?_⟩
      rintro _ ⟨⟩
      have hmem : connector ∈ c.connectors := by
        rw [← map_snd_connectorsOf, hconnectors]
        simp
      obtain ⟨haddress, hcredentials⟩ := connector.violations_eq_nil_iff.mp (hnone connector hmem)
      exact ofMachine_of_bindConnector haddress hcredentials he
  . rintro c world violations hinvalid ⟨violation, hmem, hviolation⟩
    rw [← Configuration.violations_of_invalid hinvalid] at hmem
    obtain ⟨connector, hconnector, hsome⟩ := Configuration.exists_connector_of_violation hmem hviolation
    cases bind_or_refused world.host [] (connectorsOf c.server) with
    | inl hbound =>
      obtain ⟨bound, hbound⟩ := hbound
      rw [← map_snd_connectorsOf] at hconnector
      obtain ⟨entry, hentry, rfl⟩ := List.mem_map.mp hconnector
      obtain ⟨taken, _, hok⟩ := hbound.exists_of_mem entry hentry
      obtain ⟨e, he, -⟩ := exists_blame_of_violations hsome world.host taken entry.1
      rw [hok] at he
      cases he
    | inr hrefused =>
      obtain ⟨before, side, connector, rest, bound, e, hconnectors, hbound, he⟩ := hrefused
      exact ⟨e, _, bind_exec_error hconnectors hbound he⟩

theorem binding_of_brokenBelow :
    (Configuration.default.validated = .ok .default
      ∧
    ∃ result after,
      (bind Configuration.default.server).exec (.idle ()) = (.ok result, after)
        ∧
      ∀ e, result = .error e → e.OfMachine)
      ∧
    ∃ violations,
      (Configuration.brokenBelow "/").validated = .error (.invalid violations)
        ∧
      .invalidAddress "localhost" ∈ violations
        ∧
      ∃ e after, (bind (Configuration.brokenBelow "/").server).exec (.idle ()) = (.ok (.error e), after) := by
  have hdefault : Configuration.default.validated = .ok .default := by
    unfold Configuration.validated
    rw [if_pos (by decide +kernel)]
  have hlocalhost : .invalidAddress "localhost" ∈ (Configuration.brokenBelow "/").violations := by
    decide +kernel
  have hbroken : (Configuration.brokenBelow "/").validated
        =
      .error (.invalid (Configuration.brokenBelow "/").violations) := by
    unfold Configuration.validated
    rw [if_neg (List.ne_nil_of_mem hlocalhost)]
  obtain ⟨-, haccepted, hrefused⟩ := binding_agrees_with_checks
  refine ⟨⟨hdefault, haccepted _ (.idle ()) hdefault⟩, _, hbroken, hlocalhost, ?_⟩
  exact hrefused _ (.idle ()) _ hbroken ⟨_, hlocalhost, trivial⟩

end ServiceHost.Serving
