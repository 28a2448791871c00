import ServiceHost.Config.Source
import ServiceHost.Proofs.Http.Path
import ServiceHost.Proofs.Keyed

/-!
This module contains what the checks of a configuration come to. Every requirement that is not met is reported
once, in a fixed order, whatever else is wrong with the configuration.
-/

namespace ServiceHost

namespace Config

def NamesLevel (text : String) : Prop :=
  ∃ name ∈ ["ALL", "TRACE", "DEBUG", "INFO", "WARN", "ERROR", "OFF"],
    text.toList.map Char.toLower = name.toList.map Char.toLower

theorem isSome_ofName?_iff {text : String} : (Log.Level.ofName? text).isSome ↔ NamesLevel text := by
  have hnames : ["ALL", "TRACE", "DEBUG", "INFO", "WARN", "ERROR", "OFF"] = Log.Level.every.map (·.name) := rfl
  unfold Log.Level.ofName? NamesLevel
  rw [List.find?_isSome, hnames]
  simp [Log.Level.sameWord]

def ServesBelow (path : String) : Prop :=
  (∃ rest, path.toList = '/' :: rest) ∧ Http.Path.HasSegments (Http.Path.normalize path)

theorem isContextPath_iff {path : String} : isContextPath path = true ↔ ServesBelow path := by
  unfold isContextPath ServesBelow
  rw [Bool.and_eq_true, Http.Path.isRoutable_normalize_iff, beq_iff_eq, List.head?_eq_some_iff]

inductive Requirement where
  | address (c : Connector)
  | credentials (c : Connector)
  | contextPath (path : String)
  | level (logger text : String)

def Connector.requirements (c : Connector) : List Requirement :=
  [.address c, .credentials c]

namespace Requirement

def Holds : Requirement → Prop
  | .address c => ∃ address, SocketAddress.parse? c.address = some address
  | .credentials c => c.transport = .https → c.certificate.isSome ∧ c.privateKey.isSome
  | .contextPath path => ServesBelow path
  | .level _ text => NamesLevel text

def violation : Requirement → Violation
  | .address c => .invalidAddress c.address
  | .credentials c => .missingCredentials c.address
  | .contextPath path => .invalidPath path
  | .level logger text => .unknownLevel logger text

def ofLogger (entry : String × String) : Requirement :=
  .level entry.1 entry.2

end Requirement

/-- The violations of some requirements: one for each that is not met, in their order. -/
inductive Reports : List Requirement → List Violation → Prop where
  | nil : Reports [] []
  | holds {requirement : Requirement} {requirements : List Requirement} {violations : List Violation} :
    requirement.Holds → Reports requirements violations → Reports (requirement :: requirements) violations
  | fails {requirement : Requirement} {requirements : List Requirement} {violations : List Violation} :
    ¬ requirement.Holds → Reports requirements violations →
      Reports (requirement :: requirements) (requirement.violation :: violations)

namespace Reports

variable {requirements requirements' : List Requirement} {violations violations' : List Violation}

theorem of_check (requirement : Requirement) {check : Bool} (h : check = true ↔ requirement.Holds) :
    Reports [requirement] (if check then [] else [requirement.violation]) := by
  split
  . next hcheck => exact .holds (h.mp hcheck) .nil
  . next hcheck => exact .fails (mt h.mpr hcheck) .nil

theorem append (h : Reports requirements violations) (h' : Reports requirements' violations') :
    Reports (requirements ++ requirements') (violations ++ violations') := by
  induction h with
  | nil => exact h'
  | holds hholds _ ih => exact .holds hholds ih
  | fails hfails _ ih => exact .fails hfails ih

theorem flatMap {α : Type} {items : List α} {required : α → List Requirement} {found : α → List Violation}
    (h : ∀ item ∈ items, Reports (required item) (found item)) :
    Reports (items.flatMap required) (items.flatMap found) := by
  induction items with
  | nil => exact .nil
  | cons item items ih =>
    rw [List.forall_mem_cons] at h
    rw [List.flatMap_cons, List.flatMap_cons]
    exact h.1.append (ih h.2)

theorem unique (h : Reports requirements violations) (h' : Reports requirements violations') :
    violations = violations' := by
  induction h generalizing violations' with
  | nil =>
    cases h'
    rfl
  | holds hholds _ ih =>
    cases h' with
    | holds _ hrest => exact ih hrest
    | fails hfails _ => exact absurd hholds hfails
  | fails hfails _ ih =>
    cases h' with
    | holds hholds _ => exact absurd hholds hfails
    | fails _ hrest => rw [ih hrest]

theorem of_append (h : Reports (requirements ++ requirements') violations) :
    ∃ first last, violations = first ++ last ∧ Reports requirements first ∧ Reports requirements' last := by
  induction requirements generalizing violations with
  | nil => exact ⟨[], violations, rfl, .nil, h⟩
  | cons requirement requirements ih =>
    cases h with
    | holds hholds hrest =>
      obtain ⟨first, last, rfl, hfirst, hlast⟩ := ih hrest
      exact ⟨first, last, rfl, .holds hholds hfirst, hlast⟩
    | fails hfails hrest =>
      obtain ⟨first, last, rfl, hfirst, hlast⟩ := ih hrest
      exact ⟨_ :: first, last, rfl, .fails hfails hfirst, hlast⟩

theorem eq_nil_iff (h : Reports requirements violations) :
    violations = [] ↔ ∀ requirement ∈ requirements, requirement.Holds := by
  induction h with
  | nil => simp
  | holds hholds _ ih => simp [hholds, ih]
  | fails hfails _ ih => simp [hfails]

end Reports

theorem Connector.hasAddress_iff {c : Connector} :
    c.hasAddress = true ↔ (Requirement.address c).Holds := by
  exact Option.isSome_iff_exists

theorem Connector.hasCredentials_iff {c : Connector} :
    c.hasCredentials = true ↔ (Requirement.credentials c).Holds := by
  unfold hasCredentials
  cases h : c.transport <;> simp [Requirement.Holds, h]

theorem Connector.reports_violations (c : Connector) : Reports c.requirements c.violations := by
  have haddress := Reports.of_check (.address c) c.hasAddress_iff
  exact haddress.append (.of_check (.credentials c) c.hasCredentials_iff)

theorem Connector.violations_eq_nil_iff {c : Connector} :
    c.violations = [] ↔ c.hasAddress = true ∧ c.hasCredentials = true := by
  rw [c.reports_violations.eq_nil_iff, hasAddress_iff, hasCredentials_iff]
  simp [requirements]

def Violation.OfConnector : Violation → Prop
  | .invalidAddress _ | .missingCredentials _ => True
  | .invalidPath _ | .unknownLevel _ _ => False

theorem reports_pathViolations (path : String) : Reports [.contextPath path] (pathViolations path) := by
  exact .of_check (.contextPath path) isContextPath_iff

theorem reports_levelViolations (logger text : String) :
    Reports [.level logger text] (levelViolations logger text) := by
  exact .of_check (.level logger text) isSome_ofName?_iff

theorem eq_of_mem_pathViolations {path : String} {violation : Violation} (h : violation ∈ pathViolations path) :
    violation = .invalidPath path := by
  unfold pathViolations at h
  split at h
  . cases h
  . exact List.mem_singleton.mp h

theorem eq_of_mem_levelViolations {logger text : String} {violation : Violation}
    (h : violation ∈ levelViolations logger text) : violation = .unknownLevel logger text := by
  unfold levelViolations at h
  split at h
  . cases h
  . exact List.mem_singleton.mp h

end Config

namespace Configuration

open Config (Requirement Reports)

def connectors (c : Configuration) : List Config.Connector :=
  c.server.applicationConnectors ++ c.server.adminConnectors

def requirements (c : Configuration) : List Requirement :=
  c.connectors.flatMap (·.requirements)
    ++
  [.contextPath c.server.applicationPath, .contextPath c.server.adminPath, .level "ROOT" c.logging.level]
    ++
  c.logging.loggers.map .ofLogger

structure Valid (c : Configuration) : Prop where
  addresses : ∀ connector ∈ c.connectors, ∃ address, SocketAddress.parse? connector.address = some address
  credentials : ∀ connector ∈ c.connectors,
    connector.transport = .https → connector.certificate.isSome ∧ connector.privateKey.isSome
  applicationPath : Config.ServesBelow c.server.applicationPath
  adminPath : Config.ServesBelow c.server.adminPath
  rootLevel : Config.NamesLevel c.logging.level
  levels : ∀ entry ∈ c.logging.loggers, Config.NamesLevel entry.2

theorem forall_requirements_iff (c : Configuration) :
    (∀ requirement ∈ c.requirements, requirement.Holds) ↔ c.Valid := by
  unfold requirements Config.Connector.requirements
  simp only [List.forall_mem_append, List.forall_mem_flatMap, List.forall_mem_map, List.forall_mem_cons,
    Keyed.map]
  constructor
  . rintro ⟨⟨hconnectors, happlication, hadmin, hroot, -⟩, hlevels⟩
    exact ⟨fun c hc => (hconnectors c hc).1, fun c hc => (hconnectors c hc).2.1, happlication, hadmin, hroot, hlevels⟩
  . rintro ⟨haddresses, hcredentials, happlication, hadmin, hroot, hlevels⟩
    refine ⟨⟨?_, happlication, hadmin, hroot, nofun⟩, hlevels⟩
    intro c hc
    exact ⟨haddresses c hc, hcredentials c hc, nofun⟩

theorem reports_violations (c : Configuration) :
    Reports c.requirements c.violations := by
  have hconnectors : Reports (c.connectors.flatMap (·.requirements)) (c.connectors.flatMap (·.violations)) :=
    .flatMap fun connector _ => connector.reports_violations
  have hlevels : Reports (c.logging.loggers.entries.flatMap fun entry => [.ofLogger entry])
      (c.logging.loggers.entries.flatMap fun entry => Config.levelViolations entry.1 entry.2) :=
    .flatMap fun entry _ => Config.reports_levelViolations entry.1 entry.2
  have hall : Reports _ c.violations :=
    (((hconnectors.append (Config.reports_pathViolations c.server.applicationPath)).append
      (Config.reports_pathViolations c.server.adminPath)).append
      (Config.reports_levelViolations "ROOT" c.logging.level)).append hlevels
  unfold requirements Keyed.map
  rw [List.map_eq_flatMap]
  simpa only [List.append_assoc, List.cons_append, List.nil_append] using hall

theorem exists_connector_of_violation {c : Configuration} {violation : Config.Violation}
    (h : violation ∈ c.violations) (hconnector : violation.OfConnector) :
    ∃ connector ∈ c.connectors, connector.violations ≠ [] := by
  unfold violations at h
  simp only [List.mem_append, or_assoc] at h
  obtain h | h | h | h | h := h
  . obtain ⟨connector, hmem, hviolation⟩ := List.mem_flatMap.mp h
    exact ⟨connector, hmem, List.ne_nil_of_mem hviolation⟩
  . cases Config.eq_of_mem_pathViolations h
    exact hconnector.elim
  . cases Config.eq_of_mem_pathViolations h
    exact hconnector.elim
  . cases Config.eq_of_mem_levelViolations h
    exact hconnector.elim
  . obtain ⟨entry, -, hviolation⟩ := List.mem_flatMap.mp h
    cases Config.eq_of_mem_levelViolations hviolation
    exact hconnector.elim

theorem connector_violations_eq_nil {c : Configuration} (h : c.violations = []) :
    ∀ connector ∈ c.connectors, connector.violations = [] := by
  unfold violations at h
  simp only [List.append_eq_nil_iff, List.flatMap_eq_nil_iff] at h
  exact h.1.1.1.1

theorem violations_of_validated {c : Configuration} (h : c.validated = .ok c) : c.violations = [] := by
  unfold validated at h
  split at h
  . assumption
  . cases h

theorem violations_of_invalid {c : Configuration} {violations : List Config.Violation}
    (h : c.validated = .error (.invalid violations)) : c.violations = violations := by
  unfold validated at h
  split at h
  . cases h
  . cases h
    rfl

/--
A configuration is accepted exactly if it is valid. Otherwise there is one violation for each requirement that is
not met, in the order of the requirements; so whatever is changed about some of them, the violations of the others
stay, and none is left of those that are met now.
-/
theorem validated_by_requirements (c : Configuration) :
    (c.validated = .ok c ↔ c.Valid)
      ∧
    (¬ c.Valid →
      ∃ violations, c.validated = .error (.invalid violations) ∧ Reports c.requirements violations)
      ∧
    ∀ (changed : Configuration) (before old new after : List Requirement),
      c.requirements = before ++ old ++ after →
      changed.requirements = before ++ new ++ after →
      ∃ first own own' last,
        c.violations = first ++ own ++ last
          ∧
        changed.violations = first ++ own' ++ last
          ∧
        Reports before first ∧ Reports old own ∧ Reports new own' ∧ Reports after last
          ∧
        ((∀ requirement ∈ new, requirement.Holds) → changed.violations = first ++ last) := by
  have hreports := reports_violations c
  have hvalid : c.violations = [] ↔ c.Valid := hreports.eq_nil_iff.trans c.forall_requirements_iff
  refine ⟨?_, ?_, ?_⟩
  . rw [← hvalid]
    unfold validated
    split
    . next hnone => exact iff_of_true rfl hnone
    . next hsome => exact iff_of_false nofun hsome
  . intro hnot
    refine ⟨c.violations, ?_, hreports⟩
    unfold validated
    rw [if_neg (mt hvalid.mp hnot)]
  . intro changed before old new after hold hnew
    have hreports' := reports_violations changed
    rw [hold] at hreports
    rw [hnew] at hreports'
    obtain ⟨front, last, heq, hfront, hlast⟩ := hreports.of_append
    obtain ⟨first, own, rfl, hfirst, hown⟩ := hfront.of_append
    obtain ⟨front', last', heq', hfront', hlast'⟩ := hreports'.of_append
    obtain ⟨first', own', rfl, hfirst', hown'⟩ := hfront'.of_append
    obtain rfl := hfirst.unique hfirst'
    obtain rfl := hlast.unique hlast'
    refine ⟨first, own, own', last, heq, heq', hfirst, hown, hown', hlast, ?_⟩
    intro hholds
    rw [heq', hown'.eq_nil_iff.mpr hholds, List.append_nil]

def brokenBelow (adminPath : String) : Configuration :=
  { default with
    server :=
      { Config.Server.default with
        applicationConnectors := [⟨.https, "0.0.0.0", some "tls.crt", none⟩]
        adminConnectors := [.http "localhost"]
        adminPath }
    logging := ⟨"LOUD", .text, ⟨[("shop::db", "debug"), ("shop::web", "chatty")], by decide +kernel⟩⟩ }

theorem requirements_brokenBelow (adminPath : String) :
    (brokenBelow adminPath).requirements
      =
    [.address ⟨.https, "0.0.0.0", some "tls.crt", none⟩, .credentials ⟨.https, "0.0.0.0", some "tls.crt", none⟩,
      .address (.http "localhost"), .credentials (.http "localhost"), .contextPath "/"]
      ++
    [.contextPath adminPath]
      ++
    [.level "ROOT" "LOUD", .level "shop::db" "debug", .level "shop::web" "chatty"] := by
  rfl

theorem validated_brokenBelow :
    ¬ (brokenBelow "/a//:b").Valid
      ∧
    (brokenBelow "/a//:b").validated
      =
    .error (.invalid
      [.invalidAddress "0.0.0.0", .missingCredentials "0.0.0.0", .invalidAddress "localhost", .invalidPath "/a//:b",
        .unknownLevel "ROOT" "LOUD", .unknownLevel "shop::web" "chatty"])
      ∧
    ∃ first last,
      (brokenBelow "/a//:b").violations = first ++ [.invalidPath "/a//:b"] ++ last
        ∧
      (brokenBelow "/ops/").violations = first ++ last := by
  have hbroken : ¬ Config.ServesBelow "/a//:b" := by
    rw [← Config.isContextPath_iff]
    decide
  have hmended : Config.ServesBelow "/ops/" := Config.isContextPath_iff.mp (by decide)
  have hnot : ¬ (brokenBelow "/a//:b").Valid := fun hvalid => hbroken hvalid.adminPath
  obtain ⟨-, hinvalid, hchanged⟩ := validated_by_requirements (brokenBelow "/a//:b")
  refine ⟨hnot, ?_, ?_⟩
  . obtain ⟨violations, hvalidated, hreports⟩ := hinvalid hnot
    rw [hvalidated, hreports.unique (reports_violations _)]
    have hlist : (brokenBelow "/a//:b").violations
          =
        [.invalidAddress "0.0.0.0", .missingCredentials "0.0.0.0", .invalidAddress "localhost", .invalidPath "/a//:b",
          .unknownLevel "ROOT" "LOUD", .unknownLevel "shop::web" "chatty"] := by
      decide +kernel
    rw [hlist]
  . obtain ⟨first, own, own', last, heq, -, -, hown, -, -, hmends⟩ :=
      hchanged (brokenBelow "/ops/") _ _ _ _ (requirements_brokenBelow _) (requirements_brokenBelow _)
    refine ⟨first, last, ?_, hmends (List.forall_mem_singleton.mpr hmended)⟩
    rw [heq, hown.unique (.fails hbroken .nil)]
    rfl

end Configuration

end ServiceHost
