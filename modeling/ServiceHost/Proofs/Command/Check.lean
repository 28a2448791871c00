import ServiceHost.Proofs.Command.Server

/-!
This module contains what the check of a configuration tells about the run of a service with the same
arguments: it succeeds exactly if the run gets as far as its first stage, and fails with the error of the run
otherwise. Nothing of a stage happens in it.
-/

namespace ServiceHost.Command

variable {σ : Type}

def Definition.called (command : Definition σ) (launch : Launch σ) (arguments : List String) : Launch σ :=
  { launch with arguments := command.name :: arguments }

def Definition.invoke (command : Definition σ) (launch : Launch σ) (arguments : List String) :
    Action σ (Except RunError Unit) :=
  command.run (command.called launch arguments)

inductive Reads (source : ConfigSource σ) (arguments : List String) (world : World σ) :
    Except Fault (Except RunError Configuration) × World σ → Prop where
  | refused {e : UsageError} :
    fileArgument arguments = .error e →
    Reads source arguments world (.ok (.error (.arguments e)), world)
  | failed {path : Option String} {e : ConfigError} {after : World σ} :
    fileArgument arguments = .ok path →
    (source path).exec world = (.ok (.error e), after) →
    Reads source arguments world (.ok (.error (.config e)), after)
  | fault {path : Option String} {fault : Fault} {after : World σ} :
    fileArgument arguments = .ok path →
    (source path).exec world = (.error fault, after) →
    Reads source arguments world (.error fault, after)
  | built {path : Option String} {c : Configuration} {after : World σ} :
    fileArgument arguments = .ok path →
    (source path).exec world = (.ok (.ok c), after) →
    Reads source arguments world (.ok (.ok c), after)

def GetsPast (launch : Launch σ) (arguments : List String) (world : World σ) : Prop :=
  ∃ (path : Option String) (c : Configuration) (after : World σ) (site : Site σ),
    fileArgument arguments = .ok path
      ∧
    (launch.source path).exec world = (.ok (.ok c), after)
      ∧
    (opening (server.called launch arguments) c).exec after = (.ok site.1, site.2)
      ∧
    ∀ outcome, (server.invoke launch arguments).exec world = outcome
      ↔
    Stages (server.called launch arguments) c site outcome

inductive IsEarly : RunError → Prop where
  | arguments (e : UsageError) : IsEarly (.arguments e)
  | config (e : ConfigError) : IsEarly (.config e)

/-- A check in one world tells how a run of the service in another one fares up to its first stage. -/
structure Foretells (launch : Launch σ) (arguments : List String) (world world' : World σ) : Prop where
  ok : ((check.invoke launch arguments).exec world).1 = .ok (.ok ()) ↔ GetsPast launch arguments world'
  error : ∀ e, ((check.invoke launch arguments).exec world).1 = .ok (.error e)
      ↔
    ((server.invoke launch arguments).exec world').1 = .ok (.error e) ∧ IsEarly e
  fault : ∀ fault, ((check.invoke launch arguments).exec world).1 = .error fault →
    ((server.invoke launch arguments).exec world').1 = .error fault

/--
A check leaves the world that the source of the configuration leaves, with a line of output at most. It
neither knows the application nor its bundles.
-/
structure Harmless (launch : Launch σ) (arguments : List String) (world : World σ) : Prop where
  refused : ∀ e, fileArgument arguments = .error e → ((check.invoke launch arguments).exec world).2 = world
  read : ∀ path, fileArgument arguments = .ok path →
    ∃ text ∈ ["", "Configuration is OK\n"],
      ((check.invoke launch arguments).exec world).2
        =
      { ((launch.source path).exec world).2 with
        output := ((launch.source path).exec world).2.output ++ text }
  blind : ∀ other : Launch σ, other.source = launch.source →
    (check.invoke other arguments).exec world = (check.invoke launch arguments).exec world

theorem exists_reads (source : ConfigSource σ) (arguments : List String) (world : World σ) :
    ∃ outcome, Reads source arguments world outcome := by
  cases hfile : fileArgument arguments with
  | error e => exact ⟨_, .refused hfile⟩
  | ok path =>
    cases hsource : (source path).exec world with
    | mk result after =>
      cases result with
      | error fault => exact ⟨_, .fault hfile hsource⟩
      | ok result =>
        cases result with
        | error e => exact ⟨_, .failed hfile hsource⟩
        | ok c => exact ⟨_, .built hfile hsource⟩

namespace Reads

variable {source : ConfigSource σ} {arguments : List String} {world world' : World σ}
  {outcome outcome' : Except Fault (Except RunError Configuration) × World σ}

theorem configuration_exec {launch : Launch σ} (h : Reads launch.source arguments world outcome)
    (command : Definition σ) : (configuration (command.called launch arguments)).exec world = outcome := by
  unfold configuration Definition.called
  rw [List.drop_one, List.tail_cons]
  cases h with
  | refused hfile =>
    rw [hfile]
    rfl
  | failed hfile hsource =>
    rw [hfile]
    dsimp only
    rw [Action.exec_bind_ok hsource]
    rfl
  | fault hfile hsource =>
    rw [hfile]
    dsimp only
    rw [Action.exec_bind_error hsource]
  | built hfile hsource =>
    rw [hfile]
    dsimp only
    rw [Action.exec_bind_ok hsource]
    rfl

theorem alike (halike : ∀ path, ((source path).exec world).1 = ((source path).exec world').1)
    (h : Reads source arguments world outcome) :
    ∃ after, Reads source arguments world' (outcome.1, after) := by
  have hanswer {path : Option String} {result : Except Fault (Except ConfigError Configuration)} {after : World σ}
      (hsource : (source path).exec world = (result, after)) :
      (source path).exec world' = (result, ((source path).exec world').2) := by
    have hresult := halike path
    rw [hsource] at hresult
    exact Prod.ext hresult.symm rfl
  cases h with
  | refused hfile => exact ⟨_, .refused hfile⟩
  | failed hfile hsource => exact ⟨_, .failed hfile (hanswer hsource)⟩
  | fault hfile hsource => exact ⟨_, .fault hfile (hanswer hsource)⟩
  | built hfile hsource => exact ⟨_, .built hfile (hanswer hsource)⟩

end Reads

section

variable {launch : Launch σ} {arguments : List String} {world after : World σ}

theorem check_exec_of_error {e : RunError} (h : Reads launch.source arguments world (.ok (.error e), after)) :
    (check.invoke launch arguments).exec world = (.ok (.error e), after) := by
  unfold Definition.invoke check
  dsimp only
  rw [Action.exec_bind_ok (h.configuration_exec _)]
  rfl

theorem check_exec_of_fault {fault : Fault} (h : Reads launch.source arguments world (.error fault, after)) :
    (check.invoke launch arguments).exec world = (.error fault, after) := by
  unfold Definition.invoke check
  dsimp only
  rw [Action.exec_bind_error (h.configuration_exec _)]

theorem check_exec_of_ok {c : Configuration} (h : Reads launch.source arguments world (.ok (.ok c), after)) :
    (check.invoke launch arguments).exec world
      =
    (.ok (.ok ()), { after with output := after.output ++ "Configuration is OK\n" }) := by
  unfold Definition.invoke check
  dsimp only
  rw [Action.exec_bind_ok (h.configuration_exec _)]
  rfl

theorem server_exec_of_error {e : RunError} (h : Reads launch.source arguments world (.ok (.error e), after)) :
    (server.invoke launch arguments).exec world = (.ok (.error e), after) := by
  unfold Definition.invoke server
  dsimp only
  rw [Action.exec_bind_ok (h.configuration_exec _)]
  rfl

theorem server_exec_of_fault {fault : Fault} (h : Reads launch.source arguments world (.error fault, after)) :
    (server.invoke launch arguments).exec world = (.error fault, after) := by
  unfold Definition.invoke server
  dsimp only
  rw [Action.exec_bind_error (h.configuration_exec _)]

theorem getsPast_of_built {path : Option String} {c : Configuration} (hfile : fileArgument arguments = .ok path)
    (hsource : (launch.source path).exec world = (.ok (.ok c), after)) : GetsPast launch arguments world := by
  have hreads : Reads launch.source arguments world (.ok (.ok c), after) := .built hfile hsource
  obtain ⟨site, hopening, -, -, hstages⟩ := server_run_iff_stages (hreads.configuration_exec server)
  exact ⟨path, c, after, site, hfile, hsource, hopening, hstages⟩

end

theorem exists_of_served {outcome : Except Fault (Except Serving.ServerError Unit) × World σ} {e : RunError}
    (h : (served outcome).1 = .ok (.error e)) : ∃ reason, e = .server reason := by
  rcases outcome with ⟨result, world⟩
  cases result with
  | error fault => cases h
  | ok result =>
    cases result with
    | ok => cases h
    | error reason =>
      cases h
      exact ⟨reason, rfl⟩

theorem Stages.not_isEarly {launch : Launch σ} {c : Configuration} {site : Site σ}
    {outcome : Except Fault (Except RunError Unit) × World σ} (h : Stages launch c site outcome) {e : RunError}
    (he : outcome.1 = .ok (.error e)) : ¬ IsEarly e := by
  intro hearly
  cases h with
  | bundle _ _ hbreaks =>
    cases hbreaks with
    | failed =>
      cases he
      cases hearly
    | fault => cases he
  | application _ hbreaks =>
    cases hbreaks with
    | failed =>
      cases he
      cases hearly
    | fault => cases he
  | connector =>
    cases he
    cases hearly
  | serving =>
    obtain ⟨reason, rfl⟩ := exists_of_served he
    cases hearly

theorem GetsPast.not_isEarly {launch : Launch σ} {arguments : List String} {world : World σ}
    (h : GetsPast launch arguments world) {e : RunError}
    (he : ((server.invoke launch arguments).exec world).1 = .ok (.error e)) : ¬ IsEarly e := by
  obtain ⟨path, c, after, site, -, -, -, hstages⟩ := h
  exact ((hstages _).mp rfl).not_isEarly he

theorem not_getsPast {launch : Launch σ} {arguments : List String} {world after : World σ}
    {result : Except Fault (Except RunError Configuration)}
    (h : Reads launch.source arguments world (result, after)) (hresult : ∀ c, result ≠ .ok (.ok c)) :
    ¬ GetsPast launch arguments world := by
  rintro ⟨path, c, after', site, hfile, hsource, -, -⟩
  have hbuilt : Reads launch.source arguments world (.ok (.ok c), after') := .built hfile hsource
  have heq := (h.configuration_exec check).symm.trans (hbuilt.configuration_exec check)
  exact hresult c (congrArg Prod.fst heq)

theorem Reads.isEarly {source : ConfigSource σ} {arguments : List String} {world after : World σ} {e : RunError}
    (h : Reads source arguments world (.ok (.error e), after)) : IsEarly e := by
  cases h with
  | refused => exact .arguments _
  | failed => exact .config _

theorem foretells_of_alike {launch : Launch σ} {arguments : List String} {world world' : World σ}
    (halike : ∀ path, ((launch.source path).exec world).1 = ((launch.source path).exec world').1) :
    Foretells launch arguments world world' := by
  obtain ⟨⟨result, after⟩, hreads⟩ := exists_reads launch.source arguments world
  obtain ⟨after', hreads'⟩ := hreads.alike halike
  dsimp only at hreads'
  cases result with
  | error fault =>
    have hpast := not_getsPast hreads' (by simp)
    have hcheck := check_exec_of_fault hreads
    have hserver := server_exec_of_fault hreads'
    constructor
    case ok => simp [hcheck, hpast]
    case error => simp [hcheck, hserver]
    case fault => simp [hcheck, hserver]
  | ok result =>
    cases result with
    | error e =>
      have hpast := not_getsPast hreads' (by simp)
      have hcheck := check_exec_of_error hreads
      have hserver := server_exec_of_error hreads'
      constructor
      case ok => simp [hcheck, hpast]
      case error =>
        intro other
        rw [hcheck, hserver]
        constructor
        . intro heq
          cases heq
          exact ⟨rfl, hreads.isEarly⟩
        . exact And.left
      case fault => simp [hcheck]
    | ok c =>
      have hcheck := check_exec_of_ok hreads
      cases hreads' with
      | built hfile hsource =>
        have hpast := getsPast_of_built hfile hsource
        constructor
        case ok => simp [hcheck, hpast]
        case error =>
          intro e
          rw [hcheck]
          constructor
          . intro heq
            cases heq
          . rintro ⟨he, hearly⟩
            exact absurd hearly (hpast.not_isEarly he)
        case fault => simp [hcheck]

theorem harmless_check (launch : Launch σ) (arguments : List String) (world : World σ) :
    Harmless launch arguments world := by
  constructor
  case refused =>
    intro e hfile
    rw [check_exec_of_error (.refused hfile)]
  case read =>
    intro path hfile
    cases hsource : (launch.source path).exec world with
    | mk result after =>
      cases result with
      | error fault =>
        rw [check_exec_of_fault (.fault hfile hsource)]
        exact ⟨"", by simp, by simp⟩
      | ok result =>
        cases result with
        | error e =>
          rw [check_exec_of_error (.failed hfile hsource)]
          exact ⟨"", by simp, by simp⟩
        | ok c =>
          rw [check_exec_of_ok (.built hfile hsource)]
          exact ⟨"Configuration is OK\n", by simp, rfl⟩
  case blind =>
    intro other hsource
    unfold Definition.invoke Definition.called check configuration
    rw [hsource]

/--
Whatever the bundles, the application and the arguments behind the name of the command are: a check is a
faithful dry run of the service in every world where the source of the configuration answers alike. It does
nothing to its own world but what the source does, and print a line.
-/
theorem check_is_dry_run (launch : Launch σ) (arguments : List String) (world world' : World σ)
    (halike : ∀ path, ((launch.source path).exec world).1 = ((launch.source path).exec world').1) :
    Foretells launch arguments world world' ∧ Harmless launch arguments world :=
  ⟨foretells_of_alike halike, harmless_check launch arguments world⟩

theorem files_alike {world world' : World σ} (h : world.host.files = world'.host.files) (path : Option String) :
    ((ConfigSource.files path).exec world).1 = ((ConfigSource.files path).exec world').1 := by
  show Except.ok (Configuration.loadOrDefault path world.host.files) = _
  rw [h]
  rfl

def filedLaunch : Launch (List String) :=
  { failingLaunch with source := .files }

theorem check_is_dry_run_of_filedLaunch :
    (∀ path, ((filedLaunch.source path).exec (.idle [])).1 = ((filedLaunch.source path).exec (.idle ["on"])).1)
      ∧
    ((check.invoke filedLaunch []).exec (.idle [])).1 = .ok (.ok ())
      ∧
    GetsPast filedLaunch [] (.idle ["on"])
      ∧
    ((check.invoke filedLaunch ["a", "b"]).exec (.idle [])).2 = .idle []
      ∧
    ((server.invoke filedLaunch ["a", "b"]).exec (.idle ["on"])).1
      =
    .ok (.error (.arguments .unknownArgument)) := by
  have halike : ∀ path, ((filedLaunch.source path).exec (.idle [])).1
      = ((filedLaunch.source path).exec (.idle ["on"])).1 := files_alike rfl
  have hchecked : ((check.invoke filedLaunch []).exec (.idle [])).1 = .ok (.ok ()) := by rfl
  have hrefused : ((check.invoke filedLaunch ["a", "b"]).exec (.idle [])).1
      = .ok (.error (.arguments .unknownArgument)) := by rfl
  obtain ⟨hforetells, -⟩ := check_is_dry_run filedLaunch [] (.idle []) (.idle ["on"]) halike
  obtain ⟨hforetells', hharmless⟩ := check_is_dry_run filedLaunch ["a", "b"] (.idle []) (.idle ["on"]) halike
  refine ⟨halike, hchecked, hforetells.ok.mp hchecked, ?_, ((hforetells'.error _).mp hrefused).1⟩
  exact hharmless.refused .unknownArgument rfl

end ServiceHost.Command
