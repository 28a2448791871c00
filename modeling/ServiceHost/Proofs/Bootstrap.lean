import ServiceHost.Application
import ServiceHost.Proofs.Setup

/-!
This module contains what becomes of an application whose bundles add bundles and commands themselves, to
any depth: the order of the initializations, the order of the setup, and the command that is selected.
-/

namespace ServiceHost

variable {σ : Type}

structure Bundle (σ : Type) where
  enter : Action σ Unit
  run : SetupHook σ

inductive Forest (σ : Type) where
  | nil
  | bundle (bundle : Bundle σ) (additions : Forest σ) (rest : Forest σ)
  | command (command : Command.Definition σ) (rest : Forest σ)
  | source (source : ConfigSource σ) (rest : Forest σ)

namespace Forest

def steps : Forest σ → List (InitStep σ)
  | .nil => []
  | .bundle b additions rest =>
    .bundle (.perform b.enter :: additions.steps) b.run :: rest.steps
  | .command c rest => .command c :: rest.steps
  | .source s rest => .source s :: rest.steps

def preorder : Forest σ → List (Bundle σ)
  | .nil => []
  | .bundle b additions rest => b :: additions.preorder ++ rest.preorder
  | .command _ rest => rest.preorder
  | .source _ rest => rest.preorder

def postorder : Forest σ → List (Bundle σ)
  | .nil => []
  | .bundle b additions rest => additions.postorder ++ b :: rest.postorder
  | .command _ rest => rest.postorder
  | .source _ rest => rest.postorder

def commands : Forest σ → List (Command.Definition σ)
  | .nil => []
  | .bundle _ additions rest => additions.commands ++ rest.commands
  | .command c rest => c :: rest.commands
  | .source _ rest => rest.commands

def lastSource (before : ConfigSource σ) : Forest σ → ConfigSource σ
  | .nil => before
  | .bundle _ additions rest => rest.lastSource (additions.lastSource before)
  | .command _ rest => rest.lastSource before
  | .source s rest => rest.lastSource s

theorem postorder_perm_preorder (forest : Forest σ) : forest.postorder.Perm forest.preorder := by
  induction forest with
  | nil => exact .refl _
  | bundle bundle additions rest ihadditions ihrest =>
    unfold postorder preorder
    apply List.perm_middle.trans
    apply List.Perm.cons
    exact ihadditions.append ihrest
  | command _ _ ih => exact ih
  | source _ _ ih => exact ih

def addTo (forest : Forest σ) (b : Bootstrap σ) : Bootstrap σ where
  launch := { b.launch with
    bundles := b.launch.bundles ++ forest.postorder.map (·.run)
    source := forest.lastSource b.launch.source }
  commands := b.commands ++ forest.commands

theorem addTo_bundle (bundle : Bundle σ) (additions rest : Forest σ) (b : Bootstrap σ) :
    (Forest.bundle bundle additions rest).addTo b = rest.addTo ((additions.addTo b).addBundle bundle.run) := by
  simp [addTo, Bootstrap.addBundle, postorder, commands, lastSource]

theorem addTo_command (command : Command.Definition σ) (rest : Forest σ) (b : Bootstrap σ) :
    (Forest.command command rest).addTo b = rest.addTo (b.addCommand command) := by
  simp [addTo, Bootstrap.addCommand, postorder, commands, lastSource]

theorem addTo_source (source : ConfigSource σ) (rest : Forest σ) (b : Bootstrap σ) :
    (Forest.source source rest).addTo b = rest.addTo (b.setSource source) := by
  simp [addTo, Bootstrap.setSource, postorder, commands, lastSource]

theorem takeAll_steps (forest : Forest σ) (b : Bootstrap σ) :
    b.takeAll forest.steps = (do
      forM forest.preorder Bundle.enter
      return forest.addTo b) := by
  -- the additions of a bundle come before the bundle itself, so both hypotheses need their own start
  induction forest generalizing b with
  | nil =>
    unfold steps Bootstrap.takeAll preorder
    rw [List.forM_nil, pure_bind]
    simp [addTo, postorder, commands, lastSource]
  | bundle bundle additions rest ihadditions ihrest =>
    unfold steps
    rw [Bootstrap.takeAll, Bootstrap.take, Bootstrap.takeAll, Bootstrap.take]
    unfold preorder
    rw [List.cons_append, List.forM_cons, List.forM_append]
    simp only [bind_assoc, pure_bind]
    congr 1
    funext _
    rw [ihadditions]
    simp only [bind_assoc, pure_bind]
    congr 1
    funext _
    rw [ihrest, addTo_bundle]
  | command command rest ih =>
    unfold steps
    rw [Bootstrap.takeAll, Bootstrap.take, pure_bind, ih, addTo_command]
    rfl
  | source source rest ih =>
    unfold steps
    rw [Bootstrap.takeAll, Bootstrap.take, pure_bind, ih, addTo_source]
    rfl

end Forest

namespace Bootstrap

theorem selected?_of_first {b : Bootstrap σ} {name : String} {rest : List String}
    {before after : List (Command.Definition σ)} {command : Command.Definition σ}
    (harguments : b.launch.arguments = name :: rest) (hcommands : b.commands = before ++ command :: after)
    (hname : command.name = name) (hbefore : ∀ earlier ∈ before, earlier.name ≠ name) :
    b.selected? = some command := by
  unfold selected?
  rw [harguments]
  dsimp only
  rw [hcommands, List.find?_eq_some_iff_append]
  refine ⟨by simpa using hname, before, after, rfl, ?_⟩
  intro earlier hearlier
  simpa using hbefore earlier hearlier

theorem selected?_of_none {b : Bootstrap σ}
    (h : ∀ name, b.launch.arguments.head? = some name → ∀ command ∈ b.commands, command.name ≠ name) :
    b.selected? = none := by
  unfold selected?
  split
  . rfl
  . next name rest harguments =>
    rw [List.find?_eq_none]
    intro command hcommand
    rw [harguments] at h
    simpa using h name rfl command hcommand

end Bootstrap

namespace Application

theorem bootstrap_eq {app : Application σ} {forest : Forest σ} (hsteps : app.steps = forest.steps)
    (arguments : List String) (session : Session σ) :
    app.bootstrap arguments session = (do
      forM forest.preorder Bundle.enter
      return ⟨⟨app.name, app.setUp, arguments, forest.postorder.map (·.run), forest.lastSource .files, session⟩,
        Command.server :: Command.check :: forest.commands⟩) := by
  unfold bootstrap
  rw [hsteps, Forest.takeAll_steps]
  rfl

/--
An application that adds a forest initializes its bundles in preorder and lets them do their setup in
postorder. The first argument selects the earliest of its commands; without a match the list of them is printed
behind whatever the initialization has printed, and nothing else happens.
-/
theorem run_of_forest {app : Application σ} {forest : Forest σ} (hsteps : app.steps = forest.steps)
    (arguments : List String) (session : Session σ) :
    let launch : Launch σ :=
      ⟨app.name, app.setUp, arguments, forest.postorder.map (·.run), forest.lastSource .files, session⟩
    let commands := Command.server :: Command.check :: forest.commands
    let catalogue := "Available commands:\n" ++ String.join (commands.map fun command =>
      "    " ++ command.name ++ "\t" ++ command.description ++ "\n")
    app.bootstrap arguments session = (do
      forM forest.preorder Bundle.enter
      return ⟨launch, commands⟩)
      ∧
    forest.postorder.Perm forest.preorder
      ∧
    (∀ (c : Configuration) (site site' : Site σ),
      ((launch.runBundles c).run site.1).exec site.2 = (.ok (.ok (), site'.1), site'.2)
        ↔
      Succeed c (forest.postorder.map (·.run)) site site')
      ∧
    (∀ name rest before command after,
      arguments = name :: rest →
      commands = before ++ command :: after →
      command.name = name →
      (∀ earlier ∈ before, earlier.name ≠ name) →
        app.run arguments session = (do
          forM forest.preorder Bundle.enter
          command.run launch))
      ∧
    ((∀ name, arguments.head? = some name → ∀ command ∈ commands, command.name ≠ name) →
      app.run arguments session = (do
        forM forest.preorder Bundle.enter
        Action.print catalogue
        return .ok ())
        ∧
      ∀ world initialized,
        (forM forest.preorder Bundle.enter : Action σ PUnit).exec world = (.ok (), initialized) →
          (app.run arguments session).exec world
            =
          (.ok (.ok ()), { initialized with output := initialized.output ++ catalogue })) := by
  intro launch commands catalogue
  have hbootstrap := bootstrap_eq hsteps arguments session
  refine ⟨hbootstrap, forest.postorder_perm_preorder, ?_, ?_, ?_⟩
  . intro c site site'
    exact Launch.runHooks_exec_iff
  . intro name rest before command after harguments hcommands hname hbefore
    have hselected : Bootstrap.selected? ⟨launch, commands⟩ = some command :=
      Bootstrap.selected?_of_first harguments hcommands hname hbefore
    unfold run
    rw [hbootstrap]
    simp only [bind_assoc, pure_bind]
    rw [hselected]
  . intro hnone
    have hselected : Bootstrap.selected? ⟨launch, commands⟩ = none := Bootstrap.selected?_of_none hnone
    have hrun : app.run arguments session = (do
        forM forest.preorder Bundle.enter
        Action.print catalogue
        return .ok ()) := by
      unfold run
      rw [hbootstrap]
      simp only [bind_assoc, pure_bind]
      rw [hselected]
      rfl
    refine ⟨hrun, ?_⟩
    intro world initialized hinitialized
    rw [hrun, Action.exec_bind_ok hinitialized]
    rfl

def historian (name : String) : Bundle (List String) :=
  ⟨writes name, tells name (.ok ())⟩

def chronicler (name entry : String) : Command.Definition (List String) :=
  ⟨name, "Keeps a history", fun _ => do
    writes entry
    return .ok ()⟩

def nestedForest : Forest (List String) :=
  .bundle (historian "outer") (.bundle (historian "inner") .nil (.command (chronicler "echo" "first") .nil))
    (.command (chronicler "echo" "second") (.bundle (historian "last") .nil .nil))

def nestedApplication : Application (List String) :=
  ⟨"app", nestedForest.steps, tells "app" (.ok ())⟩

theorem run_of_nestedForest :
    nestedApplication.steps = nestedForest.steps
      ∧
    (∃ world,
      (nestedApplication.run ["echo"] ⟨fun _ => [.shutdown], .terminate⟩).exec (.idle []) = (.ok (.ok ()), world)
        ∧
      world.state = ["outer", "inner", "last", "first"])
      ∧
    ∃ world,
      (nestedApplication.run ["ech"] ⟨fun _ => [.shutdown], .terminate⟩).exec (.idle []) = (.ok (.ok ()), world)
        ∧
      world.output
        =
      "Available commands:\n    server\tRuns the application as an HTTP server\n" ++
        "    check\tParses and validates the configuration file\n" ++
        "    echo\tKeeps a history\n    echo\tKeeps a history\n" := by
  have hsteps : nestedApplication.steps = nestedForest.steps := rfl
  refine ⟨hsteps, ?_, ?_⟩
  . obtain ⟨-, -, -, hrun, -⟩ := run_of_forest hsteps ["echo"] ⟨fun _ => [.shutdown], .terminate⟩
    have hbefore : ∀ earlier ∈ [Command.server, Command.check (σ := List String)], earlier.name ≠ "echo" := by
      simp only [List.forall_mem_cons]
      decide
    rw [hrun "echo" [] _ (chronicler "echo" "first") _ rfl rfl rfl hbefore]
    exact ⟨_, rfl, rfl⟩
  . obtain ⟨-, -, -, -, hlist⟩ := run_of_forest hsteps ["ech"] ⟨fun _ => [.shutdown], .terminate⟩
    have hnone : ∀ name, ["ech"].head? = some name →
        ∀ command ∈ Command.server :: Command.check :: nestedForest.commands, command.name ≠ name := by
      rintro name ⟨⟩
      simp only [nestedForest, Forest.commands, List.cons_append, List.nil_append, List.forall_mem_cons]
      decide
    exact ⟨_, (hlist hnone).2 (.idle []) _ rfl, by decide +kernel⟩

end Application

end ServiceHost
