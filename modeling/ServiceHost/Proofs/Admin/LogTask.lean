import ServiceHost.Admin.Task
import ServiceHost.Proofs.Log.Giving
import ServiceHost.Proofs.Text.Pieces

/-!
This module contains what one execution of the log task does to the levels, and that its report can be read
back: it shows the loggers that can have a level, with the levels after all changes.
-/

namespace ServiceHost

variable {σ : Type}

namespace Admin.Task

open Log (Level Levels)

theorem setLevels_exec {level : Level} {levels last : Levels} {loggers takers : List String}
    (h : Levels.Sets level levels loggers takers last) {world : World σ} (hworld : world.levels = levels) :
    ∃ after, (setLevels level loggers).exec world = (.ok (), after) ∧ after.levels = last := by
  induction h generalizing world with
  | nil levels => exact ⟨world, rfl, hworld⟩
  | @taken levels last logger loggers takers haccepts _ ih =>
    have hset := Action.setLevel_exec logger level world
    rw [hworld, Levels.set_of_accepts haccepts] at hset
    unfold setLevels
    rw [Action.exec_bind_ok hset, if_pos rfl, Action.exec_bind_ok (Action.exec_log ..)]
    apply ih
    rw [World.levels_record, World.levels_refilter]
    rfl
  | @skipped levels last logger loggers takers hrefused _ ih =>
    have hset := Action.setLevel_exec logger level world
    unfold setLevels
    rw [hworld] at hset
    cases Levels.set_of_not_accepts hrefused level with
    | inl hunsupported =>
      rw [hunsupported] at hset
      rw [Action.exec_bind_ok hset]
      exact ih hworld
    | inr hfull =>
      rw [hfull] at hset
      rw [Action.exec_bind_ok hset]
      exact ih hworld

/-! The following is about the report. -/

def canHaveLevel (logger : String) : Bool :=
  logger = Log.rootLogger || Log.isDynamic logger

/-- The level of such a logger: the one of the root, its own, or the one of the root for want of its own. -/
def levelOf (levels : Levels) (logger : String) : Level :=
  if logger = Log.rootLogger then levels.root else (levels.overrides.find? logger).getD levels.root

def reported (levels : Levels) (loggers : List String) : List (String × Level) :=
  (loggers.filter canHaveLevel).map fun logger => (logger, levelOf levels logger)

def cutLine? : List Char → Option (List Char × List Char)
  | [] => none
  | ':' :: ' ' :: value => some ([], value)
  | c :: rest => (cutLine? rest).map fun (name, value) => (c :: name, value)

def readLine? (line : List Char) : Option (String × Level) := do
  let (name, value) ← cutLine? line
  let level ← Level.every.find? (·.name = .ofList value)
  return (.ofList name, level)

def readReport? (body : String) : Option (List (String × Level)) :=
  let lines := Text.pieces '\n' body.toList
  if lines.getLast? = some [] then lines.dropLast.mapM readLine? else none

theorem level?_eq (levels : Levels) (logger : String) :
    levels.level? logger = if canHaveLevel logger then some (levelOf levels logger) else none := by
  unfold Levels.level? canHaveLevel levelOf
  by_cases hroot : logger = Log.rootLogger
  . simp [hroot]
  . simp [hroot]

theorem canHaveLevel_iff {logger : String} : canHaveLevel logger = true ↔ logger = "ROOT" ∨ Log.Dynamic logger := by
  unfold canHaveLevel
  rw [Bool.or_eq_true, decide_eq_true_eq, Log.isDynamic_iff]
  rfl

theorem space_notMem {logger : String} (h : canHaveLevel logger = true) :
    ' ' ∉ logger.toList ∧ '\n' ∉ logger.toList := by
  cases canHaveLevel_iff.mp h with
  | inl hroot =>
    subst hroot
    decide
  | inr hdynamic =>
    constructor
    all_goals
      intro hmem
      exact absurd (hdynamic.unmarked _ hmem).1 (by decide)

def lineOf (entry : String × Level) : List Char :=
  entry.1.toList ++ ':' :: ' ' :: entry.2.name.toList

theorem levelLines_toList (levels : Levels) (loggers : List String) :
    (levelLines levels loggers).toList = ((reported levels loggers).map lineOf).flatMap (· ++ ['\n']) := by
  unfold levelLines reported
  induction loggers with
  | nil => rfl
  | cons logger loggers ih =>
    rw [List.filterMap_cons, List.filter_cons, level?_eq]
    by_cases h : canHaveLevel logger = true
    . rw [if_pos h, if_pos h, Option.map_some, List.map_cons, List.map_cons, List.flatMap_cons, String.join_cons]
      rw [String.toList_append, ih]
      simp [lineOf]
    . rw [if_neg h, if_neg h, Option.map_none, ih]

theorem pieces_lines {lines : List (List Char)} (h : ∀ line ∈ lines, '\n' ∉ line) :
    Text.pieces '\n' (lines.flatMap (· ++ ['\n'])) = lines ++ [[]] := by
  induction lines with
  | nil => rfl
  | cons line lines ih =>
    obtain ⟨hline, hlines⟩ := List.forall_mem_cons.mp h
    rw [List.flatMap_cons, List.append_assoc, List.singleton_append, Text.pieces_append, ih hlines]
    rw [Text.pieces_of_notMem hline]
    rfl

theorem cutLine?_append {name : List Char} (h : ' ' ∉ name) (value : List Char) :
    cutLine? (name ++ ':' :: ' ' :: value) = some (name, value) := by
  induction name with
  | nil => rfl
  | cons c name ih =>
    rw [List.mem_cons, not_or] at h
    rw [List.cons_append, cutLine?, ih h.2]
    . rfl
    . rintro value' rfl heq
      cases name with
      | nil => cases heq
      | cons c name =>
        rw [List.cons_append, List.cons.injEq] at heq
        exact h.2 (heq.1 ▸ List.mem_cons_self)

theorem readLine?_lineOf {entry : String × Level} (h : ' ' ∉ entry.1.toList) :
    readLine? (lineOf entry) = some entry := by
  obtain ⟨logger, level⟩ := entry
  unfold readLine? lineOf
  rw [cutLine?_append h]
  cases level <;> simp [Level.every, Level.name]

theorem mapM_readLine? {entries : List (String × Level)} (h : ∀ entry ∈ entries, ' ' ∉ entry.1.toList) :
    (entries.map lineOf).mapM readLine? = some entries := by
  induction entries with
  | nil => rfl
  | cons entry entries ih =>
    obtain ⟨hentry, hentries⟩ := List.forall_mem_cons.mp h
    rw [List.map_cons, List.mapM_cons, readLine?_lineOf hentry, ih hentries]
    rfl

theorem readReport?_levelLines (levels : Levels) (loggers : List String) :
    readReport? (levelLines levels loggers) = some (reported levels loggers) := by
  have hname : ∀ entry ∈ reported levels loggers, ' ' ∉ entry.1.toList ∧ '\n' ∉ entry.1.toList := by
    unfold reported
    rw [List.forall_mem_map]
    intro logger hlogger
    exact space_notMem (List.mem_filter.mp hlogger).2
  have hline : ∀ line ∈ (reported levels loggers).map lineOf, '\n' ∉ line := by
    rw [List.forall_mem_map]
    intro entry hentry
    unfold lineOf
    rw [List.mem_append, not_or]
    refine ⟨(hname entry hentry).2, ?_⟩
    cases entry.2 <;> decide
  unfold readReport?
  rw [levelLines_toList, pieces_lines hline]
  dsimp only
  rw [if_pos List.getLast?_concat, List.dropLast_concat, mapM_readLine? fun entry hentry => (hname entry hentry).1]

/-! The following is about one execution. -/

def Names (text : String) (level : Level) : Prop :=
  text.toList.map Char.toLower = level.name.toList.map Char.toLower

instance (text : String) (level : Level) : Decidable (Names text level) :=
  inferInstanceAs (Decidable (_ = _))

theorem ofName?_eq_some_iff {text : String} {level : Level} :
    Level.ofName? text = some level ↔ Names text level := by
  have hsame : ∀ level : Level, Level.sameWord text level.name = true ↔ Names text level := by
    intro level
    unfold Level.sameWord Names
    rw [beq_iff_eq]
  have hdistinct : ∀ {a b : Level}, Names text a → Names text b → a = b := by
    intro a b ha hb
    have hab := ha.symm.trans hb
    revert hab
    cases a <;> cases b <;> decide
  unfold Level.ofName?
  constructor
  . intro h
    have hfound := List.find?_some h
    exact (hsame level).mp hfound
  . intro h
    cases hfind : Level.every.find? fun level => Level.sameWord text level.name with
    | none =>
      have hmem : level ∈ Level.every := by cases level <;> decide
      exact absurd ((hsame level).mpr h) (List.find?_eq_none.mp hfind level hmem)
    | some found =>
      have hfound := List.find?_some hfind
      rw [hdistinct ((hsame found).mp hfound) h]

variable {params : Params} {world after : World σ}

theorem log_exec_of_nil (h : params.all "logger" = []) :
    (log.execute params).exec world = (.ok (.ok ""), world) := by
  unfold log
  dsimp only
  rw [if_pos h]
  rfl

theorem log_exec_of_error {e : TaskError} (h : params.all "logger" ≠ [])
    (hchange : (changeLevels (params.all "logger") (params.first? "level")).exec world = (.ok (.error e), after)) :
    (log.execute params).exec world = (.ok (.error e), after) := by
  unfold log
  dsimp only
  rw [if_neg h, Action.exec_bind_ok hchange]
  rfl

theorem log_exec_of_ok (h : params.all "logger" ≠ [])
    (hchange : (changeLevels (params.all "logger") (params.first? "level")).exec world = (.ok (.ok ()), after)) :
    (log.execute params).exec world = (.ok (.ok (levelLines after.levels (params.all "logger"))), after) := by
  unfold log
  dsimp only
  rw [if_neg h, Action.exec_bind_ok hchange]
  rfl

theorem changeLevels_exec_of_unknown {loggers : List String} {text : String} (hempty : text ≠ "")
    (h : ∀ level, ¬ Names text level) :
    (changeLevels loggers (some text)).exec world = (.ok (.error ⟨400, "Level is not supported"⟩), world) := by
  have hnone : Level.ofName? text = none := by
    rw [Option.eq_none_iff_forall_ne_some]
    intro level hlevel
    exact h level (ofName?_eq_some_iff.mp hlevel)
  unfold changeLevels
  dsimp only
  rw [if_neg hempty, hnone]
  rfl

theorem changeLevels_exec_of_silent {loggers : List String} {level : Option String}
    (h : level = none ∨ level = some "") :
    (changeLevels loggers level).exec world = (.ok (.ok ()), world) := by
  obtain rfl | rfl := h
  . rfl
  . rfl

theorem changeLevels_exec_of_level {loggers takers : List String} {text : String} {level : Level} {last : Levels}
    (h : Names text level) (hsets : Levels.Sets level world.levels loggers takers last) :
    ∃ after, (changeLevels loggers (some text)).exec world = (.ok (.ok ()), after) ∧ after.levels = last := by
  have hempty : text ≠ "" := by
    rintro rfl
    revert h
    cases level <;> decide
  obtain ⟨after, hexec, hlast⟩ := setLevels_exec hsets rfl
  refine ⟨after, ?_, hlast⟩
  unfold changeLevels
  dsimp only
  rw [if_neg hempty, ofName?_eq_some_iff.mpr h]
  dsimp only
  rw [Action.exec_bind_ok hexec]
  rfl

theorem log_exec_of_unknown {text : String} (h : params.all "logger" ≠ []) (hlevel : params.first? "level" = some text)
    (hempty : text ≠ "") (hunknown : ∀ level, ¬ Names text level) :
    (log.execute params).exec world = (.ok (.error ⟨400, "Level is not supported"⟩), world) := by
  apply log_exec_of_error h
  rw [hlevel]
  exact changeLevels_exec_of_unknown hempty hunknown

theorem log_exec_of_silent (h : params.all "logger" ≠ [])
    (hlevel : params.first? "level" = none ∨ params.first? "level" = some "") :
    (log.execute params).exec world = (.ok (.ok (levelLines world.levels (params.all "logger"))), world) :=
  log_exec_of_ok h (changeLevels_exec_of_silent hlevel)

theorem log_exec_of_level {text : String} {level : Level} {takers : List String} {last : Levels}
    (h : params.all "logger" ≠ []) (hlevel : params.first? "level" = some text) (hnames : Names text level)
    (hsets : Levels.Sets level world.levels (params.all "logger") takers last) :
    ∃ after,
      (log.execute params).exec world = (.ok (.ok (levelLines after.levels (params.all "logger"))), after)
        ∧
      after.levels = last := by
  obtain ⟨after, hchange, hlast⟩ := changeLevels_exec_of_level hnames hsets
  refine ⟨after, log_exec_of_ok h ?_, hlast⟩
  rw [hlevel]
  exact hchange

theorem log_exec_twice {text : String} {level : Level} (h : params.all "logger" ≠ [])
    (hlevel : params.first? "level" = some text) (hnames : Names text level) (world : World σ) :
    ∃ outcome after again,
      (log.execute params).exec world = (.ok outcome, after)
        ∧
      (log.execute params).exec after = (.ok outcome, again)
        ∧
      again.levels = after.levels := by
  obtain ⟨takers, last, hsets⟩ := Levels.exists_sets level world.levels (params.all "logger")
  obtain ⟨after, hexec, rfl⟩ := log_exec_of_level h hlevel hnames hsets
  obtain ⟨again, hexec', hsame⟩ := log_exec_of_level h hlevel hnames (hsets.again fun _ hname => hname)
  rw [hsame] at hexec'
  exact ⟨_, after, again, hexec, hexec', hsame⟩

theorem level_cases (params : Params) :
    (params.first? "level" = none ∨ params.first? "level" = some "")
      ∨
    ∃ text, params.first? "level" = some text ∧ text ≠ ""
      ∧
    ((∀ level, ¬ Names text level) ∨ ∃ level, Names text level) := by
  cases hlevel : params.first? "level" with
  | none => exact .inl (.inl rfl)
  | some text =>
    by_cases hempty : text = ""
    . exact .inl (.inr (congrArg some hempty))
    . refine .inr ⟨text, rfl, hempty, ?_⟩
      rw [← not_exists]
      exact (Classical.em _).symm

/--
The log task changes nothing without a logger, and refuses a level that it does not know before it changes
anything. A level that it knows goes to the loggers that take it, in the order of the request, and to no other;
the root has it only if it is named. The report lists those that can have a level, with the levels after all
changes. A second execution answers the same and changes nothing.
-/
theorem log_task_executes (params : Params) (world : World σ) :
    (params.all "logger" = [] → (log.execute params).exec world = (.ok (.ok ""), world))
      ∧
    (params.all "logger" ≠ [] →
      (∀ text, params.first? "level" = some text → text ≠ "" → (∀ level, ¬ Names text level) →
        (log.execute params).exec world = (.ok (.error ⟨400, "Level is not supported"⟩), world))
        ∧
      (params.first? "level" = none ∨ params.first? "level" = some "" →
        ∃ body,
          (log.execute params).exec world = (.ok (.ok body), world)
            ∧
          readReport? body = some (reported world.levels (params.all "logger")))
        ∧
      ∀ text level, params.first? "level" = some text → Names text level →
        ∃ body after takers,
          (log.execute params).exec world = (.ok (.ok body), after)
            ∧
          Levels.Sets level world.levels (params.all "logger") takers after.levels
            ∧
          after.levels.root = (if "ROOT" ∈ params.all "logger" then level else world.levels.root)
            ∧
          (∀ name,
            after.levels.overrides.find? name
              =
            if name ∈ takers ∧ name ≠ "ROOT" then some level else world.levels.overrides.find? name)
            ∧
          readReport? body = some (reported after.levels (params.all "logger")))
      ∧
    ∃ outcome after again,
      (log.execute params).exec world = (.ok outcome, after)
        ∧
      (log.execute params).exec after = (.ok outcome, again)
        ∧
      again.levels = after.levels := by
  refine ⟨log_exec_of_nil, fun hloggers => ⟨?_, ?_, ?_⟩, ?_⟩
  . intro text hlevel hempty hunknown
    exact log_exec_of_unknown hloggers hlevel hempty hunknown
  . intro hlevel
    exact ⟨_, log_exec_of_silent hloggers hlevel, readReport?_levelLines ..⟩
  . intro text level hlevel hnames
    obtain ⟨takers, last, hsets⟩ := Levels.exists_sets level world.levels (params.all "logger")
    obtain ⟨after, hexec, rfl⟩ := log_exec_of_level hloggers hlevel hnames hsets
    refine ⟨_, after, takers, hexec, hsets, ?_, hsets.find?_eq, readReport?_levelLines ..⟩
    have hroot : Log.rootLogger ∈ takers ↔ "ROOT" ∈ params.all "logger" := hsets.rootLogger_mem_iff
    rw [hsets.root_eq]
    simp only [hroot]
  . by_cases hloggers : params.all "logger" = []
    . exact ⟨_, world, world, log_exec_of_nil hloggers, log_exec_of_nil hloggers, rfl⟩
    . rcases level_cases params with hlevel | ⟨text, hlevel, hempty, hunknown | ⟨level, hnames⟩⟩
      . have hexec : (log.execute params).exec world = _ := log_exec_of_silent hloggers hlevel
        exact ⟨_, world, world, hexec, hexec, rfl⟩
      . have hexec : (log.execute params).exec world = _ := log_exec_of_unknown hloggers hlevel hempty hunknown
        exact ⟨_, world, world, hexec, hexec, rfl⟩
      . exact log_exec_twice hloggers hlevel hnames world

theorem log_task_executes_of_debugRequest :
    (log.execute ⟨[("level", "bogus")]⟩).exec (World.idle ()) = (.ok (.ok ""), .idle ())
      ∧
    (log.execute ⟨[("logger", "x"), ("level", "bogus")]⟩).exec (World.idle ())
      =
    (.ok (.error ⟨400, "Level is not supported"⟩), .idle ())
      ∧
    ∃ body after again,
      (log.execute ⟨[("logger", "a=b"), ("logger", "ROOT"), ("level", "Debug")]⟩).exec (World.idle ())
        =
      (.ok (.ok body), after)
        ∧
      after.levels.root = .debug
        ∧
      readReport? body = some [("ROOT", .debug)]
        ∧
      (log.execute ⟨[("logger", "a=b"), ("logger", "ROOT"), ("level", "Debug")]⟩).exec after = (.ok (.ok body), again)
        ∧
      again.levels = after.levels := by
  obtain ⟨hnone, _⟩ := log_task_executes ⟨[("level", "bogus")]⟩ (World.idle ())
  obtain ⟨_, hrefused, _⟩ := log_task_executes ⟨[("logger", "x"), ("level", "bogus")]⟩ (World.idle ())
  obtain ⟨_, hdone, outcome, after, again, hexec, hagain, hsame⟩ :=
    log_task_executes ⟨[("logger", "a=b"), ("logger", "ROOT"), ("level", "Debug")]⟩ (World.idle ())
  have hunknown : ∀ level, ¬ Names "bogus" level := by
    intro level
    cases level <;> decide
  refine ⟨hnone (by decide), (hrefused (by decide)).1 "bogus" (by decide) (by decide) hunknown, ?_⟩
  obtain ⟨body, after', takers, hexec', _, hroot, _, hreport⟩ :=
    (hdone (by decide)).2.2 "Debug" .debug (by decide) (by decide)
  rw [hexec] at hexec'
  cases hexec'
  have hdebug : after.levels.root = .debug := hroot
  refine ⟨body, after, again, hexec, hdebug, ?_, hagain, hsame⟩
  rw [hreport, ← hdebug]
  rfl

end Admin.Task
end ServiceHost
