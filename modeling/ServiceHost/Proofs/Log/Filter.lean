import ServiceHost.Command.Server
import ServiceHost.Proofs.Log.Levels
import ServiceHost.Proofs.Text.Pieces

/-!
This module contains the filter that levels put in force. Its directives can be read back as long as every
logger with a level of its own can start one, and then each target has the level of the longest such logger
that it starts with. This is what is reported for a target with a level of its own, and for one that starts
with no such logger; for others the report is about the root.
-/

namespace ServiceHost

variable {σ : Type}

namespace Log

/-- Of a root level and some overrides, the one that counts for a target. -/
inductive Governs (root : Level) (overrides : List (String × Level)) (target : String) : Level → Prop where
  | override {name : String} {level : Level} :
    (name, level) ∈ overrides → name.toList <+: target.toList →
    (∀ other ∈ overrides, other.1.toList <+: target.toList → other.1.length ≤ name.length) →
    Governs root overrides target level
  | root : (∀ other ∈ overrides, ¬ other.1.toList <+: target.toList) → Governs root overrides target root

def CanStart (name : String) : Prop :=
  name.toList.head?.any Filter.canStart = true

def Level.readBack : Level → Level
  | .all => .trace
  | level => level

def Levels.filter (levels : Levels) : Filter :=
  ⟨levels.root.readBack, levels.overrides.map fun entry => (entry.1, entry.2.readBack)⟩

@[simp]
theorem Level.directive_readBack (level : Level) : level.readBack.directive = level.directive := by
  cases level <;> rfl

/-- A filter enforces for every target the level that counts, up to how it is written. -/
def Filter.Enforces (filter : Filter) (levels : Levels) : Prop :=
  ∀ target, ∃ level,
    Governs levels.root levels.overrides.entries target level
      ∧
    (filter.enforced target).directive = level.directive

theorem Levels.toList_overrideDirective (entry : String × Level) :
    (overrideDirective entry).toList = entry.1.toList ++ '=' :: entry.2.directive.toList := by
  simp [overrideDirective]

namespace Filter

theorem closer_spec (best : Option (String × Level)) (entry : String × Level) :
    ∃ found,
      closer best entry = some found
        ∧
      (found = entry ∨ best = some found)
        ∧
      entry.1.length ≤ found.1.length
        ∧
      ∀ current, best = some current → current.1.length ≤ found.1.length := by
  cases best with
  | none => exact ⟨entry, rfl, .inl rfl, Nat.le_refl _, nofun⟩
  | some current =>
    unfold closer
    dsimp only
    split
    . next h => exact ⟨entry, rfl, .inl rfl, Nat.le_refl _, by simpa using h⟩
    . next h => exact ⟨current, rfl, .inr rfl, by omega, by simp⟩

theorem foldl_closer_spec {entries : List (String × Level)} {best : Option (String × Level)}
    {found : String × Level} (h : entries.foldl closer best = some found) :
    (found ∈ entries ∨ best = some found)
      ∧
    (∀ entry ∈ entries, entry.1.length ≤ found.1.length)
      ∧
    ∀ current, best = some current → current.1.length ≤ found.1.length := by
  induction entries generalizing best with
  | nil =>
    rw [List.foldl_nil] at h
    exact ⟨.inr h, nofun, by simp [h]⟩
  | cons entry entries ih =>
    obtain ⟨next, hnext, horigin, hentry, hbest⟩ := closer_spec best entry
    rw [List.foldl_cons, hnext] at h
    obtain ⟨hmem, hothers, hnextle⟩ := ih h
    have hle := hnextle next rfl
    refine ⟨?_, ?_, ?_⟩
    . cases hmem with
      | inl hmem => exact .inl (List.mem_cons_of_mem entry hmem)
      | inr heq =>
        injection heq with heq
        subst heq
        refine horigin.imp_left ?_
        intro heq
        rw [heq]
        exact List.mem_cons_self
    . rw [List.forall_mem_cons]
      exact ⟨hentry.trans hle, hothers⟩
    . intro current hcurrent
      exact (hbest current hcurrent).trans hle

theorem foldl_closer_ne_none (entries : List (String × Level)) (found : String × Level) :
    entries.foldl closer (some found) ≠ none := by
  induction entries generalizing found with
  | nil => exact Option.some_ne_none found
  | cons entry entries ih =>
    obtain ⟨next, hnext, -⟩ := closer_spec (some found) entry
    rw [List.foldl_cons, hnext]
    exact ih next

theorem governs_enforced (filter : Filter) (target : String) :
    Governs filter.root filter.targets target (filter.enforced target) := by
  have hmem (entry : String × Level) :
      entry ∈ filter.targets.filter (fun entry => entry.1.toList.isPrefixOf target.toList)
        ↔
      entry ∈ filter.targets ∧ entry.1.toList <+: target.toList := by
    rw [List.mem_filter, List.isPrefixOf_iff_prefix]
  unfold enforced
  dsimp only
  generalize filter.targets.filter (fun entry => entry.1.toList.isPrefixOf target.toList) = applying at hmem ⊢
  cases hfound : applying.foldl closer none with
  | some found =>
    obtain ⟨horigin, hlongest, -⟩ := foldl_closer_spec hfound
    obtain ⟨hentry, happlies⟩ := (hmem found).mp (horigin.resolve_right nofun)
    refine .override hentry happlies ?_
    intro other hother happlies
    exact hlongest other ((hmem other).mpr ⟨hother, happlies⟩)
  | none =>
    apply Governs.root
    intro other hother happlies
    have hother := (hmem other).mpr ⟨hother, happlies⟩
    cases applying with
    | nil => cases hother
    | cons first others => exact foldl_closer_ne_none others first hfound

theorem addDirective?_root (filter : Filter) (level : Level) :
    addDirective? filter level.directive.toList = some { filter with root := level.readBack } := by
  cases level <;> rfl

theorem levelOfWord?_directive (level : Level) :
    levelOfWord? level.directive.toList = some level.readBack := by
  cases level <;> rfl

theorem addDirective?_override (filter : Filter) {entry : String × Level} (hstart : CanStart entry.1)
    (hmark : '=' ∉ entry.1.toList) :
    addDirective? filter (Levels.overrideDirective entry).toList
      =
    some { filter with targets := filter.targets ++ [(entry.1, entry.2.readBack)] } := by
  have hhead : (entry.1.toList ++ '=' :: entry.2.directive.toList).head?.any canStart = true := by
    unfold CanStart at hstart
    cases hname : entry.1.toList with
    | nil => simp [hname] at hstart
    | cons c rest => simpa [hname] using hstart
  unfold addDirective?
  rw [Levels.toList_overrideDirective, hhead, Text.cut?_append hmark]
  simp [levelOfWord?_directive]

theorem foldlM_addDirective? (entries : List (String × Level)) (filter : Filter)
    (h : ∀ entry ∈ entries, CanStart entry.1 ∧ '=' ∉ entry.1.toList) :
    (entries.map fun entry => (Levels.overrideDirective entry).toList).foldlM addDirective? filter
      =
    some
      { filter with
        targets := filter.targets ++ entries.map fun entry => (entry.1, entry.2.readBack) } := by
  induction entries generalizing filter with
  | nil => simp
  | cons entry entries ih =>
    rw [List.forall_mem_cons] at h
    rw [List.map_cons, List.foldlM_cons, addDirective?_override filter h.1.1 h.1.2]
    refine (ih _ h.2).trans ?_
    simp

end Filter

namespace Levels

theorem comma_notMem_directive (level : Level) : ',' ∉ level.directive.toList := by
  cases level <;> decide

theorem Dynamic.notMem {name : String} (h : Dynamic name) {c : Char}
    (hc : c ∈ ['=', ',', '[', ']', '\x7b', '\x7d']) : c ∉ name.toList := by
  intro hmem
  exact (h.unmarked c hmem).2 hc

theorem toList_directives (levels : Levels) :
    levels.directives.toList
      =
    [','].intercalate
      (levels.root.directive.toList ::
        levels.overrides.map fun entry => (overrideDirective entry).toList) := by
  unfold directives Keyed.map
  rw [String.toList_intercalate, List.map_cons, List.map_map]
  rfl

theorem comma_notMem_overrideDirective {entry : String × Level} (h : Dynamic entry.1) :
    ',' ∉ (overrideDirective entry).toList := by
  have hname : ',' ∉ entry.1.toList := Dynamic.notMem h (by decide)
  simp [toList_overrideDirective, hname, comma_notMem_directive]

theorem pieces_directives {levels : Levels} (h : ∀ name ∈ levels.overrides.keys, Dynamic name) :
    Text.pieces ',' levels.directives.toList
      =
    levels.root.directive.toList :: levels.overrides.map fun entry => (overrideDirective entry).toList := by
  rw [toList_directives]
  unfold Keyed.map
  apply Text.pieces_intercalate (List.cons_ne_nil _ _)
  rw [List.forall_mem_cons, List.forall_mem_map]
  refine ⟨comma_notMem_directive _, ?_⟩
  intro entry hmem
  exact comma_notMem_overrideDirective (h entry.1 (List.mem_map_of_mem hmem))

theorem ofDirectives?_directives {levels : Levels} (hdynamic : ∀ name ∈ levels.overrides.keys, Dynamic name)
    (hstart : ∀ name ∈ levels.overrides.keys, CanStart name) :
    Filter.ofDirectives? levels.directives = some levels.filter := by
  have hentry : ∀ entry ∈ levels.overrides, Dynamic entry.1 ∧ CanStart entry.1 := by
    intro entry hentry
    have hkey : entry.1 ∈ levels.overrides.keys := List.mem_map_of_mem hentry
    exact ⟨hdynamic _ hkey, hstart _ hkey⟩
  unfold Filter.ofDirectives?
  rw [pieces_directives hdynamic, List.foldlM_cons, Filter.addDirective?_root]
  refine (Filter.foldlM_addDirective? _ _ ?_).trans ?_
  . intro entry hmem
    exact ⟨(hentry entry hmem).2, Dynamic.notMem (hentry entry hmem).1 (by decide)⟩
  . rfl

theorem enforces_filter (levels : Levels) : levels.filter.Enforces levels := by
  intro target
  have h := levels.filter.governs_enforced target
  generalize levels.filter.enforced target = enforced at h ⊢
  cases h with
  | override hentry happlies hlongest =>
    obtain ⟨⟨name, level⟩, hmem, heq⟩ := List.mem_map.mp hentry
    cases heq
    refine ⟨level, .override hmem happlies ?_, Level.directive_readBack level⟩
    intro other hother
    exact hlongest (other.1, other.2.readBack) (List.mem_map.mpr ⟨other, hother, rfl⟩)
  | root hnone =>
    refine ⟨levels.root, .root ?_, Level.directive_readBack _⟩
    intro other hother
    exact hnone (other.1, other.2.readBack) (List.mem_map.mpr ⟨other, hother, rfl⟩)

theorem level?_eq_getD {levels : Levels} (hroot : rootLogger ∉ levels.overrides.keys) {target : String}
    {reported : Level} (hreported : levels.level? target = some reported) :
    reported = (levels.overrides.find? target).getD levels.root := by
  unfold level? at hreported
  split at hreported
  . next heq =>
    rw [heq, Keyed.find?_eq_none_iff.mpr hroot]
    injection hreported with hreported
    exact hreported.symm
  . split at hreported
    . injection hreported with hreported
      exact hreported.symm
    . cases hreported

theorem eq_of_governs {levels : Levels} (hroot : rootLogger ∉ levels.overrides.keys) {target : String}
    {reported level : Level}
    (hreported : levels.level? target = some reported)
    (hgoverns : Governs levels.root levels.overrides.entries target level)
    (h : target ∈ levels.overrides.keys ∨ ∀ name ∈ levels.overrides.keys, ¬ name.toList <+: target.toList) :
    reported = level := by
  rw [level?_eq_getD hroot hreported]
  cases hgoverns with
  | @override name _ hentry happlies hlongest =>
    have hname : name ∈ levels.overrides.keys := List.mem_map_of_mem hentry
    cases h with
    | inl hkey =>
      -- nothing that the target starts with is longer than the target itself
      obtain ⟨own, hown, rfl⟩ := List.mem_map.mp hkey
      have hlength := Nat.le_antisymm happlies.length_le (hlongest own hown (List.prefix_refl _))
      have heq := String.toList_inj.mp (happlies.eq_of_length hlength)
      rw [← heq, Keyed.find?_eq_some_iff.mpr hentry]
      rfl
    | inr hnone => exact absurd happlies (hnone name hname)
  | root hnone =>
    have hmissing : target ∉ levels.overrides.keys := by
      intro hkey
      obtain ⟨own, hown, rfl⟩ := List.mem_map.mp hkey
      exact hnone own hown (List.prefix_refl _)
    rw [Keyed.find?_eq_none_iff.mpr hmissing]
    rfl

end Levels
end Log

open Log (Change Levels Filter Governs CanStart)

/-- The world with levels of a root level alone, and with their filter unless it has one already. -/
def World.install (root : Log.Level) (world : World σ) : World σ :=
  if world.filter.isNone then
    { world with levels := .new root, filter := some (.ofRoot root), wiring := .attached }
  else
    World.record
      ⟨.levels, .debug, "Global subscriber already installed",
        [("error", "a global default trace dispatcher has already been set")]⟩
      { world with levels := .new root, wiring := .severed }

@[simp]
theorem World.levels_install (root : Log.Level) (world : World σ) : (world.install root).levels = .new root := by
  unfold install
  split <;> rfl

/--
The levels of a world are those that some changes have led to, and as long as its filter can be read back from
directives, it enforces them.
-/
structure InForce (root : Log.Level) (history : List Change) (world : World σ) : Prop where
  follows : world.levels.Follows root history
  attached : world.wiring = .attached
  enforces : (∀ name ∈ world.levels.overrides.keys, CanStart name) →
    ∃ filter, world.filter = some filter ∧ filter.Enforces world.levels

namespace InForce

variable {root : Log.Level} {history : List Change} {world : World σ}

theorem install (root : Log.Level) {world : World σ} (h : world.filter = none) :
    InForce root [] (world.install root) := by
  unfold World.install
  rw [h, if_pos Option.isNone_none]
  constructor
  case follows => exact Log.Levels.follows_new root
  case attached => rfl
  case enforces =>
    intro _
    refine ⟨_, rfl, ?_⟩
    intro target
    exact ⟨_, (Filter.ofRoot root).governs_enforced target, rfl⟩

theorem refilter (h : world.levels.Follows root history) (hattached : world.wiring = .attached) :
    InForce root history world.refilter := by
  constructor
  case follows =>
    rw [World.levels_refilter]
    exact h
  case attached =>
    rw [World.wiring_refilter]
    exact hattached
  case enforces =>
    rw [World.levels_refilter]
    intro hstart
    refine ⟨world.levels.filter, ?_, world.levels.enforces_filter⟩
    unfold World.refilter
    rw [Levels.ofDirectives?_directives h.dynamic_of_mem_keys hstart, hattached]
    rfl

theorem setEach (h : InForce root history world) (changes : List Change) :
    ∃ answers world',
      (Action.setEach changes).exec world = (.ok answers, world')
        ∧
      answers.length = changes.length
        ∧
      InForce root (history ++ Change.accepted changes answers) world' := by
  apply Action.setEach_keeps _ changes h
  intro history world change h
  obtain ⟨answer, world', hset, -, htrue, hfalse, hfollows⟩ := h.follows.setLevel change
  refine ⟨answer, world', hset, ?_⟩
  -- an accepted request makes the filter anew, and a refused one leaves it with the levels that it was made of
  cases answer with
  | true =>
    rw [htrue rfl]
    exact refilter hfollows h.attached
  | false =>
    obtain ⟨hlevels, hfilter, hwiring⟩ := hfalse rfl
    constructor
    case follows => exact hfollows
    case attached =>
      rw [hwiring]
      exact h.attached
    case enforces =>
      rw [hlevels, hfilter]
      exact h.enforces

end InForce

/-- The levels of a world are those that some changes have led to, but they do not lead to its filter. -/
structure Severed (filter : Option Filter) (root : Log.Level) (history : List Change) (world : World σ) : Prop where
  follows : world.levels.Follows root history
  severed : world.wiring = .severed
  filter : world.filter = filter

namespace Severed

variable {filter : Option Filter} {root : Log.Level} {history : List Change} {world : World σ}

theorem install (root : Log.Level) {world : World σ} (h : world.filter.isSome) :
    Severed world.filter root [] (world.install root) := by
  unfold World.install
  rw [if_neg (by simp [Option.isSome_iff_ne_none.mp h])]
  exact ⟨Log.Levels.follows_new root, rfl, rfl⟩

theorem refilter (h : Severed filter root history world) : Severed filter root history world.refilter where
  follows := by
    rw [World.levels_refilter]
    exact h.follows
  severed := by
    rw [World.wiring_refilter]
    exact h.severed
  filter := by
    have hsevered : world.wiring ≠ .attached := by simp [h.severed]
    rw [World.filter_refilter hsevered]
    exact h.filter

theorem setEach (h : Severed filter root history world) (changes : List Change) :
    ∃ answers world',
      (Action.setEach changes).exec world = (.ok answers, world')
        ∧
      answers.length = changes.length
        ∧
      Severed filter root (history ++ Change.accepted changes answers) world' := by
  apply Action.setEach_keeps _ changes h
  intro history world change h
  obtain ⟨answer, world', hset, -, htrue, hfalse, hfollows⟩ := h.follows.setLevel change
  refine ⟨answer, world', hset, ?_⟩
  cases answer with
  | true =>
    rw [htrue rfl]
    exact refilter ⟨hfollows, h.severed, h.filter⟩
  | false =>
    obtain ⟨-, hfilter, hwiring⟩ := hfalse rfl
    exact ⟨hfollows, hwiring.trans h.severed, hfilter.trans h.filter⟩

end Severed

namespace Command

def changesOf (loggers : List (String × String)) : List Change :=
  loggers.filterMap fun (logger, text) => (Log.Level.ofName? text).map (Change.mk logger)

theorem setLoggers_eq (loggers : List (String × String)) :
    (setLoggers loggers : Action σ Unit) = Action.setEach (changesOf loggers) >>= fun _ => pure () := by
  induction loggers with
  | nil => rfl
  | cons entry rest ih =>
    obtain ⟨logger, text⟩ := entry
    unfold setLoggers changesOf
    cases h : Log.Level.ofName? text with
    | none =>
      rw [List.filterMap_cons_none (by simp [h]), ih]
      simp [changesOf]
    | some level =>
      rw [List.filterMap_cons_some (b := ⟨logger, level⟩) (by simp [h]), ih]
      simp [changesOf, Action.setEach]

theorem installLevels_exec (root : Log.Level) (world : World σ) :
    (installLevels root).exec world = (.ok (), world.install root) := by
  unfold installLevels World.install
  rw [Action.exec_bind_ok (Action.exec_get world)]
  split <;> rfl

theorem configureLog_exec_of_setEach {c : Config.Logging} {root : Log.Level} {answers : List Bool}
    {world world' : World σ} (hroot : (Log.Level.ofName? c.level).getD .info = root)
    (h : (Action.setEach (changesOf c.loggers.entries)).exec (world.install root) = (.ok answers, world')) :
    (configureLog c).exec world = (.ok (), world'.refilter) := by
  unfold configureLog
  rw [hroot, Action.exec_bind_ok (installLevels_exec root world), setLoggers_eq, bind_assoc, Action.exec_bind_ok h]
  rw [pure_bind, Action.applyLevels_exec]

theorem configureLog_inForce (c : Config.Logging) {world : World σ} (h : world.filter = none) :
    ∃ configured history,
      (configureLog c).exec world = (.ok (), configured)
        ∧
      InForce ((Log.Level.ofName? c.level).getD .info) history configured := by
  obtain ⟨answers, world', hset, -, hinForce⟩ := (InForce.install _ h).setEach (changesOf c.loggers.entries)
  exact ⟨world'.refilter, _, configureLog_exec_of_setEach rfl hset,
    InForce.refilter hinForce.follows hinForce.attached⟩

theorem configureLog_severed (c : Config.Logging) {world : World σ} (h : world.filter.isSome) :
    ∃ configured history,
      (configureLog c).exec world = (.ok (), configured)
        ∧
      Severed world.filter ((Log.Level.ofName? c.level).getD .info) history configured := by
  obtain ⟨answers, world', hset, -, hsevered⟩ := (Severed.install _ h).setEach (changesOf c.loggers.entries)
  exact ⟨world'.refilter, _, configureLog_exec_of_setEach rfl hset, hsevered.refilter⟩

end Command

/--
The level that is reported for a target is enforced if it is its own, and if the target starts with no logger
that has one.
-/
def Log.Filter.BearsOut (filter : Filter) (levels : Levels) : Prop :=
  ∀ target reported, levels.level? target = some reported →
    (target ∈ levels.overrides.keys ∨ ∀ name ∈ levels.overrides.keys, ¬ name.toList <+: target.toList) →
      (filter.enforced target).directive = reported.directive

theorem Log.Levels.Follows.bearsOut {root : Log.Level} {history : List Change} {levels : Levels}
    (h : levels.Follows root history) {filter : Filter} (henforces : filter.Enforces levels) :
    filter.BearsOut levels := by
  intro target reported hreported hown
  obtain ⟨level, hgoverns, heq⟩ := henforces target
  rw [heq, Levels.eq_of_governs h.rootLogger_notMem_keys hreported hgoverns hown]

theorem Log.Levels.Follows.directives_enforce {root : Log.Level} {history : List Change} {levels : Levels}
    (h : levels.Follows root history) (hstart : ∀ name ∈ levels.overrides.keys, CanStart name) :
    ∃ written, Filter.ofDirectives? levels.directives = some written
      ∧
    written.Enforces levels ∧ written.BearsOut levels :=
  ⟨levels.filter, Levels.ofDirectives?_directives h.dynamic_of_mem_keys hstart, levels.enforces_filter,
    h.bearsOut levels.enforces_filter⟩

def quietLogging : Config.Logging :=
  { Config.Logging.default with loggers := .ofList [("gantry", "ERROR")] }

theorem World.filter_idle (state : σ) : (World.idle state).filter = none := by
  rfl

def afterQuiet (changes : List Change) : Except Fault (List Bool) × World Unit :=
  (Action.setEach changes).exec ((Command.configureLog quietLogging).exec (.idle ())).2

def takenWorld : World Unit :=
  { World.idle () with filter := some (.ofRoot .error) }

end ServiceHost
