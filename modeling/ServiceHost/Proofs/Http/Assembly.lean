import Mathlib.Data.List.Find
import ServiceHost.Proofs.Http.Path
import ServiceHost.Proofs.Keyed
import ServiceHost.Proofs.Traversal

/-!
This module contains when a table can be served, and where its router finds the bindings of a path. The
tables are ones whose paths have passed the check for paths that can be routed.
-/

namespace ServiceHost.Http

namespace RouteTable

variable {ε : Type} {table : RouteTable ε}

/-- A table whose context path and paths can be routed, and where no method is bound twice. -/
structure Sound (table : RouteTable ε) : Prop where
  context : Path.isRoutable table.context = true
  methods : ∀ entry ∈ table.paths, entry.2.methods.Nodup
  paths : ∀ entry ∈ table.paths, Path.isRoutable entry.1 = true

def patternOf (table : RouteTable ε) (path : String) : Pattern :=
  (Pattern.ofText? (table.servedPath path).toList).getD []

def route? (table : RouteTable ε) (entry : String × MethodTable ε) : Option (Pattern × MethodTable ε) :=
  if entry.2.methods.Nodup ∧ (Pattern.ofText? entry.1.toList).isSome then
    (Pattern.ofText? (table.servedPath entry.1).toList).map fun pattern => (pattern, entry.2)
  else
    none

theorem router?_eq (h : table.Sound) :
    table.router? = (table.paths.entries.mapM table.route?).map fun routes => ⟨table.contextSegments, routes⟩ := by
  unfold router?
  rw [forbidden_of_isRoutable h.context]
  show (table.paths.entries.mapM table.route? >>= fun routes => _) = _
  cases table.paths.entries.mapM table.route? <;> rfl

theorem exists_entry_of_router? {router : Router ε} (h : table.router? = some router) :
    ∀ route ∈ router.routes, ∃ entry ∈ table.paths, entry.2 = route.2 := by
  unfold router? at h
  split at h
  . cases h
  . rw [Option.bind_eq_bind, Option.bind_eq_some_iff] at h
    obtain ⟨routes, hroutes, hrouter⟩ := h
    cases hrouter
    intro route hroute
    obtain ⟨entry, hentry, hsome⟩ := exists_right_of_forall₂ (mapM_eq_some_iff.mp hroutes) route hroute
    refine ⟨entry, hentry, ?_⟩
    dsimp only at hsome
    split at hsome
    . rw [Option.map_eq_some_iff] at hsome
      obtain ⟨pattern, -, rfl⟩ := hsome
      rfl
    . cases hsome

theorem patternOf_of_escape {path : String} {literal : List Char}
    (h : (table.servedPath path).toList = Pattern.escape literal) :
    table.patternOf path = literal.map .char := by
  unfold patternOf
  rw [h, Pattern.ofText?_escape, Option.getD_some]

theorem isEscaped_of_route? (h : table.Sound) {entry : String × MethodTable ε} (hentry : entry ∈ table.paths)
    (hroute : (table.route? entry).isSome) :
    Pattern.IsEscaped table.context.toList ∧ Pattern.IsEscaped entry.1.toList := by
  have hpath := h.paths entry hentry
  unfold route? at hroute
  split at hroute
  . rw [Option.isSome_map, Pattern.isSome_ofText?_iff (opening_notMem_servedPath h.context hpath)] at hroute
    exact (isEscaped_servedPath_iff hpath).mp hroute
  . cases hroute

theorem route?_of_isEscaped (h : table.Sound) {entry : String × MethodTable ε} (hentry : entry ∈ table.paths)
    (hcontext : Pattern.IsEscaped table.context.toList) (hescaped : Pattern.IsEscaped entry.1.toList) :
    table.route? entry = some (table.patternOf entry.1, entry.2) := by
  have hpath := h.paths entry hentry
  obtain ⟨literal, hserved⟩ := (isEscaped_servedPath_iff hpath).mpr ⟨hcontext, hescaped⟩
  rw [← Pattern.isSome_ofText?_iff (Path.opening_notMem_of_isRoutable hpath)] at hescaped
  unfold route?
  rw [if_pos ⟨h.methods entry hentry, hescaped⟩]
  rw [patternOf_of_escape hserved, hserved, Pattern.ofText?_escape]
  rfl

theorem router?_eq_some_iff (h : table.Sound) (router : Router ε) :
    table.router? = some router
      ↔
    (∀ entry ∈ table.paths,
      Pattern.IsEscaped table.context.toList ∧ Pattern.IsEscaped entry.1.toList)
      ∧
    router
      =
    ⟨table.contextSegments, table.paths.entries.map fun entry => (table.patternOf entry.1, entry.2)⟩ := by
  rw [router?_eq h]
  have hroutes : (∀ entry ∈ table.paths,
        Pattern.IsEscaped table.context.toList ∧ Pattern.IsEscaped entry.1.toList) →
      table.paths.entries.mapM table.route?
        =
      some (table.paths.entries.map fun entry => (table.patternOf entry.1, entry.2)) := by
    intro hescaped
    refine mapM_eq_some_iff.mpr (forall₂_map ?_)
    intro entry hentry
    exact route?_of_isEscaped h hentry (hescaped entry hentry).1 (hescaped entry hentry).2
  constructor
  . intro hrouter
    rw [Option.map_eq_some_iff] at hrouter
    obtain ⟨routes, hsome, hrouter⟩ := hrouter
    have hescaped (entry : String × MethodTable ε) (hentry : entry ∈ table.paths) :
        Pattern.IsEscaped table.context.toList ∧ Pattern.IsEscaped entry.1.toList := by
      obtain ⟨route, hroute⟩ := exists_left_of_forall₂ (mapM_eq_some_iff.mp hsome) entry hentry
      exact isEscaped_of_route? h hentry (Option.isSome_of_mem hroute)
    rw [hroutes hescaped] at hsome
    injection hsome with hsome
    exact ⟨hescaped, by rw [← hrouter, hsome]⟩
  . rintro ⟨hescaped, rfl⟩
    rw [hroutes hescaped]
    rfl

theorem methodsAt?_of_escape (h : table.Sound) {router : Router ε} (hrouter : table.router? = some router)
    {path : String} (hpath : Path.isRoutable path = true) {literal : List Char}
    (hserved : (table.servedPath path).toList = Pattern.escape literal) :
    router.methodsAt? literal = table.paths.find? path := by
  obtain ⟨hescaped, rfl⟩ := (router?_eq_some_iff h router).mp hrouter
  -- the patterns are literals, and different paths have different ones
  have haccepts : ∀ entry ∈ table.paths,
      (table.patternOf entry.1).accepts literal = (entry.1 == path) := by
    intro entry hentry
    obtain ⟨other, hother⟩ := (isEscaped_servedPath_iff (h.paths entry hentry)).mpr (hescaped entry hentry)
    rw [patternOf_of_escape hother, Pattern.accepts_map_char, Bool.eq_iff_iff, beq_iff_eq, beq_iff_eq]
    constructor
    . intro heq
      apply eq_of_servedPath_eq table
      . exact Path.ne_empty_of_isRoutable (h.paths entry hentry)
      . exact Path.ne_empty_of_isRoutable hpath
      rw [← String.toList_inj, hother, hserved, heq]
    . intro heq
      rw [heq, hserved] at hother
      exact (Pattern.escape_injective hother).symm
  unfold Router.methodsAt?
  rw [Keyed.find?_eq_list_find?, List.find?_map, Option.map_map]
  exact congrArg (Option.map (·.2)) (List.find?_congr haccepts)

end RouteTable
end ServiceHost.Http
