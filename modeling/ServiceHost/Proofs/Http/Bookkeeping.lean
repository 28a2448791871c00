import Mathlib.Data.List.Nodup
import ServiceHost.Proofs.Http.Binding

/-!
This module contains how the two records that a table keeps of its routes agree: the bindings of each path, and the
pairs that are taken. They do so after any run of calls and of resources, accepted or refused.
-/

namespace ServiceHost.Http

variable {σ : Type}

theorem Method.isRoutable_iff (method : Method) : method.isRoutable = true ↔ method ∈ standard := by
  cases method <;> simp [isRoutable, standard]

namespace RouteTable

section

variable {ε : Type} {table : RouteTable ε}

def pairs (table : RouteTable ε) : List (Method × String) :=
  table.paths.entries.flatMap fun entry => entry.2.methods.map fun method => (method, entry.1)

/-- Both records of a table hold the same routes, and no path is recorded without a route. -/
structure Coherent (table : RouteTable ε) : Prop where
  inhabited : ∀ entry ∈ table.paths, entry.2.entries ≠ []
  distinct : ∀ entry ∈ table.paths, entry.2.methods.Nodup
  agrees : ∀ method path, (method, path) ∈ table.bound ↔ method ∈ (table.methodsAt path).methods
  nodup : table.bound.Nodup
  routable : ∀ pair ∈ table.bound, Path.isRoutable pair.2 = true ∧ pair.1.isRoutable = true

theorem coherent_new (context : String) : Coherent (new context : RouteTable ε) := by
  constructor
  case nodup => exact List.nodup_nil
  case agrees =>
    intro method path
    exact iff_of_false List.not_mem_nil List.not_mem_nil
  all_goals
    intro entry hentry
    exact absurd hentry List.not_mem_nil

theorem methodsAt_of_mem {entry : String × MethodTable ε} (hentry : entry ∈ table.paths) :
    table.methodsAt entry.1 = entry.2 := by
  unfold methodsAt
  rw [Keyed.find?_eq_some_iff.mpr hentry]
  rfl

theorem exists_of_mem_methodsAt {method : Method} {path : String} (h : method ∈ (table.methodsAt path).methods) :
    ∃ methods, (path, methods) ∈ table.paths ∧ method ∈ methods.methods := by
  unfold methodsAt at h
  cases hfind : table.paths.find? path with
  | none =>
    rw [hfind] at h
    cases h
  | some methods =>
    rw [hfind] at h
    exact ⟨methods, Keyed.mem_of_find? hfind, h⟩

theorem mem_pairs_iff (method : Method) (path : String) :
    (method, path) ∈ table.pairs ↔ method ∈ (table.methodsAt path).methods := by
  unfold pairs
  simp only [List.mem_flatMap, List.mem_map, Prod.mk.injEq]
  constructor
  . rintro ⟨entry, hentry, _, hmethod, rfl, rfl⟩
    rw [methodsAt_of_mem hentry]
    exact hmethod
  . intro hmethod
    obtain ⟨methods, hentry, hmem⟩ := exists_of_mem_methodsAt hmethod
    exact ⟨_, hentry, method, hmem, rfl, rfl⟩

namespace Coherent

theorem mem_bound_iff (h : table.Coherent) (pair : Method × String) : pair ∈ table.bound ↔ pair ∈ table.pairs := by
  obtain ⟨method, path⟩ := pair
  rw [mem_pairs_iff]
  exact h.agrees method path

theorem pairs_nodup (h : table.Coherent) : table.pairs.Nodup := by
  unfold pairs
  rw [List.nodup_flatMap]
  constructor
  . intro entry hentry
    apply (h.distinct entry hentry).map
    intro method method' heq
    exact (Prod.mk.inj heq).1
  . apply table.paths.ascending.imp
    intro entry entry' hlt pair hpair hpair'
    obtain ⟨_, _, rfl⟩ := List.mem_map.mp hpair
    obtain ⟨_, _, heq⟩ := List.mem_map.mp hpair'
    -- two paths have no pair in common
    exact absurd (Prod.mk.inj heq).2 (ne_of_gt hlt)

end Coherent

theorem precedes_trans (a b c : Method × String) (hab : precedes a b = true) (hbc : precedes b c = true) :
    precedes a c = true := by
  simp only [precedes, Bool.or_eq_true, Bool.and_eq_true, decide_eq_true_eq, beq_iff_eq] at *
  rcases hab with hab | ⟨hab, hname⟩
  . rcases hbc with hbc | ⟨hbc, -⟩
    . exact .inl (String.lt_trans hab hbc)
    . exact .inl (hbc ▸ hab)
  . rcases hbc with hbc | ⟨hbc, hname'⟩
    . exact .inl (hab ▸ hbc)
    . exact .inr ⟨hab.trans hbc, String.le_trans hname hname'⟩

theorem precedes_total (a b : Method × String) : (precedes a b || precedes b a) = true := by
  simp only [precedes, Bool.or_eq_true, Bool.and_eq_true, decide_eq_true_eq, beq_iff_eq]
  rcases lt_trichotomy a.2 b.2 with hlt | heq | hgt
  . exact .inl (.inl hlt)
  . cases String.le_total a.1.name b.1.name with
    | inl hle => exact .inl (.inr ⟨heq, hle⟩)
    | inr hle => exact .inr (.inr ⟨heq.symm, hle⟩)
  . exact .inr (.inl hgt)

theorem Coherent.routes_pairwise (h : table.Coherent) :
    table.routes.Pairwise fun a b => a.2 < b.2 ∨ (a.2 = b.2 ∧ a.1.name < b.1.name) := by
  have hsorted : table.routes.Pairwise fun a b => precedes a b = true :=
    List.pairwise_mergeSort precedes_trans precedes_total table.bound
  have hnodup : table.routes.Nodup := by
    unfold routes
    rw [(List.mergeSort_perm _ _).nodup_iff]
    exact h.nodup
  apply (hsorted.and hnodup).imp_of_mem
  rintro a b ha hb ⟨hle, hne⟩
  simp only [precedes, Bool.or_eq_true, Bool.and_eq_true, decide_eq_true_eq, beq_iff_eq] at hle
  refine hle.imp_right ?_
  rintro ⟨hpath, hname⟩
  refine ⟨hpath, lt_of_le_of_ne hname ?_⟩
  intro hsame
  have hroutable {pair : Method × String} (hpair : pair ∈ table.routes) : pair.1.isRoutable = true :=
    (h.routable pair (List.mem_mergeSort.mp hpair)).2
  exact hne (Prod.ext (Method.name_injOn (hroutable ha) (hroutable hb) hsame) hpath)

end

namespace Coherent

variable {table table' : RouteTable (Endpoint σ)} {calls : List (Call σ)} {call : Call σ}

theorem bind (h : table.Coherent) (hbind : table.bind call.method call.path call.endpoint = .ok table') :
    table'.Coherent := by
  obtain ⟨hpath, hmethod, hfree, rfl⟩ := bind_eq_ok hbind
  have hnew : call.method ∉ (table.methodsAt call.path).methods := by
    rw [← h.agrees]
    exact hfree
  have hadd : ((table.methodsAt call.path).add call.method call.endpoint).methods
      = (table.methodsAt call.path).methods ++ [call.method] := by
    simp [MethodTable.methods, MethodTable.add]
  have hdistinct : (table.methodsAt call.path).methods.Nodup := by
    unfold methodsAt
    cases hfind : table.paths.find? call.path with
    | none => exact List.nodup_nil
    | some methods => exact h.distinct _ (Keyed.mem_of_find? hfind)
  constructor
  case inhabited =>
    intro entry hentry
    cases Keyed.mem_of_mem_insert hentry with
    | inl heq =>
      rw [heq]
      simp [MethodTable.add]
    | inr hold => exact h.inhabited entry hold
  case distinct =>
    intro entry hentry
    cases Keyed.mem_of_mem_insert hentry with
    | inl heq =>
      rw [heq, hadd, ← List.concat_eq_append]
      exact hdistinct.concat hnew
    | inr hold => exact h.distinct entry hold
  case agrees =>
    intro method path
    rw [List.mem_append, List.mem_singleton, h.agrees]
    unfold methodsAt Call.pair
    rw [Keyed.find?_insert]
    by_cases hsame : path = call.path
    . subst hsame
      rw [if_pos rfl, Option.getD_some]
      show _ ↔ method ∈ ((table.methodsAt call.path).add call.method call.endpoint).methods
      rw [hadd]
      simp
      rfl
    . rw [if_neg hsame]
      simp [hsame]
  case nodup =>
    rw [← List.concat_eq_append]
    exact h.nodup.concat hfree
  case routable =>
    rw [List.forall_mem_append, List.forall_mem_singleton]
    exact ⟨h.routable, hpath, hmethod⟩

theorem pairs_perm (h : table.Coherent) (hbind : table.bind call.method call.path call.endpoint = .ok table') :
    table'.pairs.Perm (call.pair :: table.pairs) := by
  have hnext := h.bind hbind
  obtain ⟨-, -, hfree, hbound⟩ := bind_eq_ok hbind
  have hnodup : (call.pair :: table.pairs).Nodup := by
    rw [List.nodup_cons, ← h.mem_bound_iff]
    exact ⟨hfree, h.pairs_nodup⟩
  rw [List.perm_ext_iff_of_nodup hnext.pairs_nodup hnodup]
  intro pair
  rw [← hnext.mem_bound_iff]
  rw [List.mem_cons]
  rw [← h.mem_bound_iff]
  rw [hbound, List.mem_append, List.mem_singleton]
  exact or_comm

theorem binds (h : table.Coherent) (hbinds : Binds table calls table') : table'.Coherent := by
  induction hbinds with
  | nil => exact h
  | cons hbind _ ih => exact ih (h.bind hbind)

end Coherent

end RouteTable

inductive Registration (σ : Type) where
  | route (call : Call σ)
  | resource (resource : Resource σ)

namespace RouteTable

def register (table : RouteTable (Endpoint σ)) :
    Registration σ → Action σ (Except RouteError Unit × RouteTable (Endpoint σ))
  | .route call => table.attach call.method call.path call.endpoint
  | .resource resource => resource.attach table

def registerEach (table : RouteTable (Endpoint σ)) :
    List (Registration σ) → Action σ (List (Except RouteError Unit) × RouteTable (Endpoint σ))
  | [] => return ([], table)
  | registration :: registrations => do
    let (answer, table) ← table.register registration
    let (answers, table) ← table.registerEach registrations
    return (answer :: answers, table)

theorem register_exec (registration : Registration σ) (table : RouteTable (Endpoint σ)) (world : World σ) :
    ∃ answer calls table' world',
      (table.register registration).exec world = (.ok (answer, table'), world')
        ∧
      Binds table calls table' := by
  cases registration with
  | route call => exact exists_attach table call world
  | resource resource =>
    obtain ⟨answer, verbs, _, table', world', hexec, -, hbinds, -⟩ :=
      resource.attachVerbs_exec table Verb.every world
    exact ⟨answer, _, table', world', hexec, hbinds⟩

theorem registerEach_exec (registrations : List (Registration σ)) (table : RouteTable (Endpoint σ))
    (world : World σ) :
    ∃ answers calls table' world',
      (table.registerEach registrations).exec world = (.ok (answers, table'), world')
        ∧
      answers.length = registrations.length
        ∧
      Binds table calls table' := by
  induction registrations generalizing table world with
  | nil => exact ⟨[], [], table, world, rfl, rfl, .nil table⟩
  | cons registration registrations ih =>
    obtain ⟨answer, calls, middle, world', hfirst, hbinds⟩ := register_exec registration table world
    obtain ⟨answers, calls', table', world'', hrest, hlength, hbinds'⟩ := ih middle world'
    refine ⟨answer :: answers, calls ++ calls', table', world'', ?_, by simp [hlength], hbinds.append hbinds'⟩
    unfold registerEach
    rw [Action.exec_bind_ok hfirst]
    rw [Action.exec_bind_ok hrest]
    rfl

theorem Coherent.attach_exec {table : RouteTable (Endpoint σ)} (h : table.Coherent) (call : Call σ)
    (world : World σ) :
    ∃ result next world',
      (table.attach call.method call.path call.endpoint).exec world = (.ok (result, next), world')
        ∧
      result
        =
      (if Path.isRoutable call.path = false then .error (.invalidPath call.path)
      else if call.method ∉ Method.standard then .error (.unsupportedMethod call.method)
      else if call.pair ∈ table.pairs then .error (.duplicate call.method call.path)
      else .ok ())
        ∧
      (∀ e, result = .error e → next = table ∧ world' = world)
        ∧
      (result = .ok () → next.pairs.Perm (call.pair :: table.pairs)) := by
  have htaken := h.mem_bound_iff call.pair
  by_cases hpath : Path.isRoutable call.path = true
  . rw [if_neg (ne_true_of_eq_false · hpath)]
    by_cases hmethod : call.method ∈ Method.standard
    . rw [if_neg (not_not_intro hmethod)]
      rw [← Method.isRoutable_iff] at hmethod
      by_cases hpair : call.pair ∈ table.pairs
      . have hbind := bind_of_taken hpath hmethod (htaken.mpr hpair)
        rw [if_pos hpair]
        exact ⟨_, _, _, attach_exec_error hbind world, rfl, fun _ _ => ⟨rfl, rfl⟩, nofun⟩
      . obtain ⟨next, hbind⟩ := bind_of_free hpath hmethod (mt htaken.mp hpair)
        rw [if_neg hpair]
        exact ⟨_, _, _, attach_exec_ok hbind world, rfl, nofun, fun _ => h.pairs_perm hbind⟩
    . have hunsupported : call.method.isRoutable = false := by
        rw [← Bool.not_eq_true, Method.isRoutable_iff]
        exact hmethod
      have hbind := bind_of_unsupported table hpath hunsupported
      rw [if_pos hmethod]
      exact ⟨_, _, _, attach_exec_error hbind world, rfl, fun _ _ => ⟨rfl, rfl⟩, nofun⟩
  . rw [Bool.not_eq_true] at hpath
    have hbind := bind_of_invalid table hpath
    rw [if_pos hpath]
    exact ⟨_, _, _, attach_exec_error hbind world, rfl, fun _ _ => ⟨rfl, rfl⟩, nofun⟩

/--
After any run of calls and of resources, accepted or refused, both records of a table hold the same routes, each of
them once, and they are listed in the order of their paths and the names of their methods. A further call that is
refused leaves the table as it is, and is refused for its path, else for its method, else because its pair is taken.
-/
theorem records_agree_after_registrations (context : String) (registrations : List (Registration σ))
    (world : World σ) :
    ∃ answers table world',
      ((RouteTable.new context).registerEach registrations).exec world = (.ok (answers, table), world')
        ∧
      answers.length = registrations.length
        ∧
      table.bound.Nodup ∧ table.pairs.Nodup ∧ (∀ pair, pair ∈ table.bound ↔ pair ∈ table.pairs)
        ∧
      Entries.Ascending table.paths.entries ∧ (∀ entry ∈ table.paths, entry.2.entries ≠ [])
        ∧
      (∀ pair ∈ table.bound, Path.isRoutable pair.2 = true)
        ∧
      (∀ pair, pair ∈ table.routes ↔ pair ∈ table.bound)
        ∧
      table.routes.Pairwise (fun a b => a.2 < b.2 ∨ (a.2 = b.2 ∧ a.1.name < b.1.name))
        ∧
      ∀ call : Call σ, ∃ result next world'',
        (table.attach call.method call.path call.endpoint).exec world' = (.ok (result, next), world'')
          ∧
        result
          =
        (if Path.isRoutable call.path = false then .error (.invalidPath call.path)
        else if call.method ∉ Method.standard then .error (.unsupportedMethod call.method)
        else if call.pair ∈ table.pairs then .error (.duplicate call.method call.path)
        else .ok ())
          ∧
        (∀ e, result = .error e → next = table ∧ world'' = world')
          ∧
        (result = .ok () → next.pairs.Perm (call.pair :: table.pairs)) := by
  obtain ⟨answers, calls, table, world', hexec, hlength, hbinds⟩ :=
    registerEach_exec registrations (RouteTable.new context) world
  have hcoherent := (coherent_new context).binds hbinds
  refine ⟨answers, table, world', hexec, hlength, hcoherent.nodup, hcoherent.pairs_nodup, hcoherent.mem_bound_iff,
    table.paths.ascending, hcoherent.inhabited, fun pair hpair => (hcoherent.routable pair hpair).1, ?_,
    hcoherent.routes_pairwise, ?_⟩
  . intro pair
    exact mem_routes_iff
  . intro call
    exact hcoherent.attach_exec call world'

end RouteTable
end ServiceHost.Http
