import ServiceHost.Http.Resource
import ServiceHost.Proofs.Action
import ServiceHost.Proofs.Http.MethodTable
import ServiceHost.Proofs.Keyed

/-!
This module contains runs of calls that bind endpoints in a table, accepted or refused. The table holds
exactly the accepted ones afterwards, in the order they were made. Whatever else binds routes does it by
such calls.
-/

namespace ServiceHost.Http

variable {σ : Type}

structure Call (σ : Type) where
  method : Method
  path : String
  endpoint : Endpoint σ

namespace Call

def pair (call : Call σ) : Method × String :=
  (call.method, call.path)

def entry (call : Call σ) : Method × Endpoint σ :=
  (call.method, call.endpoint)

def onPath (path : String) (calls : List (Call σ)) : List (Call σ) :=
  calls.filter (·.path = path)

def accepted : List (Call σ) → List (Except RouteError Unit) → List (Call σ)
  | call :: calls, .ok () :: answers => call :: accepted calls answers
  | _ :: calls, .error _ :: answers => accepted calls answers
  | _, _ => []

end Call

namespace RouteTable

def report (context : String) (pair : Method × String) : Log.Event :=
  ⟨.routes, .debug, "Route bound", [("method", pair.1.name), ("path", Path.join context pair.2)]⟩

def attachEach (table : RouteTable (Endpoint σ)) :
    List (Call σ) → Action σ (List (Except RouteError Unit) × RouteTable (Endpoint σ))
  | [] => return ([], table)
  | call :: calls => do
    let (answer, table) ← table.attach call.method call.path call.endpoint
    let (answers, table) ← table.attachEach calls
    return (answer :: answers, table)

theorem attach_exec_error {table : RouteTable (Endpoint σ)} {call : Call σ} {e : RouteError}
    (h : table.bind call.method call.path call.endpoint = .error e) (world : World σ) :
    (table.attach call.method call.path call.endpoint).exec world = (.ok (.error e, table), world) := by
  unfold attach
  rw [h]
  rfl

theorem attach_exec_ok {table bound : RouteTable (Endpoint σ)} {call : Call σ}
    (h : table.bind call.method call.path call.endpoint = .ok bound) (world : World σ) :
    (table.attach call.method call.path call.endpoint).exec world
      =
    (.ok (.ok (), bound), world.record (report table.context call.pair)) := by
  unfold attach
  rw [h]
  rfl

theorem bind_eq_ok {table bound : RouteTable (Endpoint σ)} {call : Call σ}
    (h : table.bind call.method call.path call.endpoint = .ok bound)
    : Path.isRoutable call.path = true
      ∧
      call.method.isRoutable = true
      ∧
      call.pair ∉ table.bound
      ∧
      bound
        =
      { table with
        paths := table.paths.insert call.path
          ((table.methodsAt call.path).add call.method call.endpoint)
        bound := table.bound ++ [call.pair] } := by
  unfold bind at h
  split at h
  . cases h
  . next hpath =>
    split at h
    . cases h
    . next hmethod =>
      split at h
      . cases h
      . next hfree =>
        injection h with h
        simp only [Bool.not_eq_true', Bool.not_eq_false] at hpath hmethod
        exact ⟨hpath, hmethod, hfree, h.symm⟩

theorem attachEach_cons_of_error {table table' : RouteTable (Endpoint σ)} {call : Call σ}
    {calls : List (Call σ)} {answers : List (Except RouteError Unit)} {e : RouteError}
    {world world' : World σ} (h : table.bind call.method call.path call.endpoint = .error e)
    (hrest : (table.attachEach calls).exec world = (.ok (answers, table'), world')) :
    (table.attachEach (call :: calls)).exec world = (.ok (.error e :: answers, table'), world') := by
  unfold attachEach
  rw [Action.exec_bind_ok (attach_exec_error h world)]
  rw [Action.exec_bind_ok hrest]
  rfl

theorem attachEach_cons_of_ok {table bound table' : RouteTable (Endpoint σ)} {call : Call σ}
    {calls : List (Call σ)} {answers : List (Except RouteError Unit)} {world world' : World σ}
    (h : table.bind call.method call.path call.endpoint = .ok bound)
    (hrest : (bound.attachEach calls).exec (world.record (report table.context call.pair))
        =
      (.ok (answers, table'), world')) :
    (table.attachEach (call :: calls)).exec world = (.ok (.ok () :: answers, table'), world') := by
  unfold attachEach
  rw [Action.exec_bind_ok (attach_exec_ok h world)]
  rw [Action.exec_bind_ok hrest]
  rfl

theorem attachEach_exec (calls : List (Call σ)) (table : RouteTable (Endpoint σ)) (world : World σ) :
    ∃ answers table' world',
      (table.attachEach calls).exec world = (.ok (answers, table'), world')
        ∧
      answers.length = calls.length := by
  induction calls generalizing table world with
  | nil => exact ⟨[], table, world, rfl, rfl⟩
  | cons call calls ih =>
    cases h : table.bind call.method call.path call.endpoint with
    | error e =>
      obtain ⟨answers, table', world', hexec, hlength⟩ := ih table world
      exact ⟨_, _, _, attachEach_cons_of_error h hexec, by simp [hlength]⟩
    | ok bound =>
      obtain ⟨answers, table', world', hexec, hlength⟩ := ih bound (world.record _)
      exact ⟨_, _, _, attachEach_cons_of_ok h hexec, by simp [hlength]⟩

theorem attachEach_eraseIdx {calls : List (Call σ)} {table table' : RouteTable (Endpoint σ)}
    {answers : List (Except RouteError Unit)} {world world' : World σ} {i : Nat} {e : RouteError}
    (hexec : (table.attachEach calls).exec world = (.ok (answers, table'), world'))
    (hi : answers[i]? = some (.error e)) :
    (table.attachEach (calls.eraseIdx i)).exec world
      =
    (.ok (answers.eraseIdx i, table'), world') := by
  induction calls generalizing table answers world i with
  | nil =>
    cases hexec
    simp at hi
  | cons call calls ih =>
    cases h : table.bind call.method call.path call.endpoint with
    | error e' =>
      obtain ⟨rest, last, final, hrest, -⟩ := attachEach_exec calls table world
      rw [attachEach_cons_of_error h hrest] at hexec
      cases hexec
      cases i with
      | zero => exact hrest
      | succ i => exact attachEach_cons_of_error h (ih hrest hi)
    | ok bound =>
      obtain ⟨rest, last, final, hrest, -⟩ := attachEach_exec calls bound (world.record _)
      rw [attachEach_cons_of_ok h hrest] at hexec
      cases hexec
      cases i with
      | zero => cases hi
      | succ i => exact attachEach_cons_of_ok h (ih hrest hi)

/-- A table holds exactly some calls, in the order they were made. -/
structure Holds (table : RouteTable (Endpoint σ)) (calls : List (Call σ)) : Prop where
  bound : table.bound = calls.map Call.pair
  nodup : (calls.map Call.pair).Nodup
  routable : ∀ call ∈ calls, call.method.isRoutable = true
  find? : ∀ path, table.paths.find? path
      =
    if Call.onPath path calls = [] then none else some ⟨(Call.onPath path calls).map Call.entry⟩
  paths : ∀ entry ∈ table.paths, entry.2.methods.Nodup ∧ ∃ call ∈ calls, call.path = entry.1

theorem holds_new (context : String) : Holds (new context : RouteTable (Endpoint σ)) [] where
  bound := rfl
  nodup := List.nodup_nil
  routable := by simp
  find? := by
    intro path
    rfl
  paths := by
    intro entry h
    cases h

theorem Holds.methodsAt {table : RouteTable (Endpoint σ)} {calls : List (Call σ)}
    (h : Holds table calls) (path : String) :
    table.methodsAt path = ⟨(Call.onPath path calls).map Call.entry⟩ := by
  unfold RouteTable.methodsAt
  rw [h.find?]
  split
  . next hnone =>
    rw [hnone]
    rfl
  . rfl

theorem methods_onPath_nodup {calls : List (Call σ)} (path : String)
    (h : (calls.map Call.pair).Nodup) :
    ((Call.onPath path calls).map (·.method)).Nodup := by
  have hon : ((Call.onPath path calls).map Call.pair).Nodup :=
    h.sublist (List.filter_sublist.map Call.pair)
  have hpair : (Call.onPath path calls).map Call.pair
      = ((Call.onPath path calls).map (·.method)).map fun method => (method, path) := by
    rw [List.map_map]
    apply List.map_congr_left
    intro call hcall
    have := (List.mem_filter.mp hcall).2
    simp only [decide_eq_true_eq] at this
    simp [Call.pair, this]
  rw [hpair] at hon
  apply List.Pairwise.of_map _ _ hon
  intro a b hne heq
  exact hne (congrArg (fun method => (method, path)) heq)

theorem onPath_append_singleton (path : String) (calls : List (Call σ)) (call : Call σ) :
    Call.onPath path (calls ++ [call])
      =
    if call.path = path then Call.onPath path calls ++ [call] else Call.onPath path calls := by
  unfold Call.onPath
  rw [List.filter_append]
  split
  . next h => simp [h]
  . next h => simp [h]

theorem Holds.bind {table bound : RouteTable (Endpoint σ)} {calls : List (Call σ)} {call : Call σ}
    (h : Holds table calls) (hbind : table.bind call.method call.path call.endpoint = .ok bound) :
    Holds bound (calls ++ [call]) := by
  obtain ⟨-, hmethod, hfree, rfl⟩ := bind_eq_ok hbind
  have hnodup : ((calls ++ [call]).map Call.pair).Nodup := by
    rw [h.bound] at hfree
    rw [List.map_append, List.nodup_append]
    refine ⟨h.nodup, by simp, ?_⟩
    intro a ha b hb hab
    rw [List.map_cons, List.map_nil, List.mem_singleton] at hb
    rw [hab, hb] at ha
    exact hfree ha
  have hadd : (table.methodsAt call.path).add call.method call.endpoint
      = ⟨(Call.onPath call.path (calls ++ [call])).map Call.entry⟩ := by
    rw [h.methodsAt, onPath_append_singleton]
    simp [MethodTable.add, Call.entry]
  constructor
  . simp [h.bound]
  . exact hnodup
  . intro other hother
    rw [List.mem_append, List.mem_singleton] at hother
    cases hother with
    | inl hother => exact h.routable other hother
    | inr hother => exact hother ▸ hmethod
  . intro path
    dsimp only
    rw [Keyed.find?_insert, hadd, h.find?]
    by_cases hpath : path = call.path
    . rw [if_pos hpath, hpath, onPath_append_singleton]
      simp
    . rw [if_neg hpath, onPath_append_singleton, if_neg (Ne.symm hpath)]
  . intro entry hentry
    cases Keyed.mem_of_mem_insert hentry with
    | inl heq =>
      rw [heq, hadd]
      constructor
      . have := methods_onPath_nodup call.path hnodup
        simpa [MethodTable.methods, Function.comp_def, Call.entry] using this
      . exact ⟨call, by simp, rfl⟩
    | inr hmem =>
      obtain ⟨hmethods, other, hother, hpath⟩ := h.paths entry hmem
      exact ⟨hmethods, other, by simp [hother], hpath⟩

inductive Binds : RouteTable (Endpoint σ) → List (Call σ) → RouteTable (Endpoint σ) → Prop where
  | nil (table : RouteTable (Endpoint σ)) : Binds table [] table
  | cons {table bound table' : RouteTable (Endpoint σ)} {call : Call σ} {calls : List (Call σ)} :
    table.bind call.method call.path call.endpoint = .ok bound →
    Binds bound calls table' →
    Binds table (call :: calls) table'

namespace Binds

variable {table table' table'' : RouteTable (Endpoint σ)} {calls calls' : List (Call σ)}

theorem append (h : Binds table calls table') (h' : Binds table' calls' table'') :
    Binds table (calls ++ calls') table'' := by
  induction h with
  | nil => exact h'
  | cons hbind _ ih => exact .cons hbind (ih h')

theorem context (h : Binds table calls table') : table'.context = table.context := by
  induction h with
  | nil => rfl
  | cons hbind _ ih =>
    obtain ⟨-, -, -, rfl⟩ := bind_eq_ok hbind
    exact ih

theorem bound (h : Binds table calls table') : table'.bound = table.bound ++ calls.map Call.pair := by
  induction h with
  | nil => simp
  | cons hbind _ ih =>
    obtain ⟨-, -, -, rfl⟩ := bind_eq_ok hbind
    simp [ih]

theorem holds {before : List (Call σ)} (h : Binds table calls table') (hholds : Holds table before) :
    Holds table' (before ++ calls) := by
  induction h generalizing before with
  | nil => simpa using hholds
  | cons hbind _ ih =>
    have hrest := ih (hholds.bind hbind)
    rw [List.append_assoc, List.singleton_append] at hrest
    exact hrest

theorem paths (h : Binds table calls table')
    (hpaths : ∀ entry ∈ table.paths, Path.isRoutable entry.1 = true) :
    ∀ entry ∈ table'.paths, Path.isRoutable entry.1 = true := by
  induction h with
  | nil => exact hpaths
  | cons hbind _ ih =>
    obtain ⟨hpath, -, -, rfl⟩ := bind_eq_ok hbind
    apply ih
    intro entry hentry
    cases Keyed.mem_of_mem_insert hentry with
    | inl heq => rw [heq, hpath]
    | inr hmem => exact hpaths entry hmem

theorem endpoints {p : Endpoint σ → Prop} (h : Binds table calls table')
    (htable : ∀ entry ∈ table.paths, ∀ bound ∈ entry.2.entries, p bound.2)
    (hcalls : ∀ call ∈ calls, p call.endpoint) :
    ∀ entry ∈ table'.paths, ∀ bound ∈ entry.2.entries, p bound.2 := by
  induction h with
  | nil => exact htable
  | @cons table bound table' call calls hbind _ ih =>
    obtain ⟨-, -, -, rfl⟩ := bind_eq_ok hbind
    rw [List.forall_mem_cons] at hcalls
    apply ih _ hcalls.2
    intro entry hentry
    cases Keyed.mem_of_mem_insert hentry with
    | inl heq =>
      rw [heq]
      unfold MethodTable.add
      rw [List.forall_mem_append, List.forall_mem_singleton]
      refine ⟨?_, hcalls.1⟩
      unfold methodsAt
      cases hfind : table.paths.find? call.path with
      | none => simp [MethodTable.empty]
      | some methods => exact htable _ (Keyed.mem_of_find? hfind)
    | inr hmem => exact htable entry hmem

end Binds

theorem bind_of_free {table : RouteTable (Endpoint σ)} {call : Call σ}
    (hpath : Path.isRoutable call.path = true) (hmethod : call.method.isRoutable = true)
    (hfree : call.pair ∉ table.bound) :
    ∃ bound, table.bind call.method call.path call.endpoint = .ok bound := by
  unfold Call.pair at hfree
  unfold bind
  rw [if_neg (by simp [hpath]), if_neg (by simp [hmethod]), if_neg hfree]
  exact ⟨_, rfl⟩

theorem bind_of_taken {table : RouteTable (Endpoint σ)} {call : Call σ}
    (hpath : Path.isRoutable call.path = true) (hmethod : call.method.isRoutable = true)
    (htaken : call.pair ∈ table.bound) :
    table.bind call.method call.path call.endpoint = .error (.duplicate call.method call.path) := by
  unfold Call.pair at htaken
  unfold bind
  rw [if_neg (by simp [hpath]), if_neg (by simp [hmethod]), if_pos htaken]

theorem bind_of_invalid (table : RouteTable (Endpoint σ)) {call : Call σ}
    (hpath : Path.isRoutable call.path = false) :
    table.bind call.method call.path call.endpoint = .error (.invalidPath call.path) := by
  unfold bind
  rw [if_pos (by simp [hpath])]

theorem bind_of_unsupported (table : RouteTable (Endpoint σ)) {call : Call σ}
    (hpath : Path.isRoutable call.path = true) (hmethod : call.method.isRoutable = false) :
    table.bind call.method call.path call.endpoint = .error (.unsupportedMethod call.method) := by
  unfold bind
  rw [if_neg (by simp [hpath]), if_pos (by simp [hmethod])]

theorem binds_or_refused (table : RouteTable (Endpoint σ)) (calls : List (Call σ)) :
    (∃ table', Binds table calls table')
      ∨
    ∃ before call after table' e,
      calls = before ++ call :: after
        ∧
      Binds table before table'
        ∧
      table'.bind call.method call.path call.endpoint = .error e := by
  induction calls generalizing table with
  | nil => exact .inl ⟨table, .nil table⟩
  | cons call calls ih =>
    cases hbind : table.bind call.method call.path call.endpoint with
    | error e => exact .inr ⟨[], call, calls, table, e, rfl, .nil table, hbind⟩
    | ok bound =>
      cases ih bound with
      | inl hrest =>
        obtain ⟨table', hrest⟩ := hrest
        exact .inl ⟨table', .cons hbind hrest⟩
      | inr hrest =>
        obtain ⟨before, other, after, table', e, hcalls, hbefore, he⟩ := hrest
        exact .inr ⟨call :: before, other, after, table', e, by rw [hcalls]; rfl, .cons hbind hbefore, he⟩

theorem exists_binds (table : RouteTable (Endpoint σ)) {calls : List (Call σ)}
    (hroutable : ∀ call ∈ calls, Path.isRoutable call.path = true ∧ call.method.isRoutable = true)
    (hnodup : (calls.map Call.pair).Nodup) (hfree : ∀ pair ∈ calls.map Call.pair, pair ∉ table.bound) :
    ∃ table', Binds table calls table' := by
  induction calls generalizing table with
  | nil => exact ⟨table, .nil table⟩
  | cons call calls ih =>
    rw [List.forall_mem_cons] at hroutable
    rw [List.map_cons, List.nodup_cons] at hnodup
    rw [List.map_cons, List.forall_mem_cons] at hfree
    obtain ⟨bound, hbind⟩ := bind_of_free hroutable.1.1 hroutable.1.2 hfree.1
    obtain ⟨-, -, -, hbound⟩ := bind_eq_ok hbind
    have hrest : ∀ pair ∈ calls.map Call.pair, pair ∉ bound.bound := by
      intro pair hpair
      rw [hbound, List.mem_append, List.mem_singleton, not_or]
      refine ⟨hfree.2 pair hpair, ?_⟩
      intro heq
      exact hnodup.1 (heq ▸ hpair)
    obtain ⟨table', hbinds⟩ := ih bound hroutable.2 hnodup.2 hrest
    exact ⟨table', .cons hbind hbinds⟩

theorem exists_attach (table : RouteTable (Endpoint σ)) (call : Call σ) (world : World σ) :
    ∃ result calls table' world',
      (table.attach call.method call.path call.endpoint).exec world = (.ok (result, table'), world')
        ∧
      Binds table calls table' := by
  cases hbind : table.bind call.method call.path call.endpoint with
  | error e => exact ⟨_, [], table, world, attach_exec_error hbind world, .nil table⟩
  | ok bound => exact ⟨_, [call], bound, _, attach_exec_ok hbind world, .cons hbind (.nil bound)⟩

theorem attachEach_binds {calls : List (Call σ)} {table table' : RouteTable (Endpoint σ)}
    {answers : List (Except RouteError Unit)} {world world' : World σ}
    (hexec : (table.attachEach calls).exec world = (.ok (answers, table'), world')) :
    Binds table (Call.accepted calls answers) table' := by
  induction calls generalizing table answers world with
  | nil =>
    cases hexec
    exact .nil _
  | cons call calls ih =>
    cases hbind : table.bind call.method call.path call.endpoint with
    | error e =>
      obtain ⟨rest, last, final, hrest, -⟩ := attachEach_exec calls table world
      rw [attachEach_cons_of_error hbind hrest] at hexec
      cases hexec
      exact ih hrest
    | ok bound =>
      obtain ⟨rest, last, final, hrest, -⟩ := attachEach_exec calls bound (world.record _)
      rw [attachEach_cons_of_ok hbind hrest] at hexec
      cases hexec
      exact .cons hbind (ih hrest)

theorem Holds.attachEach {calls : List (Call σ)} {table table' : RouteTable (Endpoint σ)}
    {before : List (Call σ)} {answers : List (Except RouteError Unit)} {world world' : World σ}
    (h : Holds table before)
    (hexec : (table.attachEach calls).exec world = (.ok (answers, table'), world')) :
    Holds table' (before ++ Call.accepted calls answers) ∧ table'.context = table.context := by
  have hbinds := attachEach_binds hexec
  exact ⟨hbinds.holds h, hbinds.context⟩

theorem mem_routes_iff {table : RouteTable (Endpoint σ)} {pair : Method × String} :
    pair ∈ table.routes ↔ pair ∈ table.bound := by
  unfold routes
  rw [List.mem_mergeSort]

theorem Binds.routes_perm {table table' : RouteTable (Endpoint σ)} {calls : List (Call σ)}
    {pairs : List (Method × String)} (h : Binds table calls table') (hpairs : calls.map Call.pair = pairs) :
    table'.routes.Perm (table.routes ++ pairs) := by
  unfold routes
  rw [h.bound, hpairs]
  exact (List.mergeSort_perm _ _).trans (.append_right _ (List.mergeSort_perm _ _).symm)

theorem Holds.routes_nodup {table : RouteTable (Endpoint σ)} {calls : List (Call σ)}
    (h : Holds table calls) : table.routes.Nodup := by
  unfold routes
  rw [(List.mergeSort_perm _ _).nodup_iff, h.bound]
  exact h.nodup

end RouteTable

namespace Resource

open RouteTable (Binds)

def call (resource : Resource σ) (verb : Verb) : Call σ :=
  ⟨verb.method, resource.path, resource.endpoint verb⟩

theorem attachVerbs_cons_of_ok {resource : Resource σ} {table bound : RouteTable (Endpoint σ)} {verb : Verb}
    (h : table.bind verb.method resource.path (resource.endpoint verb) = .ok bound) (verbs : List Verb)
    (world : World σ) :
    (resource.attachVerbs table (verb :: verbs)).exec world
      =
    (resource.attachVerbs bound verbs).exec
      (world.record (RouteTable.report table.context (verb.method, resource.path))) := by
  have hattach := @RouteTable.attach_exec_ok _ _ _ (resource.call verb) h world
  exact Action.exec_bind_ok hattach

theorem attachVerbs_cons_of_error {resource : Resource σ} {table : RouteTable (Endpoint σ)} {verb : Verb}
    {e : RouteError} (h : table.bind verb.method resource.path (resource.endpoint verb) = .error e)
    (verbs : List Verb) (world : World σ) :
    (resource.attachVerbs table (verb :: verbs)).exec world = (.ok (.error e, table), world) := by
  have hattach := @RouteTable.attach_exec_error _ _ (resource.call verb) _ h world
  exact Action.exec_bind_ok hattach

theorem attachVerbs_exec (resource : Resource σ) (table : RouteTable (Endpoint σ)) (verbs : List Verb)
    (world : World σ) :
    ∃ result bound late table' world',
      (resource.attachVerbs table verbs).exec world = (.ok (result, table'), world')
        ∧
      verbs = bound ++ late
        ∧
      Binds table (bound.map resource.call) table'
        ∧
      ((late = [] ∧ result = .ok ())
        ∨
      ∃ verb rest e,
        late = verb :: rest
          ∧
        result = .error e
          ∧
        table'.bind verb.method resource.path (resource.endpoint verb) = .error e) := by
  induction verbs generalizing table world with
  | nil => exact ⟨_, [], [], table, world, rfl, rfl, .nil table, .inl ⟨rfl, rfl⟩⟩
  | cons verb verbs ih =>
    cases hbind : table.bind verb.method resource.path (resource.endpoint verb) with
    | error e =>
      have hexec := attachVerbs_cons_of_error hbind verbs world
      exact ⟨_, [], verb :: verbs, table, world, hexec, rfl, .nil table, .inr ⟨verb, verbs, e, rfl, rfl, hbind⟩⟩
    | ok next =>
      obtain ⟨result, bound, late, table', world', hexec, rfl, hbinds, hend⟩ :=
        ih next (world.record (RouteTable.report table.context (verb.method, resource.path)))
      refine ⟨result, verb :: bound, late, table', world', ?_, rfl, ?_, hend⟩
      . exact (attachVerbs_cons_of_ok hbind _ world).trans hexec
      . exact @Binds.cons _ _ _ _ (resource.call verb) _ hbind hbinds

end Resource

theorem Call.mem_of_mem_accepted {call : Call σ} {calls : List (Call σ)}
    {answers : List (Except RouteError Unit)} (h : call ∈ accepted calls answers) : call ∈ calls := by
  fun_induction accepted calls answers with
  | case1 first calls answers ih =>
    rw [List.mem_cons] at h ⊢
    cases h with
    | inl h => exact .inl h
    | inr h => exact .inr (ih h)
  | case2 first calls e answers ih => exact List.mem_cons_of_mem first (ih h)
  | case3 => cases h

end ServiceHost.Http
