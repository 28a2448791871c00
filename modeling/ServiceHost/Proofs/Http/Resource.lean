import ServiceHost.Proofs.Http.Binding

/-!
This module contains what the registration of a resource leaves behind. Its verbs are bound one after the other,
so one that is refused on account of a later verb leaves the earlier ones bound.
-/

namespace ServiceHost.Http

variable {σ : Type}

theorem Verb.method_isRoutable (verb : Verb) : verb.method.isRoutable = true := by
  cases verb <;> rfl

theorem Verb.method_injective : Function.Injective Verb.method := by
  intro a b h
  cases a <;> cases b <;> first | rfl | cases h

theorem Verb.mem_every (verb : Verb) : verb ∈ every := by
  cases verb <;> decide

namespace RouteTable

theorem bind_eq_error {table : RouteTable (Endpoint σ)} {call : Call σ} {e : RouteError}
    (hmethod : call.method.isRoutable = true)
    (h : table.bind call.method call.path call.endpoint = .error e) :
    (Path.isRoutable call.path = false ∧ e = .invalidPath call.path)
      ∨
    (Path.isRoutable call.path = true ∧ call.pair ∈ table.bound ∧ e = .duplicate call.method call.path) := by
  unfold bind at h
  split at h
  . next hpath =>
    cases h
    exact .inl ⟨by simpa using hpath, rfl⟩
  . next hpath =>
    rw [if_neg (by simp [hmethod])] at h
    split at h
    . next htaken =>
      cases h
      exact .inr ⟨by simpa using hpath, htaken, rfl⟩
    . cases h

theorem Binds.methodsAt {table table' : RouteTable (Endpoint σ)} {calls : List (Call σ)} {path : String}
    (h : Binds table calls table') (hcalls : ∀ call ∈ calls, call.path = path) (other : String) :
    table'.methodsAt other
      =
    if other = path then ⟨(table.methodsAt path).entries ++ calls.map Call.entry⟩ else table.methodsAt other := by
  induction h with
  | nil table =>
    split
    . next heq => simp [heq]
    . rfl
  | @cons table bound table' call calls hbind _ ih =>
    obtain ⟨hcall, hrest⟩ := List.forall_mem_cons.mp hcalls
    obtain ⟨-, -, -, rfl⟩ := bind_eq_ok hbind
    have hmethods (p : String) :
        RouteTable.methodsAt p
            { table with
              paths := table.paths.insert call.path ((table.methodsAt call.path).add call.method call.endpoint)
              bound := table.bound ++ [call.pair] }
          =
        if p = path then (table.methodsAt path).add call.method call.endpoint else table.methodsAt p := by
      unfold RouteTable.methodsAt
      rw [Keyed.find?_insert, hcall]
      split <;> rfl
    rw [ih hrest, hmethods, hmethods, if_pos rfl]
    split
    . simp [MethodTable.add, Call.entry]
    . rfl

theorem Binds.eq_self_iff {table table' : RouteTable (Endpoint σ)} {calls : List (Call σ)}
    (h : Binds table calls table') : table' = table ↔ calls = [] := by
  constructor
  . intro hsame
    have hbound := h.bound
    rw [hsame, List.self_eq_append_right, List.map_eq_nil_iff] at hbound
    exact hbound
  . rintro rfl
    cases h
    rfl

end RouteTable

namespace Resource

open RouteTable (Binds)

def pairs (resource : Resource σ) (verbs : List Verb) : List (Method × String) :=
  verbs.map fun verb => (verb.method, resource.path)

theorem map_pair_calls (resource : Resource σ) (verbs : List Verb) :
    (verbs.map resource.call).map Call.pair = resource.pairs verbs := by
  rw [List.map_map]
  rfl

theorem methodsAt_of_binds {resource : Resource σ} {table table' : RouteTable (Endpoint σ)} {verbs : List Verb}
    (h : Binds table (verbs.map resource.call) table') (path : String) :
    table'.methodsAt path
      =
    if path = resource.path then
      ⟨(table.methodsAt path).entries ++ verbs.map fun verb => (verb.method, resource.endpoint verb)⟩
    else
      table.methodsAt path := by
  have hcalls : ∀ call ∈ verbs.map resource.call, call.path = resource.path := by
    rw [List.forall_mem_map]
    intro _ _
    rfl
  rw [h.methodsAt hcalls, List.map_map]
  split
  . next heq =>
    rw [heq]
    rfl
  . rfl

theorem free_of_binds {resource : Resource σ} {table table' : RouteTable (Endpoint σ)} {verbs : List Verb}
    (h : Binds table (verbs.map resource.call) table') :
    (verbs ≠ [] → Path.isRoutable resource.path = true)
      ∧
    ∀ pair ∈ resource.pairs verbs, pair ∉ table.bound := by
  induction verbs generalizing table with
  | nil => exact ⟨fun hne => absurd rfl hne, fun _ hpair => absurd hpair List.not_mem_nil⟩
  | cons verb verbs ih =>
    rw [List.map_cons] at h
    cases h with
    | cons hbind hrest =>
      obtain ⟨hpath, -, hfree, rfl⟩ := RouteTable.bind_eq_ok hbind
      refine ⟨fun _ => hpath, ?_⟩
      unfold pairs
      rw [List.map_cons, List.forall_mem_cons]
      refine ⟨hfree, ?_⟩
      intro pair hpair hbound
      exact (ih hrest).2 pair hpair (List.mem_append_left _ hbound)

theorem taken_of_refused {resource : Resource σ} {table table' : RouteTable (Endpoint σ)}
    {verbs rest : List Verb} {verb : Verb} {e : RouteError} (hevery : Verb.every = verbs ++ verb :: rest)
    (hbinds : Binds table (verbs.map resource.call) table')
    (h : table'.bind verb.method resource.path (resource.endpoint verb) = .error e) :
    (Path.isRoutable resource.path = false ∧ e = .invalidPath resource.path ∧ verbs = [])
      ∨
    (Path.isRoutable resource.path = true
      ∧
    (verb.method, resource.path) ∈ table.bound ∧ e = .duplicate verb.method resource.path) := by
  cases @RouteTable.bind_eq_error _ _ (resource.call verb) _ verb.method_isRoutable h with
  | inl hinvalid =>
    refine .inl ⟨hinvalid.1, hinvalid.2, ?_⟩
    by_contra hne
    have hpath := (free_of_binds hbinds).1 hne
    exact Bool.false_ne_true (hinvalid.1.symm.trans hpath)
  | inr hduplicate =>
    obtain ⟨hpath, htaken, he⟩ := hduplicate
    refine .inr ⟨hpath, ?_, he⟩
    rw [hbinds.bound, map_pair_calls, List.mem_append] at htaken
    apply htaken.resolve_right
    -- no verb comes twice, so it is not one of those that were just bound
    intro hmem
    obtain ⟨other, hother, heq⟩ := List.mem_map.mp hmem
    have hsame : other = verb := Verb.method_injective (Prod.mk.inj heq).1
    have hnodup : (verbs ++ verb :: rest).Nodup := hevery ▸ by decide
    exact (List.nodup_append.mp hnodup).2.2 _ hother _ List.mem_cons_self hsame

/--
A resource whose registration succeeds adds its five pairs and nothing else. One whose registration fails leaves
the table as it was exactly if its path cannot be routed or the first verb is taken; if another verb is taken,
those before it stay bound.
-/
theorem resource_bound_unless_taken (resource : Resource σ) (table : RouteTable (Endpoint σ)) (world : World σ) :
    ∃ result verbs table' world',
      (resource.attach table).exec world = (.ok (result, table'), world')
        ∧
      table'.routes.Perm (table.routes ++ resource.pairs verbs)
        ∧
      (∀ path, table'.methodsAt path
          =
        if path = resource.path then
          ⟨(table.methodsAt path).entries ++ verbs.map fun verb => (verb.method, resource.endpoint verb)⟩
        else
          table.methodsAt path)
        ∧
      (result = .ok ()
          ↔
        Path.isRoutable resource.path = true ∧ ∀ verb : Verb, (verb.method, resource.path) ∉ table.routes)
        ∧
      (result = .ok () → verbs = [.get, .post, .put, .delete, .head])
        ∧
      (∀ e, result = .error e →
        (Path.isRoutable resource.path = false ∧ e = .invalidPath resource.path ∧ verbs = [])
          ∨
        ∃ verb late,
          [.get, .post, .put, .delete, .head] = verbs ++ verb :: late
            ∧
          (verb.method, resource.path) ∈ table.routes
            ∧
          e = .duplicate verb.method resource.path)
        ∧
      (∀ e, result = .error e →
        (table' = table ↔ Path.isRoutable resource.path = false ∨ (.get, resource.path) ∈ table.routes)) := by
  obtain ⟨result, verbs, late, table', world', hexec, hevery, hbinds, hend⟩ :=
    resource.attachVerbs_exec table Verb.every world
  obtain ⟨hpath, hfree⟩ := free_of_binds hbinds
  simp only [RouteTable.mem_routes_iff]
  refine ⟨result, verbs, table', world', hexec, hbinds.routes_perm (map_pair_calls resource verbs),
    methodsAt_of_binds hbinds, ?_⟩
  cases hend with
  | inl hdone =>
    obtain ⟨rfl, rfl⟩ := hdone
    rw [List.append_nil] at hevery
    subst hevery
    refine ⟨?_, fun _ => rfl, nofun, nofun⟩
    refine iff_of_true rfl ⟨hpath (List.cons_ne_nil _ _), ?_⟩
    intro verb
    exact hfree _ (List.mem_map_of_mem verb.mem_every)
  | inr hrefused =>
    obtain ⟨verb, rest, e, rfl, rfl, he⟩ := hrefused
    have htaken := taken_of_refused hevery hbinds he
    refine ⟨?_, nofun, ?_, ?_⟩
    . refine iff_of_false nofun ?_
      rintro ⟨hroutable, hnone⟩
      cases htaken with
      | inl hinvalid => exact Bool.false_ne_true (hinvalid.1.symm.trans hroutable)
      | inr hduplicate => exact hnone verb hduplicate.2.1
    . rintro _ ⟨⟩
      exact htaken.imp_right fun hduplicate => ⟨verb, rest, hevery, hduplicate.2⟩
    . rintro _ ⟨⟩
      rw [hbinds.eq_self_iff, List.map_eq_nil_iff]
      constructor
      . rintro rfl
        obtain ⟨rfl, -⟩ := List.cons.inj hevery
        exact htaken.imp (·.1) (·.2.1)
      . intro hfirst
        by_contra hne
        cases hfirst with
        | inl hinvalid => exact Bool.false_ne_true (hinvalid.symm.trans (hpath hne))
        | inr hget =>
          obtain ⟨first, others, rfl⟩ := List.exists_cons_of_ne_nil hne
          obtain ⟨rfl, -⟩ := List.cons.inj hevery
          exact hfree _ List.mem_cons_self hget

def greeting : Resource Unit :=
  ⟨"/greeting", fun
    | .get => some fun _ => return .ok (.string "hello")
    | _ => none⟩

def postedTable : RouteTable (Endpoint Unit) :=
  ⟨"/", .ofList [("/greeting", ⟨[(.post, fun _ => return .text 200 "posted")]⟩)], [(.post, "/greeting")]⟩

def getGreeting : Request :=
  ⟨.get, ⟨"", "/greeting", none⟩, "", none⟩

/-- A registration that was refused is served all the same. -/
theorem served_after_refusal :
    (RouteTable.new "/").bind .post "/greeting" (fun _ => return .text 200 "posted") = .ok postedTable
      ∧
    ∃ table' router router' world',
      (greeting.attach postedTable).exec (.idle ())
        =
      (.ok (.error (.duplicate .post "/greeting"), table'), world')
        ∧
      (.get, "/greeting") ∉ postedTable.routes ∧ (.get, "/greeting") ∈ table'.routes
        ∧
      postedTable.router? = some router ∧ table'.router? = some router'
        ∧
      (router.serve getGreeting).exec (.idle ()) = (.ok (refusal [.post]), .idle ())
        ∧
      (router'.serve getGreeting).exec (.idle ()) = (.ok (.json 200 "\"hello\""), .idle ()) := by
  simp only [RouteTable.mem_routes_iff]
  exact ⟨rfl, _, _, _, _, rfl, by decide, by decide, rfl, rfl, rfl, rfl⟩

end Resource
end ServiceHost.Http
