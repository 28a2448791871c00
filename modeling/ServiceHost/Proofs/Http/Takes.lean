import ServiceHost.Proofs.Http.Served

/-!
This module contains which endpoint a router takes a request to, in terms of the calls that bound the endpoints:
the one of its method at its place, and for HEAD without an endpoint of its own the one of GET.
-/

namespace ServiceHost.Http

variable {σ : Type} {calls : List (Call σ)}

namespace Call

/-- Among some calls, one stands in for a method: it is its own one, or it is HEAD, which has none on this path. -/
def Answers (calls : List (Call σ)) (method : Method) (call : Call σ) : Prop :=
  call.method = method
    ∨
  (method = .head ∧ call.method = .get ∧ ∀ other ∈ calls, other.path = call.path → other.method ≠ .head)

theorem find?_table_iff (hnodup : (calls.map pair).Nodup) {path : String} {method : Method}
    {endpoint : Endpoint σ} :
    (table path calls).find? method = some endpoint
      ↔
    ∃ call ∈ calls, call.path = path ∧ call.method = method ∧ call.endpoint = endpoint := by
  constructor
  . intro h
    have hentry := Entries.mem_of_lookup h
    obtain ⟨call, hcall, heq⟩ := List.mem_map.mp hentry
    obtain ⟨hmem, hpath⟩ := List.mem_filter.mp hcall
    cases heq
    exact ⟨call, hmem, of_decide_eq_true hpath, rfl, rfl⟩
  . rintro ⟨call, hcall, rfl, rfl, rfl⟩
    exact find?_table hnodup hcall

theorem answering?_table_iff (hnodup : (calls.map pair).Nodup) {path : String} {method : Method}
    {endpoint : Endpoint σ} :
    (table path calls).answering? method = some endpoint
      ↔
    ∃ call ∈ calls, call.path = path ∧ call.endpoint = endpoint ∧ call.Answers calls method := by
  cases hown : (table path calls).find? method with
  | some own =>
    have hanswering : (table path calls).answering? method = some own := by
      unfold MethodTable.answering?
      rw [hown]
    rw [hanswering, Option.some.injEq]
    obtain ⟨call, hcall, hpath, hmethod, hendpoint⟩ := (find?_table_iff hnodup).mp hown
    constructor
    . rintro rfl
      exact ⟨call, hcall, hpath, hendpoint, .inl hmethod⟩
    . rintro ⟨other, hother, hpath', rfl, hmethod' | ⟨hhead, -, hnone⟩⟩
      . have hfound := (find?_table_iff hnodup).mpr ⟨other, hother, hpath', hmethod', rfl⟩
        rw [hown] at hfound
        exact Option.some.inj hfound
      . exact absurd (hmethod.trans hhead) (hnone call hcall (hpath.trans hpath'.symm))
  | none =>
    rw [MethodTable.find?_eq_none_iff, mem_methods_table_iff] at hown
    have hanswering : (table path calls).answering? method
        = if method = .head then (table path calls).find? .get else none := by
      unfold MethodTable.answering?
      rw [(MethodTable.find?_eq_none_iff _ _).mpr]
      rwa [mem_methods_table_iff]
    rw [hanswering]
    constructor
    . intro h
      split at h
      . next hhead =>
        obtain ⟨call, hcall, hpath, hget, hendpoint⟩ := (find?_table_iff hnodup).mp h
        refine ⟨call, hcall, hpath, hendpoint, .inr ⟨hhead, hget, ?_⟩⟩
        intro other hother hsame hmethod
        exact hown ⟨other, hother, hsame.trans hpath, hmethod.trans hhead.symm⟩
      . cases h
    . rintro ⟨call, hcall, hpath, rfl, hmethod | ⟨hhead, hget, -⟩⟩
      . exact absurd ⟨call, hcall, hpath, hmethod⟩ hown
      . rw [if_pos hhead]
        exact (find?_table_iff hnodup).mpr ⟨call, hcall, hpath, hget, rfl⟩

end Call

namespace RouteTable

variable {table : RouteTable (Endpoint σ)} {router : Router (Endpoint σ)}

theorem Binds.takes_iff {context : String} (h : Binds (.new context) calls table)
    (hcontext : Path.isRoutable (Path.normalize context) = true) (hrouter : table.router? = some router)
    {request : Request} {endpoint : Endpoint σ} :
    router.Takes request endpoint
      ↔
    ∃ call ∈ calls, request.IsAt context call.path ∧ call.endpoint = endpoint ∧ call.Answers calls request.method := by
  have hsound := h.sound hcontext
  have hholds := h.holds (holds_new context)
  rw [List.nil_append] at hholds
  have hplace (path : String) : table.servedPath path = (RouteTable.new context : RouteTable Unit).servedPath path :=
    servedPath_congr h.context path
  -- what is bound at the place of a call is what the calls for its path have bound
  have hmethods {call : Call σ} (hcall : call ∈ calls) (hat : request.IsAt context call.path) :
      router.methodsAt? request.uri.path.toList = some (Call.table call.path calls) := by
    unfold Request.IsAt at hat
    rw [← hplace] at hat
    rw [methodsAt?_of_escape hsound hrouter (hholds.isRoutable_of_mem hsound hcall) hat, hholds.find?_of_mem hcall]
  constructor
  . intro htakes
    have hat : ∃ call ∈ calls, request.IsAt context call.path := by
      by_contra hnone
      have hmissing := (h.methodsAt?_eq_none_iff hcontext hrouter request).mpr
      rw [hholds.bound, List.forall_mem_map] at hmissing
      unfold Router.Takes at htakes
      rw [Router.dispatch_of_missing (hmissing fun call hcall hat => hnone ⟨call, hcall, hat⟩)] at htakes
      cases htakes
    obtain ⟨call, hcall, hat⟩ := hat
    unfold Router.Takes Router.dispatch at htakes
    rw [hmethods hcall hat] at htakes
    dsimp only at htakes
    split at htakes
    . next own hanswering =>
      cases htakes
      obtain ⟨other, hother, hpath, hendpoint, hanswers⟩ := (Call.answering?_table_iff hholds.nodup).mp hanswering
      exact ⟨other, hother, hpath ▸ hat, hendpoint, hanswers⟩
    . cases htakes
  . rintro ⟨call, hcall, hat, hendpoint, hanswers⟩
    apply Router.dispatch_of_some (hmethods hcall hat)
    exact (Call.answering?_table_iff hholds.nodup).mpr ⟨call, hcall, rfl, hendpoint, hanswers⟩

end RouteTable
end ServiceHost.Http
