import ServiceHost.AdminClient.Report
import ServiceHost.Admin.Task
import ServiceHost.Proofs.Form
import ServiceHost.Proofs.Http.Uri

/-!
This module contains what a task finds of a line of arguments: the pairs that the client sends are the
parameters that the service reads, in the same order and with nothing lost of them.
-/

namespace ServiceHost

theorem Text.cut_eq (c : Char) (text : List Char) :
    cut c text = (text.takeWhile (· ≠ c), (text.dropWhile (· ≠ c)).drop 1) := by
  unfold cut
  induction text with
  | nil => rfl
  | cons x text ih =>
    unfold cut?
    split
    . next heq => simp [heq]
    . next hne =>
      rw [List.takeWhile_cons_of_pos (by simpa using hne), List.dropWhile_cons_of_pos (by simpa using hne)]
      rw [Prod.mk.injEq] at ih ⊢
      cases hcut : cut? c text with
      | none =>
        rw [hcut] at ih
        exact ⟨congrArg (x :: ·) ih.1, ih.2⟩
      | some parts =>
        rw [hcut] at ih
        exact ⟨congrArg (x :: ·) ih.1, ih.2⟩

namespace Admin.Params

theorem first?_eq_head?_all (key : String) (params : Params) : params.first? key = (params.all key).head? := by
  unfold first? all
  induction params.pairs with
  | nil => rfl
  | cons pair pairs ih =>
    obtain ⟨name, value⟩ := pair
    rw [List.lookup_cons]
    by_cases h : name = key
    . simp [h]
    . rw [List.filter_cons_of_neg (by simpa using h), ← ih]
      have hne : (key == name) = false := by simpa using Ne.symm h
      rw [hne]

theorem all_append (key : String) (front back : List (String × String)) :
    all key ⟨front ++ back⟩ = all key ⟨front⟩ ++ all key ⟨back⟩ := by
  unfold all
  rw [List.filter_append, List.map_append]

@[simp]
theorem all_map_mk (key : String) (values : List String) : all key ⟨values.map (key, ·)⟩ = values := by
  unfold all
  induction values with
  | nil => rfl
  | cons value values ih => simpa using ih

@[simp]
theorem all_map_mk_of_ne {key name : String} (h : name ≠ key) (values : List String) :
    all key ⟨values.map (name, ·)⟩ = [] := by
  unfold all
  simp [h]

end Admin.Params

namespace AdminClient.Invocation

theorem ofQuery_query (i : Invocation) : Admin.Params.ofQuery i.query = ⟨i.pairs⟩ := by
  unfold Admin.Params.ofQuery query
  split
  . next hnil => simp [hnil]
  . simp [Form.decode_encode]

def keyOf (argument : String) : String :=
  .ofList (argument.toList.takeWhile (· ≠ '='))

def valueOf (argument : String) : String :=
  .ofList ((argument.toList.dropWhile (· ≠ '=')).drop 1)

theorem parameter_eq (argument : String) : parameter argument = (keyOf argument, valueOf argument) := by
  unfold parameter
  rw [Text.cut_eq]
  rfl

theorem all_map_parameter (key : String) (arguments : List String) :
    Admin.Params.all key ⟨arguments.map parameter⟩ = (arguments.filter (keyOf · = key)).map valueOf := by
  unfold Admin.Params.all
  simp [List.filter_map, Function.comp_def, parameter_eq]

theorem all_logger (loggers : List String) (level : Option String) :
    Admin.Params.all "logger" ⟨pairs (.log loggers level)⟩ = loggers := by
  unfold pairs
  rw [Admin.Params.all_append, Admin.Params.all_map_mk]
  cases level with
  | none => exact List.append_nil loggers
  | some level => exact List.append_nil loggers

theorem all_level (loggers : List String) (level : Option String) :
    Admin.Params.all "level" ⟨pairs (.log loggers level)⟩ = level.toList := by
  unfold pairs
  rw [Admin.Params.all_append, Admin.Params.all_map_mk_of_ne (by decide)]
  cases level with
  | none => rfl
  | some level => rfl

theorem mem_trimEnd {c : Char} {base : String} (h : c ∈ (trimEnd base).toList) : c ∈ base.toList := by
  unfold trimEnd at h
  rw [String.toList_ofList, List.mem_reverse] at h
  exact List.mem_reverse.mp ((List.dropWhile_sublist _).subset h)

theorem queryOf_target {base : String} {i : Invocation} (h : Http.Uri.IsFront (base ++ i.path).toList) :
    (Http.Uri.queryOf (i.target base).toList).map String.ofList = i.query := by
  have hfront : Http.Uri.IsFront (trimEnd base ++ i.path).toList := by
    intro c hc
    apply h
    rw [String.toList_append, List.mem_append] at hc ⊢
    exact hc.imp_left mem_trimEnd
  unfold target
  dsimp only
  rw [Text.cut_of_notMem fun hmem => (hfront '#' hmem).2 rfl]
  rw [Text.cut_of_notMem fun hmem => (hfront '?' hmem).1 rfl]
  rw [String.toList_ofList, Http.Uri.queryOf_append hfront]
  unfold query
  split
  . rfl
  . next hpairs =>
    have hencode : (Form.encode i.pairs).toList ≠ [] := by
      intro hnil
      apply hpairs
      rw [← Form.decode_encode i.pairs, String.toList_eq_nil_iff.mp hnil]
      rfl
    rw [Option.map_some, Option.getD_some, List.filter_cons_of_neg (by simp)]
    rw [List.filter_cons_of_pos (by simpa using hencode), List.filter_nil, if_neg (by simp), Text.join]
    rw [Http.Uri.queryOf_cons (Form.hash_notMem_encode i.pairs), Option.map_some, String.ofList_toList]

theorem query_of_request? {base : String} {i : Invocation} {request : Http.Request}
    (h : Http.Uri.IsFront (base ++ i.path).toList) (hrequest : (i.visit base).request? = some request) :
    request.uri.query = i.query := by
  unfold Serving.Visit.request? at hrequest
  obtain ⟨method, _, hrest⟩ := Option.bind_eq_some_iff.mp hrequest
  obtain ⟨uri, hparse, hrest⟩ := Option.bind_eq_some_iff.mp hrest
  cases hrest
  unfold visit localTarget at hparse
  dsimp only at hparse
  cases haddress : Http.Uri.parse? (i.target base) with
  | none =>
    rw [haddress] at hparse
    cases hparse
  | some address =>
    rw [haddress] at hparse
    obtain ⟨_, _, query, hreads, rfl⟩ := Http.Uri.exists_reads_of_parse? haddress
    rw [Http.Uri.query_of_parse?_text haddress hparse, ← queryOf_target h, ← hreads.eq_queryOf]
    rfl

end AdminClient.Invocation
end ServiceHost
