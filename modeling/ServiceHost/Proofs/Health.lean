import Mathlib.Data.List.Induction
import Mathlib.Data.List.Nodup
import Mathlib.Data.List.Perm.Subperm
import ServiceHost.Admin.View
import ServiceHost.Proofs.Keyed
import ServiceHost.Proofs.Metrics.Ticking

/-!
This module contains the answers of the health page. Each request runs every probe once, and what it answers
is decided by the results of this run alone, in whatever order the checks were registered.
-/

namespace ServiceHost

variable {σ : Type}

theorem Action.apart_state : Apart (fun world : World σ => world.state) fun _ => True where
  record := fun _ _ _ => rfl
  metrics := fun _ _ => rfl
  levels := fun _ _ _ _ => rfl

def Http.Endpoint.answerEach (endpoint : Http.Endpoint σ) : List Http.Request → Action σ (List Http.Response)
  | [] => return []
  | request :: requests => do
    let response ← endpoint request
    return response :: (← answerEach endpoint requests)

namespace Health

open Admin (View)

def Check.Ends (check : Check σ) : Prop :=
  ∀ world, (check.probe.run world).1.outcome ≠ .error .stalled

inductive Registry.Registered : Registry σ → Prop where
  | empty : Registered .empty
  | register {registry next : Registry σ} {check : Check σ} :
    Registered registry → registry.register check = .ok next → Registered next
  | freeze {registry : Registry σ} : Registered registry → Registered registry.freeze

/-- Some checks run their probes, each one once, and have these results; one that panics is unhealthy. -/
inductive Completes : List (Check σ) → World σ → List (String × Result) → World σ → Prop where
  | nil (world : World σ) : Completes [] world [] world
  | answered {check : Check σ} {checks : List (Check σ)} {first second last : World σ} {rounds : Nat}
      {result : Result} {results : List (String × Result)} :
    check.probe.run first = (⟨rounds, .ok result⟩, second) → Completes checks second results last →
    Completes (check :: checks) first ((check.name, result) :: results) last
  | panicked {check : Check σ} {checks : List (Check σ)} {first second last : World σ} {rounds : Nat}
      {results : List (String × Result)} :
    check.probe.run first = (⟨rounds, .error .panicked⟩, second) → Completes checks second results last →
    Completes (check :: checks) first
      ((check.name, ⟨false, some "health check panicked", none⟩) :: results) last

def Result.lines (name : String) (result : Result) : List String :=
  [name ++ ":", "\tHealthy: " ++ toString result.healthy] ++
    (result.message.toList.filter (· ≠ "")).map ("\tMessage: " ++ ·) ++
    result.cause.toList.map ("\tCause: " ++ ·)

def report (entries : List (String × Result)) : String :=
  String.join (entries.flatMap fun entry => (entry.2.lines entry.1).map (· ++ "\n"))

/-- The answer to some results: it shows all of them, in the order of their names. -/
inductive Reports : List (String × Result) → Http.Response → Prop where
  | none : Reports [] (.text 501 "No health checks registered.")
  | healthy {results : List (String × Result)} {sorted : Keyed Result} :
    results ≠ [] → (∀ entry ∈ results, entry.2.healthy = true) → sorted.entries.Perm results →
    Reports results (.text 200 (report sorted.entries))
  | unhealthy {results : List (String × Result)} {sorted : Keyed Result} :
    (∃ entry ∈ results, entry.2.healthy = false) → sorted.entries.Perm results →
    Reports results (.text 500 (report sorted.entries))

inductive Visited (registry : Registry σ) : World σ → List Http.Response → World σ → Prop where
  | nil (world : World σ) : Visited registry world [] world
  | cons {results : List (String × Result)} {response : Http.Response} {responses : List Http.Response}
      {first second third last : World σ} :
    Completes registry.checks first results second → third.state = second.state → Reports results response →
    Visited registry third responses last →
    Visited registry first (response :: responses) last

theorem Registry.Registered.nodup {registry : Registry σ} (h : registry.Registered) :
    registry.names.Nodup := by
  induction h with
  | empty => exact List.nodup_nil
  | @register registry next check _ hregister ih =>
    unfold Registry.register at hregister
    split at hregister
    . cases hregister
    . split at hregister
      . cases hregister
      . next hnew =>
        cases hregister
        unfold names at ih hnew ⊢
        rw [List.map_append, List.map_cons, List.map_nil, ← List.concat_eq_append]
        exact ih.concat hnew
  | freeze _ ih => exact ih

theorem registered_of_nodup {checks : List (Check σ)} (h : (checks.map (·.name)).Nodup) :
    Registry.Registered ⟨checks, false⟩ := by
  induction checks using List.reverseRecOn with
  | nil => exact .empty
  | append_singleton checks check ih =>
    rw [List.map_append, List.map_cons, List.map_nil, List.nodup_append] at h
    obtain ⟨hchecks, -, hdisjoint⟩ := h
    have hnew : check.name ∉ Registry.names ⟨checks, false⟩ := fun hname =>
      hdisjoint check.name hname check.name List.mem_cons_self rfl
    have hregister : Registry.register check ⟨checks, false⟩ = .ok ⟨checks ++ [check], false⟩ := by
      unfold Registry.register
      rw [if_neg Bool.false_ne_true, if_neg hnew]
    exact .register (ih hchecks) hregister

theorem Completes.names_eq {checks : List (Check σ)} {first last : World σ} {results : List (String × Result)}
    (h : Completes checks first results last) : results.map (·.1) = checks.map (·.name) := by
  induction h with
  | nil => rfl
  | answered _ _ ih => rw [List.map_cons, List.map_cons, ih]
  | panicked _ _ ih => rw [List.map_cons, List.map_cons, ih]

theorem complete_cons (check : Check σ) (checks : List (Check σ)) (frozen : Bool) (first : World σ) :
    (Registry.complete ⟨check :: checks, frozen⟩).run first
      =
    (((check.name, (check.probe.run first).1) ::
        ((Registry.complete ⟨checks, frozen⟩).run (check.probe.run first).2).1),
      ((Registry.complete ⟨checks, frozen⟩).run (check.probe.run first).2).2) := by
  unfold Registry.complete
  rw [List.mapM_cons]
  rfl

theorem completes_of_ends {checks : List (Check σ)} (hends : ∀ check ∈ checks, check.Ends) (frozen : Bool)
    (first : World σ) {completions : List (String × Completion)} {last : World σ}
    (h : (Registry.complete ⟨checks, frozen⟩).run first = (completions, last)) :
    Completes checks first (completions.map fun (name, c) => (name, Registry.resultOf c)) last
      ∧
    ∀ entry ∈ completions, entry.2.outcome ≠ .error .stalled := by
  induction checks generalizing first completions with
  | nil =>
    cases h
    exact ⟨.nil _, by simp⟩
  | cons check checks ih =>
    rw [List.forall_mem_cons] at hends
    rw [complete_cons] at h
    cases h
    obtain ⟨hcompletes, hstalls⟩ := ih hends.2 (check.probe.run first).2 rfl
    have hcheck := hends.1 first
    rw [List.forall_mem_cons]
    refine ⟨?_, hcheck, hstalls⟩
    rw [List.map_cons]
    cases hprobe : check.probe.run first with
    | mk completion second =>
      obtain ⟨rounds, outcome⟩ := completion
      rw [hprobe] at hcheck hcompletes
      cases outcome with
      | ok result => exact .answered hprobe hcompletes
      | error fault =>
        cases fault with
        | panicked => exact .panicked hprobe hcompletes
        | stalled => exact absurd rfl hcheck

theorem join_map_toList (start : String) (text : Option String) :
    String.join ((text.toList.map (start ++ ·)).map (· ++ "\n"))
      =
    (text.map fun t => start ++ t ++ "\n").getD "" := by
  cases text <;> simp

theorem healthBlock_eq (entry : String × Result) :
    View.healthBlock entry = String.join ((entry.2.lines entry.1).map (· ++ "\n")) := by
  obtain ⟨name, healthy, message, cause⟩ := entry
  have hhead : String.join ([name ++ ":", "\tHealthy: " ++ toString healthy].map (· ++ "\n"))
        =
      name ++ ":\n\tHealthy: " ++ (if healthy then "true" else "false") ++ "\n" := by
    cases healthy <;> simp [← String.toList_inj, toString]
  unfold View.healthBlock Result.lines
  rw [List.map_append, List.map_append, String.join_append, String.join_append, hhead]
  rw [← Option.toList_filter, join_map_toList, join_map_toList]

theorem report_eq (entries : List (String × Result)) :
    String.join (entries.map View.healthBlock) = report entries := by
  unfold report
  induction entries with
  | nil => rfl
  | cons entry entries ih =>
    rw [List.map_cons, String.join_cons, ih, List.flatMap_cons, String.join_append, healthBlock_eq]

theorem reports_ofList {results : List (String × Result)} (h : (results.map (·.1)).Nodup) :
    Reports results (View.healthResponse (.ofList results)) := by
  have hperm := Keyed.ofList_perm h
  have hhealthy : allHealthy (.ofList results) = true ↔ ∀ entry ∈ results, entry.2.healthy = true := by
    unfold allHealthy
    rw [hperm.all_eq, List.all_eq_true]
  unfold View.healthResponse Keyed.map
  rw [report_eq]
  split
  . next hnone =>
    rw [hnone, List.nil_perm] at hperm
    rw [hperm]
    exact .none
  . next hsome =>
    by_cases hall : ∀ entry ∈ results, entry.2.healthy = true
    . rw [if_pos (hhealthy.mpr hall)]
      refine .healthy ?_ hall hperm
      rintro rfl
      exact hsome rfl
    . rw [if_neg (mt hhealthy.mp hall)]
      refine .unhealthy ?_ hperm
      simpa using hall

theorem Reports.unique {results results' : List (String × Result)} {response response' : Http.Response}
    (h : Reports results response) (h' : Reports results' response') (hperm : results.Perm results') :
    response = response' := by
  cases h with
  | none =>
    rw [List.nil_perm] at hperm
    subst hperm
    cases h' with
    | none => rfl
    | healthy hresults => exact absurd rfl hresults
    | unhealthy hresults => simp at hresults
  | healthy hresults hall hsorted =>
    cases h' with
    | none => exact absurd (List.perm_nil.mp hperm) hresults
    | healthy _ _ hsorted' =>
      rw [Keyed.eq_of_perm ((hsorted.trans hperm).trans hsorted'.symm)]
    | unhealthy hsome =>
      obtain ⟨entry, hentry, hfalse⟩ := hsome
      rw [hall entry (hperm.mem_iff.mpr hentry)] at hfalse
      cases hfalse
  | unhealthy hsome hsorted =>
    obtain ⟨entry, hentry, hfalse⟩ := hsome
    cases h' with
    | none => simp [List.perm_nil.mp hperm] at hentry
    | healthy _ hall =>
      rw [hall entry (hperm.mem_iff.mp hentry)] at hfalse
      cases hfalse
    | unhealthy _ hsorted' =>
      rw [Keyed.eq_of_perm ((hsorted.trans hperm).trans hsorted'.symm)]

theorem spares_reportPanics {γ : Type} {part : World σ → γ} {sources : Log.Source → Prop}
    (h : Action.Unlogged part sources) (hsource : sources .health) (completions : List (String × Completion)) :
    Action.Spares part (Registry.reportPanics completions) := by
  unfold Registry.reportPanics
  apply Action.spares_forM
  intro entry _
  dsimp only
  split
  . exact h.log hsource
  . exact Action.spares_pure _

theorem spares_giveWay : Action.Spares (fun world : World σ => world.state) Action.giveWay := by
  exact Action.spares_giveWay Action.apart_state.toUnlogged trivial fun _ _ => rfl

theorem spares_reports (completions : List (String × Completion)) :
    Action.Spares (fun world : World σ => world.state) (Registry.reportPanics completions) := by
  exact spares_reportPanics Action.apart_state.toUnlogged trivial completions

theorem none_stalled {completions : List (String × Completion)}
    (h : ∀ entry ∈ completions, entry.2.outcome ≠ .error .stalled) :
    ¬ (completions.any fun entry => entry.2.outcome matches .error .stalled) = true := by
  rw [List.any_eq_true]
  rintro ⟨⟨name, rounds, outcome⟩, hentry, hstalled⟩
  cases outcome with
  | ok result => cases hstalled
  | error fault =>
    cases fault with
    | panicked => cases hstalled
    | stalled => exact h _ hentry rfl

theorem run_exec {registry : Registry σ} (hends : ∀ check ∈ registry.checks, check.Ends) (first : World σ) :
    ∃ results second third,
      registry.run.exec first = (.ok (.ofList results), third)
        ∧
      Completes registry.checks first results second
        ∧
      third.state = second.state := by
  obtain ⟨⟨completions, second⟩, hcomplete⟩ : ∃ outcome, registry.complete.run first = outcome := ⟨_, rfl⟩
  obtain ⟨hcompletes, hstalls⟩ := completes_of_ends hends registry.frozen first hcomplete
  have hlift : (liftM registry.complete : Action σ _).exec first = (.ok completions, second) := by
    show (Except.ok (registry.complete.run first).1, (registry.complete.run first).2) = _
    rw [hcomplete]
  unfold Registry.run
  rw [Action.exec_bind_ok hlift]
  dsimp only
  -- panics are reported in two parts, with time for others in between; neither part has to do with the results
  obtain ⟨_, world₁, hprompt, hstate₁⟩ :=
    spares_reports ((Registry.inOrder completions).partition fun entry => entry.2.rounds == 0).1 second
  rw [Action.exec_bind_ok hprompt]
  split
  . obtain ⟨_, world₂, hgive, hstate₂⟩ := spares_giveWay world₁
    obtain ⟨_, world₃, hwaiting, hstate₃⟩ := spares_reports _ world₂
    rw [Action.exec_bind_ok hgive, Action.exec_bind_ok hwaiting]
    split
    . next hstalled => exact absurd hstalled (none_stalled hstalls)
    . exact ⟨_, second, world₃, rfl, hcompletes, hstate₃.trans (hstate₂.trans hstate₁)⟩
  . obtain ⟨_, world₂, hwaiting, hstate₂⟩ := spares_reports _ world₁
    rw [Action.exec_bind_ok hwaiting]
    split
    . next hstalled => exact absurd hstalled (none_stalled hstalls)
    . exact ⟨_, second, world₂, rfl, hcompletes, hstate₂.trans hstate₁⟩

theorem healthcheck_exec {registry : Registry σ} (hnames : registry.names.Nodup)
    (hends : ∀ check ∈ registry.checks, check.Ends) (request : Http.Request) (first : World σ) :
    ∃ results response second third,
      (View.healthcheck.serve registry request).exec first = (.ok response, third)
        ∧
      Completes registry.checks first results second ∧ third.state = second.state
        ∧
      Reports results response := by
  obtain ⟨results, second, third, hrun, hcompletes, hstate⟩ := run_exec hends first
  refine ⟨results, View.healthResponse (.ofList results), second, third, ?_, hcompletes, hstate, ?_⟩
  . exact Action.exec_bind_ok hrun
  . apply reports_ofList
    rw [hcompletes.names_eq]
    exact hnames

theorem Completes.perm {checks checks' : List (Check σ)} {first last first' last' : World σ}
    {results results' : List (String × Result)} (h : Completes checks first results last)
    (h' : Completes checks' first' results' last') (hnames : (checks.map (·.name)).Nodup)
    (hperm : checks'.Perm checks) (hsame : ∀ entry ∈ results, entry ∈ results') : results.Perm results' := by
  -- no result is there twice and none is left over, so that it is enough to find each one on the other side
  have hlength : results'.length = results.length := by
    have := (hperm.map (·.name)).length_eq
    rwa [← h.names_eq, ← h'.names_eq, List.length_map, List.length_map] at this
  have hnodup : results.Nodup := by
    rw [← h.names_eq] at hnames
    exact hnames.of_map _
  exact (hnodup.subperm hsame).perm_of_length_le hlength.le

theorem Completes.unique {checks : List (Check σ)} {first last last' : World σ}
    {results results' : List (String × Result)} (h : Completes checks first results last)
    (h' : Completes checks first results' last') : results = results' ∧ last = last' := by
  induction h generalizing results' with
  | nil =>
    cases h'
    exact ⟨rfl, rfl⟩
  | answered hprobe _ ih =>
    cases h' with
    | answered hprobe' hrest =>
      rw [hprobe] at hprobe'
      cases hprobe'
      obtain ⟨rfl, rfl⟩ := ih hrest
      exact ⟨rfl, rfl⟩
    | panicked hprobe' =>
      rw [hprobe] at hprobe'
      cases hprobe'
  | panicked hprobe _ ih =>
    cases h' with
    | answered hprobe' =>
      rw [hprobe] at hprobe'
      cases hprobe'
    | panicked hprobe' hrest =>
      rw [hprobe] at hprobe'
      cases hprobe'
      obtain ⟨rfl, rfl⟩ := ih hrest
      exact ⟨rfl, rfl⟩

theorem exists_visited {registry : Registry σ} (hnames : registry.names.Nodup)
    (hends : ∀ check ∈ registry.checks, check.Ends) (requests : List Http.Request) (first : World σ) :
    ∃ responses last,
      (Http.Endpoint.answerEach (View.healthcheck.serve registry) requests).exec first
        =
      (.ok responses, last)
        ∧
      responses.length = requests.length ∧ Visited registry first responses last := by
  induction requests generalizing first with
  | nil => exact ⟨[], first, rfl, rfl, .nil first⟩
  | cons request requests ih =>
    obtain ⟨results, response, second, third, hserve, hcompletes, hstate, hreports⟩ :=
      healthcheck_exec hnames hends request first
    obtain ⟨responses, last, hrest, hlength, hvisited⟩ := ih third
    refine ⟨response :: responses, last, ?_, by simp [hlength], .cons hcompletes hstate hreports hvisited⟩
    unfold Http.Endpoint.answerEach
    rw [Action.exec_bind_ok hserve, Action.exec_bind_ok hrest, Action.exec_pure]

/--
Every request to the health page is answered from a run of its own of all probes, as long as these come back.
When the same checks were registered in another order and have the same results, the answer is the same.
-/
theorem healthcheck_by_results {registry : Registry σ} (h : registry.Registered)
    (hends : ∀ check ∈ registry.checks, check.Ends) (requests : List Http.Request) (world : World σ) :
    (∃ responses last,
      (Http.Endpoint.answerEach (View.healthcheck.serve registry) requests).exec world
        =
      (.ok responses, last)
        ∧
      responses.length = requests.length ∧ Visited registry world responses last)
      ∧
    ∀ (other : Registry σ) request first request' first', other.Registered →
      other.checks.Perm registry.checks →
        ∃ results response second third results' response' second' third',
          (View.healthcheck.serve registry request).exec first = (.ok response, third)
            ∧
          Completes registry.checks first results second
            ∧
          (View.healthcheck.serve other request').exec first' = (.ok response', third')
            ∧
          Completes other.checks first' results' second'
            ∧
          ((∀ entry ∈ results, entry ∈ results') → response = response') := by
  refine ⟨exists_visited h.nodup hends requests world, ?_⟩
  intro other request first request' first' hother hperm
  have hends' : ∀ check ∈ other.checks, check.Ends := fun check hcheck => hends check (hperm.mem_iff.mp hcheck)
  obtain ⟨results, response, second, third, hserve, hcompletes, -, hreports⟩ :=
    healthcheck_exec h.nodup hends request first
  obtain ⟨results', response', second', third', hserve', hcompletes', -, hreports'⟩ :=
    healthcheck_exec hother.nodup hends' request' first'
  refine ⟨results, response, second, third, results', response', second', third', hserve, hcompletes, hserve',
    hcompletes', ?_⟩
  intro hsame
  exact hreports.unique hreports' (hcompletes.perm hcompletes' h.nodup hperm hsame)

def askHealth : Http.Request :=
  ⟨.get, ⟨"", "/healthcheck", none⟩, "", none⟩

def counted (name : String) (outcome : Except Fault Result) : Check Nat :=
  ⟨name, fun world => (⟨0, outcome⟩, { world with state := world.state + 1 })⟩

def mixed : List (Check Nat) :=
  [counted "queue" (.error .panicked), counted "disk" (.ok (.failed "full")), counted "cache" (.ok .ok)]

def mixedReport : Http.Response :=
  .text 500 ("cache:\n\tHealthy: true\n" ++ "disk:\n\tHealthy: false\n\tCause: full\n" ++
    "queue:\n\tHealthy: false\n\tMessage: health check panicked\n")

theorem counted_ends (name : String) {outcome : Except Fault Result} (h : outcome ≠ .error .stalled) :
    (counted name outcome).Ends := by
  intro _
  exact h

theorem completes_mixed : ∃ last : World Nat,
    last.state = 3
      ∧
    Completes mixed (.idle 0) [("queue", .panicked), ("disk", .failed "full"), ("cache", .ok)] last :=
  ⟨_, rfl, .panicked rfl (.answered rfl (.answered rfl (.nil _)))⟩

theorem completes_mixed_reverse : ∃ last : World Nat,
    Completes mixed.reverse (.idle 0) [("cache", .ok), ("disk", .failed "full"), ("queue", .panicked)] last :=
  ⟨_, .answered rfl (.answered rfl (.panicked rfl (.nil _)))⟩

theorem reports_mixed :
    Reports [("queue", .panicked), ("disk", .failed "full"), ("cache", .ok)] mixedReport := by
  let sorted : Keyed Result := ⟨[("cache", .ok), ("disk", .failed "full"), ("queue", .panicked)], by decide⟩
  have htext : mixedReport = .text 500 (report sorted.entries) := by
    decide +kernel
  rw [htext]
  exact .unhealthy ⟨_, List.mem_cons_self, rfl⟩ (List.reverse_perm [_, _, _])

theorem healthcheck_by_results_of_mixed :
    Registry.Registered ⟨mixed, false⟩
      ∧
    (∀ check ∈ mixed, check.Ends)
      ∧
    ∃ last last',
      (Http.Endpoint.answerEach (View.healthcheck.serve ⟨mixed, false⟩) [askHealth]).exec (.idle 0)
        =
      (.ok [mixedReport], last)
        ∧
      last.state = 3
        ∧
      (View.healthcheck.serve ⟨mixed.reverse, false⟩ askHealth).exec (.idle 0) = (.ok mixedReport, last') := by
  have hregistered : Registry.Registered ⟨mixed, false⟩ := registered_of_nodup (by decide)
  have hreversed : Registry.Registered ⟨mixed.reverse, false⟩ := registered_of_nodup (by decide)
  have hends : ∀ check ∈ mixed, check.Ends := by
    unfold mixed
    simp [counted_ends]
  obtain ⟨second, hstate, hmixed⟩ := completes_mixed
  obtain ⟨second', hmixed'⟩ := completes_mixed_reverse
  obtain ⟨⟨responses, last, hrun, hlength, hvisited⟩, horder⟩ :=
    healthcheck_by_results hregistered hends [askHealth] (.idle 0)
  obtain ⟨results, response, _, third, results', response', _, third', hserve, hresults, hserve', hresults',
    hsame⟩ := horder ⟨mixed.reverse, false⟩ askHealth (.idle 0) askHealth (.idle 0) hreversed
      (List.reverse_perm mixed)
  obtain ⟨rfl, rfl⟩ := hmixed.unique hresults
  obtain ⟨rfl, rfl⟩ := hmixed'.unique hresults'
  have hone : response = response' := hsame (by simp)
  subst hone
  have hrun' := hrun
  unfold Http.Endpoint.answerEach at hrun
  rw [Action.exec_bind_ok hserve] at hrun
  cases hrun
  cases hvisited with
  | cons hfirst hthird hreports hrest =>
    obtain ⟨rfl, rfl⟩ := hmixed.unique hfirst
    cases hreports.unique reports_mixed (.refl _)
    cases hrest
    exact ⟨hregistered, hends, _, third', hrun', hthird.trans hstate, hserve'⟩

end Health
end ServiceHost
