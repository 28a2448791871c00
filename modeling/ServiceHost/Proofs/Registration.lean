import ServiceHost.Proofs.Operation

/-!
This module contains runs of operations on an environment, in any order. Its lists only grow at their ends, and
none does so once its side has started.
-/

namespace ServiceHost

variable {σ : Type}

def performEach : List (Operation σ) → Setup σ (List Answer)
  | [] => return []
  | operation :: operations => do
    let answer ← operation.perform
    return answer :: (← performEach operations)

def Runs (operations : List (Operation σ)) (site : Site σ) (answers : List Answer) (site' : Site σ) : Prop :=
  ((performEach operations).run site.1).exec site.2 = (.ok (answers, site'.1), site'.2)

namespace Runs

variable {operation : Operation σ} {operations operations' : List (Operation σ)} {site site' site'' : Site σ}
  {answer : Answer} {answers answers' : List Answer}

theorem nil (site : Site σ) : Runs [] site [] site := by
  rfl

theorem cons (h : Performs operation site answer site') (h' : Runs operations site' answers site'') :
    Runs (operation :: operations) site (answer :: answers) site'' := by
  unfold Runs performEach
  rw [StateT.run_bind, Action.exec_bind_ok h, StateT.run_bind, Action.exec_bind_ok h']
  rfl

theorem exists_runs (operations : List (Operation σ)) (site : Site σ) :
    ∃ answers site', Runs operations site answers site' := by
  induction operations generalizing site with
  | nil => exact ⟨[], site, .nil site⟩
  | cons operation operations ih =>
    obtain ⟨answer, site', hfirst, -⟩ := exists_effect operation site
    obtain ⟨answers, site'', hrest⟩ := ih site'
    exact ⟨answer :: answers, site'', .cons hfirst hrest⟩

theorem unique (h : Runs operations site answers site') (h' : Runs operations site answers' site'') :
    answers = answers' ∧ site' = site'' := by
  unfold Runs at h h'
  rw [h] at h'
  simp only [Prod.mk.injEq, Except.ok.injEq] at h'
  exact ⟨h'.1.1, Prod.ext h'.1.2 h'.2⟩

theorem of_nil (h : Runs [] site answers site') : answers = [] ∧ site' = site := by
  exact h.unique (.nil site)

theorem of_cons (h : Runs (operation :: operations) site answers site'') :
    ∃ answer rest site',
      answers = answer :: rest ∧ Performs operation site answer site' ∧ Runs operations site' rest site'' := by
  obtain ⟨answer, site', hfirst, -⟩ := exists_effect operation site
  obtain ⟨rest, last, hrest⟩ := exists_runs operations site'
  obtain ⟨rfl, rfl⟩ := h.unique (.cons hfirst hrest)
  exact ⟨answer, rest, site', rfl, hfirst, hrest⟩

theorem append (h : Runs operations site answers site') (h' : Runs operations' site' answers' site'') :
    Runs (operations ++ operations') site (answers ++ answers') site'' := by
  induction operations generalizing site answers with
  | nil =>
    obtain ⟨rfl, rfl⟩ := h.of_nil
    exact h'
  | cons operation operations ih =>
    obtain ⟨answer, rest, middle, rfl, hfirst, hrest⟩ := h.of_cons
    exact .cons hfirst (ih hrest)

theorem of_append (h : Runs (operations ++ operations') site answers site'') :
    ∃ early late site',
      answers = early ++ late ∧ Runs operations site early site' ∧ Runs operations' site' late site'' := by
  obtain ⟨early, site', hearly⟩ := exists_runs operations site
  obtain ⟨late, last, hlate⟩ := exists_runs operations' site'
  obtain ⟨rfl, rfl⟩ := h.unique (hearly.append hlate)
  exact ⟨early, late, site', rfl, hearly, hlate⟩

theorem length_eq (h : Runs operations site answers site') : answers.length = operations.length := by
  induction operations generalizing site answers with
  | nil =>
    obtain ⟨rfl, rfl⟩ := h.of_nil
    rfl
  | cons operation operations ih =>
    obtain ⟨answer, rest, middle, rfl, -, hrest⟩ := h.of_cons
    rw [List.length_cons, List.length_cons, ih hrest]

/--
What every operation keeps and answers, every run keeps and answers: `p` is what is kept of the environment,
and `q` what is known of each answer.
-/
theorem forall₂ {p : Environment σ → Prop} {q : Operation σ → Answer → Prop}
    (hstep : ∀ operation answer environment next, p environment → Effect environment operation answer next →
      p next ∧ q operation answer)
    (h : Runs operations site answers site') (hp : p site.1) :
    p site'.1 ∧ List.Forall₂ q operations answers := by
  induction operations generalizing site answers with
  | nil =>
    obtain ⟨rfl, rfl⟩ := h.of_nil
    exact ⟨hp, .nil⟩
  | cons operation operations ih =>
    obtain ⟨answer, rest, middle, rfl, hfirst, hrest⟩ := h.of_cons
    obtain ⟨hp', hq⟩ := hstep _ _ _ _ hp hfirst.effect
    obtain ⟨hp'', hqs⟩ := ih hrest hp'
    exact ⟨hp'', .cons hq hqs⟩

theorem keeps {p : Environment σ → Prop}
    (hstep : ∀ operation answer environment next, p environment → Effect environment operation answer next →
      p next)
    (h : Runs operations site answers site') (hp : p site.1) : p site'.1 := by
  have hkept := h.forall₂ (q := fun _ _ => True) ?_ hp
  . exact hkept.1
  . intro operation answer environment next hp heffect
    exact ⟨hstep operation answer environment next hp heffect, trivial⟩

theorem sound (h : Runs operations site answers site') (hsound : site.1.admin.Sound) :
    site'.1.admin.Sound := by
  apply h.keeps (p := fun environment => environment.admin.Sound) _ hsound
  intro operation answer environment next hsound heffect
  exact heffect.sound hsound

theorem routes (h : Runs operations site answers site') :
    ∃ calls, site.1.routes.Binds calls site'.1.routes := by
  apply h.keeps (p := fun environment => ∃ calls, site.1.routes.Binds calls environment.routes) _ ⟨[], .nil _⟩
  rintro operation answer environment next ⟨calls, hcalls⟩ heffect
  obtain ⟨more, hmore⟩ := heffect.routes
  exact ⟨calls ++ more, hcalls.append hmore⟩

theorem of_closed (h : Runs operations site answers site') (hclosed : site.1.admin.Closed) :
    site'.1.admin = site.1.admin ∧ List.Forall₂ (Refused Operation.afterAdmin?) operations answers := by
  apply h.forall₂ (p := fun environment => environment.admin = site.1.admin) _ rfl
  intro operation answer environment next hsame heffect
  rw [← hsame] at hclosed ⊢
  exact heffect.of_closed hclosed

theorem objects_of_closed (h : Runs operations site answers site')
    (hclosed : site.1.objects.started = true) :
    site'.1.objects = site.1.objects
      ∧
    List.Forall₂ (Refused Operation.afterObjects?) operations answers := by
  apply h.forall₂ (p := fun environment => environment.objects = site.1.objects) _ rfl
  intro operation answer environment next hsame heffect
  rw [← hsame] at hclosed ⊢
  exact heffect.objects_of_closed hclosed

theorem objects_of_open (h : Runs operations site answers site') (hopen : site.1.objects.started = false) :
    site'.1.objects.objects
      =
    site.1.objects.objects ++
      (operations.takeWhile fun operation => !operation.startsObjects).filterMap Operation.object? := by
  induction operations generalizing site answers with
  | nil =>
    obtain ⟨-, rfl⟩ := h.of_nil
    simp
  | cons operation operations ih =>
    obtain ⟨answer, rest, middle, -, hfirst, hrest⟩ := h.of_cons
    -- the first start of the objects ends both the registration and the prefix that counts
    have hobjects := hfirst.effect.objects_of_open hopen
    rw [List.takeWhile_cons]
    cases hstarts : operation.startsObjects with
    | true =>
      rw [hstarts, if_pos rfl] at hobjects
      have hclosed : middle.1.objects.started = true := by
        rw [hobjects]
        rfl
      rw [(hrest.objects_of_closed hclosed).1, hobjects]
      simp [Lifecycle.Objects.close]
    | false =>
      rw [hstarts, if_neg Bool.false_ne_true] at hobjects
      rw [ih hrest (by simp [hobjects, hopen]), hobjects]
      cases hobject : operation.object? with
      | none => simp [List.filterMap_cons_none hobject]
      | some object => simp [List.filterMap_cons_some hobject]

end Runs

structure Admin.Registry.Agrees (registry other : Registry σ) : Prop where
  views : registry.views = other.views
  tasks : registry.tasks = other.tasks
  checks : registry.checks.checks = other.checks.checks

/--
Whatever is done with a new environment, and in whatever order: no list ever has two entries for one path or
name, an operation adds at most its own entry, and at the end of its list, and nothing is added to a side
that has started, also where its start failed.
-/
theorem registration_ends_at_start (c : Configuration) (operations : List (Operation σ)) (world : World σ) :
    ∃ answers site,
      Runs operations (.new c, world) answers site
        ∧
      site.1.admin.Distinct
        ∧
      (∀ operation, ∃ answer next,
        Performs operation site answer next ∧ Appends operation answer site.1 next.1)
        ∧
      (∀ before table after, operations = before ++ .startAdmin table :: after →
        ∃ early answer late middle,
          answers = early ++ answer :: late
            ∧
          Runs before (.new c, world) early middle
            ∧
          site.1.admin.Agrees middle.1.admin
            ∧
          List.Forall₂ (Refused Operation.afterAdmin?) after late)
        ∧
      site.1.objects.objects
        =
      (operations.takeWhile fun operation => !operation.startsObjects).filterMap Operation.object?
        ∧
      (∀ before after, operations = before ++ .startObjects :: after →
        ∃ early answer late,
          answers = early ++ answer :: late
            ∧
          early.length = before.length
            ∧
          List.Forall₂ (Refused Operation.afterObjects?) after late) := by
  obtain ⟨answers, site, hruns⟩ := Runs.exists_runs operations (.new c, world)
  refine ⟨answers, site, hruns, ?_, ?_, ?_, ?_, ?_⟩
  . exact (hruns.sound Admin.Registry.sound_new).distinct
  . intro operation
    obtain ⟨answer, next, hperforms, heffect⟩ := exists_effect operation site
    exact ⟨answer, next, hperforms, heffect.appends⟩
  . rintro before table after rfl
    obtain ⟨early, others, middle, rfl, hearly, hothers⟩ := hruns.of_append
    obtain ⟨answer, late, started, rfl, hstart, hlate⟩ := hothers.of_cons
    have hclose := hstart.effect.admin_of_start
    obtain ⟨hsame, hrefused⟩ := hlate.of_closed (hclose ▸ Admin.Registry.closed_close _)
    refine ⟨early, answer, late, middle, rfl, hearly, ?_, hrefused⟩
    rw [hsame, hclose]
    exact ⟨rfl, rfl, rfl⟩
  . exact hruns.objects_of_open rfl
  . rintro before after rfl
    obtain ⟨early, others, middle, rfl, hearly, hothers⟩ := hruns.of_append
    obtain ⟨answer, late, started, rfl, hstart, hlate⟩ := hothers.of_cons
    have hclosed : started.1.objects.started = true := by
      rw [hstart.effect.objects_of_start]
      rfl
    exact ⟨early, answer, late, rfl, hearly.length_eq, (hlate.objects_of_closed hclosed).2⟩

end ServiceHost
