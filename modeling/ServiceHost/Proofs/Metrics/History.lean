import ServiceHost.Proofs.Metrics.Registry
import ServiceHost.Proofs.Metrics.Rendering

/-!
This module contains what the metrics show after any history of uses. The value under a name is decided by the
uses of that name alone: by the latest publication or, where nothing was published, by the kind that was asked
for first and the updates that were made through handles of that kind.
-/

namespace ServiceHost

variable {σ : Type}

namespace Metrics

inductive Use (σ : Type) where
  | publish (name : String) (read : σ → Except Fault Json.Value)
  | request (kind : Kind) (name : String)
  | update (handle : Handle) (update : Update)

namespace Use

def name : Use σ → String
  | .publish name _ => name
  | .request _ name => name
  | .update handle _ => handle.name

@[simp]
def handle? : Use σ → Option Handle
  | .request kind name => some ⟨name, kind⟩
  | _ => none

@[simp]
def published? : Use σ → Option (σ → Except Fault Json.Value)
  | .publish _ read => some read
  | _ => none

@[simp]
def requested? : Use σ → Option Kind
  | .request kind _ => some kind
  | _ => none

@[simp]
def update? (kind : Kind) : Use σ → Option Update
  | .update handle change => if handle.kind = kind then some change else none
  | _ => none

def perform : Use σ → Action σ (Option Handle)
  | .publish name read => do
    Action.publishMetric name read
    return none
  | .request kind name => return some (← Action.metric kind name)
  | .update handle change => do
    Action.updateMetric handle change
    return none

def apply : Use σ → Registry σ → Registry σ
  | .publish name read => Registry.publish name read
  | .request kind name => Registry.request kind name
  | .update handle change => Registry.update handle change

end Use

def useEach : List (Use σ) → Action σ (List (Option Handle))
  | [] => return []
  | use :: uses => do
    let handle ← use.perform
    return handle :: (← useEach uses)

/-- Every update goes through a handle that was given out before. -/
def Obtained (uses : List (Use σ)) : Prop :=
  ∀ before handle change rest, uses = before ++ .update handle change :: rest → some handle ∈ before.map Use.handle?

def Update.count (value : Nat) : Update → Nat
  | .increment amount => (value + amount.toNat) % 2 ^ 64
  | .raise least => max value least.toNat
  | _ => value

def Update.gauge (value : Float) : Update → Float
  | .set value => value
  | .add amount => value + amount
  | .subtract amount => value - amount
  | _ => value

def Update.summarize (summary : Summary) : Update → Summary
  | .record value => summary.record value
  | _ => summary

def total (updates : List Update) : Kind → Json
  | .counter => .integer (updates.foldl Update.count 0 : Nat)
  | .gauge => .float (updates.foldl Update.gauge 0)
  | .histogram => (updates.foldl Update.summarize .empty).toJson

/-! The following is about the uses of one name. -/

def latest? (uses : List (Use σ)) : Option (σ → Except Fault Json.Value) :=
  (uses.filterMap Use.published?).getLast?

def firstKind? (uses : List (Use σ)) : Option Kind :=
  (uses.filterMap Use.requested?).head?

def updates (kind : Kind) (uses : List (Use σ)) : List Update :=
  uses.filterMap (Use.update? kind)

def shown? (state : σ) (uses : List (Use σ)) : Option (Except Fault Json) :=
  match latest? uses with
  | some read => some ((read state).map (·.json))
  | none => (firstKind? uses).map fun kind => .ok (total (updates kind uses) kind)

def clashes (kind : Kind) (uses : List (Use σ)) : Bool :=
  (latest? uses).isSome || (firstKind? uses).any (· ≠ kind)

def on (name : String) (uses : List (Use σ)) : List (Use σ) :=
  uses.filter (·.name = name)

def warning? (before : List (Use σ)) : Use σ → Option Log.Event
  | .publish name _ =>
    if on name before = [] then none
    else some ⟨.metrics, .warn, "Replaced published metric variable", [("name", name)]⟩
  | .request kind name =>
    if clashes kind (on name before) then
      some ⟨.metrics, .warn, "Metric already registered with a different kind", [("name", name)]⟩
    else none
  | .update _ _ => none

def warnings (before : List (Use σ)) : List (Use σ) → List Log.Event
  | [] => []
  | use :: uses => (warning? before use).toList ++ warnings (before ++ [use]) uses

/-! What the uses of one name leave behind. -/

def Variable.applyAll (updates : List Update) (v : Variable σ) : Variable σ :=
  updates.foldl (fun v update => v.apply update) v

def held? (uses : List (Use σ)) : Option (Variable σ) :=
  match latest? uses with
  | some read => some (.published read)
  | none => (firstKind? uses).map fun kind => .applyAll (updates kind uses) (.fresh kind)

def Use.follow : Use σ → Option (Variable σ) → Option (Variable σ)
  | .publish _ read, _ => some (.published read)
  | .request kind _, found? => some (found?.getD (.fresh kind))
  | .update handle change, found? =>
    found?.map fun v => if change.kind = handle.kind then v.apply change else v

namespace Variable

@[simp]
theorem kind?_fresh (kind : Kind) : (fresh kind : Variable σ).kind? = some kind := by
  cases kind <;> rfl

@[simp]
theorem kind?_apply (update : Update) (v : Variable σ) : (v.apply update).kind? = v.kind? := by
  cases update <;> cases v <;> rfl

theorem apply_of_kind_ne {update : Update} {v : Variable σ} (h : v.kind? ≠ some update.kind) :
    v.apply update = v := by
  cases update <;> cases v <;> first | rfl | exact absurd rfl h

@[simp]
theorem applyAll_nil (v : Variable σ) : applyAll [] v = v := by
  rfl

theorem applyAll_cons (update : Update) (updates : List Update) (v : Variable σ) :
    applyAll (update :: updates) v = applyAll updates (v.apply update) := by
  rfl

theorem applyAll_concat (updates : List Update) (update : Update) (v : Variable σ) :
    applyAll (updates ++ [update]) v = (applyAll updates v).apply update := by
  unfold applyAll
  rw [List.foldl_append]
  rfl

@[simp]
theorem kind?_applyAll (updates : List Update) (v : Variable σ) : (applyAll updates v).kind? = v.kind? := by
  induction updates generalizing v with
  | nil => rfl
  | cons update updates ih => rw [applyAll_cons, ih, kind?_apply]

theorem applyAll_counter (updates : List Update) (value : UInt64) :
    ∃ last : UInt64,
      applyAll updates (.counter value : Variable σ) = .counter last
        ∧
      last.toNat = updates.foldl Update.count value.toNat := by
  induction updates generalizing value with
  | nil => exact ⟨value, rfl, rfl⟩
  | cons update updates ih =>
    rw [applyAll_cons, List.foldl_cons]
    cases update with
    | increment amount =>
      have hcount : Update.count value.toNat (.increment amount) = (value + amount).toNat :=
        (UInt64.toNat_add value amount).symm
      rw [hcount]
      exact ih (value + amount)
    | raise least =>
      have hcount : Update.count value.toNat (.raise least) = (max value least).toNat :=
        (UInt64.toNat_max value least).symm
      rw [hcount]
      exact ih (max value least)
    | set _ | add _ | subtract _ | record _ => exact ih value

theorem applyAll_gauge (updates : List Update) (value : Float) :
    applyAll updates (.gauge value : Variable σ) = .gauge (updates.foldl Update.gauge value) := by
  induction updates generalizing value with
  | nil => rfl
  | cons update updates ih =>
    rw [applyAll_cons, List.foldl_cons, ← ih]
    cases update <;> rfl

theorem applyAll_histogram (updates : List Update) (summary : Summary) :
    applyAll updates (.histogram summary : Variable σ)
      =
    .histogram (updates.foldl Update.summarize summary) := by
  induction updates generalizing summary with
  | nil => rfl
  | cons update updates ih =>
    rw [applyAll_cons, List.foldl_cons, ← ih]
    cases update <;> rfl

theorem toJson_applyAll_fresh (updates : List Update) (kind : Kind) (state : σ) :
    (applyAll updates (fresh kind)).toJson state = .ok (total updates kind) := by
  cases kind with
  | counter =>
    obtain ⟨last, hlast, htotal⟩ := applyAll_counter (σ := σ) updates 0
    unfold fresh
    rw [hlast]
    exact congrArg (fun value : Nat => Except.ok (Json.integer value)) htotal
  | gauge =>
    unfold fresh total
    rw [applyAll_gauge]
    rfl
  | histogram =>
    unfold fresh total
    rw [applyAll_histogram]
    rfl

end Variable

theorem toJson_held? (uses : List (Use σ)) (state : σ) :
    (held? uses).map (·.toJson state) = shown? state uses := by
  unfold held? shown?
  split
  . rfl
  . rw [Option.map_map]
    congr 1
    funext kind
    exact Variable.toJson_applyAll_fresh (updates kind uses) kind state

theorem clashes_eq (kind : Kind) (uses : List (Use σ)) :
    clashes kind uses = !(((held? uses).getD (.fresh kind)).kind? == some kind) := by
  unfold clashes held?
  cases latest? uses with
  | some read => rfl
  | none => cases firstKind? uses <;> simp [beq_eq_decide]

/-! A use of the same name adds to what is there. -/

theorem held?_publish (uses : List (Use σ)) (name : String) (read : σ → Except Fault Json.Value) :
    held? (uses ++ [.publish name read]) = some (.published read) := by
  unfold held? latest?
  simp

theorem held?_request {uses : List (Use σ)} (kind : Kind) (name : String)
    (h : firstKind? uses = none → updates kind uses = []) :
    held? (uses ++ [.request kind name]) = some ((held? uses).getD (.fresh kind)) := by
  have hlatest : latest? (uses ++ [.request kind name]) = latest? uses := by
    simp [latest?]
  have hfirst : firstKind? (uses ++ [.request kind name]) = (firstKind? uses).or (some kind) := by
    simp [firstKind?]
  have hupdates (k : Kind) : updates k (uses ++ [.request kind name]) = updates k uses := by
    simp [updates]
  unfold held?
  rw [hlatest, hfirst]
  simp only [hupdates]
  cases latest? uses with
  | some read => rfl
  | none =>
    cases hkind : firstKind? uses with
    | some k => rfl
    | none => simp [h hkind]

theorem held?_update (uses : List (Use σ)) (handle : Handle) (change : Update) :
    held? (uses ++ [.update handle change])
      =
    (held? uses).map fun v => if change.kind = handle.kind then v.apply change else v := by
  have hlatest : latest? (uses ++ [.update handle change]) = latest? uses := by
    simp [latest?]
  have hfirst : firstKind? (uses ++ [.update handle change]) = firstKind? uses := by
    simp [firstKind?]
  have hupdates (k : Kind) :
      updates k (uses ++ [.update handle change])
        =
      updates k uses ++ if handle.kind = k then [change] else [] := by
    unfold updates
    rw [List.filterMap_append]
    by_cases h : handle.kind = k <;> simp [h]
  unfold held?
  rw [hlatest, hfirst]
  simp only [hupdates]
  cases latest? uses with
  | some read =>
    have hsame : (Variable.published read).apply change = .published read := Variable.apply_of_kind_ne nofun
    simp [hsame]
  | none =>
    dsimp only
    rw [Option.map_map]
    congr 1
    funext kind
    dsimp only [Function.comp]
    have hsame (h : kind ≠ change.kind) (v : Variable σ) (hv : v.kind? = some kind) : v.apply change = v := by
      apply Variable.apply_of_kind_ne
      rw [hv]
      exact fun heq => h (Option.some.inj heq)
    by_cases hkind : handle.kind = kind
    . rw [if_pos hkind, Variable.applyAll_concat]
      split
      . rfl
      . next hne => exact hsame (fun h => hne (by rw [← h, hkind])) _ (by simp)
    . rw [if_neg hkind, List.append_nil]
      split
      . next heq => exact (hsame (fun h => hkind (by rw [← heq, h])) _ (by simp)).symm
      . rfl

theorem held?_concat {uses : List (Use σ)} (use : Use σ)
    (h : ∀ kind, firstKind? uses = none → updates kind uses = []) :
    held? (uses ++ [use]) = use.follow (held? uses) := by
  cases use with
  | publish name read => exact held?_publish uses name read
  | request kind name => exact held?_request kind name (h kind)
  | update handle change => exact held?_update uses handle change

theorem Use.find?_apply (use : Use σ) (registry : Registry σ) (name : String) :
    (use.apply registry).contents.find? name
      =
    if name = use.name then use.follow (registry.contents.find? name) else registry.contents.find? name := by
  cases use with
  | publish n read => exact Keyed.find?_insert n name (.published read) registry.contents
  | request kind n => exact registry.find?_request kind n name
  | update handle change => exact registry.find?_update handle change name

theorem Use.mem_names_apply {use : Use σ} {registry : Registry σ}
    (h : ∀ handle change, use = .update handle change → handle.name ∈ registry.names) (name : String) :
    name ∈ (use.apply registry).names ↔ name = use.name ∨ name ∈ registry.names := by
  unfold Registry.names
  rw [← Keyed.contains_iff, ← Keyed.contains_iff]
  unfold Keyed.contains
  rw [find?_apply]
  by_cases hname : name = use.name
  . subst hname
    cases use with
    | publish name read => simp [follow]
    | request kind name => simp [follow]
    | update handle change =>
      have hfound := Keyed.contains_iff.mpr (h handle change rfl)
      unfold Keyed.contains at hfound
      simp [follow, name, hfound]
  . simp [hname]

theorem on_concat (name : String) (uses : List (Use σ)) (use : Use σ) :
    on name (uses ++ [use]) = if name = use.name then on name uses ++ [use] else on name uses := by
  unfold on
  by_cases h : name = use.name
  . simp [h]
  . simp [h, Ne.symm h]

theorem on_eq_nil_iff {name : String} {uses : List (Use σ)} :
    on name uses = [] ↔ ¬ ∃ use ∈ uses, use.name = name := by
  simp [on]

theorem Obtained.of_append {before uses : List (Use σ)} (h : Obtained (before ++ uses)) : Obtained before := by
  rintro first handle change rest rfl
  apply h first handle change (rest ++ uses)
  rw [List.append_assoc, List.cons_append]

theorem Obtained.concat {uses : List (Use σ)} {use : Use σ} (h : Obtained uses)
    (huse : ∀ handle change, use = .update handle change → some handle ∈ uses.map Use.handle?) :
    Obtained (uses ++ [use]) := by
  intro before handle change rest heq
  rcases List.eq_nil_or_concat rest with rfl | ⟨rest, last, rfl⟩
  . obtain ⟨rfl, hlast⟩ := List.append_inj' heq rfl
    exact huse handle change (List.singleton_inj.mp hlast)
  . rw [List.concat_eq_append, ← List.cons_append, ← List.append_assoc] at heq
    exact h before handle change rest (List.append_inj' heq rfl).1

theorem Obtained.handle_mem {uses : List (Use σ)} (h : Obtained uses) {handle : Handle} {change : Update}
    (hmem : .update handle change ∈ uses) : some handle ∈ uses.map Use.handle? := by
  obtain ⟨before, rest, rfl⟩ := List.append_of_mem hmem
  rw [List.map_append]
  exact List.mem_append_left _ (h before handle change rest rfl)

theorem exists_request {uses : List (Use σ)} {handle : Handle} (h : some handle ∈ uses.map Use.handle?) :
    .request handle.kind handle.name ∈ uses := by
  obtain ⟨use, hmem, huse⟩ := List.mem_map.mp h
  cases use with
  | request kind name =>
    cases huse
    exact hmem
  | publish _ _ | update _ _ => cases huse

theorem Obtained.updates_eq_nil {uses : List (Use σ)} (h : Obtained uses) {name : String}
    (hnone : firstKind? (on name uses) = none) (kind : Kind) : updates kind (on name uses) = [] := by
  unfold updates
  rw [List.filterMap_eq_nil_iff]
  intro use hmem
  obtain ⟨hmem, hname⟩ := List.mem_filter.mp hmem
  cases use with
  | publish _ _ | request _ _ => rfl
  | update handle change =>
    exfalso
    have hrequest := exists_request (h.handle_mem hmem)
    rw [firstKind?, List.head?_eq_none_iff, List.filterMap_eq_nil_iff] at hnone
    have hon : .request handle.kind handle.name ∈ on name uses := List.mem_filter.mpr ⟨hrequest, hname⟩
    cases hnone _ hon

structure Reflects (registry : Registry σ) (uses : List (Use σ)) : Prop where
  names : ∀ name, name ∈ registry.names ↔ ∃ use ∈ uses, use.name = name
  held : ∀ name, registry.contents.find? name = held? (on name uses)

theorem reflects_nil : Reflects (.empty : Registry σ) [] where
  names := by
    intro name
    simp [Registry.empty, Registry.names, Keyed.keys, Keyed.empty]
  held _ := rfl

namespace Reflects

variable {registry : Registry σ} {uses : List (Use σ)}

theorem contains_eq (h : Reflects registry uses) (name : String) :
    registry.contents.contains name = !decide (on name uses = []) := by
  have hnames : name ∈ registry.contents.keys ↔ ∃ use ∈ uses, use.name = name := h.names name
  rw [Bool.eq_iff_iff, Keyed.contains_iff, hnames]
  simp [on_eq_nil_iff]

theorem apply {use : Use σ} (h : Reflects registry uses) (hobtained : Obtained (uses ++ [use])) :
    Reflects (use.apply registry) (uses ++ [use]) where
  names := by
    intro name
    rw [Use.mem_names_apply, h.names]
    . simp [or_comm, eq_comm]
    . rintro handle change rfl
      have hgiven := hobtained uses handle change [] rfl
      exact (h.names _).mpr ⟨_, exists_request hgiven, rfl⟩
  held := by
    intro name
    rw [Use.find?_apply, on_concat, h.held]
    split
    . exact (held?_concat use fun kind hnone => hobtained.of_append.updates_eq_nil hnone kind).symm
    . rfl

end Reflects

theorem Reflects.hasKind_request {registry : Registry σ} {uses : List (Use σ)} (h : Reflects registry uses)
    (kind : Kind) (name : String) :
    (registry.request kind name).hasKind kind name = !clashes kind (on name uses) := by
  unfold Registry.hasKind
  rw [Registry.find?_request, if_pos rfl, h.held, clashes_eq, Bool.not_not]
  rfl

theorem Use.perform_exec {world : World σ} {before : List (Use σ)} (h : Reflects world.metrics before)
    (use : Use σ) :
    use.perform.exec world
      =
    (.ok use.handle?,
      World.recordAll (warning? before use).toList { world with metrics := use.apply world.metrics }) := by
  cases use with
  | publish name read =>
    dsimp only [perform, warning?]
    rw [Action.exec_bind_ok (publishMetric_exec name read world), h.contains_eq]
    by_cases hnew : on name before = [] <;> simp only [hnew] <;> rfl
  | request kind name =>
    dsimp only [perform, warning?]
    rw [Action.exec_bind_ok (metric_exec kind name world), h.hasKind_request]
    by_cases hclash : clashes kind (on name before) <;> simp only [hclash] <;> rfl
  | update handle change => rfl

theorem useEach_exec (before : List (Use σ)) {uses : List (Use σ)} (h : Obtained (before ++ uses)) (world : World σ)
    (hworld : Reflects world.metrics before) :
    ∃ after,
      (useEach uses).exec world = (.ok (uses.map Use.handle?), after)
        ∧
      Reflects after.metrics (before ++ uses)
        ∧
      after.events = world.events ++ warnings before uses := by
  induction uses generalizing before world with
  | nil =>
    refine ⟨world, rfl, ?_, ?_⟩
    . rw [List.append_nil]
      exact hworld
    . exact (List.append_nil _).symm
  | cons use uses ih =>
    rw [List.append_cons] at h
    let next : World σ :=
      .recordAll (warning? before use).toList { world with metrics := use.apply world.metrics }
    have hnext : Reflects next.metrics (before ++ [use]) := by
      rw [metrics_recordAll]
      exact hworld.apply h.of_append
    obtain ⟨after, hrest, hafter, hevents⟩ := ih (before ++ [use]) h next hnext
    refine ⟨after, ?_, ?_, ?_⟩
    . unfold useEach
      rw [Action.exec_bind_ok (use.perform_exec hworld), Action.exec_bind_ok hrest]
      rfl
    . rw [List.append_cons]
      exact hafter
    . rw [hevents, World.events_recordAll, List.append_assoc]
      rfl

theorem Reflects.render_eq_ok_iff {registry : Registry σ} {uses : List (Use σ)} (h : Reflects registry uses)
    {state : σ} {text : String} :
    registry.render state = .ok text
      ↔
    ∃ members,
      members.map (·.1) = registry.names
        ∧
      (∀ member ∈ members, shown? state (on member.1 uses) = some (.ok member.2))
        ∧
      text = object members := by
  have hshown (name : String) (value : Json) :
      (∃ v, (name, v) ∈ registry.contents ∧ v.toJson state = .ok value)
        ↔
      shown? state (on name uses) = some (.ok value) := by
    rw [← toJson_held?, ← h.held, Option.map_eq_some_iff]
    simp only [Keyed.find?_eq_some_iff]
  rw [Registry.render_eq_ok_iff]
  let shows (v : Variable σ) (value : Json) : Prop := v.toJson state = .ok value
  simp only [Keyed.forall₂_iff (r := shows), shows, hshown, and_assoc]
  rfl

theorem Reflects.update_eq_self {registry : Registry σ} {uses : List (Use σ)} (h : Reflects registry uses)
    {handle : Handle} (hclash : clashes handle.kind (on handle.name uses)) (change : Update) :
    registry.update handle change = registry := by
  unfold Registry.update
  split
  . next hkind =>
    rw [Keyed.modify_eq_self]
    intro v hv
    apply Variable.apply_of_kind_ne
    rw [clashes_eq, ← h.held, hv] at hclash
    simpa [hkind] using hclash
  . rfl

def mixedUses : List (Use Unit) :=
  [.request .counter "hits", .request .gauge "hits", .update ⟨"hits", .gauge⟩ (.set 1),
   .update ⟨"hits", .counter⟩ (.increment 5), .update ⟨"hits", .counter⟩ (.raise 3),
   .request .counter "up", .publish "up" fun _ => .ok (.natural 1), .update ⟨"up", .counter⟩ (.increment 7)]

theorem obtained_mixedUses : Obtained mixedUses := by
  have hfirst : Obtained (mixedUses.take 2) := by
    intro before handle change rest heq
    have hmem : .update handle change ∈ mixedUses.take 2 := heq ▸ List.mem_append_right _ List.mem_cons_self
    simp [mixedUses] at hmem
  have hset : Obtained (mixedUses.take 3) := hfirst.concat (by rintro _ _ ⟨⟩; decide)
  have hincrement : Obtained (mixedUses.take 4) := hset.concat (by rintro _ _ ⟨⟩; decide)
  have hraise : Obtained (mixedUses.take 5) := hincrement.concat (by rintro _ _ ⟨⟩; decide)
  have hrequest : Obtained (mixedUses.take 6) := hraise.concat nofun
  have hpublish : Obtained (mixedUses.take 7) := hrequest.concat nofun
  exact hpublish.concat (by rintro _ _ ⟨⟩; decide)

end Metrics
end ServiceHost
