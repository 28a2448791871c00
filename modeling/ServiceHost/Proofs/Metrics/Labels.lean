import ServiceHost.Proofs.Metrics.History
import ServiceHost.Proofs.Text.Pieces

/-!
This module contains the names under which metrics with labels are kept. Keys whose parts are free of the marks
that end them have different names, so that nothing that is done with one of them shows under another one. Where
a part holds such a mark, two keys can share one name.
-/

namespace ServiceHost

variable {σ : Type}

namespace Metrics

structure Key where
  name : String
  labels : List (String × String)
  deriving DecidableEq, Repr

namespace Key

def variableName (key : Key) : String :=
  keyName key.name key.labels

/-- No part of a key has a mark in it that would end this part. -/
structure Separable (key : Key) : Prop where
  name : '\x7b' ∉ key.name.toList
  labels : ∀ label ∈ key.labels, '=' ∉ label.1.toList ∧ ',' ∉ label.1.toList ∧ ',' ∉ label.2.toList

def labelText (label : String × String) : List Char :=
  label.1.toList ++ '=' :: label.2.toList

def readLabel (piece : List Char) : String × String :=
  let (key, value) := Text.cut '=' piece
  (.ofList key, .ofList value)

def ofVariableName (text : String) : Key :=
  match Text.cut? '\x7b' text.toList with
  | none => ⟨text, []⟩
  | some (name, rest) => ⟨.ofList name, (Text.pieces ',' rest.dropLast).map readLabel⟩

theorem readLabel_labelText {label : String × String} (h : '=' ∉ label.1.toList) :
    readLabel (labelText label) = label := by
  unfold readLabel labelText Text.cut
  rw [Text.cut?_append h, Option.getD_some]
  dsimp only
  rw [String.ofList_toList, String.ofList_toList]

theorem toList_variableName {key : Key} (h : key.labels ≠ []) :
    key.variableName.toList
      =
    key.name.toList ++ '\x7b' :: ([','].intercalate (key.labels.map labelText) ++ ['\x7d']) := by
  have htexts : (key.labels.map fun label => label.1 ++ "=" ++ label.2).map String.toList = key.labels.map labelText := by
    simp [labelText]
  have hname : key.variableName
      = key.name ++ "\x7b" ++ ",".intercalate (key.labels.map fun label => label.1 ++ "=" ++ label.2) ++ "\x7d" :=
    if_neg h
  rw [hname]
  simp only [String.toList_append, String.toList_intercalate, htexts]
  simp

theorem ofVariableName_variableName {key : Key} (h : key.Separable) : ofVariableName key.variableName = key := by
  by_cases hlabels : key.labels = []
  . have hname : key.variableName = key.name := if_pos hlabels
    unfold ofVariableName
    rw [hname, Text.cut?_of_notMem h.name]
    cases key
    cases hlabels
    rfl
  . have hpieces : Text.pieces ',' ([','].intercalate (key.labels.map labelText)) = key.labels.map labelText := by
      apply Text.pieces_intercalate (mt List.map_eq_nil_iff.mp hlabels)
      rw [List.forall_mem_map]
      intro label hlabel
      obtain ⟨-, hkey, hvalue⟩ := h.labels label hlabel
      simp [labelText, hkey, hvalue]
    have hread : (key.labels.map labelText).map readLabel = key.labels := by
      rw [List.map_map]
      conv_rhs => rw [← List.map_id key.labels]
      exact List.map_congr_left fun label hlabel => readLabel_labelText (h.labels label hlabel).1
    unfold ofVariableName
    rw [toList_variableName hlabels, Text.cut?_append h.name]
    dsimp only
    rw [List.dropLast_concat, hpieces, hread, String.ofList_toList]

theorem variableName_inj {key key' : Key} (h : key.Separable) (h' : key'.Separable) :
    key.variableName = key'.variableName ↔ key = key' := by
  constructor
  . intro heq
    rw [← ofVariableName_variableName h, heq, ofVariableName_variableName h']
  . exact congrArg variableName

end Key

inductive Recording (σ : Type) where
  | request (kind : Kind) (key : Key)
  | update (kind : Kind) (key : Key) (change : Update)
  | direct (use : Use σ)

namespace Recording

def use : Recording σ → Use σ
  | .request kind key => .request kind key.variableName
  | .update kind key change => .update ⟨key.variableName, kind⟩ change
  | .direct use => use

def key? : Recording σ → Option Key
  | .request _ key => some key
  | .update _ key _ => some key
  | .direct _ => none

/-- Whether it is meant for the variable of a key: it is done through this key, or directly under its name. -/
def concerns (key : Key) : Recording σ → Bool
  | .request _ other => other = key
  | .update _ other _ => other = key
  | .direct use => use.name = key.variableName

def concerning (key : Key) (recordings : List (Recording σ)) : List (Recording σ) :=
  recordings.filter (concerns key)

theorem concerns_eq {key : Key} (hkey : key.Separable) {recording : Recording σ}
    (h : ∀ other, recording.key? = some other → other.Separable) :
    recording.concerns key = decide (recording.use.name = key.variableName) := by
  cases recording with
  | request kind other | update kind other change =>
    exact decide_eq_decide.mpr (Key.variableName_inj (h other rfl) hkey).symm
  | direct use => rfl

theorem on_variableName {key : Key} (hkey : key.Separable) {recordings : List (Recording σ)}
    (h : ∀ recording ∈ recordings, ∀ other, recording.key? = some other → other.Separable) :
    on key.variableName (recordings.map use) = (concerning key recordings).map use := by
  unfold on concerning
  rw [List.filter_map]
  congr 1
  exact List.filter_congr fun recording hmem => (concerns_eq hkey (h recording hmem)).symm

theorem name_use {recording : Recording σ} {key : Key} (h : recording.key? = some key) :
    recording.use.name = key.variableName := by
  cases recording <;> cases h <;> rfl

end Recording

theorem warning?_congr {before before' : List (Use σ)} {use : Use σ}
    (h : on use.name before = on use.name before') : warning? before use = warning? before' use := by
  cases use with
  | publish name read | request kind name =>
    dsimp only [Use.name] at h
    simp only [warning?, h]
  | update handle change => rfl

namespace Recording

variable {key : Key} {recordings : List (Recording σ)}

theorem concerning_concerning (key : Key) (recordings : List (Recording σ)) :
    concerning key (concerning key recordings) = concerning key recordings := by
  unfold concerning
  rw [List.filter_filter]
  simp only [Bool.and_self]

theorem warning?_use (hkey : key.Separable)
    (h : ∀ recording ∈ recordings, ∀ other, recording.key? = some other → other.Separable)
    {recording : Recording σ} (hrecording : recording.key? = some key) :
    warning? (recordings.map use) recording.use = warning? ((concerning key recordings).map use) recording.use := by
  apply warning?_congr
  rw [name_use hrecording, on_variableName hkey h, on_variableName hkey, concerning_concerning]
  exact fun other hother => h other (List.mem_of_mem_filter hother)

end Recording

/--
Metrics that are used through keys whose parts are free of the marks that end them: different keys have different
names, and what a key shows, whether a request for it meets another kind, and whether its updates count, is
decided by what was done with this key alone.
-/
theorem keys_apart_of_separable {recordings : List (Recording σ)}
    (hkeys : ∀ recording ∈ recordings, ∀ key, recording.key? = some key → key.Separable)
    (hobtained : Obtained (recordings.map Recording.use)) (world : World σ) :
    ∃ after,
      (useEach (recordings.map Recording.use)).exec { world with metrics := .empty }
        =
      (.ok (recordings.map fun recording => recording.use.handle?), after)
        ∧
      (∀ key key' : Key, key.Separable → key'.Separable → key ≠ key' → key.variableName ≠ key'.variableName)
        ∧
      (∀ key : Key, key.Separable → ∀ state,
        (after.metrics.contents.find? key.variableName).map (·.toJson state)
          =
        shown? state ((Recording.concerning key recordings).map Recording.use))
        ∧
      (∀ state text, after.metrics.render state = .ok text →
        ∃ members,
          text = object members
            ∧
          ∀ key : Key, key.Separable →
            (key.variableName ∈ members.map (·.1) ↔ Recording.concerning key recordings ≠ [])
              ∧
            ∀ value, (key.variableName, value) ∈ members →
              shown? state ((Recording.concerning key recordings).map Recording.use) = some (.ok value))
        ∧
      after.events = world.events ++ warnings [] (recordings.map Recording.use)
        ∧
      (∀ before recording later key,
        recordings = before ++ recording :: later → recording.key? = some key →
          warning? (before.map Recording.use) recording.use
            =
          warning? ((Recording.concerning key before).map Recording.use) recording.use)
        ∧
      ∀ (key : Key) kind change, key.Separable →
        clashes kind ((Recording.concerning key recordings).map Recording.use) →
          (Action.updateMetric ⟨key.variableName, kind⟩ change).exec after = (.ok (), after) := by
  obtain ⟨after, hexec, hafter, hevents⟩ := useEach_exec [] hobtained { world with metrics := .empty } reflects_nil
  rw [List.nil_append] at hafter
  have hon {key : Key} (hkey : key.Separable) := Recording.on_variableName hkey hkeys
  refine ⟨after, ?_, ?_, ?_, ?_, hevents, ?_, ?_⟩
  . rw [hexec, List.map_map]
    rfl
  . intro key key' hkey hkey'
    exact mt (Key.variableName_inj hkey hkey').mp
  . intro key hkey state
    rw [hafter.held, toJson_held?, hon hkey]
  . intro state text hrender
    obtain ⟨members, hnames, hvalues, htext⟩ := hafter.render_eq_ok_iff.mp hrender
    refine ⟨members, htext, fun key hkey => ⟨?_, ?_⟩⟩
    . rw [hnames, hafter.names, ← not_iff_not, ← on_eq_nil_iff, hon hkey, List.map_eq_nil_iff, not_not]
    . intro value hmem
      rw [← hon hkey]
      exact hvalues _ hmem
  . rintro before recording later key rfl hrecording
    apply Recording.warning?_use (hkeys recording (by simp) key hrecording) _ hrecording
    exact fun other hother => hkeys other (List.mem_append_left _ hother)
  . intro key kind change hkey hclash
    rw [← hon hkey] at hclash
    have hsame := @Reflects.update_eq_self _ _ _ hafter ⟨key.variableName, kind⟩ hclash change
    unfold Action.updateMetric
    rw [Action.exec_change, hsame]

def causeKey : Key :=
  ⟨"errors", [("kind", "io"), ("cause", "a=b\x7d")]⟩

def labelledRecordings : List (Recording Unit) :=
  [.request .counter ⟨"errors", []⟩, .update .counter ⟨"errors", []⟩ (.increment 2),
   .request .counter causeKey, .update .counter causeKey (.increment 5)]

theorem metrics_of_labelledRecordings :
    (∀ recording ∈ labelledRecordings, ∀ key, recording.key? = some key → key.Separable)
      ∧
    Obtained (labelledRecordings.map Recording.use)
      ∧
    ∃ after,
      (useEach (labelledRecordings.map Recording.use)).exec (.idle ())
        =
      (.ok (labelledRecordings.map fun recording => recording.use.handle?), after)
        ∧
      after.events = []
        ∧
      (after.metrics.contents.find? "errors").map (·.toJson ()) = some (.ok (.integer 2))
        ∧
      (after.metrics.contents.find? "errors\x7bkind=io,cause=a=b\x7d\x7d").map (·.toJson ()) = some (.ok (.integer 5)) := by
  have hplain : (⟨"errors", []⟩ : Key).Separable := ⟨by decide, nofun⟩
  have hcause : causeKey.Separable := ⟨by decide, by decide⟩
  have hkeys : ∀ recording ∈ labelledRecordings, ∀ key, recording.key? = some key → key.Separable := by
    intro recording hmem key hkey
    simp only [labelledRecordings, List.mem_cons, List.not_mem_nil, or_false] at hmem
    rcases hmem with rfl | rfl | rfl | rfl <;> cases hkey <;> assumption
  have hobtained : Obtained (labelledRecordings.map Recording.use) := by
    have hnone : Obtained ((labelledRecordings.map Recording.use).take 0) :=
      fun _ _ _ _ heq => absurd heq (by simp)
    have hrequest : Obtained ((labelledRecordings.map Recording.use).take 1) := hnone.concat nofun
    have hupdate : Obtained ((labelledRecordings.map Recording.use).take 2) :=
      hrequest.concat (by rintro _ _ ⟨⟩; decide +kernel)
    have hlabelled : Obtained ((labelledRecordings.map Recording.use).take 3) := hupdate.concat nofun
    exact hlabelled.concat (by rintro _ _ ⟨⟩; decide +kernel)
  obtain ⟨after, hexec, -, hshown, -, hevents, -⟩ := keys_apart_of_separable hkeys hobtained (.idle ())
  exact ⟨hkeys, hobtained, after, hexec, hevents, hshown _ hplain (), hshown _ hcause ()⟩

/--
Keys that differ and have one name, on account of a brace, a comma or an equals sign: an update of one counts for
the other, which cannot have another kind.
-/
theorem keys_collide :
    (⟨"m", [("a", "b,c=d")]⟩ : Key).variableName = (⟨"m", [("a", "b"), ("c", "d")]⟩ : Key).variableName
      ∧
    (⟨"m", [("a=b", "c")]⟩ : Key).variableName = (⟨"m", [("a", "b=c")]⟩ : Key).variableName
      ∧
    let labelled : Key := ⟨"a", [("b", "c")]⟩
    let plain : Key := ⟨"a\x7bb=c\x7d", []⟩
    labelled ≠ plain ∧ labelled.variableName = plain.variableName
      ∧
    ∃ after,
      (useEach ([.request .counter labelled, .update .counter labelled (.increment 1), .request .counter plain,
          .update .counter plain (.increment 2), .request .gauge plain].map Recording.use)).exec (.idle ())
        =
      (.ok [some ⟨"a\x7bb=c\x7d", .counter⟩, none, some ⟨"a\x7bb=c\x7d", .counter⟩, none,
        some ⟨"a\x7bb=c\x7d", .gauge⟩], after)
        ∧
      after.metrics.render () = .ok "\x7b\"a\x7bb=c\x7d\": 3\x7d"
        ∧
      after.events
        =
      [⟨.metrics, .warn, "Metric already registered with a different kind", [("name", "a\x7bb=c\x7d")]⟩] := by
  exact ⟨by decide +kernel, by decide +kernel, by decide, by decide +kernel, _, Prod.ext (by decide +kernel) rfl,
    by decide +kernel, by decide +kernel⟩

end Metrics
end ServiceHost
