import Mathlib.Logic.Relation
import ServiceHost.Config.Source
import ServiceHost.Proofs.Toml.Records
import ServiceHost.Proofs.Toml.Values

/-!
This module contains how the tables of the service and the sections of the application stand side by side in a
document: neither makes a difference to the other, and what the service does not know in its own tables makes none
at all.
-/

namespace ServiceHost

namespace Config

open Toml (Adds)

inductive AddsToConnectors : Toml → Toml → Prop where
  | element (before after : List Toml) {value value' : Toml} :
    Adds connectorForm.names value value' →
    AddsToConnectors (.array (before ++ value :: after)) (.array (before ++ value' :: after))

inductive AddsToServer : Toml → Toml → Prop where
  | server {value value' : Toml} :
    Adds serverForm.names value value' →
    AddsToServer value value'
  | named (before after : List (String × Toml)) {side : String} {value value' : Toml} :
    side ∈ ["application_connectors", "admin_connectors"] →
    AddsToConnectors value value' →
    AddsToServer (.table (before ++ (side, value) :: after)) (.table (before ++ (side, value') :: after))
  | placed (before after : List Toml) {value value' : Toml} :
    before.length < 2 →
    AddsToConnectors value value' →
    AddsToServer (.array (before ++ value :: after)) (.array (before ++ value' :: after))

inductive AddsTo : String → Toml → Toml → Prop where
  | server {value value' : Toml} : AddsToServer value value' → AddsTo "server" value value'
  | logging {value value' : Toml} : Adds loggingForm.names value value' → AddsTo "logging" value value'
  | metrics {value value' : Toml} : Adds metricsForm.names value value' → AddsTo "metrics" value value'

/-- One more entry that the service does not know in one of its own tables. -/
inductive AddsUnknown : List (String × Toml) → List (String × Toml) → Prop where
  | entry (before after : List (String × Toml)) {key : String} {value value' : Toml} :
    AddsTo key value value' →
    AddsUnknown (before ++ (key, value) :: after) (before ++ (key, value') :: after)

theorem connector_of_adds {value value' : Toml} (h : Adds connectorForm.names value value') :
    connector value' = connector value := by
  unfold connector
  rw [Toml.RecordForm.decode_of_adds h]

theorem connectors_of_adds {value value' : Toml} (h : AddsToConnectors value value') :
    Toml.Decoder.list connector value' = Toml.Decoder.list connector value := by
  cases h with
  | element before after h =>
    unfold Toml.Decoder.list
    dsimp only
    rw [List.mapM_append, List.mapM_append, List.mapM_cons, List.mapM_cons, connector_of_adds h]

theorem read_connectors {value value' : Toml} (h : AddsToConnectors value value') :
    ∀ field ∈ serverForm.fields.take 2, field.read value' = field.read value := by
  have hlist := connectors_of_adds h
  unfold serverForm Toml.RecordForm.lenient
  simp only [List.take_succ_cons, List.take_zero, List.forall_mem_cons]
  refine ⟨?_, ?_, List.forall_mem_nil _⟩
  . exact Toml.Field.read_congr hlist _ _
  . exact Toml.Field.read_congr hlist _ _

theorem decode_server_of_adds {value value' : Toml} (h : AddsToServer value value') :
    serverForm.decode false .default value' = serverForm.decode false .default value := by
  cases h with
  | server h => exact Toml.RecordForm.decode_of_adds h _ _
  | named before after hside h =>
    apply Toml.RecordForm.decode_table_congr
    intro field hfield hname
    rw [← List.take_append_drop 2 serverForm.fields, List.mem_append] at hfield
    cases hfield with
    | inl hfield => exact read_connectors h field hfield
    | inr hfield =>
      have hothers : ∀ field ∈ serverForm.fields.drop 2,
          field.name ∉ ["application_connectors", "admin_connectors"] := by
        unfold serverForm Toml.RecordForm.lenient Toml.Field.of
        decide
      exact absurd (hname ▸ hside) (hothers field hfield)
  | placed before after hlength h =>
    apply Toml.RecordForm.decode_array_congr
    intro field hfield
    apply read_connectors h
    rw [← List.getElem?_take_of_lt hlength] at hfield
    exact List.mem_of_getElem? hfield

theorem readEntry_of_addsTo {key : String} {value value' : Toml} (h : AddsTo key value value') (c : Configuration) :
    c.readEntry (key, value') = c.readEntry (key, value) := by
  cases h with
  | server h =>
    change Except.map _ (serverForm.decode false .default value') = Except.map _ _
    rw [decode_server_of_adds h]
  | logging h =>
    change Except.map _ (loggingForm.decode false .default value') = Except.map _ _
    rw [Toml.RecordForm.decode_of_adds h]
  | metrics h =>
    change Except.map _ (metricsForm.decode false .default value') = Except.map _ _
    rw [Toml.RecordForm.decode_of_adds h]

theorem ofEntries_of_addsUnknown {entries entries' : List (String × Toml)} (h : AddsUnknown entries entries') :
    Configuration.ofEntries entries' = Configuration.ofEntries entries := by
  cases h with
  | entry before after h =>
    unfold Configuration.ofEntries
    rw [List.foldlM_append, List.foldlM_append]
    apply congrArg (· >>= Configuration.readSections)
    apply bind_congr
    intro c
    rw [List.foldlM_cons, List.foldlM_cons, readEntry_of_addsTo h]

end Config

namespace Configuration

def ownKeys : List String :=
  ["server", "logging", "metrics"]

def ownEntries (entries : List (String × Toml)) : List (String × Toml) :=
  entries.filter (·.1 ∈ ownKeys)

def otherEntries (entries : List (String × Toml)) : List (String × Toml) :=
  entries.filter (·.1 ∉ ownKeys)

def own (c : Configuration) : Config.Server × Config.Logging × Config.Metrics :=
  (c.server, c.logging, c.metrics)

def withSections (sections : List (String × Toml)) (c : Configuration) : Configuration :=
  { c with sections }

theorem readEntry_of_own {key : String} (h : key ∈ ownKeys) (value : Toml) (sections : List (String × Toml))
    (c : Configuration) :
    (c.withSections sections).readEntry (key, value) = (c.readEntry (key, value)).map (withSections sections) := by
  unfold ownKeys at h
  simp only [List.mem_cons, List.not_mem_nil, or_false] at h
  rcases h with rfl | rfl | rfl
  . change Except.map _ (Config.serverForm.decode false .default value) = Except.map _ (Except.map _ _)
    cases Config.serverForm.decode false .default value <;> rfl
  . change Except.map _ (Config.loggingForm.decode false .default value) = Except.map _ (Except.map _ _)
    cases Config.loggingForm.decode false .default value <;> rfl
  . change Except.map _ (Config.metricsForm.decode false .default value) = Except.map _ (Except.map _ _)
    cases Config.metricsForm.decode false .default value <;> rfl

theorem readEntry_of_other {key : String} (h : key ∉ ownKeys) (value : Toml) (c : Configuration) :
    c.readEntry (key, value) = .ok (c.withSections (c.sections ++ [(key, value)])) := by
  unfold ownKeys at h
  simp only [List.mem_cons, List.not_mem_nil, or_false, not_or] at h
  obtain ⟨hserver, hlogging, hmetrics⟩ := h
  unfold readEntry
  dsimp only
  rw [if_neg hserver, if_neg hlogging, if_neg hmetrics]
  rfl

theorem sections_of_readEntry {key : String} (h : key ∈ ownKeys) {value : Toml} {c next : Configuration}
    (hread : c.readEntry (key, value) = .ok next) : next.sections = c.sections := by
  have hsame := readEntry_of_own h value c.sections c
  change c.readEntry (key, value) = _ at hsame
  rw [hread] at hsame
  have hnext : next = next.withSections c.sections := Except.ok.inj hsame
  rw [hnext]
  rfl

theorem foldlM_own {entries : List (String × Toml)} (h : ∀ entry ∈ entries, entry.1 ∈ ownKeys)
    (sections : List (String × Toml)) (c : Configuration) :
    entries.foldlM readEntry (c.withSections sections) = (entries.foldlM readEntry c).map (withSections sections) := by
  induction entries generalizing c with
  | nil => rfl
  | cons entry entries ih =>
    obtain ⟨hentry, hentries⟩ := List.forall_mem_cons.mp h
    rw [List.foldlM_cons, List.foldlM_cons, readEntry_of_own hentry]
    cases c.readEntry entry with
    | error misfit => rfl
    | ok next => exact ih hentries next

theorem forall_mem_ownEntries (entries : List (String × Toml)) : ∀ entry ∈ ownEntries entries, entry.1 ∈ ownKeys := by
  intro entry hmem
  exact of_decide_eq_true (List.mem_filter.mp hmem).2

theorem foldlM_readEntry (entries : List (String × Toml)) (c : Configuration) :
    entries.foldlM readEntry c
      =
    ((ownEntries entries).foldlM readEntry c).map (withSections (c.sections ++ otherEntries entries)) := by
  induction entries generalizing c with
  | nil =>
    change Except.ok c = Except.ok (c.withSections (c.sections ++ []))
    rw [List.append_nil]
    rfl
  | cons entry entries ih =>
    rw [List.foldlM_cons]
    by_cases hentry : entry.1 ∈ ownKeys
    . have hown : ownEntries (entry :: entries) = entry :: ownEntries entries :=
        List.filter_cons_of_pos (decide_eq_true hentry)
      have hother : otherEntries (entry :: entries) = otherEntries entries :=
        List.filter_cons_of_neg (by simp [hentry])
      rw [hown, hother, List.foldlM_cons]
      cases hread : c.readEntry entry with
      | error misfit => rfl
      | ok next =>
        change entries.foldlM readEntry next = ((ownEntries entries).foldlM readEntry next).map _
        rw [ih, sections_of_readEntry hentry hread]
    . have hown : ownEntries (entry :: entries) = ownEntries entries :=
        List.filter_cons_of_neg (by simp [hentry])
      have hother : otherEntries (entry :: entries) = entry :: otherEntries entries :=
        List.filter_cons_of_pos (decide_eq_true hentry)
      rw [hown, hother, readEntry_of_other hentry]
      change entries.foldlM readEntry (c.withSections _) = _
      -- the induction is over what was collected, which the entries of the service carry along unseen
      rw [ih, foldlM_own (forall_mem_ownEntries entries)]
      change Except.map (withSections (c.sections ++ [entry] ++ otherEntries entries)) _ = _
      rw [← List.append_cons]
      cases (ownEntries entries).foldlM readEntry c <;> rfl

theorem readSections_eq (sections : List (String × Toml)) (c : Configuration) :
    (c.withSections sections).readSections
      =
    (sections.mapM (Toml.unrestrictedEntry "1 element in map")).map (withSections · c) := by
  rfl

theorem ofEntries_eq (entries : List (String × Toml)) :
    ofEntries entries
      =
    match (ownEntries entries).foldlM readEntry default with
    | .error misfit => .error misfit
    | .ok mine =>
      ((otherEntries entries).mapM (Toml.unrestrictedEntry "1 element in map")).map (withSections · mine) := by
  unfold ofEntries
  rw [foldlM_readEntry]
  cases (ownEntries entries).foldlM readEntry default with
  | error misfit => rfl
  | ok mine => exact readSections_eq (otherEntries entries) mine

theorem exists_of_ofEntries {entries : List (String × Toml)} {c : Configuration} (h : ofEntries entries = .ok c) :
    ∃ mine,
      (ownEntries entries).foldlM readEntry default = .ok mine
        ∧
      (∀ entry ∈ otherEntries entries, entry.2.WellDated)
        ∧
      c = mine.withSections (Toml.datedEntries (otherEntries entries)) := by
  rw [ofEntries_eq] at h
  cases hown : (ownEntries entries).foldlM readEntry default with
  | error misfit =>
    rw [hown] at h
    cases h
  | ok mine =>
    rw [hown] at h
    dsimp only at h
    cases hother : (otherEntries entries).mapM (Toml.unrestrictedEntry "1 element in map") with
    | error misfit =>
      rw [hother] at h
      cases h
    | ok reads =>
      have hdated : ∀ entry ∈ otherEntries entries, entry.2.WellDated := by
        intro entry hmem
        obtain ⟨read, hread⟩ := Toml.exists_of_mapM_unrestrictedEntry hother entry hmem
        exact Toml.wellDated_of_unrestricted hread
      refine ⟨mine, rfl, hdated, ?_⟩
      rw [Toml.mapM_unrestrictedEntry fun entry hmem => Toml.unrestricted_of_wellDated _ (hdated entry hmem)] at h
      exact (Except.ok.inj h).symm

theorem ofEntries_of_wellDated {entries : List (String × Toml)}
    (h : ∀ entry ∈ otherEntries entries, entry.2.WellDated) :
    ofEntries entries
      =
    ((ownEntries entries).foldlM readEntry default).map
      (withSections (Toml.datedEntries (otherEntries entries))) := by
  rw [ofEntries_eq]
  rw [Toml.mapM_unrestrictedEntry fun entry hmem => Toml.unrestricted_of_wellDated _ (h entry hmem)]
  cases (ownEntries entries).foldlM readEntry default <;> rfl

theorem parse_of_entries {document : String} {entries : List (String × Toml)}
    (h : Toml.parse? document = some entries) :
    parse document
      =
    match ofEntries entries with
    | .error misfit => .error (.misfit misfit)
    | .ok c => c.validated := by
  unfold parse read
  rw [h]
  dsimp only
  cases ofEntries entries <;> rfl

theorem parse_own {document : String} {entries : List (String × Toml)}
    (h : Toml.parse? document = some entries) (hdated : ∀ entry ∈ otherEntries entries, entry.2.WellDated) :
    (parse document).map own
      =
    match (ownEntries entries).foldlM readEntry default with
    | .error misfit => .error (.misfit misfit)
    | .ok mine => mine.validated.map own := by
  rw [parse_of_entries h, ofEntries_of_wellDated hdated]
  cases (ownEntries entries).foldlM readEntry default with
  | error misfit => rfl
  | ok mine =>
    change (mine.withSections _).validated.map own = mine.validated.map own
    unfold validated
    change Except.map own (if mine.violations = [] then _ else _) = _
    split <;> rfl

/-- What a configuration keeps for the application of the entries of its document. -/
structure Keeps (c : Configuration) (entries : List (String × Toml)) : Prop where
  wellDated : ∀ entry ∈ otherEntries entries, entry.2.WellDated
  sections : c.sections = Toml.datedEntries (otherEntries entries)
  unchanged : c.sections = otherEntries entries ↔ ∀ entry ∈ otherEntries entries, entry.2.Undated
  shown : ∀ key value, key ∉ ownKeys → entries.lookup key = some value → value.dated.plain.Undated →
    ∃ shown, c.section? key .any = .ok (some shown) ∧ value.dated.Shows shown
  absent : ∀ key, key ∈ ownKeys ∨ entries.lookup key = none → c.section? key .any = .ok none

theorem lookup_otherEntries (key : String) (entries : List (String × Toml)) :
    (otherEntries entries).lookup key = if key ∉ ownKeys then entries.lookup key else none :=
  Entries.lookup_filter (· ∉ ownKeys) key entries

theorem keeps_of_ofEntries {entries : List (String × Toml)} {c : Configuration} (h : ofEntries entries = .ok c) :
    c.Keeps entries := by
  obtain ⟨mine, -, hdated, hc⟩ := exists_of_ofEntries h
  have hsections : c.sections = Toml.datedEntries (otherEntries entries) := by
    rw [hc]
    rfl
  constructor
  case wellDated => exact hdated
  case sections => exact hsections
  case unchanged =>
    have hsame := List.map_inj_left (l := otherEntries entries) (f := fun entry => (entry.1, entry.2.dated)) (g := id)
    rw [List.map_id] at hsame
    rw [hsections, Toml.datedEntries_eq_map, hsame]
    apply forall₂_congr
    intro entry hmem
    rw [id_eq, Prod.ext_iff, and_iff_right rfl, Toml.dated_eq_self_iff (hdated entry hmem)]
  case shown =>
    intro key value hkey hlookup hundated
    obtain ⟨shown, hread, hshows⟩ := Toml.exists_shown hundated "fewer elements in map"
    refine ⟨shown, ?_, hshows⟩
    unfold section?
    rw [hsections, Toml.lookup_datedEntries, lookup_otherEntries, if_pos hkey, hlookup]
    change (Toml.unrestricted _ _).map some = _
    rw [hread]
    rfl
  case absent =>
    intro key hkey
    have hnone : (otherEntries entries).lookup key = none := by
      rw [lookup_otherEntries]
      cases hkey with
      | inl hown => rw [if_neg (not_not_intro hown)]
      | inr hmissing => rw [hmissing, ite_self]
    unfold section?
    rw [hsections, Toml.lookup_datedEntries, hnone]
    rfl

theorem misfit_of_ownEntries {entries : List (String × Toml)} {misfit : Toml.Misfit}
    (h : ofEntries (ownEntries entries) = .error misfit) :
    (ownEntries entries).foldlM readEntry default = .error misfit := by
  have hown : ownEntries (ownEntries entries) = ownEntries entries := by
    unfold ownEntries
    rw [List.filter_filter]
    simp only [Bool.and_self]
  have hother : otherEntries (ownEntries entries) = [] := by
    unfold otherEntries
    rw [List.filter_eq_nil_iff]
    intro entry hmem hnot
    exact of_decide_eq_true hnot (forall_mem_ownEntries entries entry hmem)
  rw [ofEntries_eq, hown, hother] at h
  cases hread : (ownEntries entries).foldlM readEntry default with
  | error other =>
    rw [hread] at h
    exact h
  | ok mine =>
    rw [hread] at h
    cases h

theorem ofEntries_of_addsUnknowns {entries entries' : List (String × Toml)}
    (h : Relation.ReflTransGen Config.AddsUnknown entries entries') : ofEntries entries' = ofEntries entries := by
  induction h with
  | refl => rfl
  | tail _ hstep ih => rw [Config.ofEntries_of_addsUnknown hstep, ih]

/--
The sections of the application are kept, apart from tables that stand for dates, and the tables of the service are
read as if there were no sections; what is wrong with them counts first. Keys that the service does not know in them
make no difference.
-/
theorem sections_apart :
    (∀ document entries c, Toml.parse? document = some entries → parse document = .ok c → c.Keeps entries)
      ∧
    (∀ document document' entries entries',
      Toml.parse? document = some entries → Toml.parse? document' = some entries' →
        ownEntries entries = ownEntries entries' →
        (∀ entry ∈ otherEntries entries ++ otherEntries entries', entry.2.WellDated) →
          (parse document).map own = (parse document').map own)
      ∧
    (∀ document entries misfit, Toml.parse? document = some entries →
      ofEntries (ownEntries entries) = .error misfit → parse document = .error (.misfit misfit))
      ∧
    (∀ document document' entries entries',
      Toml.parse? document = some entries → Toml.parse? document' = some entries' →
        Relation.ReflTransGen Config.AddsUnknown entries entries' → parse document' = parse document) := by
  refine ⟨?_, ?_, ?_, ?_⟩
  . intro document entries c hparse hc
    rw [parse_of_entries hparse] at hc
    cases hread : ofEntries entries with
    | error misfit =>
      rw [hread] at hc
      cases hc
    | ok read =>
      rw [hread] at hc
      dsimp only at hc
      unfold validated at hc
      split at hc
      . cases hc
        exact keeps_of_ofEntries hread
      . cases hc
  . intro document document' entries entries' hparse hparse' hown hdated
    rw [List.forall_mem_append] at hdated
    rw [parse_own hparse hdated.1, parse_own hparse' hdated.2, hown]
  . intro document entries misfit hparse hmisfit
    rw [parse_of_entries hparse, ofEntries_eq, misfit_of_ownEntries hmisfit]
  . intro document document' entries entries' hparse hparse' hadds
    rw [parse_of_entries hparse, parse_of_entries hparse', ofEntries_of_addsUnknowns hadds]

def holidayDocument : String :=
  "holiday = 1979-05-27\n[logging]\nlevel = 'DEBUG'"

def holidayEntries : List (String × Toml) :=
  [("holiday", .datetime (.date ⟨1979, 5, 27⟩)), ("logging", .table [("level", .string "DEBUG")])]

def gaugeDocument : String :=
  "gauge.marks = [1]\n[logging]\nlevel = 'DEBUG'\n[gate]"

def gaugeEntries : List (String × Toml) :=
  [("gauge", .table [("marks", .array [.integer 1])]), ("logging", .table [("level", .string "DEBUG")]),
   ("gate", .table [])]

def colourDocument : String :=
  "holiday = 1979-05-27\n[logging]\ncolour = 'red'\nlevel = 'DEBUG'"

def colourEntries : List (String × Toml) :=
  [("holiday", .datetime (.date ⟨1979, 5, 27⟩)),
   ("logging", .table [("colour", .string "red"), ("level", .string "DEBUG")])]

def oftenDocument : String :=
  "[x]\n'$__toml_private_datetime' = ''\n[metrics]\nfrequency_secs = 'often'"

def oftenEntries : List (String × Toml) :=
  [("x", .table [(Toml.datetimeKey, .string "")]), ("metrics", .table [("frequency_secs", .string "often")])]

def holidayConfiguration : Configuration :=
  ⟨.default, ⟨"DEBUG", .text, .empty⟩, .default, [("holiday", .datetime (.date ⟨1979, 5, 27⟩))]⟩

theorem parse?_holidayDocument : Toml.parse? holidayDocument = some holidayEntries := by
  decide +kernel

theorem parse_holidayDocument : parse holidayDocument = .ok holidayConfiguration := by
  have hread : ofEntries holidayEntries = .ok holidayConfiguration := rfl
  have hvalid : holidayConfiguration.violations = [] := by decide +kernel
  rw [parse_of_entries parse?_holidayDocument, hread]
  exact if_pos hvalid

theorem sections_apart_of_holidayDocument :
    Toml.parse? holidayDocument = some holidayEntries
      ∧
    Toml.parse? gaugeDocument = some gaugeEntries
      ∧
    Toml.parse? colourDocument = some colourEntries
      ∧
    parse holidayDocument = .ok holidayConfiguration
      ∧
    holidayConfiguration.Keeps holidayEntries
      ∧
    (∃ shown,
      holidayConfiguration.section? "holiday" .any = .ok (some shown)
        ∧
      (Toml.datetime (.date ⟨1979, 5, 27⟩)).Shows shown)
      ∧
    ownEntries holidayEntries = ownEntries gaugeEntries
      ∧
    (parse holidayDocument).map own = (parse gaugeDocument).map own
      ∧
    Config.AddsUnknown holidayEntries colourEntries
      ∧
    parse colourDocument = .ok holidayConfiguration
      ∧
    Toml.parse? oftenDocument = some oftenEntries
      ∧
    ∃ misfit, ofEntries (ownEntries oftenEntries) = .error misfit ∧ parse oftenDocument = .error (.misfit misfit) := by
  obtain ⟨hkeeps, hframe, hmisfit, hunknown⟩ := sections_apart
  have hgauge : Toml.parse? gaugeDocument = some gaugeEntries := by decide +kernel
  have hcolour : Toml.parse? colourDocument = some colourEntries := by decide +kernel
  have hoften : Toml.parse? oftenDocument = some oftenEntries := by decide +kernel
  have hown : ownEntries holidayEntries = ownEntries gaugeEntries := rfl
  have hdated : ∀ entry ∈ otherEntries holidayEntries ++ otherEntries gaugeEntries, entry.2.WellDated := by
    change ∀ entry ∈ [_, _, _], _
    simp only [List.forall_mem_cons]
    exact ⟨@Toml.wellDated_of_unrestricted "" _ _ rfl, @Toml.wellDated_of_unrestricted "" _ _ rfl,
      @Toml.wellDated_of_unrestricted "" _ _ rfl, List.forall_mem_nil _⟩
  have hadds : Config.AddsUnknown holidayEntries colourEntries :=
    .entry [_] [] (.logging (.entry [] _ (.string "red") (by decide)))
  have hkeeps := hkeeps _ _ _ parse?_holidayDocument parse_holidayDocument
  refine ⟨parse?_holidayDocument, hgauge, hcolour, parse_holidayDocument, hkeeps, ?_, hown, ?_, hadds, ?_, hoften, _,
    rfl, ?_⟩
  . exact hkeeps.shown "holiday" _ (by decide) rfl (.string _)
  . exact hframe _ _ _ _ parse?_holidayDocument hgauge hown hdated
  . rw [hunknown _ _ _ _ parse?_holidayDocument hcolour (.single hadds)]
    exact parse_holidayDocument
  . exact hmisfit _ _ _ hoften rfl

def markedDocument : String :=
  "[x]\n'$__toml_private_datetime' = '1979-05-27'"

def brokenDocument : String :=
  "[x]\n'$__toml_private_datetime' = ''"

/-- A date is not kept, nor is a table under that name, and such a table can make a difference. -/
theorem sections_not_kept :
    (∃ date,
      Toml.parse? holidayDocument = some holidayEntries
        ∧
      parse holidayDocument = .ok holidayConfiguration
        ∧
      holidayEntries.lookup "holiday" = some (.datetime date)
        ∧
      holidayConfiguration.section? "holiday" .any = .ok (some (.string "1979-05-27")))
      ∧
    (∃ entries c,
      Toml.parse? markedDocument = some entries
        ∧
      parse markedDocument = .ok c
        ∧
      c.sections ≠ otherEntries entries)
      ∧
    (∃ entries misfit,
      Toml.parse? brokenDocument = some entries
        ∧
      Toml.parse? "" = some []
        ∧
      ownEntries entries = ownEntries []
        ∧
      parse brokenDocument = .error (.misfit misfit)
        ∧
      parse "" = .ok default) := by
  have hvalid : default.violations = [] := by decide +kernel
  refine ⟨?_, ?_, ?_⟩
  . exact ⟨.date ⟨1979, 5, 27⟩, parse?_holidayDocument, parse_holidayDocument, rfl, rfl⟩
  . have hmarked : Toml.parse? markedDocument
        = some [("x", .table [(Toml.datetimeKey, .string "1979-05-27")])] := by decide +kernel
    have hread : ofEntries [("x", .table [(Toml.datetimeKey, .string "1979-05-27")])]
        = .ok (default.withSections [("x", .datetime (.date ⟨1979, 5, 27⟩))]) := rfl
    refine ⟨[("x", .table [(Toml.datetimeKey, .string "1979-05-27")])],
      default.withSections [("x", .datetime (.date ⟨1979, 5, 27⟩))], hmarked, ?_, ?_⟩
    . rw [parse_of_entries hmarked, hread]
      exact if_pos hvalid
    . intro hsame
      cases hsame
  . have hbroken : Toml.parse? brokenDocument = some [("x", .table [(Toml.datetimeKey, .string "")])] := by decide +kernel
    have hempty : Toml.parse? "" = some [] := by decide +kernel
    refine ⟨[("x", .table [(Toml.datetimeKey, .string "")])], .here .notADate, hbroken, hempty, rfl, ?_, ?_⟩
    . rw [parse_of_entries hbroken]
      rfl
    . rw [parse_of_entries hempty]
      exact if_pos hvalid

end Configuration
end ServiceHost
