import ServiceHost.Proofs.Keyed
import ServiceHost.Proofs.Traversal
import ServiceHost.Toml.Decode

/-!
This module contains what is read as a value of any kind, and how sections see it. A value is read as it is, but a
table that opens with the name for dates is the date that it spells; sections see dates as texts.
-/

namespace ServiceHost.Toml

section

variable {motive : Toml → Prop} (string : ∀ s, motive (.string s)) (integer : ∀ n, motive (.integer n))
  (float : ∀ x, motive (.float x)) (boolean : ∀ b, motive (.boolean b)) (datetime : ∀ d, motive (.datetime d))
  (array : ∀ elements, (∀ element ∈ elements, motive element) → motive (.array elements))
  (table : ∀ entries, (∀ entry ∈ entries, motive entry.2) → motive (.table entries))

include string integer float boolean datetime array table

theorem of_parts (value : Toml) : motive value := by
  refine @Toml.rec motive (fun elements => ∀ element ∈ elements, motive element)
    (fun entries => ∀ entry ∈ entries, motive entry.2) (fun entry => motive entry.2)
    string integer float boolean datetime array table ?_ ?_ ?_ ?_ ?_ value
  . exact List.forall_mem_nil _
  . exact fun _ _ hvalue hvalues => List.forall_mem_cons.mpr ⟨hvalue, hvalues⟩
  . exact List.forall_mem_nil _
  . exact fun _ _ hentry hentries => List.forall_mem_cons.mpr ⟨hentry, hentries⟩
  . exact fun _ _ hvalue => hvalue

end

/-- Every table in a value, however deep, has a property. -/
inductive Throughout (p : List (String × Toml) → Prop) : Toml → Prop where
  | string (s : String) : Throughout p (.string s)
  | integer (n : Int) : Throughout p (.integer n)
  | float (x : Float) : Throughout p (.float x)
  | boolean (b : Bool) : Throughout p (.boolean b)
  | datetime (d : DateTime) : Throughout p (.datetime d)
  | array {elements : List Toml} :
    (∀ element ∈ elements, Throughout p element) →
    Throughout p (.array elements)
  | table {entries : List (String × Toml)} :
    p entries →
    (∀ entry ∈ entries, Throughout p entry.2) →
    Throughout p (.table entries)

theorem Throughout.imp {p q : List (String × Toml) → Prop} {value : Toml} (h : value.Throughout p)
    (himp : ∀ entries, p entries → q entries) : value.Throughout q := by
  induction h with
  | string s => exact .string s
  | integer n => exact .integer n
  | float x => exact .float x
  | boolean b => exact .boolean b
  | datetime d => exact .datetime d
  | array _ ih => exact .array ih
  | table hentries _ ih => exact .table (himp _ hentries) ih

def Opens (entries : List (String × Toml)) : Prop :=
  entries.head?.map (·.1) = some datetimeKey

def dateAt? : List (String × Toml) → Option DateTime
  | [(key, .string text)] => if key = datetimeKey then DateTime.ofText? text else none
  | _ => none

def Undated (value : Toml) : Prop :=
  value.Throughout fun entries => ¬ Opens entries

def WellDated (value : Toml) : Prop :=
  value.Throughout fun entries => Opens entries → (dateAt? entries).isSome

mutual

def dated : Toml → Toml
  | .array elements => .array (datedElements elements)
  | .table entries =>
    match dateAt? entries with
    | some date => .datetime date
    | none => .table (datedEntries entries)
  | value => value

def datedElements : List Toml → List Toml
  | [] => []
  | value :: rest => dated value :: datedElements rest

def datedEntries : List (String × Toml) → List (String × Toml)
  | [] => []
  | (key, value) :: rest => (key, dated value) :: datedEntries rest

end

theorem datedElements_eq_map (elements : List Toml) : datedElements elements = elements.map dated := by
  induction elements with
  | nil => rfl
  | cons value rest ih => rw [datedElements, ih, List.map_cons]

theorem datedEntries_eq_map (entries : List (String × Toml)) :
    datedEntries entries = entries.map fun entry => (entry.1, entry.2.dated) := by
  induction entries with
  | nil => rfl
  | cons entry rest ih => rw [datedEntries, ih, List.map_cons]

theorem lookup_datedEntries (key : String) (entries : List (String × Toml)) :
    (datedEntries entries).lookup key = (entries.lookup key).map dated := by
  induction entries with
  | nil => rfl
  | cons entry rest ih =>
    rw [datedEntries, List.lookup_cons, List.lookup_cons, ih]
    split <;> rfl

theorem Undated.wellDated {value : Toml} (h : value.Undated) : value.WellDated :=
  h.imp fun _ hopens hopens' => absurd hopens' hopens

theorem dateAt?_singleton (text : String) : dateAt? [(datetimeKey, .string text)] = DateTime.ofText? text := by
  simp [dateAt?]

theorem opens_of_dateAt? {entries : List (String × Toml)} {date : DateTime} (h : dateAt? entries = some date) :
    ∃ text, entries = [(datetimeKey, .string text)] ∧ DateTime.ofText? text = some date := by
  unfold dateAt? at h
  split at h
  . next key text =>
    split at h
    . next hkey =>
      subst hkey
      exact ⟨text, rfl, h⟩
    . cases h
  . cases h

theorem not_opens_of_dateAt? {entries : List (String × Toml)} (h : Opens entries → (dateAt? entries).isSome)
    (hdate : dateAt? entries = none) : ¬ Opens entries := by
  intro hopens
  have hsome := h hopens
  rw [hdate] at hsome
  cases hsome

theorem forall_of_throughout_array {p : List (String × Toml) → Prop} {elements : List Toml}
    (h : (Toml.array elements).Throughout p) : ∀ element ∈ elements, element.Throughout p := by
  cases h with
  | array helements => exact helements

theorem forall_of_throughout_table {p : List (String × Toml) → Prop} {entries : List (String × Toml)}
    (h : (Toml.table entries).Throughout p) : p entries ∧ ∀ entry ∈ entries, entry.2.Throughout p := by
  cases h with
  | table hentries hvalues => exact ⟨hentries, hvalues⟩

theorem dated_eq_self_iff {value : Toml} (h : value.WellDated) : value.dated = value ↔ value.Undated := by
  induction value using of_parts with
  | string s => exact iff_of_true rfl (.string s)
  | integer n => exact iff_of_true rfl (.integer n)
  | float x => exact iff_of_true rfl (.float x)
  | boolean b => exact iff_of_true rfl (.boolean b)
  | datetime d => exact iff_of_true rfl (.datetime d)
  | array elements ih =>
    have hparts := forall_of_throughout_array h
    have hsame := List.map_inj_left (l := elements) (f := dated) (g := id)
    rw [List.map_id] at hsame
    rw [dated, datedElements_eq_map, array.injEq, hsame]
    constructor
    . intro hsame
      exact .array fun element hmem => (ih element hmem (hparts element hmem)).mp (hsame element hmem)
    . intro hundated element hmem
      exact (ih element hmem (hparts element hmem)).mpr (forall_of_throughout_array hundated element hmem)
  | table entries ih =>
    obtain ⟨hopens, hparts⟩ := forall_of_throughout_table h
    rw [dated]
    split
    . next date hdate =>
      obtain ⟨text, rfl, -⟩ := opens_of_dateAt? hdate
      refine iff_of_false nofun ?_
      intro hundated
      exact (forall_of_throughout_table hundated).1 rfl
    . next hdate =>
      have hsame := List.map_inj_left (l := entries) (f := fun entry => (entry.1, entry.2.dated)) (g := id)
      rw [List.map_id] at hsame
      rw [datedEntries_eq_map, table.injEq, hsame]
      constructor
      . intro hsame
        refine .table (not_opens_of_dateAt? hopens hdate) fun entry hmem => ?_
        exact (ih entry hmem (hparts entry hmem)).mp (congrArg (·.2) (hsame entry hmem))
      . intro hundated entry hmem
        have hvalue := (forall_of_throughout_table hundated).2 entry hmem
        rw [(ih entry hmem (hparts entry hmem)).mpr hvalue, id_eq]

/-! What is read as a value of any kind. -/

def unrestrictedEntry (leftOver : String) (entry : String × Toml) : Except Misfit (String × Toml) := do
  return (entry.1, ← unrestricted leftOver entry.2)

theorem unrestrictedElements_eq_mapM (leftOver : String) (elements : List Toml) :
    unrestrictedElements leftOver elements = elements.mapM (unrestricted leftOver) := by
  induction elements with
  | nil => rfl
  | cons value rest ih =>
    rw [unrestrictedElements, ih, List.mapM_cons]

theorem unrestrictedEntries_eq_mapM (leftOver : String) (entries : List (String × Toml)) :
    unrestrictedEntries leftOver entries = entries.mapM (unrestrictedEntry leftOver) := by
  induction entries with
  | nil => rfl
  | cons entry rest ih =>
    rw [unrestrictedEntries, ih, List.mapM_cons, unrestrictedEntry]
    cases unrestricted leftOver entry.2 <;> rfl

theorem mapM_unrestrictedEntry {leftOver : String} {entries : List (String × Toml)}
    (h : ∀ entry ∈ entries, unrestricted leftOver entry.2 = .ok entry.2.dated) :
    entries.mapM (unrestrictedEntry leftOver) = .ok (datedEntries entries) := by
  rw [datedEntries_eq_map]
  refine mapM_eq_ok_iff.mpr (forall₂_map ?_)
  intro entry hmem
  rw [unrestrictedEntry, h entry hmem]
  rfl

theorem exists_of_mapM_unrestrictedEntry {leftOver : String} {entries reads : List (String × Toml)}
    (h : entries.mapM (unrestrictedEntry leftOver) = .ok reads) :
    ∀ entry ∈ entries, ∃ read, unrestricted leftOver entry.2 = .ok read := by
  intro entry hmem
  obtain ⟨read, hread⟩ := exists_left_of_forall₂ (mapM_eq_ok_iff.mp h) entry hmem
  unfold unrestrictedEntry at hread
  cases hvalue : unrestricted leftOver entry.2 with
  | error misfit =>
    rw [hvalue] at hread
    cases hread
  | ok value => exact ⟨value, rfl⟩

theorem unrestrictedTable_of_not_opens {entries : List (String × Toml)} (h : ¬ Opens entries) (leftOver : String) :
    unrestrictedTable leftOver entries = (entries.mapM (unrestrictedEntry leftOver)).map .table := by
  cases entries with
  | nil => rfl
  | cons entry rest =>
    have hkey : entry.1 ≠ datetimeKey := fun heq => h (congrArg some heq)
    rw [← unrestrictedEntries_eq_mapM, unrestrictedTable, if_neg hkey, unrestrictedEntries]
    cases unrestricted leftOver entry.2 with
    | error misfit => rfl
    | ok value => cases unrestrictedEntries leftOver rest <;> rfl

theorem exists_of_opens {entries : List (String × Toml)} (h : Opens entries) :
    ∃ value rest, entries = (datetimeKey, value) :: rest := by
  match entries with
  | [] => cases h
  | (key, value) :: rest =>
    obtain rfl : key = datetimeKey := Option.some.inj h
    exact ⟨value, rest, rfl⟩

theorem unrestrictedTable_of_opens (leftOver : String) (value : Toml) (rest : List (String × Toml)) :
    unrestrictedTable leftOver ((datetimeKey, value) :: rest) = dateOf leftOver value rest.length := by
  rw [unrestrictedTable, if_pos rfl]

theorem dateOf_of_none {text : String} (h : DateTime.ofText? text = none) (leftOver : String) (others : Nat) :
    dateOf leftOver (.string text) others = .error (.here .notADate) := by
  unfold dateOf
  simp only [bind, Except.bind, h]

theorem dateOf_of_some {text : String} {date : DateTime} (h : DateTime.ofText? text = some date) (leftOver : String)
    (others : Nat) :
    dateOf leftOver (.string text) others
      =
    if others = 0 then .ok (.datetime date) else .error (.here (.length (others + 1) leftOver)) := by
  unfold dateOf
  simp only [bind, Except.bind, h]
  rfl

theorem exists_of_dateOf_eq_ok {leftOver : String} {value read : Toml} {others : Nat}
    (h : dateOf leftOver value others = .ok read) :
    others = 0 ∧ ∃ text date, value = .string text ∧ DateTime.ofText? text = some date := by
  cases value with
  | string text =>
    cases hdate : DateTime.ofText? text with
    | none =>
      rw [dateOf_of_none hdate] at h
      cases h
    | some date =>
      rw [dateOf_of_some hdate] at h
      split at h
      . next hothers => exact ⟨hothers, text, date, rfl, hdate⟩
      . cases h
  | _ => cases h

theorem unrestricted_of_wellDated (leftOver : String) {value : Toml} (h : value.WellDated) :
    unrestricted leftOver value = .ok value.dated := by
  induction value using of_parts with
  | array elements ih =>
    have hparts := forall_of_throughout_array h
    rw [unrestricted, unrestrictedElements_eq_mapM, dated, datedElements_eq_map]
    rw [mapM_eq_ok_iff.mpr (forall₂_map fun element hmem => ih element hmem (hparts element hmem))]
    rfl
  | table entries ih =>
    obtain ⟨hopens, hparts⟩ := forall_of_throughout_table h
    rw [unrestricted, dated]
    split
    . next date hdate =>
      obtain ⟨text, rfl, hspelled⟩ := opens_of_dateAt? hdate
      rw [unrestrictedTable_of_opens, dateOf_of_some hspelled]
      rfl
    . next hdate =>
      rw [unrestrictedTable_of_not_opens (not_opens_of_dateAt? hopens hdate)]
      rw [mapM_unrestrictedEntry fun entry hmem => ih entry hmem (hparts entry hmem)]
      rfl
  | _ => rfl

theorem wellDated_of_unrestricted {leftOver : String} {value read : Toml}
    (h : unrestricted leftOver value = .ok read) : value.WellDated := by
  induction value using of_parts generalizing read with
  | string s => exact .string s
  | integer n => exact .integer n
  | float x => exact .float x
  | boolean b => exact .boolean b
  | datetime d => exact .datetime d
  | array elements ih =>
    rw [unrestricted, unrestrictedElements_eq_mapM] at h
    cases helements : elements.mapM (unrestricted leftOver) with
    | error misfit =>
      rw [helements] at h
      cases h
    | ok reads =>
      refine .array fun element hmem => ?_
      obtain ⟨read', hread⟩ := exists_left_of_forall₂ (mapM_eq_ok_iff.mp helements) element hmem
      exact ih element hmem hread
  | table entries ih =>
    rw [unrestricted] at h
    by_cases hopens : Opens entries
    . obtain ⟨value, rest, rfl⟩ := exists_of_opens hopens
      rw [unrestrictedTable_of_opens] at h
      obtain ⟨hlength, text, date, rfl, hdate⟩ := exists_of_dateOf_eq_ok h
      rw [List.length_eq_zero_iff] at hlength
      subst hlength
      refine .table (fun _ => ?_) ?_
      . rw [dateAt?_singleton, hdate]
        rfl
      . rw [List.forall_mem_singleton]
        exact .string text
    . rw [unrestrictedTable_of_not_opens hopens] at h
      cases hentries : entries.mapM (unrestrictedEntry leftOver) with
      | error misfit =>
        rw [hentries] at h
        cases h
      | ok reads =>
        refine .table (fun hopens' => absurd hopens' hopens) fun entry hmem => ?_
        obtain ⟨read', hread⟩ := exists_of_mapM_unrestrictedEntry hentries entry hmem
        exact ih entry hmem hread

/-! How sections see values. -/

/-- Shows a value with the keys of tables in ascending order, and dates as texts. -/
inductive Shows : Toml → Toml → Prop where
  | string (s : String) : Shows (.string s) (.string s)
  | integer (n : Int) : Shows (.integer n) (.integer n)
  | float (x : Float) : Shows (.float x) (.float x)
  | boolean (b : Bool) : Shows (.boolean b) (.boolean b)
  | datetime (d : DateTime) : Shows (.datetime d) (.string d.text)
  | array {elements shown : List Toml} :
    elements.length = shown.length →
    (∀ (i : Nat) (value value' : Toml), elements[i]? = some value → shown[i]? = some value' → Shows value value') →
    Shows (.array elements) (.array shown)
  | table {entries : List (String × Toml)} {shown : Keyed Toml} :
    (∀ key, (entries.lookup key).isSome = (shown.find? key).isSome) →
    (∀ key value value', entries.lookup key = some value → shown.find? key = some value' → Shows value value') →
    Shows (.table entries) (.table shown.entries)

theorem plainElements_eq_map (elements : List Toml) : plainElements elements = elements.map plain := by
  induction elements with
  | nil => rfl
  | cons value rest ih => rw [plainElements, ih, List.map_cons]

theorem ascending_plainEntries (entries : List (String × Toml)) : Entries.Ascending (plainEntries entries) := by
  induction entries with
  | nil => exact .nil
  | cons entry rest ih => exact Entries.ascending_insert ih _ _

theorem find?_plainEntries (key : String) (entries : List (String × Toml)) :
    Entries.find? key (plainEntries entries) = (entries.lookup key).map plain := by
  induction entries with
  | nil => rfl
  | cons entry rest ih =>
    rw [plainEntries, Entries.find?_insert, ih, List.lookup_cons]
    by_cases hkey : key = entry.1
    . simp [hkey]
    . rw [if_neg hkey, beq_eq_false_iff_ne.mpr hkey]

theorem shows_plain (value : Toml) : Shows value value.plain := by
  induction value using of_parts with
  | string s => exact .string s
  | integer n => exact .integer n
  | float x => exact .float x
  | boolean b => exact .boolean b
  | datetime d => exact .datetime d
  | array elements ih =>
    rw [plain, plainElements_eq_map]
    refine .array (List.length_map _).symm ?_
    intro i value value' hvalue hvalue'
    rw [List.getElem?_map, hvalue] at hvalue'
    cases hvalue'
    exact ih value (List.mem_of_getElem? hvalue)
  | table entries ih =>
    rw [plain]
    let shown : Keyed Toml := ⟨plainEntries entries, ascending_plainEntries entries⟩
    have hfind (key : String) : shown.find? key = (entries.lookup key).map plain := find?_plainEntries key entries
    change Shows (.table entries) (.table shown.entries)
    refine .table ?_ ?_
    . intro key
      rw [hfind, Option.isSome_map]
    . intro key value value' hvalue hvalue'
      rw [hfind, hvalue] at hvalue'
      cases hvalue'
      exact ih _ (Entries.mem_of_lookup hvalue)

theorem exists_shown {value : Toml} (h : value.plain.Undated) (leftOver : String) :
    ∃ shown, unrestricted leftOver value.plain = .ok shown ∧ Shows value shown := by
  refine ⟨value.plain, ?_, shows_plain value⟩
  rw [unrestricted_of_wellDated leftOver h.wellDated, (dated_eq_self_iff h.wellDated).mpr h]

end ServiceHost.Toml
