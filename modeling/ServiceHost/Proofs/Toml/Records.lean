import ServiceHost.Toml.Decode

/-!
This module contains what makes no difference to a record that is read from a table or an array: entries that it
does not know, and values in place of others that their field reads alike.
-/

namespace ServiceHost.Toml

/-- One more entry in a table, under a key that is none of some names. -/
inductive Adds (names : List String) : Toml → Toml → Prop where
  | entry (before after : List (String × Toml)) {key : String} (value : Toml) :
    key ∉ names →
    Adds names (.table (before ++ after)) (.table (before ++ (key, value) :: after))

theorem Field.read_congr {α β : Type} {decode : Decoder β} {value value' : Toml} (h : decode value' = decode value)
    (name : String) (put : β → α → α) :
    (Field.of name decode put).read value' = (Field.of name decode put).read value := by
  funext record
  unfold Field.of
  dsimp only
  rw [h]

namespace RecordForm

variable {α : Type}

def names (form : RecordForm α) : List String :=
  form.fields.map (·.name)

theorem readEntry_of_unknown {form : RecordForm α} {key : String} (h : key ∉ form.names) (record : α)
    (value : Toml) : form.readEntry record (key, value) = .ok record := by
  have hnone : form.fields.find? (·.name = key) = none := by
    rw [List.find?_eq_none]
    intro field hfield heq
    exact h (List.mem_map.mpr ⟨field, hfield, of_decide_eq_true heq⟩)
  unfold readEntry
  rw [hnone]

theorem decode_of_adds {form : RecordForm α} {value value' : Toml} (h : Adds form.names value value')
    (exact : Bool) (defaults : α) : form.decode exact defaults value' = form.decode exact defaults value := by
  cases h with
  | @entry before after key added hkey =>
    have hfold : (before ++ (key, added) :: after).foldlM form.readEntry defaults
        = (before ++ after).foldlM form.readEntry defaults := by
      rw [List.foldlM_append, List.foldlM_append]
      apply bind_congr
      intro record
      rw [List.foldlM_cons, readEntry_of_unknown hkey]
      rfl
    rw [decode, decode, hfold]

theorem decode_table_congr {form : RecordForm α} {key : String} {value value' : Toml}
    (h : ∀ field ∈ form.fields, field.name = key → field.read value' = field.read value)
    (before after : List (String × Toml)) (exact : Bool) (defaults : α) :
    form.decode exact defaults (.table (before ++ (key, value') :: after))
      =
    form.decode exact defaults (.table (before ++ (key, value) :: after)) := by
  have hentry (record : α) : form.readEntry record (key, value') = form.readEntry record (key, value) := by
    unfold readEntry
    dsimp only
    cases hfind : form.fields.find? (·.name = key) with
    | none => rfl
    | some field =>
      have hname := List.find?_some hfind
      dsimp only
      rw [h field (List.mem_of_find?_eq_some hfind) (of_decide_eq_true hname)]
  have hfold : (before ++ (key, value') :: after).foldlM form.readEntry defaults
      = (before ++ (key, value) :: after).foldlM form.readEntry defaults := by
    rw [List.foldlM_append, List.foldlM_append]
    apply bind_congr
    intro record
    rw [List.foldlM_cons, List.foldlM_cons, hentry]
  rw [decode, decode, hfold]

theorem foldlM_zip_congr {fields : List (Field α)} {value value' : Toml} {before after : List Toml}
    (h : ∀ field, fields[before.length]? = some field → field.read value' = field.read value) (record : α) :
    (fields.zip (before ++ value' :: after)).foldlM (fun record (field, value) => field.read value record) record
      =
    (fields.zip (before ++ value :: after)).foldlM (fun record (field, value) => field.read value record) record := by
  induction before generalizing fields record with
  | nil =>
    cases fields with
    | nil => rfl
    | cons field fields =>
      rw [List.nil_append, List.nil_append, List.zip_cons_cons, List.zip_cons_cons, List.foldlM_cons, List.foldlM_cons]
      change field.read value' record >>= _ = field.read value record >>= _
      rw [h field rfl]
  | cons first before ih =>
    cases fields with
    | nil => rfl
    | cons field fields =>
      rw [List.cons_append, List.cons_append, List.zip_cons_cons, List.zip_cons_cons]
      rw [List.foldlM_cons, List.foldlM_cons]
      apply bind_congr
      exact ih h

theorem decode_array_congr {form : RecordForm α} {value value' : Toml} {before : List Toml}
    (h : ∀ field, form.fields[before.length]? = some field → field.read value' = field.read value)
    (after : List Toml) (exact : Bool) (defaults : α) :
    form.decode exact defaults (.array (before ++ value' :: after))
      =
    form.decode exact defaults (.array (before ++ value :: after)) := by
  have hlength : (before ++ value' :: after).length = (before ++ value :: after).length := by
    rw [List.length_append, List.length_append, List.length_cons, List.length_cons]
  rw [decode, decode, foldlM_zip_congr h, hlength]

end RecordForm
end ServiceHost.Toml
