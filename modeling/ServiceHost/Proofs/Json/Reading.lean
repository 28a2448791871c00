import ServiceHost.Proofs.Json.Doubles
import ServiceHost.Proofs.Json.Literals
import ServiceHost.Proofs.Keyed

/-!
This module contains what written values are read as: the reader stops right behind the text of a value, whatever
follows it, and gives the value back up to its doubles.
-/

namespace ServiceHost.Json

mutual

def depth : Json → Nat
  | .array elements => elementsDepth elements + 1
  | .object members => membersDepth members + 1
  | _ => 0

def elementsDepth : List Json → Nat
  | [] => 0
  | value :: rest => max (depth value) (elementsDepth rest)

def membersDepth : List (String × Json) → Nat
  | [] => 0
  | (_, value) :: rest => max (depth value) (membersDepth rest)

end

mutual

/-- No object in a value opens with the name `embedding`. -/
def Unembedded (embedding : Option String) : Json → Prop
  | .array elements => ElementsUnembedded embedding elements
  | .object members =>
    (∀ member ∈ members.head?, embedding ≠ some member.1) ∧ MembersUnembedded embedding members
  | _ => True

def ElementsUnembedded (embedding : Option String) : List Json → Prop
  | [] => True
  | value :: rest => Unembedded embedding value ∧ ElementsUnembedded embedding rest

def MembersUnembedded (embedding : Option String) : List (String × Json) → Prop
  | [] => True
  | (_, value) :: rest => Unembedded embedding value ∧ MembersUnembedded embedding rest

end

mutual

/-- A value with something else in the place of its doubles. -/
def outline (double : Float → Json) : Json → Json
  | .float x => double x
  | .array elements => .array (elementsOutline double elements)
  | .object members => .object (membersOutline double members)
  | value => value

def elementsOutline (double : Float → Json) : List Json → List Json
  | [] => []
  | value :: rest => outline double value :: elementsOutline double rest

def membersOutline (double : Float → Json) : List (String × Json) → List (String × Json)
  | [] => []
  | (name, value) :: rest => (name, outline double value) :: membersOutline double rest

end

def anyDouble (_ : Float) : Json :=
  .float 0

/-- What any double is read as that is written like this one: a double, or `null` where it is not finite. -/
def shownDouble (x : Float) : Json :=
  match Decimal.classify x with
  | .nan | .infinity _ => .null
  | .zero _ | .finite _ _ => .float 0

theorem membersDepth_le_iff {members : List (String × Json)} {n : Nat} :
    membersDepth members ≤ n ↔ ∀ member ∈ members, member.2.depth ≤ n := by
  induction members with
  | nil => simp [membersDepth]
  | cons member members ih =>
    rw [membersDepth, Nat.max_le, ih, List.forall_mem_cons]

theorem membersAreValues_iff {members : List (String × Json)} :
    MembersAreValues members ↔ ∀ member ∈ members, member.2.IsValue := by
  induction members with
  | nil => simp [MembersAreValues]
  | cons member members ih =>
    rw [MembersAreValues, ih, List.forall_mem_cons]

theorem membersUnembedded_iff {embedding : Option String} {members : List (String × Json)} :
    MembersUnembedded embedding members ↔ ∀ member ∈ members, member.2.Unembedded embedding := by
  induction members with
  | nil => simp [MembersUnembedded]
  | cons member members ih =>
    rw [MembersUnembedded, ih, List.forall_mem_cons]

mutual

theorem unembedded_none : (value : Json) → value.Unembedded none
  | .null | .bool _ | .integer _ | .float _ | .string _ => trivial
  | .array elements => elementsUnembedded_none elements
  | .object members => ⟨nofun, membersUnembedded_none members⟩

theorem elementsUnembedded_none : (elements : List Json) → ElementsUnembedded none elements
  | [] => trivial
  | value :: rest => ⟨unembedded_none value, elementsUnembedded_none rest⟩

theorem membersUnembedded_none : (members : List (String × Json)) → MembersUnembedded none members
  | [] => trivial
  | (_, value) :: rest => ⟨unembedded_none value, membersUnembedded_none rest⟩

end

namespace Reader

variable {embedding : Option String} {fuel depth : Nat} {text rest : List Char}

/-! The first characters of values. -/

def Opens (c : Char) : Prop :=
  c.isDigit = true ∨ c ∈ ['"', '[', '\x7b', '-', 'n', 't', 'f']

theorem Opens.not_mem {c : Char} (h : Opens c) : c ∉ [' ', '\n', '\r', '\t', ']', '\x7d'] := by
  have hall : ∀ c ∈ [' ', '\n', '\r', '\t', ']', '\x7d'],
      ¬(c.isDigit = true ∨ c ∈ ['"', '[', '\x7b', '-', 'n', 't', 'f']) := by
    simp
  exact fun hmem => hall c hmem h

theorem skipBlanks_cons {c : Char} (h : c ∉ [' ', '\n', '\r', '\t']) (text : List Char) :
    skipBlanks (c :: text) = c :: text := by
  unfold skipBlanks
  rw [List.dropWhile_cons, if_neg]
  simpa [and_assoc] using h

theorem skipBlanks_space (text : List Char) : skipBlanks (' ' :: text) = skipBlanks text :=
  rfl

theorem value?_space (fuel depth : Nat) (text : List Char) :
    value? embedding fuel depth (' ' :: text) = value? embedding fuel depth text := by
  cases fuel with
  | zero => rfl
  | succ fuel => rw [value?, value?, skipBlanks_space]

theorem literal_append (text rest : List Char) :
    literal text ++ rest = '"' :: (text.flatMap escapeChar ++ '"' :: rest) := by
  simp [literal]

/-! The reader looks at the first character. -/

theorem value?_quote :
    value? embedding (fuel + 1) depth ('"' :: rest)
      =
    (string? rest).map fun (text, rest) => (.string (.ofList text), rest) :=
  rfl

theorem value?_literal (text rest : List Char) :
    value? embedding (fuel + 1) depth (literal text ++ rest) = some (.string (.ofList text), rest) := by
  rw [literal_append, value?_quote, string?_flatMap_escapeChar]
  rfl

theorem value?_null : value? embedding (fuel + 1) depth ('n' :: 'u' :: 'l' :: 'l' :: rest) = some (.null, rest) :=
  rfl

theorem value?_true :
    value? embedding (fuel + 1) depth ('t' :: 'r' :: 'u' :: 'e' :: rest) = some (.bool true, rest) :=
  rfl

theorem value?_false :
    value? embedding (fuel + 1) depth ('f' :: 'a' :: 'l' :: 's' :: 'e' :: rest) = some (.bool false, rest) :=
  rfl

theorem value?_minus : value? embedding (fuel + 1) depth ('-' :: rest) = number? true rest :=
  rfl

theorem word?_digit {c : Char} (h : c.isDigit = true) : word? (c :: rest) = none := by
  have hword : ∀ c' ∈ ['n', 't', 'f'], c' ≠ c := by
    rintro c' hmem rfl
    have hall : ∀ c' ∈ ['n', 't', 'f'], ¬ c'.isDigit = true := by simp
    exact hall c' hmem h
  unfold word? words
  simp [hword]

theorem value?_digit {c : Char} (h : c.isDigit = true) :
    value? embedding (fuel + 1) depth (c :: rest) = number? false (c :: rest) := by
  have hblank := Opens.not_mem (.inl h)
  have hother : ∀ c' ∈ ['"', '[', '\x7b', '-'], c' ≠ c := by
    rintro c' hmem rfl
    have hall : ∀ c' ∈ ['"', '[', '\x7b', '-'], ¬ c'.isDigit = true := by simp
    exact hall c' hmem h
  rw [value?, skipBlanks_cons (by simp_all)]
  split
  . next heq => cases heq; exact absurd rfl (hother '"' (by decide))
  . next heq => cases heq; exact absurd rfl (hother '[' (by decide))
  . next heq => cases heq; exact absurd rfl (hother '\x7b' (by decide))
  . next heq => cases heq; exact absurd rfl (hother '-' (by decide))
  . rw [word?_digit h, Option.none_or]

theorem value?_noElements : value? embedding (fuel + 1) (depth + 1) ('[' :: ']' :: rest) = some (.array [], rest) :=
  rfl

theorem value?_noMembers :
    value? embedding (fuel + 1) (depth + 1) ('\x7b' :: '\x7d' :: rest) = some (.object [], rest) :=
  rfl

theorem value?_elements {c : Char} (h : Opens c) :
    value? embedding (fuel + 1) (depth + 1) ('[' :: c :: rest)
      =
    (elements? embedding fuel depth (c :: rest)).map fun (elements, rest) => (.array elements, rest) := by
  have hblank := h.not_mem
  rw [value?, skipBlanks_cons (by decide)]
  split
  . next heq => cases heq
  . next heq =>
    cases heq
    rw [skipBlanks_cons (by simp_all)]
    split
    . next heq => cases heq
    . next heq _ =>
      cases heq
      simp at hblank
    . next heq _ =>
      cases heq
      rfl
  . next heq => cases heq
  . next heq => cases heq
  . next hother _ _ => exact absurd rfl (hother _)

theorem value?_members {name : String} {text : List Char} (h : embedding ≠ some name) :
    value? embedding (fuel + 1) (depth + 1) ('\x7b' :: (literal name.toList ++ text))
      =
    (members? embedding fuel depth (literal name.toList ++ text)).map fun (members, rest) => (.ofMembers members, rest) := by
  have hopening : opening? embedding (literal name.toList ++ text) = none := by
    rw [literal_append, opening?, string?_flatMap_escapeChar]
    dsimp only
    rw [String.ofList_toList, if_neg h]
  rw [literal_append] at hopening ⊢
  rw [value?, skipBlanks_cons (by decide)]
  split
  . next heq => cases heq
  . next heq => cases heq
  . next heq =>
    cases heq
    rw [skipBlanks_cons (by decide)]
    split
    . next heq => cases heq
    . next heq _ => cases heq
    . next heq _ =>
      cases heq
      rw [hopening]
  . next heq => cases heq
  . next hother _ => exact absurd rfl (hother _)

/-! What follows an element or a member decides how the reader goes on. -/

variable {value : Json}

theorem elements?_comma (h : value? embedding fuel depth text = some (value, ',' :: rest)) :
    elements? embedding (fuel + 1) depth text
      =
    (elements? embedding fuel depth rest).map fun (values, rest) => (value :: values, rest) := by
  rw [elements?, h, Option.bind_eq_bind, Option.bind_some]
  dsimp only
  rw [skipBlanks_cons (by decide)]
  split
  . next heq =>
    cases heq
    cases elements? embedding fuel depth rest <;> rfl
  . next heq => cases heq
  . next hother _ => exact absurd rfl (hother _)

theorem elements?_bracket (h : value? embedding fuel depth text = some (value, ']' :: rest)) :
    elements? embedding (fuel + 1) depth text = some ([value], rest) := by
  rw [elements?, h, Option.bind_eq_bind, Option.bind_some]
  dsimp only
  rw [skipBlanks_cons (by decide)]
  rfl

theorem members?_name (name : String) (text : List Char) :
    members? embedding (fuel + 1) depth (literal name.toList ++ ':' :: text)
      =
    (do
      let (value, rest) ← value? embedding fuel depth text
      match skipBlanks rest with
      | ',' :: rest =>
        let (members, rest) ← members? embedding fuel depth rest
        return ((name, value) :: members, rest)
      | '\x7d' :: rest => return ([(name, value)], rest)
      | _ => none) := by
  rw [literal_append, members?, skipBlanks_cons (by decide)]
  split
  . next heq =>
    cases heq
    rw [string?_flatMap_escapeChar, Option.bind_eq_bind, Option.bind_some]
    dsimp only
    rw [skipBlanks_cons (by decide), String.ofList_toList]
    rfl
  . next hother => exact absurd rfl (hother _)

theorem members?_comma {name : String} (h : value? embedding fuel depth text = some (value, ',' :: rest)) :
    members? embedding (fuel + 1) depth (literal name.toList ++ ':' :: text)
      =
    (members? embedding fuel depth rest).map fun (members, rest) => ((name, value) :: members, rest) := by
  rw [members?_name, h, Option.bind_eq_bind, Option.bind_some]
  dsimp only
  rw [skipBlanks_cons (by decide)]
  change (members? embedding fuel depth rest).bind _ = _
  cases members? embedding fuel depth rest <;> rfl

theorem members?_brace {name : String} (h : value? embedding fuel depth text = some (value, '\x7d' :: rest)) :
    members? embedding (fuel + 1) depth (literal name.toList ++ ':' :: text) = some ([(name, value)], rest) := by
  rw [members?_name, h, Option.bind_eq_bind, Option.bind_some]
  dsimp only
  rw [skipBlanks_cons (by decide)]
  rfl

theorem elements?_none (h : ∀ fuel, value? embedding fuel depth text = none) (fuel : Nat) :
    elements? embedding fuel depth text = none := by
  cases fuel with
  | zero => rfl
  | succ fuel =>
    rw [elements?, h]
    rfl

theorem members?_none (name : String) (h : ∀ fuel, value? embedding fuel depth text = none) (fuel : Nat) :
    members? embedding fuel depth (literal name.toList ++ ':' :: text) = none := by
  cases fuel with
  | zero => rfl
  | succ fuel =>
    rw [members?_name, h]
    rfl

/-! Numbers. -/

theorem digit_of_number? {negative : Bool} {result : Json × List Char} (h : number? negative text = some result) :
    ∃ c tail, text = c :: tail ∧ c.isDigit = true := by
  cases text with
  | nil => cases h
  | cons c tail =>
    refine ⟨c, tail, rfl, ?_⟩
    cases hdigit : c.isDigit with
    | true => rfl
    | false =>
      unfold number? at h
      rw [List.takeWhile_cons, hdigit] at h
      cases h

theorem value?_signed {negative : Bool} {result : Json × List Char} (h : number? negative text = some result) :
    value? embedding (fuel + 1) depth ((if negative then ['-'] else []) ++ text) = some result := by
  cases negative with
  | true => exact value?_minus.trans h
  | false =>
    obtain ⟨c, tail, rfl, hdigit⟩ := digit_of_number? h
    exact (value?_digit hdigit).trans h

theorem value?_decimal {n : Int} (hlower : -(UInt64.size / 2) ≤ n) (hupper : n < UInt64.size)
    (hrest : EndsNumber rest) :
    value? embedding (fuel + 1) depth (decimal n ++ rest) = some (.integer n, rest) := by
  have hsize : UInt64.size = 2 ^ 64 := rfl
  have hleads := leads_toDigits n.natAbs
  have hwhole : appendDigits 0 (Nat.toDigits 10 n.natAbs) = (n.natAbs, []) := by
    have hvalue : Nat.ofDigitChars 10 (Nat.toDigits 10 n.natAbs) 0 = n.natAbs := Nat.ofDigitChars_ten_toDigits
    rw [appendDigits_of_lt, hvalue]
    rw [hvalue]
    omega
  unfold decimal
  split
  . next hnegative =>
    have hnumber := @number?_integer _ _ _ true hleads hrest hwhole (fun _ => by omega)
    rw [if_pos rfl, show -(n.natAbs : Int) = n by omega] at hnumber
    exact value?_signed hnumber
  . next hpositive =>
    have hnumber := @number?_integer _ _ _ false hleads hrest hwhole nofun
    rw [if_neg nofun, show (n.natAbs : Int) = n by omega] at hnumber
    exact value?_signed hnumber

theorem value?_number (x : Float) (hrest : EndsNumber rest) :
    ∃ read, value? embedding (fuel + 1) depth (number x ++ rest) = some (read, rest)
      ∧
    read.outline anyDouble = shownDouble x := by
  unfold number Decimal.Style.write shownDouble
  cases hclass : Decimal.classify x with
  | nan => exact ⟨.null, value?_null, rfl⟩
  | infinity negative => exact ⟨.null, value?_null, rfl⟩
  | zero negative =>
    obtain ⟨y, hy⟩ := @number?_point ['0'] ['0'] rest negative (leads_singleton rfl) (by decide) (by decide)
      (by simp) hrest
    refine ⟨.float y, ?_, rfl⟩
    rw [List.append_assoc]
    exact value?_signed hy
  | finite negative b =>
    obtain ⟨y, hy⟩ := number?_write hclass negative hrest
    refine ⟨.float y, ?_, rfl⟩
    rw [List.append_assoc]
    exact value?_signed hy

theorem endsNumber_nil : EndsNumber [] :=
  nofun

theorem endsNumber_cons {c : Char} (h : c ∈ [',', ']', '\x7d']) (rest : List Char) : EndsNumber (c :: rest) := by
  have hall : ∀ c ∈ [',', ']', '\x7d'], c.isDigit = false ∧ c ∉ ['.', 'e', 'E'] := by simp
  rintro c' ⟨⟩
  exact hall c h

theorem opens_number (x : Float) : ∃ c tail, number x = c :: tail ∧ Opens c := by
  have hsign (negative : Bool) {text : List Char} (h : ∃ c tail, text = c :: tail ∧ c.isDigit = true) :
      ∃ c tail, (if negative then ['-'] else []) ++ text = c :: tail ∧ Opens c := by
    obtain ⟨c, tail, rfl, hdigit⟩ := h
    cases negative with
    | true => exact ⟨'-', _, rfl, .inr (by decide)⟩
    | false => exact ⟨c, tail, rfl, .inl hdigit⟩
  unfold number Decimal.Style.write
  dsimp only
  split
  . exact ⟨'n', _, rfl, .inr (by decide)⟩
  . exact ⟨'n', _, rfl, .inr (by decide)⟩
  . exact hsign _ ⟨'0', _, rfl, rfl⟩
  . next hclass =>
    obtain ⟨y, hy⟩ := number?_write hclass false endsNumber_nil
    rw [List.append_nil] at hy
    exact hsign _ (digit_of_number? hy)

theorem opens_decimal (n : Int) : ∃ c tail, decimal n = c :: tail ∧ Opens c := by
  unfold decimal
  split
  . exact ⟨'-', _, rfl, .inr (by decide)⟩
  . have hleads := leads_toDigits n.natAbs
    obtain ⟨c, tail, heq⟩ := List.exists_cons_of_ne_nil hleads.nonempty
    exact ⟨c, tail, heq, .inl (hleads.isDigit c (heq ▸ List.mem_cons_self))⟩

theorem opens_chars (value : Json) : ∃ c tail, value.chars = c :: tail ∧ Opens c := by
  cases value with
  | null => exact ⟨'n', _, rfl, .inr (by decide)⟩
  | bool b => cases b <;> exact ⟨_, _, rfl, .inr (by decide)⟩
  | integer n => exact opens_decimal n
  | float x => exact opens_number x
  | string text => exact ⟨'"', _, rfl, .inr (by decide)⟩
  | array elements => exact ⟨'[', _, rfl, .inr (by decide)⟩
  | object members => exact ⟨'\x7b', _, rfl, .inr (by decide)⟩

theorem opens_elementChars (value : Json) (values : List Json) :
    ∃ c tail, elementChars (value :: values) = c :: tail ∧ Opens c := by
  obtain ⟨c, tail, hchars, hopens⟩ := opens_chars value
  cases values with
  | nil => exact ⟨c, tail, by rw [elementChars, hchars], hopens⟩
  | cons next values => exact ⟨c, _, by rw [elementChars, hchars]; rfl, hopens⟩

theorem memberChars_cons (name : String) (value : Json) (members : List (String × Json)) :
    ∃ tail, memberChars ((name, value) :: members) = literal name.toList ++ ':' :: (value.chars ++ tail)
      ∧
    tail = match members with
      | [] => []
      | members => ',' :: memberChars members := by
  cases members with
  | nil => exact ⟨[], by rw [memberChars, List.append_nil], rfl⟩
  | cons next members => exact ⟨_, by rw [memberChars]; simp, rfl⟩

theorem membersOutline_keys (double : Float → Json) (members : List (String × Json)) :
    (membersOutline double members).map (·.1) = members.map (·.1) := by
  induction members with
  | nil => rfl
  | cons member members ih =>
    obtain ⟨name, value⟩ := member
    rw [membersOutline, List.map_cons, List.map_cons, ih]

theorem ofMembers_eq {members read : List (String × Json)} (h : Entries.Ascending members)
    (houtline : membersOutline anyDouble read = membersOutline shownDouble members) :
    ofMembers read = .object read := by
  have hkeys : read.map (·.1) = members.map (·.1) := by
    rw [← membersOutline_keys anyDouble, houtline, membersOutline_keys]
  have hread : Entries.Ascending read := by
    rw [Entries.ascending_iff_keys] at h ⊢
    rw [hkeys]
    exact h
  have hkept : Keyed.ofList read = ⟨read, hread⟩ := Keyed.ofList_entries ⟨read, hread⟩
  rw [ofMembers, hkept]

mutual

theorem value?_chars (value : Json) {fuel depth : Nat} {rest : List Char} (hvalue : value.IsValue)
    (hplain : value.Unembedded embedding) (hfuel : 2 * value.chars.length + 1 ≤ fuel) (hdepth : value.depth ≤ depth)
    (hrest : EndsNumber rest) :
    ∃ read, value? embedding fuel depth (value.chars ++ rest) = some (read, rest)
      ∧
    read.outline anyDouble = value.outline shownDouble := by
  obtain ⟨fuel, rfl⟩ := Nat.exists_eq_add_one.mpr (Nat.lt_of_lt_of_le (Nat.succ_pos _) hfuel)
  match value with
  | .null => exact ⟨.null, value?_null, rfl⟩
  | .bool true => exact ⟨.bool true, value?_true, rfl⟩
  | .bool false => exact ⟨.bool false, value?_false, rfl⟩
  | .integer n =>
    rw [IsValue] at hvalue
    exact ⟨.integer n, value?_decimal hvalue.1 hvalue.2 hrest, rfl⟩
  | .float x => exact value?_number x hrest
  | .string text =>
    have hliteral := @value?_literal embedding fuel depth text.toList rest
    rw [String.ofList_toList] at hliteral
    exact ⟨.string text, hliteral, rfl⟩
  | .array [] =>
    obtain ⟨depth, rfl⟩ := Nat.exists_eq_add_one.mpr (Nat.lt_of_lt_of_le (Nat.succ_pos _) hdepth)
    exact ⟨.array [], value?_noElements, rfl⟩
  | .array (value :: values) =>
    obtain ⟨depth, rfl⟩ := Nat.exists_eq_add_one.mpr (Nat.lt_of_lt_of_le (Nat.succ_pos _) hdepth)
    have hfuel' : 2 * (elementChars (value :: values)).length + 2 ≤ fuel := by
      simp only [chars, List.length_append, List.length_cons] at hfuel
      omega
    obtain ⟨read, hread, houtline⟩ := elements?_chars (value :: values) nofun hvalue hplain hfuel'
      (Nat.le_of_succ_le_succ hdepth) rest
    obtain ⟨c, tail, hchars, hopens⟩ := opens_elementChars value values
    refine ⟨.array read, ?_, ?_⟩
    . rw [hchars, List.cons_append] at hread
      rw [chars, hchars, List.append_assoc, List.cons_append, List.singleton_append, List.cons_append,
        value?_elements hopens, hread]
      rfl
    . rw [outline, outline, houtline]
  | .object [] =>
    obtain ⟨depth, rfl⟩ := Nat.exists_eq_add_one.mpr (Nat.lt_of_lt_of_le (Nat.succ_pos _) hdepth)
    exact ⟨.object [], value?_noMembers, rfl⟩
  | .object ((name, value) :: members) =>
    obtain ⟨depth, rfl⟩ := Nat.exists_eq_add_one.mpr (Nat.lt_of_lt_of_le (Nat.succ_pos _) hdepth)
    have hfuel' : 2 * (memberChars ((name, value) :: members)).length + 2 ≤ fuel := by
      simp only [chars, List.length_append, List.length_cons] at hfuel
      omega
    obtain ⟨hascending, hvalues⟩ := hvalue
    obtain ⟨hname, hplain⟩ := hplain
    obtain ⟨read, hread, houtline⟩ := members?_chars ((name, value) :: members) nofun hvalues hplain hfuel'
      (Nat.le_of_succ_le_succ hdepth) rest
    obtain ⟨tail, hchars, -⟩ := memberChars_cons name value members
    refine ⟨.object read, ?_, ?_⟩
    . rw [hchars, List.append_assoc] at hread
      rw [chars, hchars, List.append_assoc, List.cons_append, List.singleton_append, List.append_assoc,
        value?_members (hname _ rfl), hread, ← ofMembers_eq hascending houtline]
      rfl
    . rw [outline, outline, houtline]

theorem elements?_chars (values : List Json) {fuel depth : Nat} (hne : values ≠ [])
    (hvalues : ElementsAreValues values) (hplain : ElementsUnembedded embedding values)
    (hfuel : 2 * (elementChars values).length + 2 ≤ fuel)
    (hdepth : elementsDepth values ≤ depth) (rest : List Char) :
    ∃ read, elements? embedding fuel depth (elementChars values ++ ']' :: rest) = some (read, rest)
      ∧
    elementsOutline anyDouble read = elementsOutline shownDouble values := by
  obtain ⟨fuel, rfl⟩ := Nat.exists_eq_add_one.mpr (Nat.lt_of_lt_of_le (Nat.succ_pos _) hfuel)
  match values with
  | [] => exact absurd rfl hne
  | [value] =>
    rw [elementChars] at hfuel ⊢
    obtain ⟨read, hread, houtline⟩ := value?_chars value hvalues.1 hplain.1 (Nat.le_of_succ_le_succ hfuel)
      (Nat.max_le.mp hdepth).1 (endsNumber_cons (c := ']') (by decide) rest)
    refine ⟨[read], elements?_bracket hread, ?_⟩
    simp only [elementsOutline, houtline]
  | value :: next :: values =>
    rw [elementChars, List.length_append, List.length_cons] at hfuel
    have hfuel' : 2 * value.chars.length + 1 ≤ fuel := by omega
    have hfuels : 2 * (elementChars (next :: values)).length + 2 ≤ fuel := by omega
    obtain ⟨read, hread, houtline⟩ := value?_chars value hvalues.1 hplain.1 hfuel' (Nat.max_le.mp hdepth).1
      (endsNumber_cons (c := ',') (by decide) (elementChars (next :: values) ++ ']' :: rest))
    obtain ⟨reads, hreads, houtlines⟩ := elements?_chars (next :: values) nofun hvalues.2 hplain.2 hfuels
      (Nat.max_le.mp hdepth).2 rest
    refine ⟨read :: reads, ?_, ?_⟩
    . rw [elementChars, List.append_assoc, List.cons_append, elements?_comma hread, hreads]
      rfl
    . rw [elementsOutline, elementsOutline, houtline, houtlines]

theorem members?_chars (members : List (String × Json)) {fuel depth : Nat} (hne : members ≠ [])
    (hvalues : MembersAreValues members) (hplain : MembersUnembedded embedding members)
    (hfuel : 2 * (memberChars members).length + 2 ≤ fuel)
    (hdepth : membersDepth members ≤ depth) (rest : List Char) :
    ∃ read, members? embedding fuel depth (memberChars members ++ '\x7d' :: rest) = some (read, rest)
      ∧
    membersOutline anyDouble read = membersOutline shownDouble members := by
  obtain ⟨fuel, rfl⟩ := Nat.exists_eq_add_one.mpr (Nat.lt_of_lt_of_le (Nat.succ_pos _) hfuel)
  match members with
  | [] => exact absurd rfl hne
  | [(name, value)] =>
    rw [memberChars] at hfuel ⊢
    have hfuel' : 2 * value.chars.length + 1 ≤ fuel := by
      rw [List.length_append, List.length_cons] at hfuel
      omega
    obtain ⟨read, hread, houtline⟩ := value?_chars value hvalues.1 hplain.1 hfuel' (Nat.max_le.mp hdepth).1
      (endsNumber_cons (c := '\x7d') (by decide) rest)
    refine ⟨[(name, read)], ?_, ?_⟩
    . rw [List.append_assoc, List.cons_append, members?_brace hread]
    . simp only [membersOutline, houtline]
  | (name, value) :: next :: members =>
    rw [memberChars, List.length_append, List.length_append, List.length_cons, List.length_cons] at hfuel
    have hfuel' : 2 * value.chars.length + 1 ≤ fuel := by omega
    have hfuels : 2 * (memberChars (next :: members)).length + 2 ≤ fuel := by omega
    obtain ⟨read, hread, houtline⟩ := value?_chars value hvalues.1 hplain.1 hfuel' (Nat.max_le.mp hdepth).1
      (endsNumber_cons (c := ',') (by decide) (memberChars (next :: members) ++ '\x7d' :: rest))
    obtain ⟨reads, hreads, houtlines⟩ := members?_chars (next :: members) nofun hvalues.2 hplain.2 hfuels
      (Nat.max_le.mp hdepth).2 rest
    refine ⟨(name, read) :: reads, ?_, ?_⟩
    . rw [memberChars, List.append_assoc, List.append_assoc, List.cons_append, List.cons_append,
        members?_comma hread, hreads]
      rfl
    . rw [membersOutline, membersOutline, houtline, houtlines]

end

theorem parse?_of_value? {text : String} {read : Json}
    (h : value? (some embeddingName) (2 * text.toList.length + 1) maxDepth text.toList = some (read, [])) :
    parse? text = some read := by
  unfold parse?
  dsimp only
  rw [h]
  rfl

theorem parse?_compact {value : Json} (hvalue : value.IsValue) (hplain : value.Unembedded (some embeddingName))
    (hdepth : value.depth ≤ maxDepth) :
    ∃ read, parse? value.compact = some read ∧ read.outline anyDouble = value.outline shownDouble := by
  obtain ⟨read, hread, houtline⟩ := value?_chars value hvalue hplain (Nat.le_refl _) hdepth endsNumber_nil
  rw [List.append_nil] at hread
  refine ⟨read, parse?_of_value? ?_, houtline⟩
  unfold compact
  rw [String.toList_ofList]
  exact hread

end Reader

theorem eq_string_of_outline {value : Json} {text : String} (h : value.outline anyDouble = .string text) :
    value = .string text := by
  cases value <;> cases h
  rfl

theorem eq_member_of_outline {value : Json} {name text : String}
    (h : value.outline anyDouble = .object [(name, .string text)]) : value = .object [(name, .string text)] := by
  cases value with
  | object members =>
    rw [outline] at h
    match members with
    | [] => cases h
    | [(other, held)] =>
      injection h with h
      obtain ⟨hmember, -⟩ := List.cons.inj h
      obtain ⟨rfl, hheld⟩ := Prod.mk.inj hmember
      rw [eq_string_of_outline hheld]
    | (_, _) :: (_, _) :: _ => simp [membersOutline] at h
  | _ => cases h

end ServiceHost.Json
