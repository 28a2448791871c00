import ServiceHost.AdminClient.Report
import ServiceHost.Proofs.Json.Splitting
import ServiceHost.Proofs.Metrics.History

/-!
This module contains what the object of the metrics is read back as: its members are those of the variables, and
the client for the admin side can read it unless a value is nested too deep or pretends to embed a text.
-/

namespace ServiceHost.Metrics

open Json Json.Reader

def memberTexts (members : List (String × Json)) : List Char :=
  Text.join [','] (members.map fun (name, value) => Registry.member name value)

theorem memberTexts_singleton (name : String) (value : Json) :
    memberTexts [(name, value)] = literal name.toList ++ ':' :: ' ' :: value.chars :=
  rfl

theorem memberTexts_cons (name : String) (value : Json) (next : String × Json) (members : List (String × Json)) :
    memberTexts ((name, value) :: next :: members)
      =
    literal name.toList ++ ':' :: ' ' :: value.chars ++ ',' :: memberTexts (next :: members) := by
  change Registry.member name value ++ [','] ++ memberTexts (next :: members) = _
  rw [List.append_assoc, List.singleton_append]
  rfl

theorem toList_object (members : List (String × Json)) :
    (object members).toList = '\x7b' :: (memberTexts members ++ ['\x7d']) := by
  unfold object memberTexts
  rw [String.toList_ofList, List.cons_append]

theorem members?_memberTexts {embedding : Option String} {members : List (String × Json)} {fuel depth : Nat}
    (hne : members ≠ []) (hmembers : MembersAreValues members) (hplain : MembersUnembedded embedding members)
    (hfuel : 2 * (memberTexts members).length ≤ fuel) (hdepth : membersDepth members ≤ depth) (rest : List Char) :
    ∃ read, members? embedding fuel depth (memberTexts members ++ '\x7d' :: rest) = some (read, rest)
      ∧
    membersOutline anyDouble read = membersOutline shownDouble members := by
  induction members generalizing fuel with
  | nil => exact absurd rfl hne
  | cons member members ih =>
    obtain ⟨name, value⟩ := member
    obtain ⟨hvalue, hvalues⟩ := hmembers
    obtain ⟨hplain, hplains⟩ := hplain
    obtain ⟨hfirst, hothers⟩ := Nat.max_le.mp hdepth
    cases members with
    | nil =>
      rw [memberTexts_singleton] at hfuel ⊢
      simp only [List.length_append, List.length_cons] at hfuel
      obtain ⟨fuel, rfl⟩ : ∃ n, fuel = n + 1 := ⟨fuel - 1, by omega⟩
      obtain ⟨read, hread, houtline⟩ := @value?_chars embedding value fuel depth ('\x7d' :: rest) hvalue hplain (by omega)
        hfirst (endsNumber_cons (by decide) rest)
      rw [← value?_space] at hread
      refine ⟨[(name, read)], ?_, ?_⟩
      . rw [List.append_assoc, List.cons_append, List.cons_append, members?_brace hread]
      . simp only [membersOutline, houtline]
    | cons next members =>
      rw [memberTexts_cons] at hfuel ⊢
      simp only [List.length_append, List.length_cons] at hfuel
      obtain ⟨fuel, rfl⟩ : ∃ n, fuel = n + 1 := ⟨fuel - 1, by omega⟩
      obtain ⟨read, hread, houtline⟩ := @value?_chars embedding value fuel depth
        (',' :: (memberTexts (next :: members) ++ '\x7d' :: rest)) hvalue hplain (by omega) hfirst
        (endsNumber_cons (by decide) _)
      obtain ⟨reads, hreads, houtlines⟩ := @ih fuel (List.cons_ne_nil _ _) hvalues hplains (by omega) hothers
      rw [← value?_space] at hread
      refine ⟨(name, read) :: reads, ?_, ?_⟩
      . rw [List.append_assoc, List.append_assoc, List.cons_append, List.cons_append, List.cons_append,
          members?_comma hread, hreads]
        rfl
      . rw [membersOutline, membersOutline, houtline, houtlines]

theorem memberTexts?_memberTexts {members : List (String × Json)} {fuel : Nat} (hne : members ≠ [])
    (hmembers : MembersAreValues members) (hfuel : members.length ≤ fuel) (rest : List Char) :
    memberTexts? fuel (memberTexts members ++ '\x7d' :: rest)
      =
    some (members.map fun (name, value) => (name, value.compact), rest) := by
  induction members generalizing fuel with
  | nil => exact absurd rfl hne
  | cons member members ih =>
    obtain ⟨name, value⟩ := member
    obtain ⟨hvalue, hvalues⟩ := hmembers
    obtain ⟨fuel, rfl⟩ : ∃ n, fuel = n + 1 := ⟨fuel - 1, by rw [List.length_cons] at hfuel; omega⟩
    obtain ⟨c, tail, hchars, hopens⟩ := opens_chars value
    have hblank : c ∉ [' ', '\n', '\r', '\t'] := fun hmem => hopens.not_mem (List.mem_append_left [']', '\x7d'] hmem)
    have hskip (rest : List Char) : skipBlanks (' ' :: (value.chars ++ rest)) = value.chars ++ rest := by
      rw [skipBlanks_space, hchars, List.cons_append, skipBlanks_cons hblank]
    cases members with
    | nil =>
      rw [memberTexts_singleton, List.append_assoc, List.cons_append, List.cons_append,
        memberTexts?_name hvalue (hskip _) (endsNumber_cons (by decide) rest), skipBlanks_cons (by decide)]
      rfl
    | cons next members =>
      rw [memberTexts_cons, List.append_assoc, List.append_assoc, List.cons_append, List.cons_append, List.cons_append,
        memberTexts?_name hvalue (hskip _) (endsNumber_cons (by decide) _), skipBlanks_cons (by decide)]
      have hrest := @ih fuel (List.cons_ne_nil _ _) hvalues (Nat.le_of_succ_le_succ hfuel)
      change (memberTexts? fuel (memberTexts (next :: members) ++ '\x7d' :: rest)).map _ = _
      rw [hrest]
      rfl

theorem length_le_memberTexts (members : List (String × Json)) : members.length ≤ (memberTexts members).length := by
  induction members with
  | nil => exact Nat.zero_le _
  | cons member members ih =>
    obtain ⟨name, value⟩ := member
    cases members with
    | nil =>
      rw [memberTexts_singleton]
      simp only [List.length_append, List.length_cons, List.length_nil]
      omega
    | cons next members =>
      rw [memberTexts_cons]
      simp only [List.length_append, List.length_cons] at ih ⊢
      omega

theorem memberTexts_eq (name : String) (value : Json) (members : List (String × Json)) :
    ∃ tail, memberTexts ((name, value) :: members) = literal name.toList ++ tail := by
  cases members with
  | nil => exact ⟨_, memberTexts_singleton name value⟩
  | cons next members => exact ⟨_, by rw [memberTexts_cons, List.append_assoc]⟩

theorem split?_object {members : List (String × Json)} (hmembers : MembersAreValues members) :
    split? (object members) = some (members.map fun (name, value) => (name, value.compact)) := by
  unfold split?
  rw [toList_object, skipBlanks_cons (by decide)]
  split
  . next heq =>
    cases heq
    cases members with
    | nil => rfl
    | cons member members =>
      have hfuel : (member :: members).length ≤ (memberTexts (member :: members) ++ ['\x7d']).length := by
        rw [List.length_append]
        exact Nat.le_add_right_of_le (length_le_memberTexts _)
      have htexts := @memberTexts?_memberTexts (member :: members) _ (List.cons_ne_nil _ _) hmembers hfuel []
      obtain ⟨tail, htail⟩ := memberTexts_eq member.1 member.2 members
      have hskip : skipBlanks (memberTexts (member :: members) ++ ['\x7d']) = memberTexts (member :: members) ++ ['\x7d'] := by
        rw [htail, List.append_assoc, literal_append, skipBlanks_cons (by decide)]
      rw [hskip]
      split
      . next heq =>
        rw [htail, List.append_assoc, literal_append] at heq
        cases heq
      . rw [htexts]
        rfl
  . next hother => exact absurd rfl (hother _)

theorem parse?_object {members : List (String × Json)} (hvalue : (Json.object members).IsValue)
    (hplain : (Json.object members).Unembedded (some embeddingName)) (hdepth : (Json.object members).depth ≤ maxDepth) :
    ∃ read, parse? (object members) = some (.object read)
      ∧
    membersOutline anyDouble read = membersOutline shownDouble members := by
  obtain ⟨hascending, hmembers⟩ := hvalue
  obtain ⟨hname, hplain⟩ := hplain
  cases members with
  | nil => exact ⟨[], parse?_of_value? value?_noMembers, rfl⟩
  | cons member members =>
    obtain ⟨name, value⟩ := member
    have hfuel : 2 * (memberTexts ((name, value) :: members)).length
        ≤ 2 * (object ((name, value) :: members)).toList.length := by
      rw [toList_object, List.length_cons, List.length_append]
      omega
    obtain ⟨read, hread, houtline⟩ := @members?_memberTexts _ ((name, value) :: members) _ _
      (List.cons_ne_nil _ _) hmembers hplain hfuel (Nat.le_of_succ_le_succ hdepth) []
    obtain ⟨tail, htail⟩ := memberTexts_eq name value members
    rw [toList_object, htail, List.append_assoc] at hread
    refine ⟨read, parse?_of_value? ?_, houtline⟩
    rw [← ofMembers_eq hascending houtline, toList_object, htail, List.append_assoc]
    refine (value?_members (hname _ rfl)).trans ?_
    rw [hread]
    rfl

theorem Summary.toJson_eq (summary : Summary) :
    summary.toJson
      =
    .object
      [("count", .integer summary.count.toNat), ("max", .float summary.greatest), ("min", .float summary.least),
       ("sum", .float summary.sum)] :=
  rfl

theorem Summary.isValue_toJson (summary : Summary) : summary.toJson.IsValue := by
  rw [toJson_eq]
  refine ⟨?_, Value.isValue_natural summary.count, trivial, trivial, trivial, trivial⟩
  rw [Entries.ascending_iff_keys]
  change ["count", "max", "min", "sum"].Pairwise (· < ·)
  decide

theorem Summary.unembedded_toJson (summary : Summary) : summary.toJson.Unembedded (some embeddingName) := by
  rw [toJson_eq]
  refine ⟨?_, trivial, trivial, trivial, trivial, trivial⟩
  rintro member ⟨⟩
  change some embeddingName ≠ some "count"
  decide

variable {σ : Type}

theorem Variable.isValue_toJson {v : Variable σ} {state : σ} {value : Json} (h : v.toJson state = .ok value) :
    value.IsValue := by
  cases v with
  | counter n =>
    cases h
    exact Value.isValue_natural n
  | gauge x =>
    cases h
    exact trivial
  | histogram summary =>
    cases h
    exact summary.isValue_toJson
  | published read =>
    obtain ⟨value, -, rfl⟩ := bind_pure_eq_ok_iff.mp h
    exact value.isValue

def Registry.Publishes (registry : Registry σ) (state : σ) (p : Json → Prop) : Prop :=
  ∀ name read, (name, .published read) ∈ registry.contents → ∀ value, read state = .ok value → p value.json

theorem Registry.Publishes.of_toJson {registry : Registry σ} {state : σ} {p : Json → Prop}
    (h : registry.Publishes state p) (hcounter : ∀ value : UInt64, p (.integer value.toNat))
    (hgauge : ∀ x, p (.float x)) (hhistogram : ∀ summary : Summary, p summary.toJson) {name : String}
    {v : Variable σ} (hmem : (name, v) ∈ registry.contents) {value : Json} (hvalue : v.toJson state = .ok value) :
    p value := by
  cases v with
  | counter n =>
    cases hvalue
    exact hcounter n
  | gauge x =>
    cases hvalue
    exact hgauge x
  | histogram summary =>
    cases hvalue
    exact hhistogram summary
  | published read =>
    obtain ⟨value, hread, rfl⟩ := bind_pure_eq_ok_iff.mp hvalue
    exact h name read hmem value hread

theorem Registry.Publishes.unembedded {registry : Registry σ} {state : σ}
    (h : registry.Publishes state (Unembedded (some embeddingName))) {name : String} {v : Variable σ}
    (hmem : (name, v) ∈ registry.contents) {value : Json} (hvalue : v.toJson state = .ok value) :
    value.Unembedded (some embeddingName) :=
  h.of_toJson (fun _ => trivial) (fun _ => trivial) Summary.unembedded_toJson hmem hvalue

theorem Registry.Publishes.depth_lt {registry : Registry σ} {state : σ}
    (h : registry.Publishes state fun value => value.depth < maxDepth) {name : String}
    {v : Variable σ} (hmem : (name, v) ∈ registry.contents) {value : Json} (hvalue : v.toJson state = .ok value) :
    value.depth < maxDepth := by
  apply h.of_toJson _ _ _ hmem hvalue
  . exact fun _ => show 0 < maxDepth by decide
  . exact fun _ => show 0 < maxDepth by decide
  . exact fun _ => show 1 < maxDepth by decide

theorem code_jsonReport {text : String} {value : Json} (h : parse? text = some value) (status : Http.Status) :
    (AdminClient.jsonReport status text).code = 0 := by
  unfold AdminClient.jsonReport
  rw [h]
  split <;> rfl

/--
The metrics after any uses, whatever the names are: the text of the object is taken apart into the names, each of
them once and in ascending order, and the texts without spaces of what the variables show. The client can read
it if the values that are published are not nested too deep, and neither an object of theirs nor the object of
the metrics opens with the name for embedded texts; it then has the same names and values, with some double for each
double that is finite.
-/
theorem metrics_read_back {uses : List (Use σ)} (h : Obtained uses) (world : World σ) :
    ∃ after,
      (useEach uses).exec { world with metrics := .empty } = (.ok (uses.map Use.handle?), after)
        ∧
      after.metrics.names.Pairwise (· < ·)
        ∧
      ∀ state text, after.metrics.render state = .ok text →
        ∃ members,
          members.map (·.1) = after.metrics.names
            ∧
          (∀ member ∈ members, (after.metrics.contents.find? member.1).map (·.toJson state) = some (.ok member.2))
            ∧
          Json.split? text = some (members.map fun (name, value) => (name, value.compact))
            ∧
          (after.metrics.names.head? ≠ some embeddingName →
            after.metrics.Publishes state (Unembedded (some embeddingName)) →
            after.metrics.Publishes state (fun value => value.depth < maxDepth) →
              (∃ read,
                Json.parse? text = some (.object read)
                  ∧
                membersOutline anyDouble read = membersOutline shownDouble members)
                ∧
              ∀ status, (AdminClient.jsonReport status text).code = 0) := by
  obtain ⟨after, hexec, hafter, -⟩ := useEach_exec [] h { world with metrics := .empty } reflects_nil
  refine ⟨after, hexec, after.metrics.contents.keys_pairwise, ?_⟩
  intro state text hrender
  obtain ⟨members, hall, rfl⟩ := Registry.render_eq_ok_iff.mp hrender
  let shows (v : Variable σ) (value : Json) : Prop := v.toJson state = .ok value
  obtain ⟨hkeys, hshown⟩ := (Keyed.forall₂_iff (r := shows)).mp hall
  have hvalues : MembersAreValues members := by
    rw [membersAreValues_iff]
    intro member hmember
    obtain ⟨v, -, hvalue⟩ := hshown member hmember
    exact Variable.isValue_toJson hvalue
  refine ⟨members, hkeys, ?_, split?_object hvalues, ?_⟩
  . intro member hmember
    obtain ⟨v, hv, hvalue⟩ := hshown member hmember
    rw [Keyed.find?_eq_some_iff.mpr hv, Option.map_some]
    exact congrArg some hvalue
  . intro hfirst hunembedded hdepth
    have hvalue : (Json.object members).IsValue := by
      refine ⟨?_, hvalues⟩
      rw [Entries.ascending_iff_keys, hkeys]
      exact after.metrics.contents.keys_pairwise
    have hplain : (Json.object members).Unembedded (some embeddingName) := by
      refine ⟨?_, membersUnembedded_iff.mpr ?_⟩
      . intro member hmember heq
        apply hfirst
        change after.metrics.contents.keys.head? = _
        rw [← hkeys, List.head?_map, hmember, heq]
        rfl
      . intro member hmember
        obtain ⟨v, hv, hvalue⟩ := hshown member hmember
        exact hunembedded.unembedded hv hvalue
    have hshallow : (Json.object members).depth ≤ maxDepth := by
      apply Nat.succ_le_succ
      rw [membersDepth_le_iff]
      intro member hmember
      obtain ⟨v, hv, hvalue⟩ := hshown member hmember
      exact Nat.le_of_lt_succ (hdepth.depth_lt hv hvalue)
    obtain ⟨read, hread, houtline⟩ := parse?_object hvalue hplain hshallow
    exact ⟨⟨read, hread, houtline⟩, code_jsonReport hread⟩

def awkwardValue : Value :=
  .object (.ofList [("x\x7d", .array [.float 1.5, .string "\"\x7d]"])])

def awkwardUses : List (Use Unit) :=
  [.request .counter "a\"b\\", .update ⟨"a\"b\\", .counter⟩ (.increment 3), .request .gauge "\x01\x7d,",
   .publish "z\n" fun _ => .ok awkwardValue]

theorem metrics_read_back_awkwardUses :
    Obtained awkwardUses
      ∧
    ∃ after text,
      (useEach awkwardUses).exec (.idle ()) = (.ok (awkwardUses.map Use.handle?), after)
        ∧
      after.metrics.render () = .ok text
        ∧
      Json.split? text
        =
      some [("\x01\x7d,", "0.0"), ("a\"b\\", "3"), ("z\n", "\x7b\"x\x7d\":[1.5,\"\\\"\x7d]\"]\x7d")]
        ∧
      (AdminClient.jsonReport 200 text).code = 0 := by
  have hobtained : Obtained awkwardUses := by
    have hnone : Obtained (awkwardUses.take 0) := fun _ _ _ _ heq => absurd heq (by simp)
    have hrequest : Obtained (awkwardUses.take 1) := hnone.concat nofun
    have hupdate : Obtained (awkwardUses.take 2) := hrequest.concat (by rintro _ _ ⟨⟩; decide)
    have hgauge : Obtained (awkwardUses.take 3) := hupdate.concat nofun
    exact hgauge.concat nofun
  obtain ⟨after, hexec, -, hread⟩ := metrics_read_back hobtained (.idle ())
  have hentries : after.metrics.contents.entries
      = [("\x01\x7d,", .gauge 0), ("a\"b\\", .counter 3), ("z\n", .published fun _ => .ok awkwardValue)] := by
    have hafter : after = ((useEach awkwardUses).exec (.idle ())).2 := (congrArg Prod.snd hexec).symm
    rw [hafter]
    rfl
  have hpublished {p : Json → Prop} (h : p awkwardValue.json) : after.metrics.Publishes () p := by
    intro name read hmem value hvalue
    change _ ∈ after.metrics.contents.entries at hmem
    simp only [hentries, List.mem_cons, List.not_mem_nil, or_false, Prod.mk.injEq, reduceCtorEq, and_false, false_or,
      Variable.published.injEq] at hmem
    obtain ⟨-, rfl⟩ := hmem
    cases hvalue
    exact h
  have hplain : awkwardValue.json.Unembedded (some embeddingName) := by
    refine ⟨?_, ⟨trivial, trivial, trivial⟩, trivial⟩
    rintro member ⟨⟩
    change some embeddingName ≠ some "x\x7d"
    decide
  obtain ⟨text, htext⟩ : ∃ text, after.metrics.render () = .ok text := by
    unfold Registry.render
    rw [hentries]
    exact ⟨_, rfl⟩
  obtain ⟨members, hkeys, hshown, hsplit, hclient⟩ := hread () text htext
  have hmembers : members = [("\x01\x7d,", .float 0), ("a\"b\\", .integer 3), ("z\n", awkwardValue.json)] := by
    unfold Registry.names Keyed.keys at hkeys
    unfold Keyed.find? at hshown
    rw [hentries] at hkeys hshown
    obtain _ | ⟨⟨_, v₁⟩, _ | ⟨⟨_, v₂⟩, _ | ⟨⟨_, v₃⟩, _ | _⟩⟩⟩ := members <;> cases hkeys
    simp only [List.forall_mem_cons, List.not_mem_nil, false_imp_iff, implies_true, and_true] at hshown
    obtain ⟨h₁, h₂, h₃⟩ := hshown
    cases h₁
    cases h₂
    cases h₃
    rfl
  have hfirst : after.metrics.names.head? ≠ some embeddingName := by
    unfold Registry.names Keyed.keys
    rw [hentries]
    decide
  have hcode := (hclient hfirst (hpublished hplain) (hpublished (by decide))).2 200
  refine ⟨hobtained, after, text, hexec, htext, ?_, hcode⟩
  rw [hsplit, hmembers]
  decide +kernel

def nested : Nat → Json
  | 0 => .array []
  | n + 1 => .array [nested n]

theorem isValue_nested (n : Nat) : (nested n).IsValue := by
  induction n with
  | zero => exact trivial
  | succ n ih => exact ⟨ih, trivial⟩

theorem value?_nested {embedding : Option String} {fuel depth n : Nat} (h : depth ≤ n) (rest : List Char) :
    value? embedding fuel depth ((nested n).chars ++ rest) = none := by
  induction n generalizing fuel depth rest with
  | zero =>
    obtain rfl := Nat.le_zero.mp h
    cases fuel <;> rfl
  | succ n ih =>
    have hchars : (nested (n + 1)).chars ++ rest = '[' :: ((nested n).chars ++ ']' :: rest) := by
      rw [nested, chars, elementChars, List.append_assoc, List.singleton_append, List.cons_append]
    rw [hchars]
    cases fuel with
    | zero => rfl
    | succ fuel =>
      cases depth with
      | zero => rfl
      | succ depth =>
        obtain ⟨c, tail, htail, hopens⟩ := opens_chars (nested n)
        have helements := elements?_none (fun fuel => @ih fuel depth (Nat.le_of_succ_le_succ h) (']' :: rest)) fuel
        rw [htail, List.cons_append] at helements ⊢
        rw [value?_elements hopens, helements]
        rfl

theorem parse?_nested {name : String} {n : Nat} (hname : name ≠ embeddingName) (h : maxDepth ≤ n + 1) :
    parse? (object [(name, nested n)]) = none := by
  have hvalue (fuel : Nat) : value? (some embeddingName) fuel 126 (' ' :: (nested n).chars ++ ['\x7d']) = none :=
    (value?_space fuel 126 _).trans (value?_nested (Nat.le_of_succ_le_succ h) _)
  have hembedding : some embeddingName ≠ some name := fun heq => hname (Option.some.inj heq).symm
  have hread := members?_none name hvalue (2 * (object [(name, nested n)]).toList.length)
  unfold parse?
  dsimp only
  rw [toList_object, memberTexts_singleton, List.append_assoc, List.cons_append] at hread ⊢
  have hobject := (value?_members hembedding).trans (congrArg (Option.map _) hread)
  rw [show maxDepth = 126 + 1 from rfl, hobject]
  rfl

/--
The client fails on the metrics of a service with a counter under the name for embedded texts, and on those with
a published value that is nested one level too deep; neither text is malformed.
-/
theorem client_fails_on_metrics :
    (∃ after text,
      (useEach [.request .counter embeddingName]).exec (.idle ()) = (.ok [some ⟨embeddingName, .counter⟩], after)
        ∧
      after.metrics.render () = .ok text
        ∧
      Json.split? text = some [(embeddingName, "0")]
        ∧
      (AdminClient.jsonReport 200 text).code = 1)
      ∧
    ∃ after text,
      (useEach [.publish "deep" fun _ => .ok ⟨nested 126, isValue_nested 126⟩]).exec (.idle ()) = (.ok [none], after)
        ∧
      after.metrics.render () = .ok text
        ∧
      Json.split? text = some [("deep", (nested 126).compact)]
        ∧
      (AdminClient.jsonReport 200 text).code = 1 := by
  constructor
  . exact ⟨_, _, Prod.ext (by decide +kernel) rfl, rfl, by decide +kernel, by decide +kernel⟩
  . have hname : "deep" ≠ embeddingName := by decide
    have hcode : (AdminClient.jsonReport 200 (object [("deep", nested 126)])).code = 1 := by
      unfold AdminClient.jsonReport
      rw [parse?_nested hname (Nat.le_refl maxDepth)]
      rfl
    refine ⟨_, object [("deep", nested 126)], Prod.ext (by decide +kernel) rfl, ?_, ?_, hcode⟩
    . exact Registry.render_eq_ok_iff.mpr ⟨[("deep", nested 126)], .cons ⟨rfl, rfl⟩ .nil, rfl⟩
    . exact split?_object ⟨isValue_nested 126, trivial⟩

end ServiceHost.Metrics
