import ServiceHost.Proofs.Http.Path

/-!
This module contains the grammar of paths that can be routed, and how context paths fit into it: the one form that
they are normalized to, and the segments that they have when they are joined with a route.
-/

namespace ServiceHost.Http.Path

structure IsSegment (segment : String) : Prop where
  nonempty : segment ≠ ""
  unbroken : '/' ∉ segment.toList
  noCapture : segment.toList.head? ≠ some ':'
  noWildcard : segment.toList.head? ≠ some '*'
  noBrace : '\x7b' ∉ segment.toList

/-- A path is the root, or segments with a slash in front of each, and perhaps one more behind the last. -/
def IsSegmented (path : String) : Prop :=
  path = "/"
    ∨
  ∃ segments ending,
    segments ≠ []
      ∧
    (∀ segment ∈ segments, IsSegment segment)
      ∧
    (ending = "" ∨ ending = "/")
      ∧
    path = "/" ++ "/".intercalate segments ++ ending

theorem isPlainSegment_of_isSegment {segment : String} (h : IsSegment segment) :
    isPlainSegment segment.toList = true := by
  rw [isPlainSegment_iff]
  exact ⟨h.noCapture, h.noWildcard, h.noBrace⟩

theorem isSegment_of_mem_pieces {text piece : List Char} (hmem : piece ∈ Text.pieces '/' text) (hne : piece ≠ [])
    (hplain : isPlainSegment piece = true) : IsSegment (.ofList piece) := by
  rw [isPlainSegment_iff] at hplain
  constructor
  case nonempty => simpa using hne
  all_goals rw [String.toList_ofList]
  case unbroken => exact Text.notMem_of_mem_pieces hmem
  case noCapture => exact hplain.1
  case noWildcard => exact hplain.2.1
  case noBrace => exact hplain.2.2

theorem toList_segmented (segments : List String) (ending : String) :
    ("/" ++ "/".intercalate segments ++ ending).toList
      =
    '/' :: (['/'].intercalate (segments.map String.toList) ++ ending.toList) := by
  rw [String.toList_append]
  rw [String.toList_append]
  rw [String.toList_intercalate]
  rfl

theorem isSegmented_of_pieces {path : String} {text : List Char} (ending : String)
    (hpath : path.toList = '/' :: (text ++ ending.toList)) (hending : ending = "" ∨ ending = "/")
    (hempty : [] ∉ Text.pieces '/' text)
    (hplain : ∀ piece ∈ Text.pieces '/' text, isPlainSegment piece = true) : IsSegmented path := by
  have hback : ((Text.pieces '/' text).map String.ofList).map String.toList = Text.pieces '/' text := by
    rw [List.map_map]
    simp [Function.comp_def]
  refine .inr ⟨(Text.pieces '/' text).map String.ofList, ending, ?_, ?_, hending, ?_⟩
  . rw [ne_eq, List.map_eq_nil_iff]
    exact Text.pieces_ne_nil '/' text
  . rw [List.forall_mem_map]
    intro piece hpiece
    apply isSegment_of_mem_pieces hpiece
    . intro hnil
      exact hempty (hnil ▸ hpiece)
    . exact hplain piece hpiece
  . apply String.toList_inj.mp
    rw [toList_segmented]
    rw [hback]
    rw [Text.intercalate_pieces]
    exact hpath

theorem isRoutable_of_segments {segments : List String} {ending : String} (hne : segments ≠ [])
    (hsegments : ∀ segment ∈ segments, IsSegment segment) (hending : ending = "" ∨ ending = "/") :
    isRoutable ("/" ++ "/".intercalate segments ++ ending) = true := by
  have hpieces : Text.pieces '/' (['/'].intercalate (segments.map String.toList)) = segments.map String.toList := by
    apply Text.pieces_intercalate
    . simpa using hne
    . rw [List.forall_mem_map]
      intro segment hsegment
      exact (hsegments segment hsegment).unbroken
  have hnil : [] ∉ segments.map String.toList := by
    rw [List.mem_map]
    rintro ⟨segment, hsegment, heq⟩
    exact (hsegments segment hsegment).nonempty (String.toList_eq_nil_iff.mp heq)
  have hplain : ∀ piece ∈ segments.map String.toList, isPlainSegment piece = true := by
    rw [List.forall_mem_map]
    intro segment hsegment
    exact isPlainSegment_of_isSegment (hsegments segment hsegment)
  rw [isRoutable_iff_pieces]
  refine ⟨_, toList_segmented segments ending, ?_⟩
  cases hending with
  | inl hending =>
    rw [hending, String.toList_empty, List.append_nil, hpieces]
    exact ⟨fun hmem => hnil (List.mem_of_mem_dropLast hmem), hplain⟩
  | inr hending =>
    -- the slash at the end has an empty piece behind it, and no other one is empty
    have hall : Text.pieces '/' (['/'].intercalate (segments.map String.toList) ++ ending.toList)
        = segments.map String.toList ++ [[]] := by
      rw [hending]
      show Text.pieces '/' (_ ++ '/' :: []) = _
      rw [Text.pieces_append, hpieces]
      rfl
    rw [hall, List.dropLast_concat]
    refine ⟨hnil, ?_⟩
    rw [List.forall_mem_append, List.forall_mem_singleton]
    exact ⟨hplain, rfl⟩

theorem isRoutable_iff_isSegmented (path : String) : isRoutable path = true ↔ IsSegmented path := by
  constructor
  . intro h
    obtain ⟨rest, hrest, hempty, hplain⟩ := isRoutable_iff_pieces.mp h
    by_cases hne : rest = []
    . rw [hne] at hrest
      exact .inl (String.toList_inj.mp hrest)
    . by_cases hlast : rest.getLast? = some '/'
      . obtain ⟨text, rfl⟩ := List.getLast?_eq_some_iff.mp hlast
        rw [Text.pieces_append] at hempty hplain
        rw [Text.pieces, List.dropLast_concat] at hempty
        rw [List.forall_mem_append] at hplain
        exact isSegmented_of_pieces "/" hrest (.inr rfl) hempty hplain.1
      . rw [← nil_mem_pieces_iff hne hlast] at hempty
        apply isSegmented_of_pieces "" _ (.inl rfl) hempty hplain
        rw [hrest, String.toList_empty, List.append_nil]
  . rintro (hroot | ⟨segments, ending, hne, hsegments, hending, rfl⟩)
    . rw [hroot]
      exact isRoutable_root
    . exact isRoutable_of_segments hne hsegments hending

theorem exists_of_normalize_ne {context : String} (h : normalize context ≠ "/") :
    ∃ rest,
      (normalize context).toList = '/' :: rest
        ∧
      rest ≠ [] ∧ rest.head? ≠ some '/' ∧ rest.getLast? ≠ some '/' := by
  refine ⟨_, toList_normalize context, ?_, Text.head?_trim_ne _ _, Text.getLast?_trim_ne _ _⟩
  intro hnil
  apply h
  apply String.toList_inj.mp
  rw [toList_normalize, hnil]
  rfl

/-- A text is another one with slashes put in front of it and behind it. -/
def AddsSlashes (other text : String) : Prop :=
  ∃ front behind,
    (∀ c ∈ front, c = '/') ∧ (∀ c ∈ behind, c = '/') ∧ other.toList = front ++ text.toList ++ behind

theorem normalize_of_addsSlashes {other text : String} (h : AddsSlashes other text) :
    normalize other = normalize text := by
  obtain ⟨front, behind, hfront, hbehind, heq⟩ := h
  unfold normalize normalizeChars
  rw [heq]
  rw [Text.trim_append hfront hbehind]

theorem normalize_normalize (context : String) : normalize (normalize context) = normalize context := by
  have htrim : Text.trim '/' (['/'] ++ Text.trim '/' context.toList ++ []) = Text.trim '/' context.toList := by
    rw [Text.trim_append (by simp) (by simp)]
    rw [Text.trim_trim]
  apply String.toList_inj.mp
  rw [toList_normalize, toList_normalize]
  simpa using htrim

def innerSegments (path : String) : List (List Char) :=
  (Text.pieces '/' path.toList).tail.dropLast

section Join

variable {context route : String} {start rest : List Char}

theorem pieces_append_route (hcontext : context.toList = '/' :: start) (hroute : route.toList = '/' :: rest) :
    Text.pieces '/' (context ++ route).toList = [] :: (Text.pieces '/' start ++ Text.pieces '/' rest) := by
  rw [String.toList_append, hcontext, hroute]
  rw [List.cons_append, Text.pieces_cons_self, Text.pieces_append]

theorem isRoutable_append_iff (hcontext : context.toList = '/' :: start) (hne : start ≠ [])
    (hlast : start.getLast? ≠ some '/') (hroute : route.toList = '/' :: rest) :
    isRoutable (context ++ route) = true ↔ isRoutable context = true ∧ isRoutable route = true := by
  have happend : (context ++ route).toList = '/' :: (start ++ '/' :: rest) := by
    rw [String.toList_append, hcontext, hroute]
    rfl
  have hiff {path : String} {text : List Char} (h : path.toList = '/' :: text) :
      isRoutable path = true
        ↔
      [] ∉ (Text.pieces '/' text).dropLast ∧ ∀ segment ∈ Text.pieces '/' text, isPlainSegment segment = true := by
    rw [isRoutable_iff_pieces, h]
    simp
  rw [hiff happend, hiff hcontext, hiff hroute]
  rw [Text.pieces_append]
  rw [List.dropLast_append_of_ne_nil (Text.pieces_ne_nil '/' rest)]
  rw [List.mem_append, not_or, List.forall_mem_append]
  rw [nil_mem_pieces_iff hne hlast]
  constructor
  . rintro ⟨⟨hfirst, hsecond⟩, hplain, hplain'⟩
    exact ⟨⟨hfirst, hplain⟩, hsecond, hplain'⟩
  . rintro ⟨⟨hfirst, hplain⟩, hsecond, hplain'⟩
    exact ⟨⟨hfirst, hsecond⟩, hplain, hplain'⟩

theorem innerSegments_append (hcontext : context.toList = '/' :: start) (hne : start ≠ [])
    (hlast : start.getLast? ≠ some '/') (hroute : route.toList = '/' :: rest) :
    ∃ last,
      last ≠ []
        ∧
      (Text.pieces '/' context.toList).getLast? = some last
        ∧
      innerSegments (context ++ route) = innerSegments context ++ last :: innerSegments route := by
  obtain ⟨front, last, hpieces⟩ : ∃ front last, Text.pieces '/' start = front ++ [last] :=
    ⟨_, _, (List.dropLast_concat_getLast (Text.pieces_ne_nil '/' start)).symm⟩
  have hend := Text.getLast?_pieces_ne_nil hne hlast
  rw [hpieces, List.getLast?_concat] at hend
  refine ⟨last, fun heq => hend (congrArg some heq), ?_, ?_⟩
  . rw [hcontext, Text.pieces_cons_self, hpieces]
    rw [← List.cons_append]
    exact List.getLast?_concat
  . unfold innerSegments
    rw [pieces_append_route hcontext hroute]
    rw [hcontext, hroute, Text.pieces_cons_self, Text.pieces_cons_self]
    rw [List.tail_cons, List.tail_cons, List.tail_cons]
    rw [List.dropLast_append_of_ne_nil (Text.pieces_ne_nil '/' rest)]
    rw [hpieces]
    simp

end Join

theorem join_injective (context : String) : Function.Injective (join context) := by
  intro route other h
  unfold join at h
  split at h
  . exact h
  . exact (String.append_right_inj _).mp h

/--
A context path is normalized to one form, whatever slashes are at its ends. Joined with a route it can be routed
exactly if both can, its inner segments are those of both with the last one of the context path in between, and no
other route gives the same path. The paths that can be routed are those of the grammar.
-/
theorem normalized_paths_join (context : String) :
    (normalize context = "/"
      ∨
    ∃ rest,
      (normalize context).toList = '/' :: rest
        ∧
      rest ≠ [] ∧ rest.head? ≠ some '/' ∧ rest.getLast? ≠ some '/')
      ∧
    normalize (normalize context) = normalize context
      ∧
    (∀ other, AddsSlashes other context ∨ AddsSlashes context other → normalize other = normalize context)
      ∧
    (normalize context ≠ "/" → ∀ route : String, route.toList.head? = some '/' →
      (isRoutable (join (normalize context) route) = true
        ↔
      isRoutable (normalize context) = true ∧ isRoutable route = true)
        ∧
      ∃ last,
        last ≠ []
          ∧
        (Text.pieces '/' (normalize context).toList).getLast? = some last
          ∧
        innerSegments (join (normalize context) route)
          =
        innerSegments (normalize context) ++ last :: innerSegments route)
      ∧
    (∀ route other, join (normalize context) route = join (normalize context) other → route = other)
      ∧
    ∀ path, isRoutable path = true ↔ IsSegmented path := by
  refine ⟨?_, normalize_normalize context, ?_, ?_, join_injective _, isRoutable_iff_isSegmented⟩
  . by_cases h : normalize context = "/"
    . exact .inl h
    . exact .inr (exists_of_normalize_ne h)
  . intro other h
    cases h with
    | inl h => exact normalize_of_addsSlashes h
    | inr h => exact (normalize_of_addsSlashes h).symm
  . intro hroot route hroute
    obtain ⟨start, hstart, hne, -, hlast⟩ := exists_of_normalize_ne hroot
    obtain ⟨rest, hrest⟩ := List.head?_eq_some_iff.mp hroute
    have hjoin : join (normalize context) route = normalize context ++ route := if_neg hroot
    rw [hjoin]
    exact ⟨isRoutable_append_iff hstart hne hlast hrest, innerSegments_append hstart hne hlast hrest⟩

theorem normalized_paths_join_of_notes :
    normalize "//app/v1/" = "/app/v1"
      ∧
    normalize "app/v1" = "/app/v1"
      ∧
    isRoutable (join "/app/v1" "/notes/") = true
      ∧
    isRoutable (join "/app/v1" "//notes") = false
      ∧
    innerSegments (join "/app/v1" "//notes") = ["app".toList, "v1".toList, []] := by
  have hnormal : normalize "//app/v1/" = "/app/v1" := by decide
  obtain ⟨-, -, hslashes, hjoin, -⟩ := normalized_paths_join "//app/v1/"
  rw [hnormal] at hslashes hjoin
  obtain ⟨hnotes, -⟩ := hjoin (by decide) "/notes/" (by decide)
  obtain ⟨hbroken, last, -, hlast, hinner⟩ := hjoin (by decide) "//notes" (by decide)
  refine ⟨hnormal, ?_, hnotes.mpr (by decide), ?_, ?_⟩
  . apply hslashes
    exact .inr ⟨['/', '/'], ['/'], by simp, by simp, by decide⟩
  . rw [← Bool.not_eq_true, hbroken]
    decide
  . have hv1 : some last = some "v1".toList := hlast.symm.trans (by decide)
    rw [hinner, Option.some.inj hv1]
    decide

end ServiceHost.Http.Path
