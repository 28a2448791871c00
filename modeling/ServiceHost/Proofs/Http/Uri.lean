import Mathlib.Data.List.TakeWhile
import ServiceHost.Http.Uri
import ServiceHost.Proofs.Text.Pieces

/-!
This module contains targets that are a path and nothing else, and the query of a target: it is what follows
the first question mark, with and without the origin in front of the path.
-/

namespace ServiceHost.Http.Uri

def IsPlain (text : String) : Prop :=
  text.utf8ByteSize ≤ maxLength ∧ ∀ c ∈ text.toList, isPathChar c = true ∧ c ≠ '\x7b' ∧ c ≠ '\x7d'

instance (text : String) : Decidable (IsPlain text) :=
  have := List.decidableBAll (fun c => isPathChar c = true ∧ c ≠ '\x7b' ∧ c ≠ '\x7d') text.toList
  inferInstanceAs (Decidable (_ ∧ _))

theorem pathAndQuery?_of_isPathChar {text : List Char} (h : ∀ c ∈ text, isPathChar c = true) :
    pathAndQuery? text = some (text, none) := by
  have hnone : ∀ c, isPathChar c = false → Text.cut? c text = none := by
    intro c hc
    apply Text.cut?_of_notMem
    intro hmem
    rw [h c hmem] at hc
    cases hc
  unfold pathAndQuery? Text.cut
  rw [hnone '#' (by decide), Option.getD_none]
  dsimp only
  rw [hnone '?' (by decide)]
  simpa using h

theorem parse?_of_isPlain {text : String} (h : IsPlain text) (hslash : text.toList.head? = some '/') :
    parse? text = some ⟨"", text, none⟩ := by
  have hsize : ¬ (text.utf8ByteSize = 0 ∨ maxLength < text.utf8ByteSize) := by
    rw [String.utf8ByteSize_eq_zero_iff, not_or, Nat.not_lt]
    refine ⟨?_, h.1⟩
    intro hempty
    rw [hempty] at hslash
    cases hslash
  have hasterisk : text.toList ≠ ['*'] := by
    intro hasterisk
    rw [hasterisk] at hslash
    cases hslash
  unfold parse?
  dsimp only
  rw [if_neg hsize, if_neg hasterisk, if_pos hslash]
  rw [pathAndQuery?_of_isPathChar fun c hc => (h.2 c hc).1]
  show some (assemble [] text.toList none) = _
  unfold assemble
  rw [String.ofList_toList]
  rfl

def queryOf (text : List Char) : Option (List Char) :=
  (Text.cut? '?' (Text.cut '#' text).1).map (·.2)

def IsFront (text : List Char) : Prop :=
  ∀ c ∈ text, c ≠ '?' ∧ c ≠ '#'

instance (text : List Char) : Decidable (IsFront text) :=
  List.decidableBAll (fun c => c ≠ '?' ∧ c ≠ '#') text

theorem queryOf_append {front : List Char} (h : IsFront front) (text : List Char) :
    queryOf (front ++ text) = queryOf text := by
  induction front with
  | nil => rfl
  | cons c front ih =>
    obtain ⟨hc, hfront⟩ := List.forall_mem_cons.mp h
    rw [← ih hfront]
    unfold queryOf Text.cut
    rw [List.cons_append, Text.cut?, if_neg hc.2]
    cases Text.cut? '#' (front ++ text) with
    | none =>
      simp only [Option.map_none, Option.getD_none, Text.cut?, if_neg hc.1, Option.map_map]
      rfl
    | some parts =>
      simp only [Option.map_some, Option.getD_some, Text.cut?, if_neg hc.1, Option.map_map]
      rfl

theorem queryOf_of_isFront {text : List Char} (h : IsFront text) : queryOf text = none := by
  rw [← List.append_nil text, queryOf_append h]
  rfl

theorem queryOf_cons {query : List Char} (h : '#' ∉ query) : queryOf ('?' :: query) = some query := by
  have hhash : '#' ∉ '?' :: query := by simpa using h
  rw [queryOf, Text.cut_of_notMem hhash]
  rfl

theorem isFront_of_isPathChar {text : List Char} (h : ∀ c ∈ text, isPathChar c = true) : IsFront text := by
  intro c hc
  constructor
  all_goals
    rintro rfl
    exact absurd (h _ hc) (by decide)

theorem isAuthorityChar_of_foldlM {text : List Char} {scan last : AuthorityScan}
    (h : text.foldlM AuthorityScan.step? scan = some last) : ∀ c ∈ text, isAuthorityChar c = true := by
  induction text generalizing scan with
  | nil => simp
  | cons c text ih =>
    rw [List.foldlM_cons] at h
    obtain ⟨next, hstep, hrest⟩ := Option.bind_eq_some_iff.mp h
    rw [List.forall_mem_cons]
    refine ⟨?_, ih hrest⟩
    unfold AuthorityScan.step? at hstep
    cases hc : isAuthorityChar c with
    | true => rfl
    | false =>
      rw [hc] at hstep
      cases hstep

theorem isFront_of_isAuthority {text : List Char} (h : isAuthority text = true) : IsFront text := by
  unfold isAuthority at h
  split at h
  . cases h
  . next last hfold =>
    intro c hc
    have hchar := isAuthorityChar_of_foldlM hfold c hc
    constructor
    all_goals
      rintro rfl
      exact absurd hchar (by decide)

structure Reads (text path : List Char) (query : Option (List Char)) : Prop where
  isPath : ∀ c ∈ path, isPathChar c = true
  eq_queryOf : query = queryOf text
  isQuery : ∀ rest ∈ query, ∀ c ∈ rest, isQueryChar c = true

theorem reads_of_pathAndQuery? {text path : List Char} {query : Option (List Char)}
    (h : pathAndQuery? text = some (path, query)) : Reads text path query := by
  unfold pathAndQuery? at h
  dsimp only at h
  have hquery : queryOf text = (Text.cut? '?' (Text.cut '#' text).1).map (·.2) := rfl
  cases hcut : Text.cut? '?' (Text.cut '#' text).1 with
  | none =>
    rw [hcut] at h hquery
    simp only [Option.ite_none_right_eq_some, Bool.and_eq_true, List.all_eq_true] at h
    obtain ⟨⟨hpath, _⟩, heq⟩ := h
    cases heq
    exact ⟨hpath, hquery.symm, fun _ hmem => by cases hmem⟩
  | some parts =>
    rw [hcut] at h hquery
    simp only [Option.ite_none_right_eq_some, Bool.and_eq_true, List.all_eq_true, Option.all_some] at h
    obtain ⟨⟨hpath, hchars⟩, heq⟩ := h
    cases heq
    exact ⟨hpath, hquery.symm, fun _ hmem => by cases hmem; exact hchars⟩

theorem scheme?_spec {text scheme rest : List Char} (h : scheme? text = some (scheme, rest)) :
    IsFront (scheme ++ "://".toList) ∧ text = scheme ++ "://".toList ++ rest := by
  unfold scheme? at h
  split at h
  . next behind hdrop =>
    cases h
    constructor
    . intro c hc
      rw [List.mem_append] at hc
      cases hc with
      | inl hc =>
        have hchar := List.mem_takeWhile_imp hc
        constructor
        all_goals
          rintro rfl
          exact absurd hchar (by decide)
      | inr hc =>
        have hmark : IsFront "://".toList := by decide
        exact hmark c hc
    . rw [List.append_assoc]
      exact (List.takeWhile_append_dropWhile.symm.trans (by rw [hdrop]; rfl))
  . cases h

theorem queryOf_drop_authorityOf (text : List Char) :
    queryOf (text.drop (authorityOf text).length) = queryOf text := by
  have hfront : IsFront (authorityOf text) := by
    intro c hc
    have hchar := List.mem_takeWhile_imp hc
    constructor
    all_goals
      rintro rfl
      exact absurd hchar (by decide)
  have htext : authorityOf text ++ text.drop (authorityOf text).length = text := by
    rw [← List.prefix_iff_eq_append]
    exact List.takeWhile_prefix _
  calc queryOf (text.drop (authorityOf text).length)
    _ = queryOf (authorityOf text ++ text.drop (authorityOf text).length) := (queryOf_append hfront _).symm
    _ = queryOf text := by rw [htext]

theorem exists_reads_of_parse? {text : String} {uri : Uri} (h : parse? text = some uri) :
    ∃ origin path query, Reads text.toList path query ∧ uri = assemble origin path query := by
  unfold parse? at h
  dsimp only at h
  split at h
  . cases h
  . split at h
    . next hasterisk =>
      cases h
      rw [hasterisk]
      exact ⟨[], ['*'], none, ⟨List.forall_mem_singleton.mpr rfl, rfl, fun _ hmem => by cases hmem⟩, rfl⟩
    . split at h
      . obtain ⟨⟨path, query⟩, hread, hrest⟩ := Option.bind_eq_some_iff.mp h
        cases hrest
        exact ⟨[], path, query, reads_of_pathAndQuery? hread, rfl⟩
      . split at h
        . next scheme rest hscheme =>
          obtain ⟨hfront, htext⟩ := scheme?_spec hscheme
          split at h
          . cases h
          . obtain ⟨⟨path, query⟩, hread, hrest⟩ := Option.bind_eq_some_iff.mp h
            cases hrest
            have hreads := reads_of_pathAndQuery? hread
            refine ⟨_, _, query, ⟨?_, ?_, hreads.isQuery⟩, rfl⟩
            . split
              . exact List.forall_mem_singleton.mpr rfl
              . exact hreads.isPath
            . rw [htext, queryOf_append hfront, ← queryOf_drop_authorityOf, hreads.eq_queryOf]
        . split at h
          . next hauthority =>
            cases h
            have hquery := queryOf_of_isFront (isFront_of_isAuthority hauthority)
            refine ⟨_, [], none, ⟨List.forall_mem_nil _, hquery.symm, ?_⟩, rfl⟩
            intro query hmem
            cases hmem
          . cases h

theorem Reads.queryOf_text {text path : List Char} {query : Option (List Char)} (h : Reads text path query) :
    queryOf (assemble [] path query).text.toList = query := by
  have hfront := isFront_of_isPathChar h.isPath
  unfold assemble Uri.text
  cases query with
  | none =>
    simpa using queryOf_of_isFront hfront
  | some query =>
    have hhash : '#' ∉ query := by
      intro hmem
      exact absurd (h.isQuery query rfl '#' hmem) (by decide)
    simpa using (queryOf_append hfront ('?' :: query)).trans (queryOf_cons hhash)

theorem query_of_parse?_text {text : String} {uri reduced : Uri} (h : parse? text = some uri)
    (hreduced : parse? ({ uri with origin := "" } : Uri).text = some reduced) : reduced.query = uri.query := by
  obtain ⟨origin, path, query, hreads, rfl⟩ := exists_reads_of_parse? h
  obtain ⟨_, _, query', hreads', rfl⟩ := exists_reads_of_parse? hreduced
  have hquery : query' = query := hreads'.eq_queryOf.trans hreads.queryOf_text
  rw [hquery]
  rfl

end ServiceHost.Http.Uri
