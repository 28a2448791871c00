import Mathlib.Data.List.Infix
import ServiceHost.Http.Router
import ServiceHost.Proofs.Http.Pattern
import ServiceHost.Proofs.Text.Pieces

/-!
This module contains what a path that can be routed is made of, and where a table serves it.
-/

namespace ServiceHost.Http

namespace Path

theorem isRoutable_root : isRoutable root = true := by
  decide

theorem exists_normalize (context : String) : ∃ start, (normalize context).toList = '/' :: start := by
  unfold normalize normalizeChars
  rw [String.toList_ofList]
  exact ⟨_, rfl⟩

theorem exists_of_isRoutable {path : String} (h : isRoutable path = true) :
    ∃ rest, path.toList = '/' :: rest ∧ rest.head? ≠ some '/' := by
  unfold isRoutable isRoutableChars at h
  simp only [Bool.and_eq_true, beq_iff_eq, Bool.not_eq_true'] at h
  obtain ⟨⟨hhead, hempty⟩, -⟩ := h
  cases hpath : path.toList with
  | nil => simp [hpath] at hhead
  | cons c rest =>
    rw [hpath] at hhead hempty
    injection hhead with hslash
    subst hslash
    refine ⟨rest, rfl, ?_⟩
    cases rest with
    | nil => simp
    | cons d rest =>
      simp only [hasEmptySegment, Bool.or_eq_false_iff, Bool.and_eq_false_iff] at hempty
      simpa using hempty.1

theorem head?_join {context path : String} (hcontext : isRoutable context = true)
    (hpath : isRoutable path = true) : (join context path).toList.head? = some '/' := by
  obtain ⟨start, hstart, -⟩ := exists_of_isRoutable hcontext
  obtain ⟨rest, hrest, -⟩ := exists_of_isRoutable hpath
  unfold join
  split
  . simp [hrest]
  . simp [hstart]

theorem ne_empty_of_isRoutable {path : String} (h : isRoutable path = true) : path ≠ "" := by
  rintro rfl
  cases h

theorem isPlainSegment_of_isRoutable {path : String} (h : isRoutable path = true) :
    ∀ segment ∈ Text.pieces '/' path.toList, isPlainSegment segment = true := by
  unfold isRoutable isRoutableChars at h
  simp only [Bool.and_eq_true] at h
  exact List.all_eq_true.mp h.2

theorem isPlainSegment_of_isLiteral {path : List Char} (hliteral : Pattern.IsLiteral path)
    (h : ∀ segment ∈ Text.pieces '/' path, segment.head? ≠ some ':' ∧ segment.head? ≠ some '*') :
    ∀ segment ∈ Text.pieces '/' path, isPlainSegment segment = true := by
  intro segment hsegment
  have hbrace : '\x7b' ∉ segment := by
    intro hmem
    exact (hliteral _ (Text.mem_of_mem_pieces hsegment hmem)).1 rfl
  unfold isPlainSegment
  simp [h segment hsegment, hbrace]

theorem opening_notMem_of_isPlainSegment {segment : List Char} (h : isPlainSegment segment = true) :
    '\x7b' ∉ segment := by
  unfold isPlainSegment at h
  simp only [Bool.and_eq_true] at h
  simpa using h.2

theorem opening_notMem_of_isRoutable {path : String} (h : isRoutable path = true) :
    '\x7b' ∉ path.toList := by
  intro hmem
  have hslash : '\x7b' ≠ '/' := by decide
  obtain ⟨segment, hsegment, hbrace⟩ := Text.exists_mem_pieces hslash hmem
  exact opening_notMem_of_isPlainSegment (isPlainSegment_of_isRoutable h segment hsegment) hbrace

theorem hasEmptySegment_iff (path : List Char) :
    hasEmptySegment path = true ↔ [] ∈ (Text.pieces '/' path).tail.dropLast := by
  induction path with
  | nil => simp [hasEmptySegment, Text.pieces]
  | cons a path ih =>
    cases path with
    | nil =>
      unfold Text.pieces
      split <;> simp [hasEmptySegment, Text.pieces]
    | cons b path =>
      obtain ⟨first, others, hpieces⟩ := List.exists_cons_of_ne_nil (Text.pieces_ne_nil '/' path)
      rw [hasEmptySegment, Bool.or_eq_true, Bool.and_eq_true, beq_iff_eq, beq_iff_eq, ih]
      by_cases ha : a = '/'
      . by_cases hb : b = '/'
        . simp [ha, hb, Text.pieces, hpieces]
        . cases others with
          | nil => simp [ha, hb, Text.pieces, hpieces]
          | cons second others => simp [ha, hb, Text.pieces, hpieces]
      . by_cases hb : b = '/'
        . simp [ha, hb, Text.pieces, hpieces]
        . simp [ha, hb, Text.pieces, hpieces]

theorem isPlainSegment_iff {segment : List Char} :
    isPlainSegment segment = true
      ↔
    segment.head? ≠ some ':' ∧ segment.head? ≠ some '*' ∧ '\x7b' ∉ segment := by
  unfold isPlainSegment
  simp [and_assoc]

theorem toList_normalize (context : String) :
    (normalize context).toList = '/' :: Text.trim '/' context.toList := by
  unfold normalize normalizeChars
  rw [String.toList_ofList]

/--
A path is the root, or it has segments behind its first slash, none of which is empty or stands for anything but
itself.
-/
def HasSegments (path : String) : Prop :=
  path = "/"
    ∨
  ∃ rest,
    path.toList = '/' :: rest
      ∧
    ∀ segment ∈ Text.pieces '/' rest,
      segment ≠ [] ∧ segment.head? ≠ some ':' ∧ segment.head? ≠ some '*' ∧ '\x7b' ∉ segment

theorem isRoutable_iff_pieces {path : String} :
    isRoutable path = true
      ↔
    ∃ rest,
      path.toList = '/' :: rest
        ∧
      [] ∉ (Text.pieces '/' rest).dropLast
        ∧
      ∀ segment ∈ Text.pieces '/' rest, isPlainSegment segment = true := by
  unfold isRoutable isRoutableChars
  rw [Bool.and_eq_true, Bool.and_eq_true, Bool.not_eq_true', ← Bool.not_eq_true, beq_iff_eq]
  rw [hasEmptySegment_iff, List.all_eq_true, List.head?_eq_some_iff]
  constructor
  . rintro ⟨⟨⟨rest, hrest⟩, hempty⟩, hplain⟩
    rw [hrest, Text.pieces_cons_self] at hempty hplain
    exact ⟨rest, hrest, hempty, (List.forall_mem_cons.mp hplain).2⟩
  . rintro ⟨rest, hrest, hempty, hplain⟩
    rw [hrest, Text.pieces_cons_self]
    exact ⟨⟨⟨rest, rfl⟩, hempty⟩, List.forall_mem_cons.mpr ⟨rfl, hplain⟩⟩

theorem nil_mem_pieces_iff {rest : List Char} (hne : rest ≠ []) (hlast : rest.getLast? ≠ some '/') :
    [] ∈ Text.pieces '/' rest ↔ [] ∈ (Text.pieces '/' rest).dropLast := by
  constructor
  . intro hmem
    exact List.mem_dropLast_of_mem_of_ne_getLast? hmem (Ne.symm (Text.getLast?_pieces_ne_nil hne hlast))
  . exact List.mem_of_mem_dropLast

theorem isRoutable_normalize_iff (context : String) :
    isRoutable (normalize context) = true ↔ HasSegments (normalize context) := by
  have hlist := toList_normalize context
  constructor
  . intro hroutable
    obtain ⟨rest, hrest, hempty, hplain⟩ := isRoutable_iff_pieces.mp hroutable
    by_cases hne : rest = []
    . rw [hne] at hrest
      exact .inl (String.toList_inj.mp hrest)
    . refine .inr ⟨rest, hrest, ?_⟩
      have hlast := Text.getLast?_trim_ne '/' context.toList
      rw [← (List.cons.inj (hlist.symm.trans hrest)).2] at hempty hne hplain ⊢
      rw [← nil_mem_pieces_iff hne hlast] at hempty
      intro segment hsegment
      exact ⟨fun heq => hempty (heq ▸ hsegment), isPlainSegment_iff.mp (hplain segment hsegment)⟩
  . rintro (hroot | ⟨rest, hrest, hsegments⟩)
    . rw [hroot]
      exact isRoutable_root
    . rw [isRoutable_iff_pieces]
      refine ⟨rest, hrest, ?_, ?_⟩
      . intro hempty
        exact (hsegments [] (List.mem_of_mem_dropLast hempty)).1 rfl
      . intro segment hsegment
        exact isPlainSegment_iff.mpr (hsegments segment hsegment).2

end Path

theorem ContextSegment.isForbidden_of_isPlainSegment {segment : List Char}
    (h : Path.isPlainSegment segment = true) : isForbidden segment = false := by
  have hopening := Path.opening_notMem_of_isPlainSegment h
  have htake : segment.take 2 ≠ ['\x7b', '*'] := by
    intro htake
    apply hopening
    apply List.mem_of_mem_take (i := 2)
    rw [htake]
    exact List.mem_cons_self
  unfold Path.isPlainSegment at h
  simp only [Bool.and_eq_true, bne_iff_ne] at h
  simp [isForbidden, h.1.1, h.1.2, htake]

namespace RouteTable

variable {ε : Type} {table : RouteTable ε}

theorem servedPath_of_root (h : table.context = Path.root) (path : String) :
    table.servedPath path = path := by
  unfold servedPath publicPath Path.join
  rw [h]
  split
  . next hpath => exact hpath.symm
  . rfl

theorem servedPath_rootPath (table : RouteTable ε) : table.servedPath Path.root = table.context := by
  unfold servedPath
  rw [if_pos rfl]

theorem servedPath_of_ne_root {path : String} (h : path ≠ Path.root) :
    table.servedPath path = Path.join table.context path := by
  unfold servedPath publicPath
  rw [if_neg h]

theorem servedPath_of_ne {path : String} (hcontext : table.context ≠ Path.root) (hpath : path ≠ Path.root) :
    table.servedPath path = table.context ++ path := by
  rw [servedPath_of_ne_root hpath, Path.join, if_neg hcontext]

theorem eq_of_servedPath_eq (table : RouteTable ε) {a b : String} (ha : a ≠ "") (hb : b ≠ "")
    (h : table.servedPath a = table.servedPath b) : a = b := by
  by_cases hcontext : table.context = Path.root
  . rw [servedPath_of_root hcontext, servedPath_of_root hcontext] at h
    exact h
  . have hne : ∀ path, path ≠ "" → table.context ++ path ≠ table.context := by
      intro path hpath heq
      rw [String.append_eq_left_iff] at heq
      exact hpath heq
    by_cases hroot : a = Path.root
    . by_cases hroot' : b = Path.root
      . rw [hroot, hroot']
      . rw [hroot, servedPath_rootPath, servedPath_of_ne hcontext hroot'] at h
        exact absurd h.symm (hne b hb)
    . by_cases hroot' : b = Path.root
      . rw [hroot', servedPath_rootPath, servedPath_of_ne hcontext hroot] at h
        exact absurd h (hne a ha)
      . rw [servedPath_of_ne hcontext hroot, servedPath_of_ne hcontext hroot'] at h
        exact (String.append_right_inj _).mp h

theorem opening_notMem_servedPath {path : String} (hcontext : Path.isRoutable table.context = true)
    (hpath : Path.isRoutable path = true) : '\x7b' ∉ (table.servedPath path).toList := by
  have hnone := Path.opening_notMem_of_isRoutable hcontext
  have hnone' := Path.opening_notMem_of_isRoutable hpath
  by_cases hroot : table.context = Path.root
  . rw [servedPath_of_root hroot]
    exact hnone'
  . by_cases hroot' : path = Path.root
    . rw [hroot', servedPath_rootPath]
      exact hnone
    . rw [servedPath_of_ne hroot hroot', String.toList_append, List.mem_append, not_or]
      exact ⟨hnone, hnone'⟩

theorem isEscaped_root : Pattern.IsEscaped Path.root.toList := by
  apply Pattern.isEscaped_of_isLiteral
  decide

theorem isEscaped_servedPath_iff {path : String} (hpath : Path.isRoutable path = true) :
    Pattern.IsEscaped (table.servedPath path).toList
      ↔
    Pattern.IsEscaped table.context.toList ∧ Pattern.IsEscaped path.toList := by
  by_cases hroot : table.context = Path.root
  . rw [servedPath_of_root hroot, hroot]
    simp [isEscaped_root]
  . by_cases hroot' : path = Path.root
    . rw [hroot', servedPath_rootPath]
      simp [isEscaped_root]
    . obtain ⟨rest, hrest, -⟩ := Path.exists_of_isRoutable hpath
      rw [servedPath_of_ne hroot hroot', String.toList_append, hrest]
      exact Pattern.isEscaped_append_iff _ _

theorem forbidden_of_isPlainSegment {rest : List Char} (hcontext : table.context.toList = '/' :: rest)
    (h : ∀ segment ∈ Text.pieces '/' table.context.toList, Path.isPlainSegment segment = true) :
    table.contextSegments.any ContextSegment.isForbidden = false := by
  unfold contextSegments
  split
  . rfl
  . rw [hcontext] at h ⊢
    rw [List.any_eq_false]
    intro segment hsegment
    rw [Bool.not_eq_true]
    apply ContextSegment.isForbidden_of_isPlainSegment
    apply h
    rw [Text.pieces, if_pos rfl]
    exact List.mem_cons_of_mem _ hsegment

theorem forbidden_of_isRoutable (h : Path.isRoutable table.context = true) :
    table.contextSegments.any ContextSegment.isForbidden = false := by
  obtain ⟨rest, hrest, -⟩ := Path.exists_of_isRoutable h
  exact forbidden_of_isPlainSegment hrest (Path.isPlainSegment_of_isRoutable h)

end RouteTable
end ServiceHost.Http
