import ServiceHost.Http.Pattern

/-!
This module contains the patterns that texts are read as: one without braces matches itself and nothing
else, and so does one whose braces are doubled match the text that it was made of.
-/

namespace ServiceHost.Http
namespace Pattern

def IsLiteral (text : List Char) : Prop :=
  ∀ c ∈ text, c ≠ '\x7b' ∧ c ≠ '\x7d'

instance (text : List Char) : Decidable (IsLiteral text) :=
  List.decidableBAll (fun c => c ≠ '\x7b' ∧ c ≠ '\x7d') text

theorem signs_of_isLiteral {text : List Char} (h : IsLiteral text) : signs text = text.map .char := by
  fun_induction signs text with
  | case1 => rfl
  | case2 rest ih => exact absurd rfl (h _ List.mem_cons_self).1
  | case3 rest ih => exact absurd rfl (h _ List.mem_cons_self).2
  | case4 rest hne ih => exact absurd rfl (h _ List.mem_cons_self).1
  | case5 rest hne ih => exact absurd rfl (h _ List.mem_cons_self).2
  | case6 c rest h₁ h₂ h₃ h₄ ih =>
    rw [List.map_cons, ih]
    intro d hd
    exact h d (List.mem_cons_of_mem c hd)

theorem ofSigns?_map_char (text : List Char) :
    ofSigns? .outside (text.map .char) = some (text.map .char) := by
  induction text with
  | nil => rfl
  | cons c rest ih => simp [ofSigns?, ih]

theorem count_capture_map_char (text : List Char) :
    List.count PatternPart.capture (text.map .char) = 0 := by
  simp [List.count_eq_zero]

theorem ofText?_of_isLiteral {text : List Char} (h : IsLiteral text) :
    ofText? text = some (text.map .char) := by
  unfold ofText?
  rw [signs_of_isLiteral h, ofSigns?_map_char]
  simp [count_capture_map_char]

theorem accepts_map_char (text path : List Char) :
    accepts (text.map .char) path = (text == path) := by
  induction text generalizing path with
  | nil => cases path <;> rfl
  | cons c rest ih =>
    cases path with
    | nil => rfl
    | cons x path => simp [accepts, ih]

def escapeChar (c : Char) : List Char :=
  if c = '\x7b' ∨ c = '\x7d' then [c, c] else [c]

def escape (path : List Char) : List Char :=
  path.flatMap escapeChar

/-- A text is a path with its braces doubled. -/
def IsEscaped (text : List Char) : Prop :=
  ∃ path, text = escape path

@[simp]
theorem escape_nil : escape [] = [] := by
  rfl

theorem escape_cons (c : Char) (path : List Char) : escape (c :: path) = escapeChar c ++ escape path := by
  rfl

theorem escape_cons_of_ne {c : Char} (h : c ≠ '\x7b' ∧ c ≠ '\x7d') (path : List Char) :
    escape (c :: path) = c :: escape path := by
  simp [escape_cons, escapeChar, h]

theorem escape_append (before after : List Char) :
    escape (before ++ after) = escape before ++ escape after := by
  simp [escape]

theorem escape_of_isLiteral {path : List Char} (h : IsLiteral path) : escape path = path := by
  induction path with
  | nil => rfl
  | cons c path ih =>
    rw [escape_cons_of_ne (h c List.mem_cons_self), ih]
    intro d hd
    exact h d (List.mem_cons_of_mem c hd)

theorem signs_cons_of_ne {c : Char} (h : c ≠ '\x7b' ∧ c ≠ '\x7d') (rest : List Char) :
    signs (c :: rest) = .char c :: signs rest := by
  obtain ⟨hopening, hclosing⟩ := h
  rw [signs]
  . intro _ heq
    exact absurd heq hopening
  . intro _ heq
    exact absurd heq hclosing
  . exact hopening
  . exact hclosing

theorem signs_escape (path : List Char) : signs (escape path) = path.map .char := by
  induction path with
  | nil => rfl
  | cons c path ih =>
    by_cases h : c = '\x7b' ∨ c = '\x7d'
    . rw [escape_cons, escapeChar, if_pos h]
      cases h with
      | inl h => simp [h, signs, ih]
      | inr h => simp [h, signs, ih]
    . rw [not_or] at h
      rw [escape_cons_of_ne h, signs_cons_of_ne h, ih, List.map_cons]

theorem escape_injective {a b : List Char} (h : escape a = escape b) : a = b := by
  have hsigns : a.map Sign.char = b.map Sign.char := by
    rw [← signs_escape, ← signs_escape, h]
  rw [List.map_inj_right] at hsigns
  . exact hsigns
  . intro c d hcd
    injection hcd

theorem ofText?_escape (path : List Char) : ofText? (escape path) = some (path.map .char) := by
  unfold ofText?
  rw [signs_escape, ofSigns?_map_char]
  simp [count_capture_map_char]

theorem isEscaped_of_ofSigns? {text : List Char} {pattern : Pattern} (hopening : '\x7b' ∉ text)
    (h : ofSigns? .outside (signs text) = some pattern) : IsEscaped text := by
  fun_induction signs text generalizing pattern with
  | case1 => exact ⟨[], rfl⟩
  | case2 rest ih => simp at hopening
  | case3 rest ih =>
    rw [ofSigns?, Option.map_eq_some_iff] at h
    obtain ⟨_, hrest, -⟩ := h
    obtain ⟨path, rfl⟩ := ih (by simpa using hopening) hrest
    exact ⟨'\x7d' :: path, rfl⟩
  | case4 rest hne ih => simp at hopening
  | case5 rest hne ih => simp [ofSigns?] at h
  | case6 c rest h₁ h₂ h₃ h₄ ih =>
    rw [ofSigns?, Option.map_eq_some_iff] at h
    obtain ⟨_, hrest, -⟩ := h
    rw [List.mem_cons, not_or] at hopening
    obtain ⟨path, rfl⟩ := ih hopening.2 hrest
    exact ⟨c :: path, (escape_cons_of_ne ⟨h₃, h₄⟩ path).symm⟩

theorem isSome_ofText?_iff {text : List Char} (hopening : '\x7b' ∉ text) :
    (ofText? text).isSome ↔ IsEscaped text := by
  constructor
  . intro h
    unfold ofText? at h
    split at h
    . cases h
    . next pattern hpattern => exact isEscaped_of_ofSigns? hopening hpattern
  . rintro ⟨path, rfl⟩
    rw [ofText?_escape]
    rfl

theorem isEscaped_of_isLiteral {text : List Char} (h : IsLiteral text) : IsEscaped text :=
  ⟨text, (escape_of_isLiteral h).symm⟩

theorem exists_of_append_eq_escape {before after path : List Char}
    (h : before ++ '/' :: after = escape path) :
    ∃ first second, before = escape first ∧ '/' :: after = escape second := by
  induction path generalizing before with
  | nil => simp at h
  | cons c path ih =>
    -- the first character of the path is the first of `before`, or that one is empty
    by_cases hc : c = '\x7b' ∨ c = '\x7d'
    . rw [escape_cons, escapeChar, if_pos hc] at h
      match before with
      | [] =>
        injection h with hslash
        simp [← hslash] at hc
      | [_] =>
        injection h with _ h
        injection h with hslash
        simp [← hslash] at hc
      | x :: y :: before =>
        simp only [List.cons_append, List.nil_append, List.cons.injEq] at h
        obtain ⟨hx, hy, h⟩ := h
        obtain ⟨first, second, hfirst, hsecond⟩ := ih h
        refine ⟨c :: first, second, ?_, hsecond⟩
        rw [escape_cons, escapeChar, if_pos hc, hx, hy, hfirst]
        rfl
    . rw [not_or] at hc
      match before with
      | [] => exact ⟨[], c :: path, rfl, h⟩
      | x :: before =>
        rw [escape_cons_of_ne hc, List.cons_append, List.cons.injEq] at h
        obtain ⟨first, second, hfirst, hsecond⟩ := ih h.2
        refine ⟨c :: first, second, ?_, hsecond⟩
        rw [escape_cons_of_ne hc, h.1, hfirst]

theorem isEscaped_append_iff (before after : List Char) :
    IsEscaped (before ++ '/' :: after) ↔ IsEscaped before ∧ IsEscaped ('/' :: after) := by
  constructor
  . rintro ⟨path, h⟩
    obtain ⟨first, second, hfirst, hsecond⟩ := exists_of_append_eq_escape h
    exact ⟨⟨first, hfirst⟩, ⟨second, hsecond⟩⟩
  . rintro ⟨⟨first, hfirst⟩, ⟨second, hsecond⟩⟩
    exact ⟨first ++ second, by rw [escape_append, hfirst, hsecond]⟩

end Pattern
end ServiceHost.Http
