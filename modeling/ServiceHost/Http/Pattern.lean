/-!
This module contains the patterns that the paths of requests are matched with. A name in braces captures
what stands up to the next slash, one that starts with an asterisk captures all that is left, and two
braces stand for one. Everything else stands for itself.
-/

namespace ServiceHost.Http

inductive PatternPart where
  | char (c : Char)
  | capture
  | remainder
  deriving DecidableEq, Repr

abbrev Pattern := List PatternPart

namespace Pattern

inductive Sign where
  | opening
  | closing
  | char (c : Char)
  deriving DecidableEq, Repr

def signs : List Char → List Sign
  | [] => []
  | '\x7b' :: '\x7b' :: rest => .char '\x7b' :: signs rest
  | '\x7d' :: '\x7d' :: rest => .char '\x7d' :: signs rest
  | '\x7b' :: rest => .opening :: signs rest
  | '\x7d' :: rest => .closing :: signs rest
  | c :: rest => .char c :: signs rest

inductive Place where
  | outside
  | opened
  /-- Within a name; `part` is what it captures, and `more` whether anything stands behind its first sign. -/
  | named (part : PatternPart) (more : Bool)
  | closed (part : PatternPart)

/--
Reads the signs from a place on. The first sign of a name may be any but a closing brace, doubled or not;
the others are neither slashes nor asterisks. A capture ends its segment, the remainder the pattern.
-/
def ofSigns? : Place → List Sign → Option Pattern
  | .outside, [] => some []
  | .outside, .char c :: rest => (ofSigns? .outside rest).map (.char c :: ·)
  | .outside, .opening :: rest => ofSigns? .opened rest
  | .outside, .closing :: _ => none
  | .opened, [] => none
  | .opened, .closing :: _ => none
  | .opened, .opening :: rest => ofSigns? (.named .capture false) rest
  | .opened, .char c :: rest =>
    if c = '\x7d' then none
    else ofSigns? (.named (if c = '*' then .remainder else .capture) false) rest
  | .named _ _, [] => none
  | .named part more, .closing :: rest =>
    if part = .remainder ∧ !more then none else (ofSigns? (.closed part) rest).map (part :: ·)
  | .named part _, .opening :: rest => ofSigns? (.named part true) rest
  | .named part _, .char c :: rest =>
    if c = '*' ∨ c = '/' then none else ofSigns? (.named part true) rest
  | .closed _, [] => some []
  | .closed part, .char c :: rest =>
    if c = '/' ∧ part = .capture then (ofSigns? .outside rest).map (.char c :: ·) else none
  | .closed _, _ :: _ => none

def maxCaptures : Nat := 25

def ofText? (text : List Char) : Option Pattern :=
  match ofSigns? .outside (signs text) with
  | none => none
  | some pattern => if pattern.count .capture ≤ maxCaptures then some pattern else none

/-- Whether a path matches. A capture may be empty, but not at the end of the path. -/
def accepts : Pattern → List Char → Bool
  | [], path => path.isEmpty
  | .char _ :: _, [] => false
  | .char c :: pattern, x :: path => c == x && accepts pattern path
  | .capture :: pattern, path => !path.isEmpty && accepts pattern (path.dropWhile (· != '/'))
  | .remainder :: _, path => !path.isEmpty

end Pattern

end ServiceHost.Http
