import ServiceHost.Text.Split

/-!
This module contains request targets: the path and the query that routing and endpoints see, and
what stands in front of them when a target is absolute. A fragment is dropped.
-/

namespace ServiceHost.Http

structure Uri where
  origin : String
  path : String
  query : Option String
  deriving DecidableEq, Repr

namespace Uri

def text (uri : Uri) : String :=
  uri.origin ++ uri.path ++ (match uri.query with | some query => "?" ++ query | none => "")

def isPathChar (c : Char) : Bool :=
  let n := c.toNat
  n == 0x21 || decide (0x24 ≤ n ∧ n ≤ 0x3B) || n == 0x3D || decide (0x40 ≤ n ∧ n ≤ 0x5F) ||
    decide (0x61 ≤ n ∧ n ≤ 0x7A) || n == 0x7C || n == 0x7E || n == 0x22 || n == 0x7B || n == 0x7D ||
    decide (0x80 ≤ n)

def isQueryChar (c : Char) : Bool :=
  let n := c.toNat
  n == 0x21 || decide (0x24 ≤ n ∧ n ≤ 0x3B) || n == 0x3D || decide (0x3F ≤ n ∧ n ≤ 0x7E) ||
    decide (0x80 ≤ n)

def pathAndQuery? (text : List Char) : Option (List Char × Option (List Char)) :=
  let whole := (Text.cut '#' text).1
  let (path, query) := match Text.cut? '?' whole with
    | some (path, query) => (path, some query)
    | none => (whole, none)
  if path.all isPathChar && query.all (·.all isQueryChar) then some (path, query) else none

def isAuthorityChar (c : Char) : Bool :=
  c.isAlphanum || "-._~!$&'()*+,;=:@[]%".toList.contains c

structure AuthorityScan where
  colons : Nat
  opened : Bool
  closed : Bool
  percent : Bool
  deriving DecidableEq, Repr

namespace AuthorityScan

def start : AuthorityScan :=
  ⟨0, false, false, false⟩

def maxColons : Nat := 8

/--
Goes over a character. What stands before an at sign is the user's, what stands in brackets is an address;
neither counts for the host's own colons and percent signs.
-/
def step? (scan : AuthorityScan) (c : Char) : Option AuthorityScan :=
  if !isAuthorityChar c then
    none
  else if c = ':' then
    if scan.colons < maxColons then some { scan with colons := scan.colons + 1 } else none
  else if c = '[' then
    if scan.percent || scan.opened then none else some { scan with opened := true }
  else if c = ']' then
    if !scan.opened || scan.closed then none
    else some { scan with closed := true, colons := 0, percent := false }
  else if c = '@' then
    some { scan with colons := 0, percent := false }
  else if c = '%' then
    some { scan with percent := true }
  else
    some scan

end AuthorityScan

def isAuthority (text : List Char) : Bool :=
  match text.foldlM AuthorityScan.step? AuthorityScan.start with
  | none => false
  | some scan =>
    text ≠ [] && text.getLast? ≠ some '@' && scan.opened == scan.closed && decide (scan.colons ≤ 1) &&
      !scan.percent

def isSchemeChar (c : Char) : Bool :=
  c.isAlphanum || c == '+' || c == '-' || c == '.' || c == '~'

def scheme? (text : List Char) : Option (List Char × List Char) :=
  match text.dropWhile isSchemeChar with
  | ':' :: '/' :: '/' :: rest => some (text.takeWhile isSchemeChar, rest)
  | _ => none

def schemeText (scheme : List Char) : List Char :=
  let lower := scheme.map Char.toLower
  if lower = "http".toList ∨ lower = "https".toList then lower else scheme

def authorityOf (text : List Char) : List Char :=
  text.takeWhile fun c => c != '/' && c != '?' && c != '#'

def assemble (origin path : List Char) (query : Option (List Char)) : Uri :=
  ⟨.ofList origin, .ofList path, query.map .ofList⟩

def maxLength : Nat := 65534

def maxSchemeLength : Nat := 64

def parse? (text : String) : Option Uri :=
  let chars := text.toList
  if text.utf8ByteSize = 0 ∨ maxLength < text.utf8ByteSize then
    none
  else if chars = ['*'] then
    some (assemble [] ['*'] none)
  else if chars.head? = some '/' then do
    let (path, query) ← pathAndQuery? chars
    return assemble [] path query
  else
    match scheme? chars with
    | some (scheme, rest) => do
      let authority := authorityOf rest
      if maxSchemeLength < scheme.length ∨ !isAuthority authority then
        none
      let (path, query) ← pathAndQuery? (rest.drop authority.length)
      let origin := schemeText scheme ++ "://".toList ++ authority
      return assemble origin (if path = [] then ['/'] else path) query
    | none => if isAuthority chars then some (assemble chars [] none) else none

end Uri

end ServiceHost.Http
