import ServiceHost.Text.Split

/-!
This module contains route paths: which of them can be routed literally, the context path that a
group of routes is served under, and the public path of a route under a context path.
-/

namespace ServiceHost.Http.Path

def root : String := "/"

def hasEmptySegment : List Char → Bool
  | [] => false
  | [_] => false
  | a :: b :: rest => (a == '/' && b == '/') || hasEmptySegment (b :: rest)

def isPlainSegment (segment : List Char) : Bool :=
  segment.head? != some ':' && segment.head? != some '*' && !segment.contains '\x7b'

def isRoutableChars (path : List Char) : Bool :=
  path.head? == some '/' && !hasEmptySegment path && (Text.pieces '/' path).all isPlainSegment

def isRoutable (path : String) : Bool :=
  isRoutableChars path.toList

def normalizeChars (path : List Char) : List Char :=
  '/' :: Text.trim '/' path

def normalize (path : String) : String :=
  .ofList (normalizeChars path.toList)

def join (context route : String) : String :=
  if context = root then route else context ++ route

end ServiceHost.Http.Path
