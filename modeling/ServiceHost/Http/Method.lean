/-!
This module contains request methods and the ones among them that routes can be bound to.
-/

namespace ServiceHost.Http

inductive Method where
  | get | post | put | delete | head | options | connect | patch | trace
  | extension (token : String)
  deriving DecidableEq, Repr

namespace Method

def standard : List Method :=
  [.get, .post, .put, .delete, .head, .options, .connect, .patch, .trace]

def name : Method → String
  | .get => "GET"
  | .post => "POST"
  | .put => "PUT"
  | .delete => "DELETE"
  | .head => "HEAD"
  | .options => "OPTIONS"
  | .connect => "CONNECT"
  | .patch => "PATCH"
  | .trace => "TRACE"
  | .extension token => token

def tokenMarks : List Char :=
  "!#$%&'*+-.^_|~".toList ++ [Char.ofNat 0x60]

def isTokenChar (c : Char) : Bool :=
  c.isAlphanum || tokenMarks.contains c

def ofName? (text : String) : Option Method :=
  match standard.find? (·.name = text) with
  | some m => some m
  | none =>
    if text.toList ≠ [] ∧ text.toList.all isTokenChar then some (.extension text) else none

def isRoutable : Method → Bool
  | .extension _ => false
  | _ => true

end Method

end ServiceHost.Http
