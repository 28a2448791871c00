import ServiceHost.Log.Event
import ServiceHost.Text.Alphanumeric
import ServiceHost.Text.Split

/-!
This module contains the filter that decides which events are written. It is read from directives, all of
which have to be readable; of the directives whose logger is a prefix of the logger of an event, the longest
one counts.
-/

namespace ServiceHost.Log

structure Filter where
  root : Level
  targets : List (String × Level)

namespace Filter

def levelOfWord? (word : List Char) : Option Level :=
  [Level.trace, .debug, .info, .warn, .error, .off].find? fun level =>
    level.directive.toList == word

def canStart (c : Char) : Bool :=
  Text.isAlphanumeric c || c == '-' || c == ':' || c == '_'

/--
Adds one directive: `logger=level`, a level for the root, or a logger of which everything is written. `none`
when it is none of these.
-/
def addDirective? (filter : Filter) (piece : List Char) : Option Filter :=
  if !piece.head?.any canStart then
    none
  else
    match Text.cut? '=' piece with
    | some (logger, word) =>
      (levelOfWord? word).map fun level =>
        { filter with targets := filter.targets ++ [(.ofList logger, level)] }
    | none =>
      match levelOfWord? piece with
      | some level => some { filter with root := level }
      | none => some { filter with targets := filter.targets ++ [(.ofList piece, .trace)] }

/-- The filter of some directives, if all of them are; without one for the root only errors count there. -/
def ofDirectives? (text : String) : Option Filter :=
  (Text.pieces ',' text.toList).foldlM addDirective? ⟨.error, []⟩

def ofRoot (root : Level) : Filter :=
  ⟨root, []⟩

def closer (best : Option (String × Level)) (entry : String × Level) : Option (String × Level) :=
  match best with
  | none => some entry
  | some found => if found.1.length ≤ entry.1.length then some entry else some found

def enforced (filter : Filter) (logger : String) : Level :=
  let applying := filter.targets.filter fun (target, _) => target.toList.isPrefixOf logger.toList
  match applying.foldl closer none with
  | some (_, level) => level
  | none => filter.root

def admits (filter : Filter) (event : Event) : Bool :=
  decide ((filter.enforced event.source.target).rank ≤ event.severity.level.rank)

end Filter

end ServiceHost.Log
