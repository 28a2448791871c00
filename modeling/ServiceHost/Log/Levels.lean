import ServiceHost.Keyed
import ServiceHost.Log.Level
import ServiceHost.Text.Blank

/-!
This module contains the levels in force: one for the root, and overrides for single loggers. Their
number is limited, and only names that can stand in a filter directive can have one.
-/

namespace ServiceHost.Log

def rootLogger : String := "ROOT"

def maxOverrides : Nat := 256

def directiveMarks : List Char :=
  ['=', ',', '[', ']', '\x7b', '\x7d']

def isDynamic (name : String) : Bool :=
  name.toList ≠ [] && name.toList.all fun c => !Text.isBlank c && !directiveMarks.contains c

structure Levels where
  root : Level
  overrides : Keyed Level

inductive Setting where
  | accepted (levels : Levels)
  | unsupported
  | full

namespace Levels

def new (root : Level) : Levels :=
  ⟨root, .empty⟩

def level? (logger : String) (levels : Levels) : Option Level :=
  if logger = rootLogger then
    some levels.root
  else if isDynamic logger then
    some ((levels.overrides.find? logger).getD levels.root)
  else
    none

def set (logger : String) (level : Level) (levels : Levels) : Setting :=
  if logger = rootLogger then
    .accepted { levels with root := level }
  else if isDynamic logger then
    if maxOverrides ≤ levels.overrides.length ∧ ¬ levels.overrides.contains logger then
      .full
    else
      .accepted { levels with overrides := levels.overrides.insert logger level }
  else
    .unsupported

def overrideDirective (entry : String × Level) : String :=
  entry.1 ++ "=" ++ entry.2.directive

def directives (levels : Levels) : String :=
  ",".intercalate (levels.root.directive :: levels.overrides.map overrideDirective)

end Levels

end ServiceHost.Log
