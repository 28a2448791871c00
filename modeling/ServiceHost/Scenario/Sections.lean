import ServiceHost.Config.Schema

/-!
This module contains the sections that scripted applications read from their configuration.
-/

namespace ServiceHost.Scenario

def greetingForm : Toml.RecordForm (Option String) where
  expected := "struct Greeting"
  fields := [.of "template" .string fun template _ => some template]
  lacking g := if g.isSome then none else some (.length 0 "struct Greeting with 1 element")
  missing g := if g.isSome then none else some (.missingField "template")

def greeting : Toml.Decoder String := fun value =>
  (greetingForm.decode true none value).map (·.getD "")

structure Pool where
  size : Int
  ratio : Float
  names : List String
  enabled : Bool
  nested : Option String

def poolForm : Toml.RecordForm Pool :=
  .lenient "struct Pool"
    [.of "size" (.integerWithin 0 255 "u8") fun x p => { p with size := x },
     .of "ratio" .float fun x p => { p with ratio := x },
     .of "names" (.list .string) fun x p => { p with names := x },
     .of "enabled" .boolean fun x p => { p with enabled := x },
     .of "nested" (.optional greeting) fun x p => { p with nested := x }]

def pool : Toml.Decoder Pool :=
  poolForm.decode true ⟨4, 0.5, ["a"], true, none⟩

def anything : Toml.Decoder Toml :=
  .any

def integer : Toml.Decoder Int :=
  .integerWithin Int64.minValue.toInt Int64.maxValue.toInt "i64"

end ServiceHost.Scenario
