import Wiring.Settings.Words

/-!
How settings are read: what words give wins over what is given outright, which wins over the environment, which wins
over the defaults.
-/

namespace Wiring.Settings

def override? (l : Lookup) (overrides : List (String × Json)) (field : String) : Option Json :=
  Assoc.find? field overrides <|> (overrides.find? fun o => l.same o.1 field).map Prod.snd

def reservedName : String :=
  "__pydantic_self__"

def read (environment : List (String × String)) (overrides : List (String × Json)) : Except Fault Settings := do
  if Assoc.contains reservedName overrides then throw .mistyped
  let words ← Words.fromOverrides overrides
  let l ← Lookup.ofOverrides overrides
  let overrides := overrides.filter fun o => o.1 ∉ Lookup.names
  let found ← fieldNames.filterMapM fun name =>
    return (← fromEnvironment l environment name).map fun j => (name, j)
  let given := fieldNames.filterMap fun name => (override? l overrides name).map fun j => (name, j)
  let others := overrides.filter fun o => !(fieldNames.any (l.same o.1))
  let above (fs gs : List (String × Json)) := fs ++ gs.filter fun f => !Assoc.contains f.1 fs
  match build fieldNames (above words (above given found) ++ others) with
  | .accepted s => return s
  | .refused issues => throw (.refused issues)
  | .aborted _ => throw (.refused [])

end Wiring.Settings
