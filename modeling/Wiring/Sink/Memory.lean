import Wiring.Plan

/-!
A sink that keeps units in memory, in the order they came. No two units share a name.
-/

namespace Wiring

structure MemorySink where
  units : List (String × SourceUnit) := []

namespace MemorySink

def add (s : MemorySink) (u : SourceUnit) : Except String MemorySink :=
  if Assoc.contains u.name s.units then .error u.name
  else .ok { units := Assoc.put u.name u s.units }

def addAll (s : MemorySink) (us : List SourceUnit) : Except String MemorySink :=
  us.foldlM add s

def get? (s : MemorySink) (name : String) : Option SourceUnit :=
  Assoc.find? name s.units

def names (s : MemorySink) : List String :=
  s.units.map Prod.fst

def duplicateMessage (name : String) : String :=
  "Source unit " ++ name ++ " was already added"

end MemorySink

end Wiring
