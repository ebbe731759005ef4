import NamedParams.Entries
import NamedParams.Raw

/-! Mappings from keys to decoded values. -/

namespace NamedParams

/-- Values under distinct keys, visited in increasing order of the keys. -/
structure Mapping where
  entries : List (String × Raw)
  increasing : Entries.Increasing entries

namespace Mapping

/-- No keys at all. -/
def empty : Mapping := ⟨[], List.Pairwise.nil⟩

/-- The bindings given in any order; of equal keys the last one stays. -/
def ofList (entries : List (String × Raw)) : Mapping :=
  ⟨Entries.sort entries, Entries.increasing_sort entries⟩

/-- Binds a key, in place of an earlier binding. -/
def insert (key : String) (value : Raw) (m : Mapping) : Mapping :=
  ⟨Entries.insert key value m.entries, Entries.increasing_insert m.increasing⟩

/-- The value under a key. -/
def get? (m : Mapping) (key : String) : Option Raw := m.entries.lookup key

/-- The number of keys. -/
def size (m : Mapping) : Nat := m.entries.length

/-- A mapping as a value. -/
def toRaw (m : Mapping) : Raw := .mapping m.entries

instance : BEq Mapping := ⟨fun left right => Raw.beqEntries left.entries right.entries⟩

end Mapping

end NamedParams
