import ChatDispatch.Argument.Converter

/-!
# The table of converters

Converters are registered for one type or for a family. The converter that serves a type is found by
the first of these rules that gives one:

* the converter registered for the type;
* the first converter registered for another type that also serves this one;
* among the converters of families that the type has an adapter for, one whose family has the
  fewest other such families under it, the first registered when there are several.

`ConverterTable.resolve` remembers what it finds until the next registration.
-/

namespace ChatDispatch

/-- The registered converters. -/
structure ConverterTable where
  /-- Converters for one type, by the name of the type. -/
  exact : List (String × Converter)
  /-- Converters for a family. -/
  generic : List (Family × Converter)
  /-- What has been found since the last registration. -/
  found : List (String × Converter)

namespace ConverterTable

/-- The table without converters. -/
def empty : ConverterTable := ⟨[], [], []⟩

/-- Registers a converter for a type in place of any other. It comes last among the converters for
one type. -/
def add (table : ConverterTable) (typeName : String) (converter : Converter) :
    ConverterTable where
  exact := table.exact.filter (fun e => !(e.1 == typeName)) ++ [(typeName, converter)]
  generic := table.generic
  found := []

/-- Registers a converter for a family, after all others. -/
def addFamily (table : ConverterTable) (family : Family) (converter : Converter) :
    ConverterTable where
  exact := table.exact
  generic := table.generic ++ [(family, converter)]
  found := []

/-- Whether a converter is registered for the type itself. -/
def has (table : ConverterTable) (typeName : String) : Bool :=
  table.exact.any (·.1 == typeName)

/-- How many of the families lie under `family` and are another one. -/
def below (families : List Family) (family : Family) : Nat :=
  (families.filter fun other => !other.same family && family.covers other).length

/-- The first entry with the least rank. -/
def firstLeast {α : Type} (rank : α → Nat) : List α → Option α
  | [] => none
  | a :: as =>
    match firstLeast rank as with
    | none => some a
    | some b => if rank a ≤ rank b then some a else some b

/-- The converter of a family that serves the type best. -/
def searchFamilies (table : ConverterTable) (type : ArgType) : Option Converter :=
  let qualifying := table.generic.filter fun e => type.satisfies e.1
  (firstLeast (fun e => below (qualifying.map (·.1)) e.1) qualifying).map (·.2)

/-- The converter that serves the type, found by the rules. -/
def search (table : ConverterTable) (type : ArgType) : Option Converter :=
  ((table.exact.find? (·.1 == type.name)).map (·.2)).or
    (((table.exact.find? (·.2.alsoServes type)).map (·.2)).or (table.searchFamilies type))

/-- The converter that serves the type: the one found before, or one found now. -/
def find? (table : ConverterTable) (type : ArgType) : Option Converter :=
  ((table.found.find? (·.1 == type.name)).map (·.2)).or (table.search type)

/-- Finds the converter that serves the type and remembers it. -/
def resolve (table : ConverterTable) (type : ArgType) : Option Converter × ConverterTable :=
  match table.found.find? (·.1 == type.name) with
  | some (_, converter) => (some converter, table)
  | none =>
    match table.search type with
    | some converter => (some converter, { table with found := (type.name, converter) :: table.found })
    | none => (none, table)

/-- The table with the converters that the library brings along. -/
def standard : ConverterTable :=
  let exact := (((empty.add ArgType.text.name .text).add ArgType.boolean.name .boolean).add
    (ArgType.integer .i64).name .integer).add ArgType.float.name .float
  Converter.families.foldl
    (fun table (family, prepare) => table.addFamily family (.ofFamily family prepare)) exact

/-- The table as diagnostics show it. -/
def shown (table : ConverterTable) : String :=
  Text.showOpenRecord "TypeConverterRegistry"
    [("exact", toString table.exact.length),
      ("generic", Text.showList (table.generic.map fun e => Text.quoted e.1.name))]

end ConverterTable

end ChatDispatch
