import ChatDispatch.Argument.ConverterTable
import Mathlib.Data.List.Induction

/-!
# The memory of the converter table

The table remembers the converters that it has found until the next registration. That makes no difference
to what it finds: what it answers is known from the registrations alone.

* **`Access`**, **`after`** — registrations and look-ups in any order, and the table that they lead to.
* **`standing`**, **`families`**, **`lastFor`** — the registrations themselves, read off the history.
* **`Faithful`** — the invariant: the table holds the registrations that stand, and each thing that it
  remembers is what a search finds now.
* **`Faithful.access`**, **`faithful_after`** — one access keeps it, and so does any history.
* **`resolve_eq_search`** — the headline: a look-up answers as if nothing were remembered.
-/

namespace ChatDispatch.ConverterTable

/-! ## Histories

A table is judged by what it was asked to do. Of a history, three things count: what was registered for types and
not replaced, what was registered for families, and what was looked up. -/

/-- What a table is asked to do. -/
inductive Access where
  | add (typeName : String) (converter : Converter)
  | addFamily (family : Family) (converter : Converter)
  | resolve (type : ArgType)

/-- The access is a registration. -/
def Access.registers : Access → Bool
  | .add _ _ | .addFamily _ _ => true
  | .resolve _ => false

/-- The converter that the access registers for the type. -/
def Access.converterFor (typeName : String) : Access → Option Converter
  | .add name converter => if name = typeName then some converter else none
  | _ => none

/-- The converter that the access registers for a family. -/
def Access.family? : Access → Option (Family × Converter)
  | .addFamily family converter => some (family, converter)
  | _ => none

def access (table : ConverterTable) : Access → ConverterTable
  | .add typeName converter => table.add typeName converter
  | .addFamily family converter => table.addFamily family converter
  | .resolve type => (table.resolve type).2

/-- The table that a history leads to from a table without converters. -/
def after (history : List Access) : ConverterTable := history.foldl access empty

/-- The registrations for one type that no later one has replaced, in their order. -/
def standing : List Access → List (String × Converter)
  | [] => []
  | .add name converter :: later =>
    if later.any fun a => (a.converterFor name).isSome then standing later
    else (name, converter) :: standing later
  | _ :: later => standing later

/-- The registrations for families in their order. -/
def families (history : List Access) : List (Family × Converter) := history.filterMap Access.family?

/-- The converter that was last registered for a type. -/
def lastFor (typeName : String) (history : List Access) : Option Converter :=
  history.reverse.findSome? (Access.converterFor typeName)

/-- The table with the converters that the library brings along has a history like any other. -/
theorem standard_eq_after : standard = after
    ([.add ArgType.text.name .text, .add ArgType.boolean.name .boolean,
      .add (ArgType.integer .i64).name .integer, .add ArgType.float.name .float] ++
      Converter.families.map fun (family, prepare) => .addFamily family (.ofFamily family prepare)) :=
  rfl

/-! ## Registrations that stand

How each kind of access changes what stands, when it comes last. -/

/-- A look-up replaces no registration. -/
theorem standing_append_resolve (history : List Access) (type : ArgType) :
    standing (history ++ [.resolve type]) = standing history := by
  induction history with
  | nil => rfl
  | cons a later ih =>
    cases a with
    | add name converter => simp [standing, ih, Access.converterFor]
    | addFamily family converter => exact ih
    | resolve other => exact ih

/-- Neither does a registration for a family. -/
theorem standing_append_addFamily (history : List Access) (family : Family) (converter : Converter) :
    standing (history ++ [.addFamily family converter]) = standing history := by
  induction history with
  | nil => rfl
  | cons a later ih =>
    cases a with
    | add name other => simp [standing, ih, Access.converterFor]
    | addFamily other c => exact ih
    | resolve other => exact ih

/-- A registration takes the place of any other for its type, behind all that stay. -/
theorem standing_append_add (history : List Access) (typeName : String) (converter : Converter) :
    standing (history ++ [.add typeName converter]) =
      (standing history).filter (fun e => !(e.1 == typeName)) ++ [(typeName, converter)] := by
  induction history with
  | nil => rfl
  | cons a later ih =>
    cases a with
    | add name other =>
      rw [List.cons_append, standing, standing, List.any_append, ih]
      by_cases hname : name = typeName
      · subst hname
        -- it is replaced now if it was not before
        have hreplaced : [Access.add name converter].any (fun a => (a.converterFor name).isSome) = true := by
          simp [Access.converterFor]
        rw [hreplaced, Bool.or_true, if_pos rfl]
        split
        · rfl
        · simp
      · have hother : [Access.add typeName converter].any (fun a => (a.converterFor name).isSome) = false := by
          simp [Access.converterFor, Ne.symm hname]
        rw [hother, Bool.or_false]
        split
        · rfl
        · simp [hname]
    | addFamily family c => exact ih
    | resolve other => exact ih

theorem families_append (history later : List Access) :
    families (history ++ later) = families history ++ families later :=
  List.filterMap_append

/-- The last access decides if it registers something for the type. -/
theorem lastFor_append_singleton (typeName : String) (history : List Access) (a : Access) :
    lastFor typeName (history ++ [a]) = (a.converterFor typeName).or (lastFor typeName history) := by
  rw [lastFor, List.reverse_append, List.reverse_singleton, List.singleton_append, List.findSome?_cons]
  cases a.converterFor typeName with
  | none => rfl
  | some converter => rfl

/-- The registration for a type that stands is the last one for it. -/
theorem find?_standing (history : List Access) (typeName : String) :
    ((standing history).find? (·.1 == typeName)).map (·.2) = lastFor typeName history := by
  induction history using List.reverseRecOn with
  | nil => rfl
  | append_singleton history a ih =>
    rw [lastFor_append_singleton]
    cases a with
    | add name converter =>
      rw [standing_append_add, List.find?_append, Access.converterFor]
      by_cases hname : name = typeName
      · subst hname
        have hnone : ((standing history).filter fun e => !(e.1 == name)).find? (·.1 == name) = none := by
          simp [List.find?_eq_none]
        simp [hnone]
      · rw [if_neg hname, ← ih]
        -- what the registration removes is not what is looked for
        have hkept : ((standing history).filter fun e => !(e.1 == name)).find? (·.1 == typeName) =
            (standing history).find? (·.1 == typeName) := by
          rw [List.find?_filter]
          refine congrArg (List.find? · (standing history)) (funext fun e => ?_)
          by_cases hwanted : e.1 = typeName
          · simp [hwanted, Ne.symm hname]
          · simp [hwanted]
        simp [hkept, hname]
    | addFamily family converter => rw [standing_append_addFamily, ih]; rfl
    | resolve type => rw [standing_append_resolve, ih]; rfl

/-! ## The invariant

A registration makes the table forget what it has looked up. So what it remembers was found among the
registrations that it has now. -/

/-- What the table keeps in mind of a history: the registrations that stand, and of what it has looked up,
nothing but what a search finds now. -/
structure Faithful (history : List Access) (table : ConverterTable) : Prop where
  exact : table.exact = standing history
  generic : table.generic = families history
  found : ∀ e ∈ table.found, ∃ type, .resolve type ∈ history ∧ type.name = e.1 ∧
    table.search type = some e.2

/-- **One access** keeps the table faithful: a registration clears the memory, and a look-up adds to it what the
search finds. -/
theorem Faithful.access {history : List Access} {table : ConverterTable} (h : Faithful history table)
    (a : Access) : Faithful (history ++ [a]) (table.access a) := by
  cases a with
  | add typeName converter =>
    refine ⟨?_, ?_, nofun⟩
    · rw [standing_append_add, ← h.exact]
      rfl
    · rw [families_append, ← h.generic]
      exact (List.append_nil _).symm
  | addFamily family converter =>
    refine ⟨?_, ?_, nofun⟩
    · rw [standing_append_addFamily, ← h.exact]
      rfl
    · rw [families_append, ← h.generic]
      rfl
  | resolve type =>
    have hexact : table.exact = standing (history ++ [.resolve type]) := by
      rw [standing_append_resolve, h.exact]
    have hgeneric : table.generic = families (history ++ [.resolve type]) := by
      rw [families_append, ← h.generic]
      exact (List.append_nil _).symm
    have hfound : ∀ e ∈ table.found, ∃ t, .resolve t ∈ history ++ [.resolve type] ∧ t.name = e.1 ∧
        table.search t = some e.2 := by
      intro e he
      obtain ⟨t, ht, hname, hsearch⟩ := h.found e he
      exact ⟨t, List.mem_append_left _ ht, hname, hsearch⟩
    show Faithful _ (table.resolve type).2
    unfold ConverterTable.resolve
    split
    · exact ⟨hexact, hgeneric, hfound⟩
    · split
      · rename_i converter hsearch
        -- the search goes by the registrations, which the new memory leaves alone
        refine ⟨hexact, hgeneric, fun e he => ?_⟩
        rcases List.mem_cons.mp he with rfl | he
        · exact ⟨type, List.mem_append_right _ List.mem_cons_self, rfl, hsearch⟩
        · exact hfound e he
      · exact ⟨hexact, hgeneric, hfound⟩

/-- **Any history** leads to a faithful table. -/
theorem faithful_after (history : List Access) : Faithful history (after history) := by
  induction history using List.reverseRecOn with
  | nil => exact ⟨rfl, rfl, nofun⟩
  | append_singleton history a ih =>
    rw [after, List.foldl_append]
    exact ih.access a

/-! ## Look-ups

Memory is by name. It answers for a type if no other type of that name was looked up before. -/

/-- A type by this name that was looked up before is this very type. -/
def Known (history : List Access) (type : ArgType) : Prop :=
  ∀ other, .resolve other ∈ history → other.name = type.name → other = type

/-- For a type that is known, memory and search answer the same. -/
theorem Faithful.resolve_fst {history : List Access} {table : ConverterTable}
    (h : Faithful history table) {type : ArgType} (hknown : Known history type) :
    (table.resolve type).1 = table.search type := by
  unfold ConverterTable.resolve
  split
  · rename_i name converter hhit
    obtain ⟨other, hasked, hname, hsearch⟩ := h.found _ (List.mem_of_find?_eq_some hhit)
    have hsame : name = type.name := by simpa using List.find?_some hhit
    rw [← hknown other hasked (hname.trans hsame), hsearch]
  · split
    · rename_i converter hsearch
      exact hsearch.symm
    · rename_i hsearch
      exact hsearch.symm

/-- A search asks the registrations for the type first, then those that also serve it, then the families. -/
theorem Faithful.search_eq {history : List Access} {table : ConverterTable} (h : Faithful history table)
    (type : ArgType) : table.search type =
      (lastFor type.name history).or
        ((((standing history).find? (·.2.alsoServes type)).map (·.2)).or
          (searchFamilies ⟨[], families history, []⟩ type)) := by
  rw [search, h.exact, find?_standing, searchFamilies, searchFamilies, h.generic]

/-- Without the look-ups a history leads to the same registrations. -/
theorem registrations_eq (history : List Access) :
    standing (history.filter Access.registers) = standing history ∧
      families (history.filter Access.registers) = families history := by
  induction history with
  | nil => exact ⟨rfl, rfl⟩
  | cons a later ih =>
    obtain ⟨hstanding, hfamilies⟩ := ih
    cases a with
    | add name converter =>
      -- what replaces a registration is one itself
      have hreplaced : ((later.filter Access.registers).any fun a => (a.converterFor name).isSome) =
          later.any fun a => (a.converterFor name).isSome := by
        rw [List.any_filter]
        refine congrArg (List.any later) (funext fun other => ?_)
        cases other <;> simp [Access.registers, Access.converterFor]
      rw [List.filter_cons_of_pos rfl, standing, standing, hreplaced, hstanding]
      exact ⟨rfl, hfamilies⟩
    | addFamily family converter =>
      rw [List.filter_cons_of_pos rfl]
      exact ⟨hstanding, congrArg ((family, converter) :: ·) hfamilies⟩
    | resolve type =>
      rw [List.filter_cons_of_neg Bool.false_ne_true]
      exact ⟨hstanding, hfamilies⟩

/-- **The memory makes no difference.** Take any history of registrations and look-ups in which every type by
the name of `type` is that type. A look-up for `type` then answers

* what a search in the table answers that was given the registrations alone,
* that is, the converter last registered for the type itself; else the first of the registrations that stand
  whose converter also serves the type; else the converter of the family that serves it best,
* and it answers the same after any other history with these registrations, wherever that has look-ups. -/
theorem resolve_eq_search {history : List Access} {type : ArgType} (hknown : Known history type) :
    ((after history).resolve type).1 = (after (history.filter Access.registers)).search type ∧
    ((after history).resolve type).1 =
      (lastFor type.name history).or
        ((((standing history).find? (·.2.alsoServes type)).map (·.2)).or
          (searchFamilies ⟨[], families history, []⟩ type)) ∧
    ∀ other, other.filter Access.registers = history.filter Access.registers → Known other type →
      ((after other).resolve type).1 = ((after history).resolve type).1 := by
  have hrule : ∀ h : List Access, Known h type → ((after h).resolve type).1 =
      (after (h.filter Access.registers)).search type := by
    intro h hh
    obtain ⟨hstanding, hfamilies⟩ := registrations_eq h
    rw [(faithful_after h).resolve_fst hh, (faithful_after h).search_eq,
      (faithful_after (h.filter Access.registers)).search_eq, ← find?_standing, ← find?_standing,
      hstanding, hfamilies]
  refine ⟨hrule history hknown, ?_, fun other hsame hother => ?_⟩
  · rw [(faithful_after history).resolve_fst hknown, (faithful_after history).search_eq]
  · rw [hrule other hother, hrule history hknown, hsame]

namespace Sample

def colour : ArgType := ⟨"host::Colour", []⟩

/-- The type is looked up, gets another converter, and is looked up again. -/
def recoloured : List Access :=
  [.add "host::Colour" .boolean, .add "host::Shade" .integer, .resolve colour, .add "host::Colour" .text,
    .resolve ⟨"host::Shade", []⟩, .resolve colour]

theorem known_colour : Known recoloured colour := by
  intro other hother hname
  simp only [recoloured, List.mem_cons, reduceCtorEq, false_or, Access.resolve.injEq, List.not_mem_nil,
    or_false] at hother
  rcases hother with rfl | rfl | rfl
  · rfl
  · exact absurd hname (by decide)
  · rfl

end Sample

/-- The second converter answers, though the first one had been remembered. -/
theorem resolve_eq_search_colour :
    Known Sample.recoloured Sample.colour ∧
    ((after Sample.recoloured).resolve Sample.colour).1 =
      (after (Sample.recoloured.filter Access.registers)).search Sample.colour ∧
    ((after Sample.recoloured).resolve Sample.colour).1 = some .text := by
  obtain ⟨hsearch, hrule, -⟩ := resolve_eq_search Sample.known_colour
  exact ⟨Sample.known_colour, hsearch, hrule⟩

end ChatDispatch.ConverterTable
