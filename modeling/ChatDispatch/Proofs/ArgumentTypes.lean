import ChatDispatch.Argument.ConverterTable
import ChatDispatch.Proofs.DeepestAdapter

/-!
# Types of arguments

Arguments do not carry their types, so that a converter could make values of any type. Those that the library
brings along make values of the type that they are asked for, for all of its own types, whichever of them
serves a type.

* **`ArgType.IsOwn`** — the types that the library brings along.
* **`ArgValue.HasType`** — the values of these types.
* **`Converter.Serves`** — a converter makes nothing but values of a type.
* **`serves_ofFamily`** — a converter of a family does so if the adapters of the type do, whatever family and
  preparation it has.
* **`ConverterTable.Unmodified`** — tables in which nothing has been registered by the host.
* **`ConverterTable.Unmodified.serves`** — what they find for a type of the library serves it.
-/

namespace ChatDispatch

/-! ## Types and values

A type is known by its name, and a value by the type under which a handler reads it. -/

/-- The types that the library brings along. -/
inductive ArgType.IsOwn : ArgType → Prop where
  | text : IsOwn .text
  | boolean : IsOwn .boolean
  | integer (t : IntegerType) : IsOwn (.integer t)
  | float : IsOwn .float
  | float32 : IsOwn .float32
  | user : IsOwn .user
  | role : IsOwn .role
  | mentionable : IsOwn .mentionable
  | channel : IsOwn .channel
  | message : IsOwn .message
  | attachment : IsOwn .attachment

/-- The library's own type of a name. -/
def ArgType.ownNamed? (name : String) : Option ArgType :=
  ([text, boolean, float, float32, user, role, mentionable, channel, message, attachment] ++
    IntegerType.all.map integer).find? (·.name == name)

theorem ArgType.IsOwn.ownNamed?_name {t : ArgType} (h : t.IsOwn) : ownNamed? t.name = some t := by
  cases h with
  | integer t => cases t <;> rfl
  | _ => rfl

theorem ArgType.IsOwn.eq_of_name_eq {t u : ArgType} (ht : t.IsOwn) (hu : u.IsOwn)
    (h : t.name = u.name) : t = u :=
  Option.some.inj (ht.ownNamed?_name.symm.trans (h ▸ hu.ownNamed?_name))

/-- The values of these types. Those of an integer type are the numbers that the type holds. -/
inductive ArgValue.HasType : ArgValue → ArgType → Prop where
  | text (s : String) : HasType (.text s) .text
  | boolean (b : Bool) : HasType (.boolean b) .boolean
  | integer {t : IntegerType} {n : Int} (hholds : t.holds n = true) : HasType (.integer t n) (.integer t)
  | float (x : Float) : HasType (.float x) .float
  | float32 (x : Float32) : HasType (.float32 x) .float32
  | user (u : User) : HasType (.user u) .user
  | role (r : Role) : HasType (.role r) .role
  | mentionable (m : Mentionable) : HasType (.mentionable m) .mentionable
  | channel (c : Channel) : HasType (.channel c) .channel
  | message (m : Message) : HasType (.message m) .message
  | attachment (a : Attachment) : HasType (.attachment a) .attachment

theorem IntegerType.i64_holds_toInt (n : Int64) : IntegerType.i64.holds n.toInt = true := by
  simp only [holds, isSigned, if_true, Bool.and_eq_true]
  exact ⟨decide_eq_true n.le_toInt, decide_eq_true n.toInt_lt⟩

theorem ArgValue.HasType.typeName_eq {v : ArgValue} {t : ArgType} (h : v.HasType t) :
    v.typeName = t.name := by
  cases h <;> rfl

/-- The argument is a value of the type. -/
def Argument.IsOfType (a : Argument) (t : ArgType) : Prop := ∃ v, a = .value v ∧ v.HasType t

def Adapter.Makes (adapter : Adapter) (t : ArgType) : Prop :=
  ∀ raw a, adapter.adapt raw = some a → a.IsOfType t

/-- The adapter of an entity type makes the entities of this type. -/
theorem makes_ofEntity {name : String} {family : Family} {entity? : RawValue → Option ArgValue}
    (h : ∀ raw v, entity? raw = some v → v.HasType (.ofEntity name family entity?)) :
    ∀ adapter ∈ (ArgType.ofEntity name family entity?).adapters,
      adapter.Makes (.ofEntity name family entity?) := by
  intro adapter hadapter raw a ha
  cases List.mem_singleton.mp hadapter
  obtain ⟨v, hv, rfl⟩ := Option.map_eq_some_iff.mp ha
  exact ⟨v, rfl, h raw v hv⟩

/-- **The library's own types.** Their adapters make values of them. -/
theorem ArgType.IsOwn.makes {t : ArgType} (h : t.IsOwn) : ∀ adapter ∈ t.adapters, adapter.Makes t := by
  cases h with
  | text | boolean | float => exact fun _ hadapter => absurd hadapter List.not_mem_nil
  | integer t =>
    intro adapter hadapter raw a ha
    -- of integer types only those other than `i64` have an adapter, which checks the range
    simp only [ArgType.integer] at hadapter
    split at hadapter
    · cases hadapter
    · cases List.mem_singleton.mp hadapter
      cases raw with
      | integer n =>
        obtain ⟨v, hv, rfl⟩ := Option.map_eq_some_iff.mp ha
        obtain ⟨hholds, hv⟩ := Option.ite_none_right_eq_some.mp hv
        cases hv
        exact ⟨_, rfl, .integer hholds⟩
      | _ => cases ha
  | float32 =>
    intro adapter hadapter raw a ha
    cases List.mem_singleton.mp hadapter
    cases raw with
    | number x =>
      cases ha
      exact ⟨_, rfl, .float32 _⟩
    | _ => cases ha
  | user | role | mentionable | channel | message | attachment =>
    refine makes_ofEntity fun raw v hv => ?_
    -- of the kinds of raw values, the adapter takes one
    cases raw <;> cases hv
    constructor

/-! ## Converters

Four types have a converter of their own; all other types are served by the converter of a family, through their
adapters. -/

namespace Converter

/-- The converter makes nothing but values of the type when it is asked for them. -/
def Serves (converter : Converter) (t : ArgType) : Prop :=
  ∀ interaction raw a, converter.convert interaction raw t = .ok a → a.IsOfType t

/-- **Converters of families** make what the adapters of the type make. -/
theorem serves_ofFamily {t : ArgType} (h : ∀ adapter ∈ t.adapters, adapter.Makes t) (family : Family)
    (prepare : RawValue → Option RawValue) : (ofFamily family prepare).Serves t := by
  intro interaction raw a ha
  simp only [ofFamily] at ha
  cases hadapter : t.adapterFor? family with
  | none =>
    rw [hadapter] at ha
    cases ha
  | some adapter =>
    cases hmade : (prepare raw).bind adapter.adapt with
    | none =>
      simp only [hadapter, hmade] at ha
      cases ha
    | some made =>
      simp only [hadapter, hmade] at ha
      cases ha
      -- the adapter made it of what the family prepared
      obtain ⟨prepared, _, hadapt⟩ := Option.bind_eq_some_iff.mp hmade
      exact h adapter (ArgType.adapterFor?_spec hadapter).1 prepared _ hadapt

/-- A converter that makes values of a type by a function serves the type if the function does. -/
theorem serves_ofType {t : ArgType} {make : RawValue → Option ArgValue}
    (h : ∀ raw v, make raw = some v → v.HasType t) : (ofType make).Serves t := by
  intro interaction raw a ha
  simp only [ofType] at ha
  cases hmake : make raw with
  | none =>
    rw [hmake] at ha
    cases ha
  | some v =>
    rw [hmake] at ha
    cases ha
    exact ⟨v, rfl, h raw v hmake⟩

theorem serves_text : text.Serves .text := by
  intro interaction raw a ha
  cases raw <;> cases ha <;> exact ⟨_, rfl, .text _⟩

/-- The converter of booleans serves booleans. -/
theorem serves_boolean : boolean.Serves .boolean := by
  intro interaction raw a ha
  cases raw with
  | boolean b =>
    cases ha
    exact ⟨_, rfl, .boolean b⟩
  | text s =>
    simp only [boolean] at ha
    cases hs : boolOf? s with
    | none =>
      rw [hs] at ha
      cases ha
    | some b =>
      rw [hs] at ha
      cases ha
      exact ⟨_, rfl, .boolean b⟩
  | _ => cases ha

theorem serves_integer : integer.Serves (.integer .i64) := by
  refine serves_ofType fun raw v hv => ?_
  obtain ⟨n, _, rfl⟩ := Option.map_eq_some_iff.mp hv
  exact .integer (IntegerType.i64_holds_toInt n)

/-- The converter of numbers serves those of double precision. -/
theorem serves_float : float.Serves .float := by
  refine serves_ofType fun raw v hv => ?_
  obtain ⟨x, _, rfl⟩ := Option.map_eq_some_iff.mp hv
  exact .float x

end Converter

/-! ## Tables

A table starts with the converters of the library, and looking a type up may add what was found for it. Neither
adds a converter that serves some other type. -/

namespace ConverterTable

theorem exact_standard : standard.exact =
    [(ArgType.text.name, .text), (ArgType.boolean.name, .boolean),
      ((ArgType.integer .i64).name, .integer), (ArgType.float.name, .float)] := rfl

theorem generic_standard : standard.generic =
    Converter.families.map fun (family, prepare) => (family, .ofFamily family prepare) := rfl

/-- A table in which the host has registered nothing, whatever has been looked up in it. Types of the host have
other names than those of the library. -/
inductive Unmodified : ConverterTable → Prop where
  | standard : Unmodified .standard
  | resolve {table : ConverterTable} {type : ArgType} (h : Unmodified table)
      (htype : type.IsOwn ∨ ∀ own : ArgType, own.IsOwn → type.name ≠ own.name) :
      Unmodified (table.resolve type).2

/-- The first least item of a list is one of its items. -/
theorem mem_of_firstLeast {α : Type} {rank : α → Nat} {as : List α} {a : α}
    (h : firstLeast rank as = some a) : a ∈ as := by
  induction as generalizing a with
  | nil => cases h
  | cons b bs ih =>
    simp only [firstLeast] at h
    cases hrest : firstLeast rank bs with
    | none =>
      rw [hrest] at h
      cases h
      exact List.mem_cons_self
    | some c =>
      rw [hrest] at h
      simp only at h
      -- the first item, or the least of the others
      split at h
      · cases h
        exact List.mem_cons_self
      · cases h
        exact List.mem_cons_of_mem _ (ih hrest)

/-- The library's own converters of families serve every type whose adapters make values of it. -/
theorem serves_searchFamilies {t : ArgType} (h : ∀ adapter ∈ t.adapters, adapter.Makes t)
    {converter : Converter} (hfound : standard.searchFamilies t = some converter) :
    converter.Serves t := by
  obtain ⟨entry, hleast, rfl⟩ := Option.map_eq_some_iff.mp hfound
  have hentry := (List.mem_filter.mp (mem_of_firstLeast hleast)).1
  rw [generic_standard] at hentry
  obtain ⟨⟨family, prepare⟩, _, rfl⟩ := List.mem_map.mp hentry
  exact Converter.serves_ofFamily h family prepare

/-- The converter that is registered for a type of the library serves it. -/
theorem serves_exact {t : ArgType} (h : t.IsOwn) {converter : Converter}
    (hfound : (standard.exact.find? (·.1 == t.name)).map (·.2) = some converter) :
    converter.Serves t := by
  rw [exact_standard] at hfound
  cases h with
  | text =>
    cases hfound
    exact Converter.serves_text
  | boolean =>
    cases hfound
    exact Converter.serves_boolean
  | float =>
    cases hfound
    exact Converter.serves_float
  | integer t =>
    cases t with
    | i64 =>
      cases hfound
      exact Converter.serves_integer
    | _ => cases hfound
  | _ => cases hfound

/-- **What is found at first** for a type of the library serves it. -/
theorem serves_search {t : ArgType} (h : t.IsOwn) {converter : Converter}
    (hfound : standard.search t = some converter) : converter.Serves t := by
  rw [search, Option.or_eq_some_iff, Option.or_eq_some_iff] at hfound
  rcases hfound with hexact | ⟨_, halso | ⟨_, hfamilies⟩⟩
  · exact serves_exact h hexact
  · -- no converter for one type serves another one
    cases halso
  · exact serves_searchFamilies h.makes hfamilies

/-- **Looking a type up** does not change what is found, for this type or another. -/
theorem find?_resolve {table : ConverterTable} {t u : ArgType} (h : t.name = u.name → t = u) :
    (table.resolve t).2.find? u = table.find? u := by
  unfold resolve
  split
  · rfl
  · next hnew =>
    split
    · next converter hsearch =>
      -- the new entry is the first and answers for this name only
      by_cases hname : t.name = u.name
      · cases h hname
        simp only [find?, List.find?_cons, beq_self_eq_true, hnew, hsearch, Option.map_some,
          Option.map_none, Option.some_or, Option.none_or]
      · simp only [find?, List.find?_cons, beq_eq_false_iff_ne.mpr hname]
        rfl
    · rfl

/-- An unmodified table finds for a type of the library what is found for it at first. -/
theorem Unmodified.find?_eq {table : ConverterTable} (h : table.Unmodified) {t : ArgType}
    (ht : t.IsOwn) : table.find? t = ConverterTable.standard.search t := by
  induction h with
  | standard => rfl
  | resolve _ htype ih =>
    refine (find?_resolve fun hname => ?_).trans ih
    -- a look-up of another type leaves the entries of this one as they are
    obtain hown | hother := htype
    · exact hown.eq_of_name_eq ht hname
    · exact absurd hname (hother t ht)

/-- **What an unmodified table finds** for a type of the library serves it. -/
theorem Unmodified.serves {table : ConverterTable} (h : table.Unmodified) {t : ArgType} (ht : t.IsOwn)
    {converter : Converter} (hfound : table.find? t = some converter) : converter.Serves t :=
  serves_search ht (h.find?_eq ht ▸ hfound)

end ConverterTable

end ChatDispatch
