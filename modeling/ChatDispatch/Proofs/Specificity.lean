import ChatDispatch.Proofs.FamilyOrder
import ChatDispatch.Proofs.Resolution
import Mathlib.Data.Set.Finite.Lemmas

/-!
# The most specific converter

Among the converters of families that a type has an adapter for, the table takes one whose family has the fewest
other such families under it. In a hierarchy there always is one that has none, as there are only finitely many
and what lies under a family lies deeper. So the number decides nothing but whether there are any.

* **`ConverterTable.below_eq_zero_iff`** — the number is zero when none of the families derives from this one.
* **`ConverterTable.exists_below_eq_zero`** — that is so for the deepest one.
* **`ConverterTable.firstLeast_eq_find?`** — so the first entry with the least number is the first with none.
* **`ConverterTable.MostSpecific`** — the type has an adapter for the family, and for no registered family that
  derives from it.
* **`ConverterTable.resolve_mostSpecific`** — the headline: the table answers with the first most specific
  converter, and with none only if the type has no adapter for any of the families.
-/

namespace ChatDispatch.ConverterTable

open Family (Hierarchy)

/-! ## The least number

In a hierarchy what derives from a family lies deeper, so the deepest of finitely many has nothing under it. -/

section Least

variable {members : Family → Prop} {families : List Family}

/-- No other of the families lies under one exactly when none derives from it. -/
theorem below_eq_zero_iff (h : Hierarchy members) (hfamilies : ∀ f ∈ families, members f) {f : Family}
    (hf : f ∈ families) : below families f = 0 ↔ ∀ other ∈ families, ¬ other.DerivesFrom f := by
  rw [below, List.length_eq_zero_iff, List.filter_eq_nil_iff]
  refine forall₂_congr fun other hother => not_congr ?_
  have hcovers := h.covers_iff (hfamilies f hf) (hfamilies other hother)
  have hsame := h.same_iff (hfamilies other hother) (hfamilies f hf)
  rw [Bool.and_eq_true, hcovers, Bool.not_eq_true', ← Bool.not_eq_true, hsame]
  constructor
  · rintro ⟨hne, heq | hderives⟩
    · exact absurd heq.symm hne
    · exact hderives
  · intro hderives
    exact ⟨hderives.ne, .inr hderives⟩

/-- **The deepest of the families** has none under it. -/
theorem exists_below_eq_zero (h : Hierarchy members) (hfamilies : ∀ f ∈ families, members f)
    (hne : families ≠ []) : ∃ f ∈ families, below families f = 0 := by
  obtain ⟨f, hf, hdeepest⟩ := Set.exists_max_image {f | f ∈ families} Family.depth
    (List.finite_toSet families) (List.exists_mem_of_ne_nil families hne)
  refine ⟨f, hf, (below_eq_zero_iff h hfamilies hf).mpr fun other hother hderives => ?_⟩
  exact Nat.not_lt.mpr (hdeepest other hother) (Family.depth_lt_of_derivesFrom hderives)

/-- There is a least entry unless there is none at all. -/
theorem firstLeast_eq_none_iff {α : Type} {rank : α → Nat} {as : List α} :
    firstLeast rank as = none ↔ as = [] := by
  cases as with
  | nil => exact iff_of_true rfl rfl
  | cons a as =>
    refine iff_of_false ?_ (List.cons_ne_nil a as)
    rw [firstLeast]
    split
    · nofun
    · split <;> nofun

/-- Where some rank is zero, the first entry with the least rank is the first with rank zero. -/
theorem firstLeast_eq_find? {α : Type} {rank : α → Nat} {as : List α} (h : ∃ a ∈ as, rank a = 0) :
    firstLeast rank as = as.find? fun a => rank a = 0 := by
  induction as with
  | nil =>
    obtain ⟨a, ha, -⟩ := h
    cases ha
  | cons a as ih =>
    rw [firstLeast, List.find?_cons]
    by_cases hzero : rank a = 0
    · simp only [hzero, Nat.zero_le, if_true]
      split <;> rfl
    · obtain ⟨b, hb, hrank⟩ := h
      -- the first entry is not the one with rank zero, so this is among the others
      have hrest : ∃ a ∈ as, rank a = 0 := by
        rcases List.mem_cons.mp hb with rfl | hb
        · exact absurd hrank hzero
        · exact ⟨b, hb, hrank⟩
      rw [ih hrest, decide_eq_false hzero]
      cases hfound : as.find? (fun a => rank a = 0) with
      | none =>
        obtain ⟨c, hc, hc0⟩ := hrest
        exact absurd (decide_eq_true hc0) (List.find?_eq_none.mp hfound c hc)
      | some c =>
        have hc : rank c = 0 := by simpa using List.find?_some hfound
        -- a rank of zero further back is less than that of the first entry
        have hmore : ¬ rank a ≤ rank c := by omega
        simp only [if_neg hmore]

end Least

/-! ## The converters of families

A family qualifies if the type has an adapter for it, and only families that qualify are counted against one
another. -/

/-- The type has an adapter for the family, and for none of the registered families that derive from it. -/
def MostSpecific (type : ArgType) (registered : List (Family × Converter)) (family : Family) : Prop :=
  type.satisfies family = true ∧
    ∀ e ∈ registered, type.satisfies e.1 = true → ¬ e.1.DerivesFrom family

/-- The families of the converters that the type has adapters for. -/
def qualifying (table : ConverterTable) (type : ArgType) : List Family :=
  (table.generic.filter fun e => type.satisfies e.1).map (·.1)

section Search

variable {members : Family → Prop} {table : ConverterTable} {type : ArgType}

/-- Families that qualify are those of registered converters. -/
theorem mem_qualifying_iff {f : Family} :
    f ∈ table.qualifying type ↔ ∃ e ∈ table.generic, type.satisfies e.1 = true ∧ e.1 = f := by
  simp only [qualifying, List.mem_map, List.mem_filter, and_assoc]

/-- They are in the hierarchy, as all registered families are. -/
theorem members_of_mem_qualifying (hmembers : ∀ e ∈ table.generic, members e.1) :
    ∀ f ∈ table.qualifying type, members f := by
  intro f hf
  obtain ⟨e, he, -, rfl⟩ := mem_qualifying_iff.mp hf
  exact hmembers e he

/-- Among registered converters, to be most specific is to qualify with nothing under oneself. -/
theorem mostSpecific_iff (h : Hierarchy members) (hmembers : ∀ e ∈ table.generic, members e.1)
    {e : Family × Converter} (he : e ∈ table.generic) :
    MostSpecific type table.generic e.1 ↔
      (type.satisfies e.1 && below (table.qualifying type) e.1 = 0) = true := by
  rw [MostSpecific, Bool.and_eq_true, decide_eq_true_iff]
  refine and_congr_right fun hsatisfies => ?_
  have hqualifying : ∀ f ∈ table.qualifying type, members f := members_of_mem_qualifying hmembers
  rw [below_eq_zero_iff h hqualifying (mem_qualifying_iff.mpr ⟨e, he, hsatisfies, rfl⟩)]
  constructor
  · intro hnone f hf
    obtain ⟨other, hother, hserved, rfl⟩ := mem_qualifying_iff.mp hf
    exact hnone other hother hserved
  · intro hnone other hother hserved
    exact hnone _ (mem_qualifying_iff.mpr ⟨other, hother, hserved, rfl⟩)

/-- **What a search among the families finds** is the first converter of a most specific one. -/
theorem searchFamilies_eq (h : Hierarchy members) (hmembers : ∀ e ∈ table.generic, members e.1) :
    table.searchFamilies type = (table.generic.find? fun e =>
      type.satisfies e.1 && below (table.qualifying type) e.1 = 0).map (·.2) := by
  have hfilter : (table.generic.filter fun e => type.satisfies e.1).find?
      (fun e => below (table.qualifying type) e.1 = 0) = table.generic.find? fun e =>
        type.satisfies e.1 && below (table.qualifying type) e.1 = 0 := by
    rw [List.find?_filter]
    exact congrArg (List.find? · table.generic) (funext fun e => by simp)
  rw [searchFamilies, ← hfilter]
  congr 1
  cases hentries : table.generic.filter fun e => type.satisfies e.1 with
  | nil => rfl
  | cons e rest =>
    rw [← hentries]
    refine firstLeast_eq_find? ?_
    -- something qualifies, so there is a deepest family among what does
    have hne : table.qualifying type ≠ [] := by simp [qualifying, hentries]
    obtain ⟨f, hf, hzero⟩ := exists_below_eq_zero h (members_of_mem_qualifying hmembers) hne
    obtain ⟨other, hother, rfl⟩ := List.mem_map.mp hf
    exact ⟨other, hother, hzero⟩

theorem searchFamilies_eq_none_iff :
    table.searchFamilies type = none ↔ ∀ e ∈ table.generic, type.satisfies e.1 = false := by
  rw [searchFamilies, Option.map_eq_none_iff, firstLeast_eq_none_iff, List.filter_eq_nil_iff]
  exact forall₂_congr fun e _ => by rw [Bool.not_eq_true]

/-- What is found is the converter of the first most specific entry. -/
theorem exists_of_searchFamilies (h : Hierarchy members) (hmembers : ∀ e ∈ table.generic, members e.1)
    {converter : Converter} (hfound : table.searchFamilies type = some converter) :
    ∃ before family later, table.generic = before ++ (family, converter) :: later ∧
      MostSpecific type table.generic family ∧ ∀ e ∈ before, ¬ MostSpecific type table.generic e.1 := by
  rw [searchFamilies_eq h hmembers] at hfound
  obtain ⟨⟨family, _⟩, hfirst, rfl⟩ := Option.map_eq_some_iff.mp hfound
  obtain ⟨hspecific, before, later, hgeneric, hbefore⟩ := List.find?_eq_some_iff_append.mp hfirst
  refine ⟨before, family, later, hgeneric, ?_, fun e he => ?_⟩
  · exact (mostSpecific_iff h hmembers (e := (family, _)) (List.mem_of_find?_eq_some hfirst)).mpr hspecific
  · have hmem : e ∈ table.generic := hgeneric ▸ List.mem_append_left _ he
    rw [mostSpecific_iff h hmembers hmem, Bool.not_eq_true, ← Bool.not_eq_true']
    exact hbefore e he

end Search

/-- **The most specific converter.** Take a history of registrations and look-ups in which every type by the
name of `type` is that type, with no converter that stands for the type itself and none that also serves it,
and with families from a hierarchy. A look-up for the type then answers

* nothing exactly when the type has no adapter for any of the families,
* else the first registered converter with two properties: the type has an adapter for its family, and it has
  none for a registered family that derives from this one. -/
theorem resolve_mostSpecific {members : Family → Prop} (h : Hierarchy members) {history : List Access}
    (hmembers : ∀ e ∈ families history, members e.1) {type : ArgType} (hknown : Known history type)
    (hexact : lastFor type.name history = none)
    (hserves : ∀ e ∈ standing history, e.2.alsoServes type = false) :
    (((after history).resolve type).1 = none ↔ ∀ e ∈ families history, type.satisfies e.1 = false) ∧
    ∀ converter, ((after history).resolve type).1 = some converter →
      ∃ before family later, families history = before ++ (family, converter) :: later ∧
        MostSpecific type (families history) family ∧
        ∀ e ∈ before, ¬ MostSpecific type (families history) e.1 := by
  have hother : (standing history).find? (·.2.alsoServes type) = none := by
    rw [List.find?_eq_none]
    intro e he
    rw [hserves e he]
    exact Bool.false_ne_true
  -- neither memory nor a converter for the type has a say, so the families decide
  have hsearch : ((after history).resolve type).1 = searchFamilies ⟨[], families history, []⟩ type := by
    rw [(faithful_after history).resolve_fst hknown, (faithful_after history).search_eq, hexact, hother]
    rfl
  rw [hsearch]
  exact ⟨searchFamilies_eq_none_iff, fun converter => exists_of_searchFamilies h hmembers⟩

namespace Sample

/-- There are converters for entities, for users, and two for whatever can be mentioned. A role has been looked
up. -/
def mentions : List Access :=
  [.add "host::Shade" .integer, .addFamily .entity .text, .addFamily .mentionable .boolean,
    .addFamily .mentionable .integer, .addFamily .user .float, .resolve .role]

theorem known_role : Known mentions .role := by
  intro other hother _
  simpa [mentions] using hother

theorem families_mentions : ∀ e ∈ families mentions, e.1 ∈ Family.standard := by
  intro e he
  simp only [families, mentions, List.filterMap_cons, List.filterMap_nil, Access.family?, List.mem_cons,
    List.not_mem_nil, or_false] at he
  rcases he with rfl | rfl | rfl | rfl <;> simp [Family.standard]

theorem alsoServes_mentions : ∀ e ∈ standing mentions, e.2.alsoServes .role = false := by
  intro e he
  cases List.mem_singleton.mp he
  rfl

end Sample

/-- A role is an entity and can be mentioned. The first of the two converters for the latter answers. -/
theorem resolve_mostSpecific_role :
    Hierarchy (· ∈ Family.standard) ∧ (∀ e ∈ families Sample.mentions, e.1 ∈ Family.standard) ∧
    Known Sample.mentions .role ∧ lastFor ArgType.role.name Sample.mentions = none ∧
    (∀ e ∈ standing Sample.mentions, e.2.alsoServes .role = false) ∧
    ((after Sample.mentions).resolve .role).1 = some .boolean ∧
    (¬ ∀ e ∈ families Sample.mentions, ArgType.role.satisfies e.1 = false) ∧
    ∃ before family later, families Sample.mentions = before ++ (family, .boolean) :: later ∧
      MostSpecific .role (families Sample.mentions) family ∧
      ∀ e ∈ before, ¬ MostSpecific .role (families Sample.mentions) e.1 := by
  have hfound : ((after Sample.mentions).resolve .role).1 = some .boolean := rfl
  obtain ⟨hnone, hfirst⟩ := resolve_mostSpecific Family.hierarchy_standard Sample.families_mentions
    Sample.known_role rfl Sample.alsoServes_mentions
  refine ⟨Family.hierarchy_standard, Sample.families_mentions, Sample.known_role, rfl,
    Sample.alsoServes_mentions, hfound, ?_, hfirst _ hfound⟩
  rw [← hnone, hfound]
  exact Option.some_ne_none _

end ChatDispatch.ConverterTable
