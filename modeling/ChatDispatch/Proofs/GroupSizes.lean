import ChatDispatch.Proofs.Lists
import ChatDispatch.Proofs.PathRouting
import Mathlib.Data.Finset.Union
import Mathlib.Data.Finset.Card

/-!
# Sizes of groups

A group holds at most 25 entries, which are counted once, where the tree of a root module is assembled. Roots
that are loaded on their own may have a group of the same name, and then their entries are not counted
together.

* **`namesUnder`** — the different names directly below a group in the paths of commands.
* **`checkGroupSizes_eq_ok_iff`** — the check passes exactly when no group has too many.
* **`Reachable.card_namesUnder_le`** — the headline: no group has too many entries in the tree of one root,
  and all roots together have at most that many each.
* **`exists_card_namesUnder_gt`** — together two roots can have more entries in a group than one may have.
-/

namespace ChatDispatch

variable {σ : Type}

/-! ## Entries of paths

An entry is a group with the name below it. A path has one entry for each group on it. -/

/-- The entries of a path are its beginnings, each cut before its last name. -/
theorem mem_pathEntries_iff {path group : List String} {name : String} :
    (group, name) ∈ pathEntries path ↔ group ≠ [] ∧ group ++ [name] <+: path := by
  simp only [pathEntries, List.mem_filterMap, List.mem_range]
  constructor
  · rintro ⟨depth, hdepth, hentry⟩
    split at hentry
    · cases hentry
    · rename_i hpos
      obtain ⟨token, htoken, heq⟩ := Option.map_eq_some_iff.mp hentry
      obtain ⟨rfl, rfl⟩ := Prod.mk.inj heq
      -- the group and the name together are the next longer beginning
      have htake : path.take depth ++ [token] = path.take (depth + 1) := by
        rw [List.take_add_one, htoken]
        rfl
      refine ⟨?_, htake ▸ List.take_prefix _ _⟩
      rw [ne_eq, List.take_eq_nil_iff, not_or]
      exact ⟨hpos, List.ne_nil_of_length_pos (by omega)⟩
  · rintro ⟨hne, rest, rfl⟩
    have hpos := List.length_pos_of_ne_nil hne
    refine ⟨group.length, ?_, ?_⟩
    · simp only [List.length_append, List.length_singleton]
      omega
    · rw [if_neg (by omega), List.append_assoc]
      simp

theorem mem_entriesUnder_iff {group : List String} {entries : List (List String × String)} {name : String} :
    name ∈ entriesUnder group entries ↔ (group, name) ∈ entries := by
  rw [entriesUnder, List.mem_eraseDups]
  simp

/-! ## Too many entries

The check looks at groups with an entry only, and counts names once. -/

/-- The first of groups in the order of paths, beginning with a group that was found before. -/
theorem isSome_foldl_firstGroup (groups : List (List String)) (best : List String) :
    (groups.foldl
      (fun best group =>
        match best with
        | none => some group
        | some b => if group < b then some group else some b)
      (some best)).isSome = true := by
  induction groups generalizing best with
  | nil => rfl
  | cons group groups ih =>
    rw [List.foldl_cons]
    dsimp only
    split
    · exact ih group
    · exact ih best

/-- No group is found when none meets the condition. -/
theorem firstGroup_eq_none_iff {condition : List String → Bool} {groups : List (List String)} :
    firstGroup condition groups = none ↔ ∀ group ∈ groups, condition group = false := by
  have hfilter : (∀ group ∈ groups, condition group = false) ↔ groups.filter condition = [] := by
    rw [List.filter_eq_nil_iff]
    simp only [Bool.not_eq_true]
  rw [hfilter, firstGroup]
  cases groups.filter condition with
  | nil => exact iff_of_true rfl rfl
  | cons group rest =>
    refine iff_of_false (fun hnone => ?_) (List.cons_ne_nil _ _)
    -- once a group was found, another one can only take its place
    have hsome := isSome_foldl_firstGroup rest group
    rw [List.foldl_cons] at hnone
    exact Option.isSome_iff_ne_none.mp hsome hnone

/-- The different names directly below a group in the paths of commands. -/
def namesUnder (group : List String) (cs : List (Command σ)) : Finset String :=
  (cs.filterMap fun c => if group <+: c.path then c.path[group.length]? else none).toFinset

/-- A name is directly below a group when a path goes through both. -/
theorem mem_namesUnder_iff {group : List String} {cs : List (Command σ)} {name : String} :
    name ∈ namesUnder group cs ↔ ∃ c ∈ cs, group ++ [name] <+: c.path := by
  rw [namesUnder, List.mem_toFinset, List.mem_filterMap]
  refine exists_congr fun c => and_congr_right fun _ => ?_
  constructor
  · intro hname
    split at hname
    · rename_i hprefix
      obtain ⟨rest, hpath⟩ := hprefix
      rw [← hpath, List.getElem?_append_right le_rfl, Nat.sub_self, ← List.head?_eq_getElem?] at hname
      obtain ⟨below, rfl⟩ := List.head?_eq_some_iff.mp hname
      exact ⟨below, by rw [← hpath, List.append_assoc]; rfl⟩
    · cases hname
  · rintro ⟨rest, hpath⟩
    rw [← hpath, List.append_assoc, if_pos (List.prefix_append _ _), List.getElem?_append_right le_rfl,
      Nat.sub_self]
    rfl

/-- What the check counts are these names. -/
theorem length_entriesUnder {group : List String} (hgroup : group ≠ []) (cs : List (Command σ)) :
    (entriesUnder group (cs.flatMap fun c => pathEntries c.path)).length = (namesUnder group cs).card := by
  have hnames : (entriesUnder group (cs.flatMap fun c => pathEntries c.path)).toFinset =
      namesUnder group cs := by
    ext name
    rw [List.mem_toFinset, mem_entriesUnder_iff, List.mem_flatMap, mem_namesUnder_iff]
    simp only [mem_pathEntries_iff, and_iff_right hgroup]
  rw [← hnames, List.toFinset_card_of_nodup]
  exact nodup_eraseDups _

/-- **The check passes** exactly when no group has too many entries. -/
theorem checkGroupSizes_eq_ok_iff {ms : List (Module σ)} :
    checkGroupSizes ms = .ok () ↔ ∀ group ≠ [],
      (namesUnder group (ms.flatMap (·.slashCommands))).card ≤ maxGroupEntries := by
  rw [checkGroupSizes]
  generalize ms.flatMap (·.slashCommands) = cs
  have hnone : firstGroup
      (fun g => maxGroupEntries < (entriesUnder g (cs.flatMap fun c => pathEntries c.path)).length)
      ((cs.flatMap fun c => pathEntries c.path).map (·.1)) = none ↔
      ∀ group ≠ [], (namesUnder group cs).card ≤ maxGroupEntries := by
    rw [firstGroup_eq_none_iff]
    constructor
    · intro hgroups group hgroup
      -- a group without entries is not looked at, and has few enough
      by_cases hempty : namesUnder group cs = ∅
      · rw [hempty]
        exact Nat.zero_le _
      · obtain ⟨name, hname⟩ := Finset.nonempty_iff_ne_empty.mpr hempty
        obtain ⟨c, hc, hprefix⟩ := mem_namesUnder_iff.mp hname
        have hentry : (group, name) ∈ pathEntries c.path := mem_pathEntries_iff.mpr ⟨hgroup, hprefix⟩
        have hmem : group ∈ (cs.flatMap fun c => pathEntries c.path).map (·.1) :=
          List.mem_map.mpr ⟨_, List.mem_flatMap.mpr ⟨c, hc, hentry⟩, rfl⟩
        have hfew := hgroups group hmem
        rw [decide_eq_false_iff_not, length_entriesUnder hgroup] at hfew
        omega
    · intro hfew group hmem
      obtain ⟨⟨_, name⟩, hentry, rfl⟩ := List.mem_map.mp hmem
      obtain ⟨c, _, hentry⟩ := List.mem_flatMap.mp hentry
      have hgroup := (mem_pathEntries_iff.mp hentry).1
      rw [decide_eq_false_iff_not, length_entriesUnder hgroup]
      exact Nat.not_lt.mpr (hfew _ hgroup)
  rw [← hnone]
  split
  · rename_i hsome
    rw [hsome]
    exact iff_of_false nofun nofun
  · rename_i heq
    exact iff_of_true rfl heq

/-! ## Loaded roots

The check is made for one root at a time, so together the roots have what each of them has at most. -/

theorem namesUnder_append (group : List String) (cs others : List (Command σ)) :
    namesUnder group (cs ++ others) = namesUnder group cs ∪ namesUnder group others := by
  rw [namesUnder, List.filterMap_append, List.toFinset_append]
  rfl

/-- Parts with a bounded number of entries each have, together, at most this number for each part that has
any. -/
theorem card_namesUnder_flatMap_le {α : Type} {group : List String} {bound : Nat} {parts : List α}
    {f : α → List (Command σ)} (h : ∀ a ∈ parts, (namesUnder group (f a)).card ≤ bound) :
    (namesUnder group (parts.flatMap f)).card ≤
      bound * (parts.filter fun a => namesUnder group (f a) ≠ ∅).length := by
  induction parts with
  | nil => exact Nat.zero_le _
  | cons a parts ih =>
    obtain ⟨ha, hparts⟩ := List.forall_mem_cons.mp h
    rw [List.flatMap_cons, namesUnder_append]
    have hunion := Finset.card_union_le (namesUnder group (f a)) (namesUnder group (parts.flatMap f))
    have hrest := ih hparts
    -- a part without names in the group adds none, and is not counted
    by_cases hempty : namesUnder group (f a) = ∅
    · rw [List.filter_cons_of_neg (by simpa using hempty), hempty, Finset.empty_union]
      exact hrest
    · rw [List.filter_cons_of_pos (by simpa using hempty), List.length_cons, Nat.mul_succ]
      omega

/-- The slash commands of a root and of all modules below it. -/
def Module.allSlashCommands (root : Module σ) : List (Command σ) :=
  root.descendants.flatMap (·.slashCommands)

theorem Dispatcher.slashCommands_eq_flatMap (d : Dispatcher σ) :
    d.slashCommands = d.catalog.roots.flatMap Module.allSlashCommands := by
  rw [slashCommands, Catalog.modules, Module.forest_eq_flatMap, List.flatMap_assoc]
  rfl

/-- **Groups are bounded within a root.** Take any dispatcher that loads and unloads lead to. Under every
group, the slash commands of one root and of the modules below it have at most 25 different names. Together
all loaded commands have at most 25 for each root that has any there. -/
theorem Reachable.card_namesUnder_le {d : Dispatcher σ} (h : Reachable d) {group : List String}
    (hgroup : group ≠ []) :
    (∀ root ∈ d.catalog.roots, (namesUnder group root.allSlashCommands).card ≤ maxGroupEntries) ∧
    (namesUnder group d.slashCommands).card ≤ maxGroupEntries *
      (d.catalog.roots.filter fun root => namesUnder group root.allSlashCommands ≠ ∅).length := by
  have hroots : ∀ root ∈ d.catalog.roots,
      (namesUnder group root.allSlashCommands).card ≤ maxGroupEntries := by
    intro root hroot
    obtain ⟨table, number, decl, hassemble⟩ := h.exists_assemble hroot
    exact checkGroupSizes_eq_ok_iff.mp (assemble_eq_ok_iff.mp hassemble).2 group hgroup
  refine ⟨hroots, ?_⟩
  rw [d.slashCommands_eq_flatMap]
  exact card_namesUnder_flatMap_le hroots

namespace Sample

/-- A group with a command for each name. -/
def entries (typeName : String) (names : List String) : ModuleDecl Unit :=
  ⟨typeName, typeName, some ⟨"g", "A group"⟩, true, [],
    names.map fun name => { hello with name := name }, [], construct typeName⟩

/-- Two roots with thirteen commands each in the same group, loaded one after another. -/
def halves : Dispatcher Unit :=
  ((((Dispatcher.new {} id).change (.load [entries "host::First"
    ["a", "b", "c", "d", "e", "f", "g", "h", "i", "j", "k", "l", "m"]])).2).change
    (.load [entries "host::Second"
      ["n", "o", "p", "q", "r", "s", "t", "u", "v", "w", "x", "y", "z"]])).2

theorem reachable_halves : Reachable halves := ((Reachable.new {} id).change _).change _

end Sample

/-- Each root has thirteen entries in the group. -/
theorem card_namesUnder_le_halves :
    Reachable Sample.halves ∧ ["g"] ≠ [] ∧
    (∀ root ∈ Sample.halves.catalog.roots, (namesUnder ["g"] root.allSlashCommands).card ≤ 25) ∧
    (namesUnder ["g"] Sample.halves.slashCommands).card ≤ 25 * 2 := by
  obtain ⟨hroots, hall⟩ := Reachable.card_namesUnder_le Sample.reachable_halves (List.cons_ne_nil "g" [])
  have hlength : (Sample.halves.catalog.roots.filter
      fun root => namesUnder ["g"] root.allSlashCommands ≠ ∅).length ≤ 2 := List.length_filter_le _ _
  exact ⟨Sample.reachable_halves, List.cons_ne_nil _ _, hroots, hall.trans (Nat.mul_le_mul_left _ hlength)⟩

/-- **Two roots** that share a group can have more entries there than one may have. -/
theorem exists_card_namesUnder_gt :
    ∃ d : Dispatcher Unit, Reachable d ∧ maxGroupEntries < (namesUnder ["g"] d.slashCommands).card := by
  refine ⟨Sample.halves, Sample.reachable_halves, ?_⟩
  decide +kernel

end ChatDispatch
