import ChatDispatch.Proofs.GroupSizes
import ChatDispatch.Proofs.Mirroring
import Mathlib.Data.Set.Card
import Mathlib.Order.Interval.Set.Basic

/-!
# Valid declarations

Assembly walks a tree of declarations and stops at the first thing that is wrong. Here the rules stand on
their own, each of them about the whole list or the whole tree that it is a rule for, and assembly is shown
to accept exactly the declarations that keep all of them.

* **`ModuleDecl.Valid`** — the rules for a tree, from those for modules (`ModuleDecl.Sound`), commands
  (`CommandDecl.Valid`) and lists of parameters (`ValidParameters`).
* **`exists_buildParameters_iff`**, **`exists_buildCommands_iff`** — a list that is gone through with what
  has been seen before is accepted exactly when it keeps the rules for lists.
* **`exists_buildModule_iff`** — one tree of modules, below any groups.
* **`Mirrors.entriesBelow_eq`** — what is counted in the tree of modules stands in the declarations.
* **`exists_assemble_iff_valid`** — the headline.
-/

namespace ChatDispatch

variable {σ : Type} {table : ConverterTable}

/-! ## The rules

A rule is about the whole list or tree that it is for, without what has been seen before in it. -/

/-- A name of one to 32 characters, each of them a lower-case letter from a to z, a digit, `-` or `_`. -/
def SlashName (name : String) : Prop :=
  name.length ∈ Set.Icc 1 32 ∧
    ∀ c ∈ name.toList, c = '-' ∨ c = '_' ∨ ('a' ≤ c ∧ c ≤ 'z') ∨ ('0' ≤ c ∧ c ≤ '9')

/-- The names and descriptions that a command of a kind may have. -/
def CommandKind.MayBeCalled (kind : CommandKind) (name : String) (description : Option String) : Prop :=
  match kind with
  | .slash => SlashName name ∧ ∃ text, description = some text ∧ text.length ∈ Set.Icc 1 100
  | .context _ => name.length ∈ Set.Icc 1 32
  | .component | .modal | .autocomplete => name.length ∈ Set.Icc 1 100

/-- What a parameter needs that is a matter of itself alone. -/
structure ParameterDecl.Sound (table : ConverterTable) (kind : CommandKind) (p : ParameterDecl σ) :
    Prop where
  name : if kind = .slash then SlashName p.name else p.name ≠ ""
  description : ∀ text, p.description = some text → text.length ∈ Set.Icc 1 100
  converter : ∃ converter, table.find? p.type = some converter

/-- The rules for the parameters of a command. -/
structure ValidParameters (table : ConverterTable) (kind : CommandKind) (ps : List (ParameterDecl σ)) :
    Prop where
  sound : ∀ p ∈ ps, p.Sound table kind
  names_differ : (ps.map fun p => Text.lowercase p.name).Nodup
  variadic_last : ∀ p ∈ ps.dropLast, p.variadic = false
  required_first : ps.Pairwise fun p q => q.required = true → p.required = true

/-- The rules for a command. -/
structure CommandDecl.Valid (table : ConverterTable) (c : CommandDecl σ) : Prop where
  called : c.kind.MayBeCalled c.name c.description
  handler : ∃ handler, c.handler = some handler
  few_parameters : c.kind = .slash → c.parameters.length ≤ 25
  parameters : ValidParameters table c.kind c.parameters

/-- What a module needs that is a matter of itself alone. -/
structure ModuleDecl.Sound (table : ConverterTable) (m : ModuleDecl σ) : Prop where
  group : ∀ g, m.group = some g → SlashName g.name ∧ g.description.length ∈ Set.Icc 1 100
  commands_differ : (m.commands.map fun c => (c.kind, Text.lowercase c.name)).Nodup
  commands : ∀ c ∈ m.commands, c.Valid table

/-- `Standing root above d`: in the tree of `root`, the declaration `d` stands inside the declarations
`above`, outermost first. -/
inductive Standing : ModuleDecl σ → List (ModuleDecl σ) → ModuleDecl σ → Prop where
  | here (root : ModuleDecl σ) : Standing root [] root
  | inside {root s d : ModuleDecl σ} {above : List (ModuleDecl σ)} (hmem : s ∈ root.submodules)
      (rest : Standing s above d) : Standing root (root :: above) d

/-- The path of a slash command that is declared in the tree of `root`. -/
def ModuleDecl.SlashPath (root : ModuleDecl σ) (path : List String) : Prop :=
  ∃ above d c, Standing root above d ∧ c ∈ d.commands ∧ c.kind = .slash ∧
    path = (if c.ignoresGroups then [] else groupNames (above ++ [d])) ++ [c.name]

/-- The names directly below a group on the paths of the slash commands that are declared in a tree. -/
def ModuleDecl.entriesBelow (root : ModuleDecl σ) (group : List String) : Set String :=
  {name | ∃ path, root.SlashPath path ∧ group ++ [name] <+: path}

/-- **The rules for a tree of declarations.** -/
structure ModuleDecl.Valid (table : ConverterTable) (root : ModuleDecl σ) : Prop where
  sound : ∀ above d, Standing root above d → d.Sound table
  few_groups : ∀ above d, Standing root above d → (groupNames (above ++ [d])).length ≤ 2
  few_entries : ∀ group ≠ [], (root.entriesBelow group).encard ≤ 25

/-! ## Names and descriptions

The checks of single names and texts, each one a rule. -/

/-- The length of a text is between one and the given number. -/
theorem hasLength_iff {s : String} {max : Nat} : hasLength s max = true ↔ s.length ∈ Set.Icc 1 max := by
  rw [hasLength, Bool.and_eq_true, decide_eq_true_eq, decide_eq_true_eq, Set.mem_Icc]

/-- The characters of the names of slash commands. -/
theorem isSlashChar_iff {c : Char} :
    isSlashChar c = true ↔ c = '-' ∨ c = '_' ∨ ('a' ≤ c ∧ c ≤ 'z') ∨ ('0' ≤ c ∧ c ≤ '9') := by
  have hrange : ∀ first last : Char, (decide (first.val ≤ c.val) && decide (c.val ≤ last.val)) = true ↔
      first ≤ c ∧ c ≤ last := by
    intro first last
    rw [Bool.and_eq_true, decide_eq_true_eq, decide_eq_true_eq]
    exact Iff.rfl
  rw [isSlashChar, Bool.or_eq_true, Bool.or_eq_true, Bool.or_eq_true, beq_iff_eq, beq_iff_eq, or_assoc,
    or_assoc]
  exact or_congr_right (or_congr_right (or_congr (hrange 'a' 'z') (hrange '0' '9')))

theorem isSlashName_iff {name : String} : isSlashName name = true ↔ SlashName name := by
  rw [isSlashName, Bool.and_eq_true, hasLength_iff, List.all_eq_true]
  exact and_congr_right fun _ => forall₂_congr fun c _ => isSlashChar_iff

theorem checkDescription_eq_ok_iff {owner description : String} {u : Unit} :
    checkDescription owner description = .ok u ↔ description.length ∈ Set.Icc 1 100 :=
  ensure_eq_ok_iff.trans hasLength_iff

/-- The check of a name and a description is the rule for the kind of command. -/
theorem checkCommandName_eq_ok_iff {kind : CommandKind} {name : String} {description : Option String}
    {u : Unit} : checkCommandName kind name description = .ok u ↔ kind.MayBeCalled name description := by
  cases kind with
  | slash =>
    simp only [checkCommandName, bind_eq_ok_iff, checkSlashName_eq_ok_iff, checkDescription_eq_ok_iff,
      isSlashName_iff, CommandKind.MayBeCalled]
    -- a missing description counts as an empty one, which is too short
    cases description with
    | none => simp
    | some text => simp
  | context target => exact ensure_eq_ok_iff.trans hasLength_iff
  | component | modal | autocomplete => exact ensure_eq_ok_iff.trans hasLength_iff

/-- The name of a parameter of a slash command follows the rule for names; any other one is not empty. -/
theorem checkParameterName_eq_ok_iff {kind : CommandKind} {name : String} {u : Unit} :
    checkParameterName kind name = .ok u ↔ if kind = .slash then SlashName name else name ≠ "" := by
  unfold checkParameterName
  split
  · exact checkSlashName_eq_ok_iff.trans isSlashName_iff
  · rw [ensure_eq_ok_iff, Bool.not_eq_true', ← Bool.not_eq_true, String.isEmpty_iff]

/-! ## Parameters

The rules for a list are about pairs in it. Going through it with the names seen before and with whether one was
optional checks each pair at its second member. -/

/-- One parameter, with the names before it and whether one before it is optional. -/
theorem exists_buildParameters_cons_iff {kind : CommandKind} {command : String} {seen : List String}
    {optional : Bool} {p : ParameterDecl σ} {ps : List (ParameterDecl σ)} :
    (∃ built, buildParameters table kind command seen optional (p :: ps) = .ok built) ↔
      (p.Sound table kind ∧ Text.lowercase p.name ∉ seen ∧ (p.variadic = true → ps = []) ∧
        ¬ (p.required = true ∧ optional = true)) ∧
      ∃ built, buildParameters table kind command (Text.lowercase p.name :: seen)
        (optional || !p.required) ps = .ok built := by
  have hvariadic : (!p.variadic || ps.isEmpty) = true ↔ (p.variadic = true → ps = []) := by
    cases p.variadic <;> simp
  have hrequired : (!(p.required && optional)) = true ↔ ¬ (p.required = true ∧ optional = true) := by
    rw [Bool.not_eq_true', ← Bool.not_eq_true, Bool.and_eq_true]
  have hfresh : (!seen.contains (Text.lowercase p.name)) = true ↔ Text.lowercase p.name ∉ seen := by
    simp
  -- a description is checked only where there is one
  have hsound : p.Sound table kind ↔
      (if kind = .slash then SlashName p.name else p.name ≠ "") ∧
        (∀ text, p.description = some text → text.length ∈ Set.Icc 1 100) ∧
        ∃ converter, table.find? p.type = some converter :=
    ⟨fun h => ⟨h.name, h.description, h.converter⟩, fun h => ⟨h.1, h.2.1, h.2.2⟩⟩
  rw [hsound]
  simp only [buildParameters, bind_eq_ok_iff, ensure_eq_ok_iff, checkParameterName_eq_ok_iff, hvariadic,
    hrequired, hfresh]
  cases hdescription : p.description with
  | none =>
    simp only [bind_eq_ok_iff, buildParameter_eq_ok_iff]
    constructor
    · rintro ⟨built, _, hname, _, hseen, _, hlast, _, hfirst, _, _, q, ⟨converter, hfind, _⟩, rest, hrest, _⟩
      exact ⟨⟨⟨hname, by rintro _ ⟨⟩, converter, hfind⟩, hseen, hlast, hfirst⟩, rest, hrest⟩
    · rintro ⟨⟨⟨hname, _, converter, hfind⟩, hseen, hlast, hfirst⟩, rest, hrest⟩
      exact ⟨_, (), hname, (), hseen, (), hlast, (), hfirst, (), trivial, _, ⟨converter, hfind, rfl⟩, rest,
        hrest, rfl⟩
  | some text =>
    simp only [bind_eq_ok_iff, buildParameter_eq_ok_iff, checkDescription_eq_ok_iff]
    constructor
    · rintro ⟨built, _, hname, _, hseen, _, hlast, _, hfirst, _, htext, q, ⟨converter, hfind, _⟩, rest,
        hrest, _⟩
      refine ⟨⟨⟨hname, ?_, converter, hfind⟩, hseen, hlast, hfirst⟩, rest, hrest⟩
      rintro _ ⟨⟩
      exact htext
    · rintro ⟨⟨⟨hname, htext, converter, hfind⟩, hseen, hlast, hfirst⟩, rest, hrest⟩
      exact ⟨_, (), hname, (), hseen, (), hlast, (), hfirst, (), htext _ rfl, _, ⟨converter, hfind, rfl⟩,
        rest, hrest, rfl⟩

/-- **The parameters of a command** are made when they keep the rules for parameters, none of them has a name
from before, and none is required when one before them is optional. -/
theorem exists_buildParameters_iff {kind : CommandKind} {command : String} {seen : List String}
    {optional : Bool} {ps : List (ParameterDecl σ)} :
    (∃ built, buildParameters table kind command seen optional ps = .ok built) ↔
      ValidParameters table kind ps ∧ (∀ p ∈ ps, Text.lowercase p.name ∉ seen) ∧
        (optional = true → ∀ p ∈ ps, p.required = false) := by
  -- on the declarations, with what has been seen before generalised
  induction ps generalizing seen optional with
  | nil => exact iff_of_true ⟨[], rfl⟩ ⟨⟨nofun, List.nodup_nil, nofun, .nil⟩, nofun, fun _ => nofun⟩
  | cons p ps ih =>
    rw [exists_buildParameters_cons_iff, ih]
    constructor
    · rintro ⟨⟨hsound, hfresh, hlast, hfirst⟩, hvalid, hothers, hrequired⟩
      simp only [List.mem_cons, not_or] at hothers
      refine ⟨⟨?_, ?_, ?_, ?_⟩, ?_, ?_⟩
      · exact List.forall_mem_cons.mpr ⟨hsound, hvalid.sound⟩
      · refine List.nodup_cons.mpr ⟨fun hmem => ?_, hvalid.names_differ⟩
        obtain ⟨q, hq, heq⟩ := List.mem_map.mp hmem
        exact (hothers q hq).1 heq
      · -- a variadic parameter has none after it
        intro q hq
        cases ps with
        | nil => cases hq
        | cons r rs =>
          rcases List.mem_cons.mp hq with rfl | hq
          · exact Bool.eq_false_iff.mpr fun h => absurd (hlast h) (List.cons_ne_nil _ _)
          · exact hvalid.variadic_last q hq
      · -- if this one were optional, none after it would be required
        refine List.pairwise_cons.mpr ⟨fun q hq hqr => ?_, hvalid.required_first⟩
        by_contra hp
        exact absurd hqr (by simp [hrequired (by simp [hp]) q hq])
      · exact List.forall_mem_cons.mpr ⟨hfresh, fun q hq => (hothers q hq).2⟩
      · intro hoptional
        refine List.forall_mem_cons.mpr ⟨?_, hrequired (by simp [hoptional])⟩
        exact Bool.eq_false_iff.mpr fun hp => hfirst ⟨hp, hoptional⟩
    · rintro ⟨⟨hsound, hdiffer, hlast, hfirst⟩, hfresh, hrequired⟩
      rw [List.map_cons, List.nodup_cons] at hdiffer
      rw [List.pairwise_cons] at hfirst
      refine ⟨⟨hsound p List.mem_cons_self, hfresh p List.mem_cons_self, ?_, ?_⟩, ⟨?_, hdiffer.2, ?_,
        hfirst.2⟩, ?_, ?_⟩
      · intro hvariadic
        cases ps with
        | nil => rfl
        | cons q qs => exact absurd hvariadic (by simp [hlast p List.mem_cons_self])
      · rintro ⟨hp, hoptional⟩
        exact absurd hp (by simp [hrequired hoptional p List.mem_cons_self])
      · exact fun q hq => hsound q (List.mem_cons_of_mem _ hq)
      · intro q hq
        cases ps with
        | nil => cases hq
        | cons r rs => exact hlast q (List.mem_cons_of_mem _ hq)
      · intro q hq hmem
        rcases List.mem_cons.mp hmem with heq | hmem
        · exact hdiffer.1 (heq ▸ List.mem_map_of_mem hq)
        · exact hfresh q (List.mem_cons_of_mem _ hq) hmem
      · -- what is optional so far is optional before or this parameter itself
        intro hoptional q hq
        rcases (Bool.or_eq_true _ _).mp hoptional with hbefore | hown
        · exact hrequired hbefore q (List.mem_cons_of_mem _ hq)
        · refine Bool.eq_false_iff.mpr fun hqr => ?_
          rw [hfirst.1 q hq hqr] at hown
          cases hown

/-! ## Commands

A command is valid by itself; the commands of a module are told apart by their kinds and names. -/

/-- A command is made when it is valid. -/
theorem exists_buildCommand_iff {owner : Owner σ} {decl : CommandDecl σ} :
    (∃ c, buildCommand table owner decl = .ok c) ↔ decl.Valid table := by
  simp only [buildCommand_eq_ok_iff, checkCommandName_eq_ok_iff]
  constructor
  · rintro ⟨c, hname, hcount, handler, parameters, hhandler, hparameters, _⟩
    exact ⟨hname, ⟨handler, hhandler⟩, fun hslash => hcount.resolve_left (not_not_intro hslash),
      (exists_buildParameters_iff.mp ⟨parameters, hparameters⟩).1⟩
  · rintro ⟨hname, ⟨handler, hhandler⟩, hcount, hvalid⟩
    obtain ⟨parameters, hparameters⟩ : ∃ parameters,
        buildParameters table decl.kind decl.name [] false decl.parameters = .ok parameters :=
      exists_buildParameters_iff.mpr ⟨hvalid, fun _ _ => List.not_mem_nil, fun hoptional => nomatch hoptional⟩
    exact ⟨_, hname, not_or_of_imp hcount, handler, parameters, hhandler, hparameters, rfl⟩

/-- **The commands of a module** are made when each is valid and no two share their kind and their name in
lower case, nor does one with the commands before. -/
theorem exists_buildCommands_iff {owner : Owner σ} {seen : List (CommandKind × String)}
    {decls : List (CommandDecl σ)} :
    (∃ cs, buildCommands table owner seen decls = .ok cs) ↔
      (∀ c ∈ decls, c.Valid table) ∧ (decls.map fun c => (c.kind, Text.lowercase c.name)).Nodup ∧
        ∀ c ∈ decls, (c.kind, Text.lowercase c.name) ∉ seen := by
  induction decls generalizing seen with
  | nil => exact iff_of_true ⟨[], rfl⟩ ⟨nofun, List.nodup_nil, nofun⟩
  | cons decl decls ih =>
    -- one step: the first command is new and made, and so are the others after it
    have hstep : (∃ cs, buildCommands table owner seen (decl :: decls) = .ok cs) ↔
        (decl.kind, Text.lowercase decl.name) ∉ seen ∧ (∃ c, buildCommand table owner decl = .ok c) ∧
          ∃ cs, buildCommands table owner ((decl.kind, Text.lowercase decl.name) :: seen) decls = .ok cs := by
      simp only [buildCommands, bind_eq_ok_iff, ensure_eq_ok_iff]
      constructor
      · rintro ⟨_, _, hfresh, c, hc, cs, hcs, _⟩
        exact ⟨by simpa using hfresh, ⟨c, hc⟩, cs, hcs⟩
      · rintro ⟨hfresh, ⟨c, hc⟩, cs, hcs⟩
        exact ⟨_, (), by simpa using hfresh, c, hc, cs, hcs, rfl⟩
    rw [hstep, exists_buildCommand_iff, ih, List.map_cons, List.nodup_cons, List.forall_mem_cons,
      List.forall_mem_cons]
    simp only [List.mem_cons, not_or, List.mem_map, not_exists, not_and]
    constructor
    · rintro ⟨hfresh, hvalid, hvalids, hnodup, hothers⟩
      exact ⟨⟨hvalid, hvalids⟩, ⟨fun c hc => (hothers c hc).1, hnodup⟩, hfresh, fun c hc => (hothers c hc).2⟩
    · rintro ⟨⟨hvalid, hvalids⟩, ⟨hdiffer, hnodup⟩, hfresh, hothers⟩
      exact ⟨hfresh, hvalid, hvalids, hnodup, fun c hc => ⟨hdiffer c hc, hothers c hc⟩⟩

/-! ## Modules

The number of groups is a rule for the chain from the root down, so it is kept with what the groups around a
module leave room for. -/

/-- A declaration is the root or stands in one of the submodules. -/
theorem standing_iff {root d : ModuleDecl σ} {above : List (ModuleDecl σ)} :
    Standing root above d ↔ above = [] ∧ d = root ∨
      ∃ s ∈ root.submodules, ∃ inner, Standing s inner d ∧ above = root :: inner := by
  constructor
  · intro h
    cases h with
    | here => exact .inl ⟨rfl, rfl⟩
    | inside hmem rest => exact .inr ⟨_, hmem, _, rest, rfl⟩
  · rintro (⟨rfl, rfl⟩ | ⟨s, hmem, inner, rest, rfl⟩)
    · exact .here d
    · exact .inside hmem rest

/-- A group is accepted when it is named and described as it must be and there is room for it. -/
theorem exists_checkGroup_iff {around : List String} (haround : around.length ≤ 2) {decl : ModuleDecl σ} :
    (∃ path, checkGroup around decl.group = .ok path) ↔
      (∀ g, decl.group = some g → SlashName g.name ∧ g.description.length ∈ Set.Icc 1 100) ∧
        around.length + (groupNames [decl]).length ≤ 2 := by
  rw [groupNames_singleton]
  cases decl.group with
  | none => exact iff_of_true ⟨around, rfl⟩ ⟨nofun, haround⟩
  | some group =>
    simp only [checkGroup, bind_eq_ok_iff, checkSlashName_eq_ok_iff, isSlashName_iff,
      checkDescription_eq_ok_iff, ensure_eq_ok_iff, decide_eq_true_eq, List.length_append]
    constructor
    · rintro ⟨_, _, hname, _, hdescription, _, hdepth, _⟩
      refine ⟨?_, hdepth⟩
      rintro _ ⟨⟩
      exact ⟨hname, hdescription⟩
    · rintro ⟨hgroup, hdepth⟩
      obtain ⟨hname, hdescription⟩ := hgroup group rfl
      exact ⟨_, (), hname, (), hdescription, (), hdepth, rfl⟩

/-- Modules side by side are made when each of them is. -/
theorem exists_buildModules_iff {number : Nat} {around : Surroundings σ} {decls : List (ModuleDecl σ)}
    {P : ModuleDecl σ → Prop}
    (h : ∀ d ∈ decls, ∀ k, (∃ m, buildModule table k around d = .ok m) ↔ P d) :
    (∃ ms, buildModules table number around decls = .ok ms) ↔ ∀ d ∈ decls, P d := by
  induction decls generalizing number with
  | nil => exact iff_of_true ⟨[], by rw [buildModules.eq_def]⟩ nofun
  | cons d decls ih =>
    obtain ⟨hd, hdecls⟩ := List.forall_mem_cons.mp h
    rw [List.forall_mem_cons, ← hd number, ← ih hdecls]
    rw [buildModules.eq_def]
    simp only [bind_eq_ok_iff]
    constructor
    · rintro ⟨_, m, hm, ms, hms, _⟩
      exact ⟨⟨m, hm⟩, ms, hms⟩
    · rintro ⟨⟨m, hm⟩, ms, hms⟩
      exact ⟨_, m, hm, ms, hms, rfl⟩

/-- **A tree of modules** is made below some groups when every module in it is sound and no chain has more
groups than there is room for. -/
theorem exists_buildModule_iff {number : Nat} {around : Surroundings σ} {decl : ModuleDecl σ}
    (haround : around.groupPath.length ≤ 2) :
    (∃ m, buildModule table number around decl = .ok m) ↔
      ∀ above d, Standing decl above d →
        d.Sound table ∧ around.groupPath.length + (groupNames (above ++ [d])).length ≤ 2 := by
  -- the module is made when its three steps are accepted
  have hsteps : (∃ m, buildModule table number around decl = .ok m) ↔
      ∃ path, checkGroup around.groupPath decl.group = .ok path ∧
        (∃ cs, buildCommands table (decl.owner number path around) [] decl.commands = .ok cs) ∧
        ∃ ms, buildModules table (number + 1) (decl.surroundings number path around) decl.submodules =
          .ok ms := by
    simp only [buildModule_eq_ok_iff]
    constructor
    · rintro ⟨_, path, cs, ms, hpath, hcs, hms, _⟩
      exact ⟨path, hpath, ⟨cs, hcs⟩, ms, hms⟩
    · rintro ⟨path, hpath, ⟨cs, hcs⟩, ms, hms⟩
      exact ⟨_, path, cs, ms, hpath, hcs, hms, rfl⟩
  -- below an accepted group, a submodule stands below one more name at most
  have hbelow : ∀ path, checkGroup around.groupPath decl.group = .ok path → path.length ≤ 2 →
      ((∃ ms, buildModules table (number + 1) (decl.surroundings number path around) decl.submodules =
          .ok ms) ↔
        ∀ s ∈ decl.submodules, ∀ inner d, Standing s inner d →
          d.Sound table ∧
            around.groupPath.length + (groupNames ((decl :: inner) ++ [d])).length ≤ 2) := by
    intro path hpath hroom
    -- the group of this module is counted either way
    have hlength : ∀ chain : List (ModuleDecl σ), path.length + (groupNames chain).length =
        around.groupPath.length + (groupNames (decl :: chain)).length := by
      intro chain
      rw [path_of_checkGroup hpath, ← List.singleton_append, groupNames_append, groupNames_singleton,
        List.length_append, List.length_append, Nat.add_assoc]
    refine exists_buildModules_iff fun s hs k => ?_
    have hlt : sizeOf s < sizeOf decl := by
      have hmem := List.sizeOf_lt_of_mem hs
      cases decl
      simp only [ModuleDecl.mk.sizeOf_spec] at hmem ⊢
      omega
    rw [exists_buildModule_iff hroom]
    refine forall₂_congr fun inner d => imp_congr_right fun _ => and_congr_right fun _ => ?_
    rw [List.cons_append, ← hlength (inner ++ [d])]
    rfl
  constructor
  · intro hmodule above d hstanding
    obtain ⟨path, hpath, hcommands, hsubmodules⟩ := hsteps.mp hmodule
    obtain ⟨hgroup, hroom⟩ := (exists_checkGroup_iff haround).mp ⟨path, hpath⟩
    rcases standing_iff.mp hstanding with ⟨rfl, rfl⟩ | ⟨s, hs, inner, hinner, rfl⟩
    · obtain ⟨hvalid, hdiffer, _⟩ := exists_buildCommands_iff.mp hcommands
      exact ⟨⟨hgroup, hdiffer, hvalid⟩, hroom⟩
    · exact (hbelow path hpath (length_le_of_checkGroup hpath haround)).mp hsubmodules s hs inner d hinner
  · intro hvalid
    obtain ⟨hsound, hroom⟩ := hvalid [] decl (.here decl)
    obtain ⟨path, hpath⟩ := (exists_checkGroup_iff haround).mpr ⟨hsound.group, hroom⟩
    refine hsteps.mpr ⟨path, hpath, ?_, ?_⟩
    · exact exists_buildCommands_iff.mpr ⟨hsound.commands, hsound.commands_differ, fun _ _ => List.not_mem_nil⟩
    · exact (hbelow path hpath (length_le_of_checkGroup hpath haround)).mpr fun s hs inner d hinner =>
        hvalid (decl :: inner) d (.inside hs hinner)
termination_by sizeOf decl

/-! ## Paths of slash commands

What a group holds is counted in the tree of modules. The tree mirrors the declarations, so the count is one of
declared paths. -/

/-- Trees side by side mirror each other one by one. -/
theorem MirrorsAll.forall₂ {above : List (ModuleDecl σ)} {parent : Option ModuleId}
    {decls : List (ModuleDecl σ)} {ms : List (Module σ)} (h : MirrorsAll above parent decls ms) :
    List.Forall₂ (Mirrors above parent) decls ms := by
  induction decls generalizing ms with
  | nil =>
    cases h
    exact .nil
  | cons decl decls ih =>
    cases h with
    | cons head tail => exact .cons head (ih tail)

/-- Every declaration in the tree has its module. -/
theorem Mirrors.exists_makes {above inner : List (ModuleDecl σ)} {parent : Option ModuleId}
    {decl d : ModuleDecl σ} {m : Module σ} (h : Mirrors above parent decl m)
    (hstanding : Standing decl inner d) :
    ∃ s ∈ m.descendants, ∃ owner, d.Makes (above ++ inner) owner s := by
  induction hstanding generalizing above parent m with
  | here root =>
    cases h with
    | node own below =>
      exact ⟨m, Module.mem_descendants_iff.mpr (.inl rfl), parent, (List.append_nil above).symm ▸ own⟩
  | @inside root s d inner hmem rest ih =>
    cases h with
    | node own below =>
      obtain ⟨t, ht, hmirrors⟩ := forall₂_mem_right below.forall₂.flip hmem
      obtain ⟨made, hmade, owner, hmakes⟩ := ih hmirrors
      rw [List.append_assoc, List.singleton_append] at hmakes
      exact ⟨made, Module.mem_descendants_iff.mpr (.inr ⟨t, ht, hmade⟩), owner, hmakes⟩

/-- Every module in the tree has its declaration. -/
theorem Mirrors.exists_standing {above : List (ModuleDecl σ)} {parent : Option ModuleId}
    {decl : ModuleDecl σ} {m s : Module σ} (h : Mirrors above parent decl m) (hs : s ∈ m.descendants) :
    ∃ inner d owner, Standing decl inner d ∧ d.Makes (above ++ inner) owner s := by
  cases h with
  | node own below =>
    rcases Module.mem_descendants_iff.mp hs with rfl | ⟨t, ht, hst⟩
    · exact ⟨[], decl, parent, .here decl, (List.append_nil above).symm ▸ own⟩
    · obtain ⟨d, hd, hmirrors⟩ := forall₂_mem_right below.forall₂ ht
      obtain ⟨inner, made, owner, hstanding, hmakes⟩ := hmirrors.exists_standing hst
      rw [List.append_assoc, List.singleton_append] at hmakes
      exact ⟨decl :: inner, made, owner, .inside hd hstanding, hmakes⟩
termination_by sizeOf decl
decreasing_by
  have hlt : sizeOf d < sizeOf decl.submodules := List.sizeOf_lt_of_mem hd
  cases decl
  simp only [ModuleDecl.mk.sizeOf_spec] at hlt ⊢
  omega

/-- The slash commands of a tree have the paths that are declared. -/
theorem Mirrors.slashPath_iff {decl : ModuleDecl σ} {root : Module σ} (h : Mirrors [] none decl root)
    {path : List String} : decl.SlashPath path ↔ ∃ c ∈ root.allSlashCommands, c.path = path := by
  simp only [Module.allSlashCommands, List.mem_flatMap]
  constructor
  · rintro ⟨above, d, c, hstanding, hc, hkind, rfl⟩
    obtain ⟨m, hm, owner, hmakes⟩ := h.exists_makes hstanding
    -- the module lists what its declaration does
    have hlisted : c ∈ d.commands.filter (·.kind.listing = .slash) := by
      rw [List.mem_filter, hkind]
      exact ⟨hc, rfl⟩
    obtain ⟨made, hmade, hcommand⟩ := forall₂_mem_right (hmakes.listed .slash).flip hlisted
    refine ⟨made, ⟨m, hm, hmade⟩, ?_⟩
    rw [CommandSpec.path, hcommand.groupPath_eq, hcommand.name_eq]
    rfl
  · rintro ⟨made, ⟨m, hm, hmade⟩, rfl⟩
    obtain ⟨above, d, owner, hstanding, hmakes⟩ := h.exists_standing hm
    obtain ⟨c, hc, hcommand⟩ := forall₂_mem_right (hmakes.listed .slash) hmade
    have hkind : made.kind = .slash := by simpa using (List.mem_filter.mp hmade).2
    refine ⟨above, d, c, hstanding, (List.mem_filter.mp hc).1, hcommand.kind_eq ▸ hkind, ?_⟩
    rw [CommandSpec.path, hcommand.groupPath_eq, hcommand.name_eq]
    rfl

/-- **What is counted** in the tree of modules stands in the declarations. -/
theorem Mirrors.entriesBelow_eq {decl : ModuleDecl σ} {root : Module σ} (h : Mirrors [] none decl root)
    (group : List String) : decl.entriesBelow group = (namesUnder group root.allSlashCommands : Set String) := by
  ext name
  rw [Finset.mem_coe, mem_namesUnder_iff, ModuleDecl.entriesBelow, Set.mem_ofPred_eq]
  simp only [h.slashPath_iff]
  constructor
  · rintro ⟨_, ⟨c, hc, rfl⟩, hprefix⟩
    exact ⟨c, hc, hprefix⟩
  · rintro ⟨c, hc, hprefix⟩
    exact ⟨c.path, ⟨c, hc, rfl⟩, hprefix⟩

/-- **Assembly accepts exactly the valid declarations.** A module is made of a tree of declarations, whatever
number it is to have, exactly when the tree keeps the rules. -/
theorem exists_assemble_iff_valid {number : Nat} {decl : ModuleDecl σ} :
    (∃ root, assemble table number decl = .ok root) ↔ decl.Valid table := by
  have hbuild : (∃ root, buildModule table number .none decl = .ok root) ↔
      ∀ above d, Standing decl above d → d.Sound table ∧ 0 + (groupNames (above ++ [d])).length ≤ 2 :=
    exists_buildModule_iff (Nat.zero_le 2)
  simp only [Nat.zero_add] at hbuild
  -- once the tree is built, its groups are counted as they are declared
  have hsizes : ∀ root, buildModule table number .none decl = .ok root →
      (checkGroupSizes root.descendants = .ok () ↔
        ∀ group ≠ [], (decl.entriesBelow group).encard ≤ 25) := by
    intro root hroot
    have hmirrors : Mirrors [] none decl root := mirrors_of_buildModule [] hroot rfl rfl
    rw [checkGroupSizes_eq_ok_iff]
    refine forall₂_congr fun group _ => ?_
    rw [hmirrors.entriesBelow_eq, Set.encard_coe_eq_coe_finsetCard]
    exact Nat.cast_le.symm
  simp only [assemble_eq_ok_iff]
  constructor
  · rintro ⟨root, hroot, hcheck⟩
    have hvalid := hbuild.mp ⟨root, hroot⟩
    exact ⟨fun above d hstanding => (hvalid above d hstanding).1,
      fun above d hstanding => (hvalid above d hstanding).2, (hsizes root hroot).mp hcheck⟩
  · intro hvalid
    obtain ⟨root, hroot⟩ := hbuild.mpr fun above d hstanding =>
      ⟨hvalid.sound above d hstanding, hvalid.few_groups above d hstanding⟩
    exact ⟨root, hroot, (hsizes root hroot).mpr hvalid.few_entries⟩

end ChatDispatch
