import ChatDispatch.Proofs.Folding

/-!
# The uploaded tree

The descriptions of the commands form a tree, with groups and commands below groups as inner nodes. What a
user types spells a way down this tree, and the way leads to the command that is described at its end.

* **`placedOptions`** — all options of descriptions, at any depth, with what they stand below.
* **`Reachable.filter_placedOptions_describe_perm`** — but for the groups, these are the options of the slash
  commands, each in its place.
* **`OptionEntry.Describes`** — an option is that of a parameter.
* **`Reachable.exists_heads`** — the descriptions: of commands under no group, of groups, of menu commands.
* **`Placed.StandsFor`** — an option is that of a command below groups, in its place.
* **`typedAlong`** — what is typed along a path, and **`optionPath_typedAlong`**, what is read from it.
* **`Reachable.typed_along_tree`** — the headline: the tree holds each slash command once, and what is typed
  along it is handed to this command.
-/

namespace ChatDispatch

variable {σ : Type}

namespace Upload

/-! ## Options in their places

An option is listed with what it stands below, so that what is in one place of the tree can be picked out of the
whole. Only groups are shared between commands; all other options belong to one. -/

/-- An option, the description it is from, and the options above it, outermost first. -/
structure Placed where
  kind : InvocationKind
  name : String
  above : List (OptionKind × String)
  option : OptionEntry

mutual

/-- The option and all options below it. -/
def OptionEntry.placed (kind : InvocationKind) (name : String) (above : List (OptionKind × String)) :
    OptionEntry → List Placed
  | .mk own description ownKind required choices min max autocomplete options =>
    ⟨kind, name, above, .mk own description ownKind required choices min max autocomplete options⟩ ::
      placedAll kind name (above ++ [(ownKind, own)]) options

/-- The options and all options below them. -/
def placedAll (kind : InvocationKind) (name : String) (above : List (OptionKind × String)) :
    List OptionEntry → List Placed
  | [] => []
  | o :: os => o.placed kind name above ++ placedAll kind name above os

end

/-- All options of descriptions. -/
def placedOptions (entries : List CommandEntry) : List Placed :=
  entries.flatMap fun e => placedAll e.kind e.name [] e.options

/-- The options of a slash command in their places: its parameters and, below groups, its own. -/
def commandOptions (suggested : List (List String)) (c : Command σ) : List Placed :=
  match c.groupPath with
  | [] => placedAll .chatInput c.name [] (parameterOptions suggested c)
  | group :: rest =>
    (subcommandOption suggested c).placed .chatInput group (rest.map fun name => (.subcommandGroup, name))

/-- Options side by side stand in the same place, each with those below it. -/
theorem placedAll_eq_flatMap (kind : InvocationKind) (name : String) (above : List (OptionKind × String))
    (options : List OptionEntry) :
    placedAll kind name above options = options.flatMap (·.placed kind name above) := by
  induction options with
  | nil => rfl
  | cons o os ih => rw [placedAll, ih, List.flatMap_cons]

section Commands

variable {modules : List (Module σ)} {suggested : List (List String)} {kind : InvocationKind}
  {name : String} {above : List (OptionKind × String)}

theorem placedAll_parameterOptions (c : Command σ) :
    placedAll kind name above (parameterOptions suggested c) =
      (parameterOptions suggested c).map fun o => ⟨kind, name, above, o⟩ := by
  rw [placedAll_eq_flatMap, parameterOptions, List.flatMap_map, List.map_map, ← List.flatMap_pure_eq_map]
  rfl

/-- The place of a command below groups: its own option, and below it those for its parameters. -/
theorem placed_subcommandOption (c : Command σ) :
    (subcommandOption suggested c).placed kind name above =
      ⟨kind, name, above, subcommandOption suggested c⟩ ::
        (parameterOptions suggested c).map fun o =>
          ⟨kind, name, above ++ [(.subcommand, c.name)], o⟩ := by
  rw [← placedAll_parameterOptions]
  rfl

/-- A command under no group has its parameters right below its description. -/
theorem commandOptions_of_nil {c : Command σ} (h : c.groupPath = []) :
    commandOptions suggested c =
      (parameterOptions suggested c).map fun o => ⟨.chatInput, c.name, [], o⟩ := by
  rw [commandOptions, h]
  exact placedAll_parameterOptions c

theorem commandOptions_of_cons {c : Command σ} {group : String} {rest : List String}
    (h : c.groupPath = group :: rest) :
    commandOptions suggested c = (subcommandOption suggested c).placed .chatInput group
      (rest.map fun name => (.subcommandGroup, name)) := by
  rw [commandOptions, h]

/-- The options in the place of a command are its own one and those for its parameters. -/
theorem mem_placed_subcommandOption {kind : InvocationKind} {name : String}
    {above : List (OptionKind × String)} {c : Command σ} {p : Placed}
    (h : p ∈ (subcommandOption suggested c).placed kind name above) :
    p.option = subcommandOption suggested c ∨ p.option ∈ parameterOptions suggested c := by
  rw [placed_subcommandOption] at h
  rcases List.mem_cons.mp h with rfl | h
  · exact .inl rfl
  · obtain ⟨o, ho, rfl⟩ := List.mem_map.mp h
    exact .inr ho

/-- The options of a command are its own one and those for its parameters. -/
theorem mem_commandOptions {c : Command σ} {p : Placed} (h : p ∈ commandOptions suggested c) :
    p.option = subcommandOption suggested c ∨ p.option ∈ parameterOptions suggested c := by
  cases hpath : c.groupPath with
  | nil =>
    rw [commandOptions_of_nil hpath] at h
    obtain ⟨o, ho, rfl⟩ := List.mem_map.mp h
    exact .inr ho
  | cons group rest =>
    rw [commandOptions_of_cons hpath] at h
    exact mem_placed_subcommandOption h

theorem kind_of_option {c : Command σ} {o : OptionEntry}
    (h : o = subcommandOption suggested c ∨ o ∈ parameterOptions suggested c) : o.kind ≠ .subcommandGroup := by
  rcases h with rfl | ho
  · exact fun hgroup => nomatch hgroup
  · exact (kind_of_mem_parameterOptions ho).2

theorem kind_of_mem_commandOptions {c : Command σ} {p : Placed} (h : p ∈ commandOptions suggested c) :
    p.option.kind ≠ .subcommandGroup := kind_of_option (mem_commandOptions h)

theorem filter_commandOptions (c : Command σ) :
    (commandOptions suggested c).filter (·.option.kind ≠ .subcommandGroup) = commandOptions suggested c := by
  rw [List.filter_eq_self]
  intro p hp
  exact decide_eq_true (kind_of_mem_commandOptions hp)

/-- Only slash commands stand below groups. -/
theorem groupsAbove_eq_cons_iff {c : Command σ} {group : String} {rest : List String} :
    groupsAbove c = group :: rest ↔ c.kind = .slash ∧ c.groupPath = group :: rest := by
  rw [groupsAbove]
  split
  · rename_i hkind
    exact (and_iff_right hkind).symm
  · rename_i hkind
    exact iff_of_false (List.cons_ne_nil _ _).symm fun h => hkind h.1

/-- Two groups are all there are, so a command below a second group stands right below it. -/
theorem groupPath_eq_of_member {c : Command σ} {group name : String}
    (hgroups : ∃ rest, groupsAbove c = group :: name :: rest) (hdepth : c.groupPath.length ≤ maxGroupDepth) :
    c.groupPath = [group, name] := by
  obtain ⟨rest, hrest⟩ := hgroups
  have hpath := (groupsAbove_eq_cons_iff.mp hrest).2
  rw [hpath] at hdepth ⊢
  simp only [List.length_cons, maxGroupDepth] at hdepth
  have hnil : rest = [] := List.length_eq_zero_iff.mp (by omega)
  rw [hnil]

/-- Below a branch stand the options of its commands, each in its place. -/
theorem filter_placed_render {group : String} {b : Branch σ} (h : b.PlacedBelow group)
    (hdepth : ∀ c ∈ b.commands, c.groupPath.length ≤ maxGroupDepth) :
    ((b.render modules suggested group).placed .chatInput group []).filter
        (·.option.kind ≠ .subcommandGroup) = b.commands.flatMap (commandOptions suggested) := by
  cases b with
  | command c =>
    have hpath := (groupsAbove_eq_cons_iff.mp h).2
    rw [Branch.commands, List.flatMap_singleton, ← filter_commandOptions, commandOptions_of_cons hpath]
    rfl
  | group sub members =>
    -- all members of a second group stand right below it
    have hmembers : ∀ c ∈ members, commandOptions suggested c =
        (subcommandOption suggested c).placed .chatInput group [(.subcommandGroup, sub)] := by
      intro c hc
      rw [commandOptions_of_cons (groupPath_eq_of_member (h.2 c hc) (hdepth c hc))]
      rfl
    have hplaced : (Branch.render modules suggested group (.group sub members)).placed .chatInput group [] =
        ⟨.chatInput, group, [], Branch.render modules suggested group (.group sub members)⟩ ::
          members.flatMap (commandOptions suggested) := by
      rw [Branch.render, OptionEntry.branch, OptionEntry.placed, placedAll_eq_flatMap, List.flatMap_map,
        List.flatMap_congr hmembers]
      rfl
    rw [hplaced, List.filter_cons_of_neg Bool.false_ne_true, Branch.commands, List.filter_flatMap]
    exact List.flatMap_congr fun c _ => filter_commandOptions c

/-- What is in a branch is a slash command. -/
theorem kind_of_placedBelow {group : String} {b : Branch σ} (h : b.PlacedBelow group) {c : Command σ}
    (hc : c ∈ b.commands) : c.kind = .slash := by
  cases b with
  | command other =>
    rw [List.mem_singleton.mp hc]
    exact (groupsAbove_eq_cons_iff.mp h).1
  | group sub members =>
    obtain ⟨rest, hgroups⟩ := h.2 c hc
    exact (groupsAbove_eq_cons_iff.mp hgroups).1

/-- A command that has a sketch is its owner or below it. -/
def Sketch.allCommands (s : Sketch σ) : List (Command σ) := s.owner?.toList ++ s.commands

/-- The sketches have all commands between them, each once. -/
theorem Files.allCommands_perm {cs : List (Command σ)} {sketches : List (Sketch σ)}
    (h : Files cs sketches) : (sketches.flatMap (·.allCommands)).Perm cs := by
  have hsplit : (sketches.filterMap (·.owner?) ++ sketches.flatMap (·.commands)).Perm
      (sketches.flatMap (·.allCommands)) := by
    rw [List.filterMap_eq_flatMap_toList]
    exact List.flatMap_append_perm _ _ _
  -- the owners are under no group, and the others stand in branches
  have hparts : (sketches.filterMap (·.owner?) ++ sketches.flatMap (·.commands)).Perm
      (cs.filter (groupsAbove · = []) ++ cs.filter (fun c => ! decide (groupsAbove c = []))) := by
    rw [h.owners]
    refine List.Perm.append_left _ (h.commands.trans ?_)
    simp only [ne_eq, decide_not]
    exact .refl _
  exact hsplit.symm.trans (hparts.trans (List.filter_append_perm _ _))

/-- The owner of a sketch stands below no group. -/
theorem Files.groupsAbove_of_owner {cs : List (Command σ)} {sketches : List (Sketch σ)}
    (h : Files cs sketches) {s : Sketch σ} (hs : s ∈ sketches) {c : Command σ} (hc : s.owner? = some c) :
    groupsAbove c = [] := by
  have howner : c ∈ sketches.filterMap (·.owner?) := List.mem_filterMap.mpr ⟨s, hs, hc⟩
  rw [h.owners] at howner
  exact of_decide_eq_true (List.mem_filter.mp howner).2

/-- Below the branches of a sketch stand the options of the commands there. -/
theorem Files.filter_placedAll_branches {cs : List (Command σ)} {sketches : List (Sketch σ)}
    (h : Files cs sketches) (hdepth : ∀ c ∈ cs, c.groupPath.length ≤ maxGroupDepth) {s : Sketch σ}
    (hs : s ∈ sketches) :
    (placedAll .chatInput s.name [] (s.branches.map (Branch.render modules suggested s.name))).filter
      (·.option.kind ≠ .subcommandGroup) = s.commands.flatMap (commandOptions suggested) := by
  have hbranches : ∀ b ∈ s.branches, ((b.render modules suggested s.name).placed .chatInput s.name []).filter
      (·.option.kind ≠ .subcommandGroup) = b.commands.flatMap (commandOptions suggested) := by
    intro b hb
    refine filter_placed_render (h.placed s hs b hb) fun c hc => hdepth c ?_
    exact h.mem_of_mem_commands hs (List.mem_flatMap.mpr ⟨b, hb, hc⟩)
  rw [placedAll_eq_flatMap, List.flatMap_map, List.filter_flatMap, List.flatMap_congr hbranches,
    Sketch.commands, List.flatMap_assoc]

/-- All commands in branches are slash commands. -/
theorem Files.filter_slash_commands {cs : List (Command σ)} {sketches : List (Sketch σ)}
    (h : Files cs sketches) {s : Sketch σ} (hs : s ∈ sketches) :
    s.commands.filter (·.kind = .slash) = s.commands := by
  rw [List.filter_eq_self]
  intro c hc
  obtain ⟨b, hb, hc⟩ := List.mem_flatMap.mp hc
  exact decide_eq_true (kind_of_placedBelow (h.placed s hs b hb) hc)

/-- In a description stand the options of the slash commands that its sketch has. -/
theorem Files.filter_placedAll_render {cs : List (Command σ)} {sketches : List (Sketch σ)}
    (h : Files cs sketches) (hdepth : ∀ c ∈ cs, c.groupPath.length ≤ maxGroupDepth) {s : Sketch σ}
    (hs : s ∈ sketches) :
    (placedOptions [s.render modules suggested]).filter (·.option.kind ≠ .subcommandGroup) =
      (s.allCommands.filter (·.kind = .slash)).flatMap (commandOptions suggested) := by
  have hslash := h.filter_slash_commands hs
  cases s with
  | group name branches =>
    rw [placedOptions, List.flatMap_singleton, Sketch.allCommands, Sketch.owner?, Option.toList_none,
      List.nil_append, hslash]
    exact h.filter_placedAll_branches hdepth hs
  | command owner branches =>
    rw [Sketch.allCommands, Sketch.owner?, Option.toList_some, List.filter_append, hslash]
    by_cases hkind : owner.kind = .slash
    · have hpath : owner.groupPath = [] := by
        have hgroups := h.groupsAbove_of_owner hs rfl
        rwa [groupsAbove, if_pos hkind] at hgroups
      have hown : [owner].filter (·.kind = .slash) = [owner] := List.filter_cons_of_pos (decide_eq_true hkind)
      have hparameters : placedAll .chatInput owner.name [] (parameterOptions suggested owner) =
          commandOptions suggested owner := by rw [commandOptions, hpath]
      -- in front the parameters of the owner, behind them the branches
      have hoptions : placedOptions [(Sketch.command owner branches).render modules suggested] =
          commandOptions suggested owner ++ placedAll .chatInput owner.name []
            (branches.map (Branch.render modules suggested owner.name)) := by
        rw [← hparameters, placedAll_eq_flatMap, placedAll_eq_flatMap, ← List.flatMap_append,
          ← placedAll_eq_flatMap, Sketch.render, if_pos hkind]
        exact List.flatMap_singleton _ _
      rw [hoptions, List.filter_append, filter_commandOptions, hown, List.flatMap_append,
        List.flatMap_singleton]
      exact congrArg (_ ++ ·) (h.filter_placedAll_branches hdepth hs)
    · -- menu commands have no options
      have hnone : branches = [] := by
        by_contra hne
        exact hkind (of_decide_eq_true (h.chat _ hs hne))
      rw [Sketch.render, if_neg hkind, List.filter_cons_of_neg (by simpa using hkind), hnone]
      rfl

/-- But for the groups, the options of descriptions are those of the slash commands, each in its place. -/
theorem Files.filter_placedOptions_perm {cs : List (Command σ)} {sketches : List (Sketch σ)}
    (h : Files cs sketches) (hdepth : ∀ c ∈ cs, c.groupPath.length ≤ maxGroupDepth) :
    ((placedOptions (sketches.map (Sketch.render modules suggested))).filter
        (·.option.kind ≠ .subcommandGroup)).Perm
      ((cs.filter (·.kind = .slash)).flatMap (commandOptions suggested)) := by
  have hsketches : (placedOptions (sketches.map (Sketch.render modules suggested))).filter
      (·.option.kind ≠ .subcommandGroup) =
      ((sketches.flatMap (·.allCommands)).filter (·.kind = .slash)).flatMap (commandOptions suggested) := by
    rw [placedOptions, List.flatMap_map, List.filter_flatMap, List.filter_flatMap, List.flatMap_assoc]
    refine List.flatMap_congr fun s hs => ?_
    -- sketch by sketch
    have hone : (placedOptions [s.render modules suggested]).filter (·.option.kind ≠ .subcommandGroup) = _ :=
      h.filter_placedAll_render hdepth hs
    rw [← hone, placedOptions, List.flatMap_singleton]
  rw [hsketches]
  exact (h.allCommands_perm.filter _).flatMap_right _

/-! ## Parameters

An option for a parameter is told by what it shows, not by the function that writes it. The options of a command
are then one for each of its parameters, in their order. -/

/-- The option describes the parameter: it has its name and its text, has to be given if the parameter does, and
is neither a command nor a group. There is nothing below it. -/
structure OptionEntry.Describes (o : OptionEntry) (p : Parameter σ) : Prop where
  name : o.name = p.name
  description : o.description = p.description
  required : o.required = p.required
  kind : o.kind ≠ .subcommand ∧ o.kind ≠ .subcommandGroup
  options : o.options = []

/-- The option that is written for a parameter describes it. -/
theorem describes_parameterOption (p : Parameter σ) (autocomplete : Bool) :
    (parameterOption p autocomplete).Describes p where
  name := rfl
  description := rfl
  required := rfl
  kind := kind_ofType_ne p.type
  options := rfl

/-- **One option for each parameter**, in the order of the parameters. -/
theorem forall₂_describes_parameterOptions (suggested : List (List String)) (c : Command σ) :
    List.Forall₂ OptionEntry.Describes (parameterOptions suggested c) c.parameters := by
  rw [parameterOptions, List.forall₂_map_left_iff, List.forall₂_same]
  intro p _
  exact describes_parameterOption p _

/-! ## Heads

What the descriptions are of: a slash command under no group, a group, or a menu command. -/

/-- The description is that of the command: it has an option for each parameter in front, and below these there
is nothing but commands and groups. -/
structure HeadedBy (suggested : List (List String)) (e : CommandEntry) (c : Command σ) : Prop where
  kind : e.kind = .chatInput
  name : e.name = c.name
  options : ∃ own below, e.options = own ++ below ∧ own = parameterOptions suggested c ∧
    List.Forall₂ OptionEntry.Describes own c.parameters ∧
    ∀ o ∈ below, o.kind = .subcommand ∨ o.kind = .subcommandGroup

/-- A branch is described as a command or as a group. -/
theorem kind_render_branch {group : String} (b : Branch σ) :
    (b.render modules suggested group).kind = .subcommand ∨
      (b.render modules suggested group).kind = .subcommandGroup := by
  cases b with
  | command c => exact .inl rfl
  | group name members => exact .inr rfl

/-- The sketches of such commands, beside these commands. -/
theorem forall₂_owners (q : Command σ → Bool) (sketches : List (Sketch σ)) :
    List.Forall₂ (fun s c => s.owner? = some c ∧ q c = true) (sketches.filter fun s => s.owner?.any q)
      ((sketches.filterMap (·.owner?)).filter q) := by
  induction sketches with
  | nil => exact .nil
  | cons s sketches ih =>
    rw [List.filter_cons]
    cases hc : s.owner? with
    | none =>
      rw [List.filterMap_cons_none hc]
      exact ih
    | some c =>
      rw [List.filterMap_cons_some hc, List.filter_cons, Option.any_some]
      cases hq : q c with
      | false => exact ih
      | true => exact .cons ⟨hc, hq⟩ ih

/-- A sketch is that of a slash command, of a group alone or of a menu command. -/
theorem perm_filter_owners (sketches : List (Sketch σ)) :
    sketches.Perm (sketches.filter (fun s => s.owner?.any (·.kind = .slash)) ++
      sketches.filter (fun s => s.owner?.isNone) ++
      sketches.filter (fun s => s.owner?.any (·.kind ≠ .slash))) := by
  induction sketches with
  | nil => exact .nil
  | cons s sketches ih =>
    have hsplit := ih.cons s
    rw [List.append_assoc] at hsplit ⊢
    rw [List.filter_cons, List.filter_cons, List.filter_cons]
    cases s.owner? with
    -- the sketch of a group moves past those of slash commands
    | none => exact hsplit.trans List.perm_middle.symm
    | some c =>
      rw [Option.any_some, Option.any_some, decide_not]
      cases decide (c.kind = .slash) with
      | true => exact hsplit
      -- that of a menu command moves to the end
      | false =>
        rw [← List.append_assoc] at hsplit ⊢
        exact hsplit.trans List.perm_middle.symm

/-- The sketch of a slash command is described under it. -/
theorem headedBy_render {s : Sketch σ} {c : Command σ} (hc : s.owner? = some c) (hkind : c.kind = .slash) :
    HeadedBy suggested (s.render modules suggested) c := by
  cases s with
  | group name branches => cases hc
  | command owner branches =>
    cases hc
    rw [Sketch.render, if_pos hkind]
    refine ⟨rfl, rfl, _, _, rfl, rfl, forall₂_describes_parameterOptions suggested c, ?_⟩
    intro o ho
    obtain ⟨b, _, rfl⟩ := List.mem_map.mp ho
    exact kind_render_branch b

/-- The sketch of a menu command is described as this command alone. -/
theorem render_eq_menuEntry {s : Sketch σ} {c : Command σ} (hc : s.owner? = some c)
    (hkind : c.kind ≠ .slash) : s.render modules suggested = menuEntry c := by
  cases s with
  | group name branches => cases hc
  | command owner branches =>
    cases hc
    rw [Sketch.render, if_neg hkind]

/-- What the description of a group is: it is named for the first group of a slash command, and there is
nothing in it but commands and groups. -/
structure IsGroupOf (cs : List (Command σ)) (e : CommandEntry) : Prop where
  kind : e.kind = .chatInput
  name : ∃ c ∈ cs, c.kind = .slash ∧ c.groupPath.head? = some e.name
  options : ∀ o ∈ e.options, o.kind = .subcommand ∨ o.kind = .subcommandGroup

/-- What is in a branch has the group of the description for its first one. -/
theorem head?_groupPath_of_placedBelow {group : String} {b : Branch σ} (h : b.PlacedBelow group)
    {c : Command σ} (hc : c ∈ b.commands) : c.groupPath.head? = some group := by
  have hgroups : ∃ rest, groupsAbove c = group :: rest := by
    cases b with
    | command other =>
      rw [List.mem_singleton.mp hc]
      exact ⟨[], h⟩
    | group sub members =>
      obtain ⟨rest, hrest⟩ := h.2 c hc
      exact ⟨sub :: rest, hrest⟩
  obtain ⟨rest, hrest⟩ := hgroups
  rw [(groupsAbove_eq_cons_iff.mp hrest).2]
  rfl

/-- A sketch without an owner is described as a group. -/
theorem Files.isGroupOf_render {cs : List (Command σ)} {sketches : List (Sketch σ)}
    (h : Files cs sketches) {s : Sketch σ} (hs : s ∈ sketches) (hnone : s.owner? = none) :
    IsGroupOf cs (s.render modules suggested) := by
  have hcommands := h.nonempty s hs hnone
  cases s with
  | command owner branches => cases hnone
  | group name branches =>
    refine ⟨rfl, ?_, ?_⟩
    · -- a sketch without an owner has a command below it
      obtain ⟨c, hc⟩ := List.exists_mem_of_ne_nil _ hcommands
      obtain ⟨b, hb, hcb⟩ := List.mem_flatMap.mp hc
      have hplaced := h.placed _ hs b hb
      exact ⟨c, h.mem_of_mem_commands hs hc, kind_of_placedBelow hplaced hcb,
        head?_groupPath_of_placedBelow hplaced hcb⟩
    · intro o ho
      obtain ⟨b, _, rfl⟩ := List.mem_map.mp ho
      exact kind_render_branch b

/-- No two groups have descriptions with the same name. -/
theorem Files.nodup_groups {cs : List (Command σ)} {sketches : List (Sketch σ)} (h : Files cs sketches) :
    ((sketches.filter (·.owner?.isNone)).map fun s => (s.render modules suggested).name).Nodup := by
  rw [List.Nodup, List.pairwise_map]
  refine (h.same_name.filter _).imp_of_mem fun {s t} hs ht hst hname => ?_
  have hs := Option.isNone_iff_eq_none.mp (List.mem_filter.mp hs).2
  have ht := Option.isNone_iff_eq_none.mp (List.mem_filter.mp ht).2
  cases s with
  | command owner branches => cases hs
  | group group branches =>
    cases t with
    | command owner branches => cases ht
    | group other otherBranches =>
      -- the second of two with the same name would be that of a command
      obtain ⟨_, owner, howner, _⟩ := hst rfl rfl hname
      cases howner

/-- **The descriptions**: one for each slash command under no group, one for each group, and one for each
menu command. -/
theorem Files.exists_heads {cs : List (Command σ)} {sketches : List (Sketch σ)} (h : Files cs sketches) :
    ∃ own groups menus, (sketches.map (Sketch.render modules suggested)).Perm (own ++ groups ++ menus) ∧
      List.Forall₂ (HeadedBy suggested) own ((cs.filter (groupsAbove · = [])).filter (·.kind = .slash)) ∧
      menus = ((cs.filter (groupsAbove · = [])).filter (·.kind ≠ .slash)).map menuEntry ∧
      (∀ e ∈ groups, IsGroupOf cs e) ∧ (groups.map (·.name)).Nodup := by
  refine ⟨(sketches.filter (fun s => s.owner?.any (·.kind = .slash))).map (Sketch.render modules suggested),
    (sketches.filter (·.owner?.isNone)).map (Sketch.render modules suggested),
    (sketches.filter (fun s => s.owner?.any (·.kind ≠ .slash))).map (Sketch.render modules suggested),
    ?_, ?_, ?_, ?_, ?_⟩
  · rw [← List.map_append, ← List.map_append]
    refine List.Perm.map _ ?_
    exact perm_filter_owners sketches
  · rw [← h.owners, List.forall₂_map_left_iff]
    refine (forall₂_owners _ _).imp ?_
    rintro s c ⟨hc, hkind⟩
    exact headedBy_render hc (of_decide_eq_true hkind)
  · rw [← h.owners, ← List.forall₂_eq_eq_eq, List.forall₂_map_left_iff, List.forall₂_map_right_iff]
    refine (forall₂_owners _ _).imp ?_
    rintro s c ⟨hc, hkind⟩
    exact render_eq_menuEntry hc (of_decide_eq_true hkind)
  · intro e he
    obtain ⟨s, hs, rfl⟩ := List.mem_map.mp he
    obtain ⟨hs, hnone⟩ := List.mem_filter.mp hs
    exact h.isGroupOf_render hs (Option.isNone_iff_eq_none.mp hnone)
  · rw [List.map_map]
    exact h.nodup_groups

end Commands

/-! ## What is typed

The nesting of a typed command is that of its path, which is what reading it recovers. -/

/-- The options below the first name of a path: groups, and the command with the values. -/
def typedOptions (values : List NamedValue) : List String → List OptionNode
  | [] => values.map .value
  | [name] => [.subcommand name (values.map .value)]
  | group :: below => [.group group (typedOptions values below)]

/-- What is typed along a path, with values at its end. -/
def typedAlong (path : List String) (values : List NamedValue) : Invocation where
  name := path.headD ""
  kind := .chatInput
  options := typedOptions values path.tail
  target := none

/-- Values alone are the end of a path. -/
theorem descend_values (values : List NamedValue) :
    descend (values.map .value) = ⟨[], values⟩ := by
  have hvalues : (values.map OptionNode.value).filterMap OptionNode.value? = values := by
    rw [List.filterMap_map]
    exact List.filterMap_some
  rw [descend, hvalues]
  -- no value is a group or a command
  · intro name options rest heq
    cases values <;> cases heq
  · intro name options rest heq
    cases values <;> cases heq

/-- Reading goes down the names of a path to the values at its end. -/
theorem descend_typedOptions (values : List NamedValue) (path : List String) :
    descend (typedOptions values path) = ⟨path, values⟩ := by
  -- on the path: one name is one level of nesting
  induction path with
  | nil => exact descend_values values
  | cons name below ih =>
    cases below with
    | nil =>
      rw [typedOptions, descend, descend_values]
    | cons next rest =>
      rw [typedOptions, descend, ih]
      intro hnil
      cases hnil

/-- What is typed along a path is read as this path with these values. -/
theorem optionPath_typedAlong {path : List String} (h : path ≠ []) (values : List NamedValue) :
    optionPath (typedAlong path values).name (typedAlong path values).options = ⟨path, values⟩ := by
  cases path with
  | nil => exact absurd rfl h
  | cons name below =>
    rw [optionPath]
    show (⟨name :: (descend (typedOptions values below)).tokens, _⟩ : OptionPath) = _
    rw [typedAlong, List.tail_cons, descend_typedOptions]

end Upload

open Upload

/-! ## Loaded commands

The commands that are described are the loaded slash commands and menu commands, so all of the above is now said
of a dispatcher. -/

section Loaded

variable {d : Dispatcher σ}

/-- Of what is described, the slash commands. -/
theorem Dispatcher.filter_describedCommands_slash (d : Dispatcher σ) :
    (d.catalog.modules.flatMap describedCommands).filter (·.kind = .slash) = d.slashCommands := by
  rw [List.filter_flatMap, slashCommands]
  refine List.flatMap_congr fun m _ => ?_
  have hmenus : m.contextCommands.filter (·.kind = .slash) = [] :=
    List.filter_eq_nil_iff.mpr fun c hc hkind => kind_of_mem_contextCommands hc (of_decide_eq_true hkind)
  have hslash : m.slashCommands.filter (·.kind = .slash) = m.slashCommands :=
    List.filter_eq_self.mpr fun c hc => decide_eq_true (kind_of_mem_slashCommands hc)
  rw [describedCommands, List.filter_append, hmenus, hslash, List.nil_append]

/-- Of what is described, the menu commands. -/
theorem Dispatcher.filter_describedCommands_menu (d : Dispatcher σ) :
    (d.catalog.modules.flatMap describedCommands).filter (·.kind ≠ .slash) = d.contextCommands := by
  rw [List.filter_flatMap, contextCommands]
  refine List.flatMap_congr fun m _ => ?_
  have hmenus : m.contextCommands.filter (·.kind ≠ .slash) = m.contextCommands :=
    List.filter_eq_self.mpr fun c hc => decide_eq_true (kind_of_mem_contextCommands hc)
  have hslash : m.slashCommands.filter (·.kind ≠ .slash) = [] :=
    List.filter_eq_nil_iff.mpr fun c hc hkind => of_decide_eq_true hkind (kind_of_mem_slashCommands hc)
  rw [describedCommands, List.filter_append, hmenus, hslash, List.append_nil]

/-- What is described has been loaded. -/
theorem Dispatcher.loaded_of_described {c : Command σ}
    (h : c ∈ d.catalog.modules.flatMap describedCommands) : d.Loaded c := by
  obtain ⟨m, hm, hc⟩ := List.mem_flatMap.mp h
  refine ⟨m, hm, Module.mem_commands_iff.mpr ?_⟩
  rcases List.mem_append.mp hc with hc | hc
  · exact (List.mem_filter.mp hc).1
  · exact (List.mem_filter.mp hc).1

/-- The descriptions are those of the sketches of the loaded commands. -/
theorem Reachable.describe_eq (h : Reachable d) :
    describe d.catalog.roots = (sketch (d.catalog.modules.flatMap describedCommands)).map
      (Sketch.render d.catalog.modules (suggestedPaths d.catalog.modules)) := by
  refine describe_eq_map_render _ fun c hc hkind => ?_
  obtain ⟨m, hm, hcommands⟩ := Dispatcher.loaded_of_described hc
  exact h.isSlashName_path hm hcommands hkind

theorem Reachable.length_groupPath_le_of_described (h : Reachable d) :
    ∀ c ∈ d.catalog.modules.flatMap describedCommands, c.groupPath.length ≤ maxGroupDepth := by
  intro c hc
  obtain ⟨m, hm, hcommands⟩ := Dispatcher.loaded_of_described hc
  exact h.length_groupPath_le hm hcommands

/-- **The options of all descriptions** but those for groups are the options of the loaded slash commands,
each in its place. -/
theorem Reachable.filter_placedOptions_describe_perm (h : Reachable d) :
    ((placedOptions (describe d.catalog.roots)).filter (·.option.kind ≠ .subcommandGroup)).Perm
      (d.slashCommands.flatMap (commandOptions (suggestedPaths d.catalog.modules))) := by
  rw [h.describe_eq, ← d.filter_describedCommands_slash]
  exact (files_sketch _).filter_placedOptions_perm h.length_groupPath_le_of_described

/-- The options of some kinds, no groups among them, are those of the loaded slash commands. -/
theorem Reachable.filter_kind_describe_perm (h : Reachable d) (kinds : OptionKind → Bool)
    (hgroup : kinds .subcommandGroup = false) :
    ((placedOptions (describe d.catalog.roots)).filter (kinds ·.option.kind)).Perm
      (d.slashCommands.flatMap fun c =>
        (commandOptions (suggestedPaths d.catalog.modules) c).filter (kinds ·.option.kind)) := by
  have hperm := h.filter_placedOptions_describe_perm.filter (kinds ·.option.kind)
  -- leaving groups out first makes no difference to such kinds
  have hfilter : ((placedOptions (describe d.catalog.roots)).filter (·.option.kind ≠ .subcommandGroup)).filter
      (kinds ·.option.kind) = (placedOptions (describe d.catalog.roots)).filter (kinds ·.option.kind) := by
    rw [List.filter_filter]
    refine List.filter_congr fun q _ => ?_
    by_cases hkind : q.option.kind = .subcommandGroup
    · rw [hkind, hgroup]
      rfl
    · rw [decide_eq_true hkind, Bool.and_true]
  rwa [hfilter, List.filter_flatMap] at hperm

/-- The place of a command below groups: in the description of the first group, below the second. -/
def Upload.subcommandPlace (suggested : List (List String)) (c : Command σ) : Placed where
  kind := .chatInput
  name := c.groupPath.headD ""
  above := c.groupPath.tail.map fun name => (.subcommandGroup, name)
  option := subcommandOption suggested c

/-- The option is the one of the command in its place: it stands in the description named for the first group,
below the option for each further one, has the name of the command, and has an option for each parameter and no
others. -/
structure Upload.Placed.StandsFor (q : Placed) (c : Command σ) : Prop where
  kind : q.kind = .chatInput
  group : c.groupPath.head? = some q.name
  above : q.above = c.groupPath.tail.map fun name => (.subcommandGroup, name)
  name : q.option.name = c.name
  isSubcommand : q.option.kind = .subcommand
  parameters : List.Forall₂ OptionEntry.Describes q.option.options c.parameters

/-- The place of a command below groups stands for it. -/
theorem Upload.standsFor_subcommandPlace (suggested : List (List String)) {c : Command σ}
    (h : c.groupPath ≠ []) : (subcommandPlace suggested c).StandsFor c where
  kind := rfl
  group := by
    obtain ⟨group, rest, hpath⟩ := List.exists_cons_of_ne_nil h
    rw [subcommandPlace, hpath]
    rfl
  above := rfl
  name := rfl
  isSubcommand := rfl
  parameters := forall₂_describes_parameterOptions suggested c

/-- Of the options of a command one at most is a subcommand: its own. -/
theorem Upload.filter_subcommand_commandOptions (suggested : List (List String)) (c : Command σ) :
    (commandOptions suggested c).filter (·.option.kind = .subcommand) =
      if c.groupPath ≠ [] then [subcommandPlace suggested c] else [] := by
  -- parameters are no subcommands
  have hparameters : ∀ kind name above, ((parameterOptions suggested c).map fun o =>
      (⟨kind, name, above, o⟩ : Placed)).filter (·.option.kind = .subcommand) = [] := by
    intro kind name above
    refine List.filter_eq_nil_iff.mpr fun p hp hkind => ?_
    obtain ⟨o, ho, rfl⟩ := List.mem_map.mp hp
    exact (kind_of_mem_parameterOptions ho).1 (of_decide_eq_true hkind)
  cases hpath : c.groupPath with
  | nil =>
    rw [commandOptions_of_nil hpath, hparameters]
    rfl
  | cons group rest =>
    have hplace : subcommandPlace suggested c = ⟨.chatInput, group,
        rest.map fun name => (.subcommandGroup, name), subcommandOption suggested c⟩ := by
      rw [subcommandPlace, hpath]
      rfl
    rw [commandOptions_of_cons hpath, placed_subcommandOption, List.filter_cons_of_pos (by rfl), hparameters,
      hplace]
    rfl

/-- To take one image of each item with a property is to map these items. -/
theorem flatMap_if_singleton {α β : Type} (p : α → Prop) [DecidablePred p] (f : α → β) (l : List α) :
    (l.flatMap fun a => if p a then [f a] else []) = (l.filter p).map f := by
  induction l with
  | nil => rfl
  | cons a l ih =>
    rw [List.flatMap_cons, ih, List.filter_cons]
    by_cases ha : p a
    · rw [if_pos ha, if_pos (decide_eq_true ha)]
      rfl
    · rw [if_neg ha, if_neg (by simpa using ha)]
      rfl

/-- **The subcommands of all descriptions** are the loaded slash commands below groups, each in its place. -/
theorem Reachable.filter_subcommand_describe_perm (h : Reachable d) :
    ((placedOptions (describe d.catalog.roots)).filter (·.option.kind = .subcommand)).Perm
      ((d.slashCommands.filter (·.groupPath ≠ [])).map
        (subcommandPlace (suggestedPaths d.catalog.modules))) := by
  have hperm := h.filter_kind_describe_perm (· = .subcommand) rfl
  rwa [List.flatMap_congr fun c _ => filter_subcommand_commandOptions _ c, flatMap_if_singleton] at hperm

theorem Reachable.findSlash?_path (h : Reachable d) {c : Command σ} (hc : c ∈ d.slashCommands) :
    d.findSlash? c.path = some (c, []) := by
  obtain ⟨⟨m, hm, hcommands⟩, hkind⟩ := Dispatcher.mem_slashCommands_iff.mp hc
  exact h.findSlash?_eq_some_iff.mpr ⟨hc, h.lowercase_path hm hcommands hkind, rfl⟩

/-- What is typed along the path of a loaded slash command is handed to it, with the values in order. -/
theorem Reachable.dispatch_typed (h : Reachable d) {c : Command σ} (hc : c ∈ d.slashCommands)
    {values : List NamedValue} {context : Context}
    (htyped : context.interaction.payload = .command (typedAlong c.path values)) (services : σ) :
    d.route context.interaction.payload = .command c [] ∧
      d.dispatch context services =
        d.run c context ⟨[], values.map fun v => (v.name, v.value)⟩ services := by
  have hpath : c.path ≠ [] := List.append_ne_nil_of_right_ne_nil _ (List.cons_ne_nil _ _)
  -- what is typed along the path is read as the path
  have hread := optionPath_typedAlong hpath values
  have hroute : d.route context.interaction.payload = .command c [] := by
    rw [htyped]
    show Dispatcher.Destination.ofLookup (d.findSlash? (optionPath _ _).tokens) _ _ = _
    rw [hread, h.findSlash?_path hc]
    rfl
  have hinputs : Inputs.ofInteraction context.interaction [] =
      ⟨[], values.map fun v => (v.name, v.value)⟩ := by
    rw [Inputs.ofInteraction, htyped]
    show (⟨[], namedInputs (optionPath _ _).values⟩ : Inputs) = _
    rw [hread]
    rfl
  refine ⟨hroute, ?_⟩
  rw [Dispatcher.dispatch, hroute, ← hinputs]

/-- **The descriptions of a dispatcher** are of slash commands under no group, of groups and of menu commands. -/
theorem Reachable.exists_heads (h : Reachable d) :
    ∃ own groups menus, (describe d.catalog.roots).Perm (own ++ groups ++ menus) ∧
      List.Forall₂ (HeadedBy (suggestedPaths d.catalog.modules)) own
        (d.slashCommands.filter (·.groupPath = [])) ∧
      menus = d.contextCommands.map menuEntry ∧
      (∀ e ∈ groups, IsGroupOf d.slashCommands e) ∧ (groups.map (·.name)).Nodup := by
  obtain ⟨own, groups, menus, hperm, hown, hmenus, hgroups, hnames⟩ :=
    @Files.exists_heads _ d.catalog.modules (suggestedPaths d.catalog.modules) _ _
      (files_sketch (d.catalog.modules.flatMap describedCommands))
  -- menu commands stand below no group, and of slash commands those without one
  have hslash : ((d.catalog.modules.flatMap describedCommands).filter (groupsAbove · = [])).filter
      (·.kind = .slash) = d.slashCommands.filter (·.groupPath = []) := by
    rw [← d.filter_describedCommands_slash, List.filter_filter, List.filter_filter]
    refine List.filter_congr fun c _ => ?_
    by_cases hkind : c.kind = .slash <;> simp [groupsAbove, hkind]
  have hmenu : ((d.catalog.modules.flatMap describedCommands).filter (groupsAbove · = [])).filter
      (·.kind ≠ .slash) = d.contextCommands := by
    rw [← d.filter_describedCommands_menu, List.filter_filter]
    refine List.filter_congr fun c _ => ?_
    by_cases hkind : c.kind = .slash <;> simp [groupsAbove, hkind]
  rw [hslash] at hown
  rw [hmenu] at hmenus
  refine ⟨own, groups, menus, h.describe_eq ▸ hperm, hown, hmenus, ?_, hnames⟩
  intro e he
  obtain ⟨hkind, ⟨c, hc, hslashKind, hname⟩, hoptions⟩ := hgroups e he
  refine ⟨hkind, ⟨c, ?_, hslashKind, hname⟩, hoptions⟩
  exact Dispatcher.mem_slashCommands_iff.mpr ⟨Dispatcher.loaded_of_described hc, hslashKind⟩

end Loaded

/-- **The uploaded tree and what is typed along it.** Take any dispatcher that loads and unloads lead to.

Each slash command under no group has one description of its own, with its name and in front an option for
each of its parameters, in order; the other descriptions are for groups, one for a name, and for menu
commands. The subcommands anywhere in the descriptions are the slash commands below groups, each once: in the
description named for its first group, through the option for the second group if there is one, with an option
for each of its parameters, in order.

What is typed along the groups and the name of a slash command, with any values, is routed to this command
and handed to it with these values in order. -/
theorem Reachable.typed_along_tree {d : Dispatcher σ} (h : Reachable d) :
    (∃ own groups menus, (describe d.catalog.roots).Perm (own ++ groups ++ menus) ∧
      List.Forall₂ (HeadedBy (suggestedPaths d.catalog.modules)) own
        (d.slashCommands.filter (·.groupPath = [])) ∧
      menus = d.contextCommands.map menuEntry ∧
      (∀ e ∈ groups, IsGroupOf d.slashCommands e) ∧ (groups.map (·.name)).Nodup) ∧
    ((placedOptions (describe d.catalog.roots)).filter (·.option.kind = .subcommand)).Perm
      ((d.slashCommands.filter (·.groupPath ≠ [])).map
        (subcommandPlace (suggestedPaths d.catalog.modules))) ∧
    (∀ c ∈ d.slashCommands, c.groupPath ≠ [] →
      (subcommandPlace (suggestedPaths d.catalog.modules) c).StandsFor c) ∧
    ∀ c ∈ d.slashCommands, ∀ values context,
      context.interaction.payload = .command (typedAlong c.path values) → ∀ services,
        d.route context.interaction.payload = .command c [] ∧
        d.dispatch context services =
          d.run c context ⟨[], values.map fun v => (v.name, v.value)⟩ services := by
  refine ⟨h.exists_heads, h.filter_subcommand_describe_perm,
    fun c _ hgroups => standsFor_subcommandPlace _ hgroups, ?_⟩
  intro c hc values context htyped services
  exact h.dispatch_typed hc htyped services

namespace Sample

def song : ParameterDecl Unit where
  name := "song"
  type := .text

def play : CommandDecl Unit where
  kind := .slash
  name := "play"
  description := some "Plays a song"
  parameters := [song]
  handler := some handler

def append : CommandDecl Unit where
  kind := .slash
  name := "append"
  description := some "Plays a song later"
  parameters := [song]
  handler := some handler

/-- A command under no group. -/
def lyrics : CommandDecl Unit where
  kind := .slash
  name := "lyrics"
  description := some "Shows the words of a song"
  ignoresGroups := true
  parameters := [song]
  handler := some handler

def queue : ModuleDecl Unit :=
  ⟨"host::Queue", "Queue", some ⟨"queue", "Songs to come"⟩, true, [], [append], [], construct "host::Queue"⟩

def music : ModuleDecl Unit :=
  ⟨"host::Music", "Music", some ⟨"music", "Songs"⟩, true, [], [play, lyrics], [queue],
    construct "host::Music"⟩

def jukebox : Dispatcher Unit := ((Dispatcher.new {} id).change (.load [music])).2

theorem reachable_jukebox : Reachable jukebox := (Reachable.new {} id).change _

/-- Some values are typed along a path. -/
def request (path : List String) (values : List NamedValue) : Context :=
  ⟨⟨⟨1⟩, ⟨⟨1⟩, "ada"⟩, none, none, .command (typedAlong path values)⟩, none⟩

def daisy : NamedValue := ⟨"song", .text "Daisy Bell", false⟩

end Sample

/-- The commands stand under no group, below one and below two, each with the song as its parameter, and all of
them can be typed. -/
theorem typed_along_tree_jukebox :
    Reachable Sample.jukebox ∧
    (∃ own groups menus, (describe Sample.jukebox.catalog.roots).Perm (own ++ groups ++ menus) ∧
      own.map (fun e => (e.name, e.options.head?.map (·.name))) = [("lyrics", some "song")] ∧ menus = []) ∧
    (((placedOptions (describe Sample.jukebox.catalog.roots)).filter (·.option.kind = .subcommand)).map
      fun p => (p.name, p.above, p.option.name, p.option.options.map (·.name))).Perm
        [("music", [], "play", ["song"]), ("music", [(.subcommandGroup, "queue")], "append", ["song"])] ∧
    ∃ c ∈ Sample.jukebox.slashCommands, c.path = ["music", "queue", "append"] ∧
      (subcommandPlace (suggestedPaths Sample.jukebox.catalog.modules) c).StandsFor c ∧
      Sample.jukebox.route (Sample.request c.path [Sample.daisy]).interaction.payload = .command c [] ∧
      Sample.jukebox.dispatch (Sample.request c.path [Sample.daisy]) () =
        Sample.jukebox.run c (Sample.request c.path [Sample.daisy])
          ⟨[], [("song", .text "Daisy Bell")]⟩ () := by
  obtain ⟨⟨own, groups, menus, hperm, hown, hmenus, _⟩, hsubcommands, hplaces, htyped⟩ :=
    Reachable.typed_along_tree Sample.reachable_jukebox
  have hmem : Sample.jukebox.slashCommands[2] ∈ Sample.jukebox.slashCommands := List.getElem_mem _
  have hpath : Sample.jukebox.slashCommands[2].path = ["music", "queue", "append"] := rfl
  refine ⟨Sample.reachable_jukebox, ⟨own, groups, menus, hperm, ?_, hmenus⟩, hsubcommands.map _,
    _, hmem, hpath, hplaces _ hmem (List.cons_ne_nil _ _),
    htyped _ hmem [Sample.daisy] (Sample.request _ _) rfl ()⟩
  have hfilter : Sample.jukebox.slashCommands.filter (·.groupPath = []) =
      [Sample.jukebox.slashCommands[1]] := rfl
  rw [hfilter] at hown
  obtain ⟨e, rest, hhead, hrest, rfl⟩ := List.forall₂_cons_right_iff.mp hown
  cases hrest
  -- the description of the lyrics begins with an option for the only parameter
  obtain ⟨options, below, heq, -, hdescribes, -⟩ := hhead.options
  obtain ⟨o, others, hsong, -, rfl⟩ := List.forall₂_cons_right_iff.mp hdescribes
  have hname : (e.name, e.options.head?.map (·.name)) = ("lyrics", some "song") := by
    rw [heq, hhead.name]
    exact congrArg (fun name => ("lyrics", some name)) hsong.name
  exact congrArg ([·]) hname

end ChatDispatch
