import ChatDispatch.Proofs.LoadOrder
import ChatDispatch.Proofs.UploadTree

/-!
# Names in the uploaded tree

The platform tells descriptions apart by their names, and options by their names among those side by side.
Routers keep the paths of commands apart, but a command and a group are in different places there, so a
command may have the path of a group.

* **`UniquelyNamed`** — no two descriptions have the same name, and no two options side by side.
* **`Yields`** — when a command with the path of a group above another command does no harm to it.
* **`Files.nodup_optionNames`**, **`Files.names_differ`** — where all yield, names are unique, and
  **`Files.allYield`** — where names are unique, all yield.
* **`Reachable.uniquelyNamed_iff`** — the headline: names are unique exactly when commands with the path of a
  group come first, under no group themselves, and have no parameter named like what is below them.
* **`exists_not_uniquelyNamed`** — a group and a command with its path can be described under one name.
-/

namespace ChatDispatch

variable {σ : Type}

namespace Upload

/-- No two options side by side have the same name, at any depth. -/
inductive DistinctNames : List OptionEntry → Prop where
  | intro {options : List OptionEntry} (names : (options.map (·.name)).Nodup)
      (below : ∀ o ∈ options, DistinctNames o.options) : DistinctNames options

/-- Options have distinct names at any depth if they have at the top and each of them has below. -/
theorem distinctNames_iff {options : List OptionEntry} :
    DistinctNames options ↔ (options.map (·.name)).Nodup ∧ ∀ o ∈ options, DistinctNames o.options :=
  ⟨fun ⟨names, below⟩ => ⟨names, below⟩, fun ⟨names, below⟩ => ⟨names, below⟩⟩

/-- No two descriptions of one kind have the same name, the case of A to Z not counted, and neither have two
options side by side. -/
structure UniquelyNamed (entries : List CommandEntry) : Prop where
  heads : entries.Pairwise fun e other => e.kind = other.kind → Text.sameAscii e.name other.name = false
  options : ∀ e ∈ entries, DistinctNames e.options

/-! ## Names of branches

The options of a description are the parameters of its own command and one for each branch, so its names are those
of the sketch it was made from. -/

def Branch.name : Branch σ → String
  | .command c => c.name
  | .group name _ => name

/-- The names of the parameters of the command that the description is its own of. -/
def Sketch.ownNames : Sketch σ → List String
  | .command c _ => c.parameters.map (·.name)
  | .group _ _ => []

def Sketch.optionNames (s : Sketch σ) : List String := s.ownNames ++ s.branches.map (·.name)

section Render

variable {modules : List (Module σ)} {suggested : List (List String)}

theorem name_render_branch (group : String) (b : Branch σ) :
    (b.render modules suggested group).name = b.name := by
  cases b <;> rfl

/-- Parameters with different names are options with different names, and nothing is below them. -/
theorem distinctNames_parameterOptions {c : Command σ} (h : (c.parameters.map (·.name)).Nodup) :
    DistinctNames (parameterOptions suggested c) := by
  have hnames : (parameterOptions suggested c).map (·.name) = c.parameters.map (·.name) := by
    rw [parameterOptions, List.map_map]
    rfl
  refine distinctNames_iff.mpr ⟨hnames ▸ h, fun o ho => ?_⟩
  obtain ⟨p, _, rfl⟩ := List.mem_map.mp ho
  exact ⟨List.nodup_nil, List.forall_mem_nil _⟩

/-- Below a branch names are distinct if the commands there have different names. -/
theorem distinctNames_render_branch {group : String} {b : Branch σ}
    (hparameters : ∀ c ∈ b.commands, (c.parameters.map (·.name)).Nodup)
    (hcommands : (b.commands.map (·.name)).Nodup) :
    DistinctNames (b.render modules suggested group).options := by
  cases b with
  | command c => exact distinctNames_parameterOptions (hparameters c List.mem_cons_self)
  | group name members =>
    have hnames : ((members.map (subcommandOption suggested)).map (·.name)) = members.map (·.name) := by
      rw [List.map_map]
      rfl
    refine distinctNames_iff.mpr ⟨?_, fun o ho => ?_⟩
    · show ((members.map (subcommandOption suggested)).map (·.name)).Nodup
      rw [hnames]
      exact hcommands
    · obtain ⟨c, hc, rfl⟩ := List.mem_map.mp ho
      exact distinctNames_parameterOptions (hparameters c hc)

end Render

/-! ## Branches of sketches

What is in a branch has a path that begins with the description and the branch. So commands in different branches
of a name are told apart by their paths. -/

/-- The first group above a command, and the branch that it is in, begin its path. -/
theorem Branch.PlacedBelow.prefix_path {group : String} {b : Branch σ} (h : b.PlacedBelow group)
    {c : Command σ} (hc : c ∈ b.commands) : [group, b.name] <+: c.path := by
  cases b with
  | command other =>
    obtain rfl := List.mem_singleton.mp hc
    have hpath := (groupsAbove_eq_cons_iff.mp h).2
    exact ⟨[], by rw [CommandSpec.path, hpath]; rfl⟩
  | group name members =>
    obtain ⟨rest, hgroups⟩ := h.2 c hc
    have hpath := (groupsAbove_eq_cons_iff.mp hgroups).2
    exact ⟨rest ++ [c.name], by rw [CommandSpec.path, hpath]; rfl⟩

/-- What is in a branch stands below the group of the description. -/
theorem Branch.PlacedBelow.prefix_groupPath {group : String} {b : Branch σ} (h : b.PlacedBelow group)
    {c : Command σ} (hc : c ∈ b.commands) : [group] <+: c.groupPath := by
  obtain ⟨rest, hrest⟩ := List.head?_eq_some_iff.mp (head?_groupPath_of_placedBelow h hc)
  exact ⟨rest, hrest.symm⟩

theorem Branch.PlacedBelow.commands_ne_nil {group : String} {b : Branch σ} (h : b.PlacedBelow group) :
    b.commands ≠ [] := by
  cases b with
  | command other => exact List.cons_ne_nil _ _
  | group name members => exact h.1

/-- What the commands that are described are known to be, however many have been loaded. -/
structure Tidy (cs : List (Command σ)) : Prop where
  paths : (cs.filter (·.kind = .slash)).Pairwise fun c other => c.path ≠ other.path
  menus : cs.Pairwise fun c other => c.kind ≠ .slash → other.kind ≠ .slash →
    (menuEntry c).kind = (menuEntry other).kind → Text.sameAscii c.name other.name = false
  parameters : ∀ c ∈ cs, (c.parameters.map (·.name)).Nodup
  named : ∀ c ∈ cs, NamedPath c
  depth : ∀ c ∈ cs, c.groupPath.length ≤ maxGroupDepth

section Files

variable {cs : List (Command σ)} {sketches : List (Sketch σ)} {s t : Sketch σ} {c other : Command σ}

/-- Two members of a list are equal or stand in one of the two orders. -/
theorem pairwise_forall {α : Type} {r : α → α → Prop} {l : List α} (h : l.Pairwise r) {a b : α} (ha : a ∈ l)
    (hb : b ∈ l) : a = b ∨ r a b ∨ r b a := by
  by_cases hab : a = b
  · exact .inl hab
  · have hsymm : Std.Symm fun a b => r a b ∨ r b a := ⟨fun _ _ => Or.symm⟩
    have hboth : l.Pairwise fun a b => r a b ∨ r b a := h.imp .inl
    exact .inr (hboth.forall ha hb hab)

/-- Two items stand in one order only. -/
theorem not_sublist_swap {α : Type} {l : List α} (h : l.Nodup) {a b : α} (hab : [a, b].Sublist l) :
    ¬ [b, a].Sublist l := by
  intro hba
  -- at the first of the items that is one of the two, the other list has it twice
  induction l with
  | nil => cases hab
  | cons x l ih =>
    obtain ⟨hx, hl⟩ := List.nodup_cons.mp h
    cases hab with
    | cons _ hab =>
      cases hba with
      | cons _ hba => exact ih hl hab hba
      | cons_cons _ _ => exact hx (hab.subset (List.mem_cons_of_mem _ List.mem_cons_self))
    | cons_cons _ hb =>
      cases hba with
      | cons _ hba => exact hx (hba.subset (List.mem_cons_of_mem _ List.mem_cons_self))
      | cons_cons _ _ => exact hx (hb.subset List.mem_cons_self)

/-- The branch of a command below a group. -/
theorem Files.exists_branch (h : Files cs sketches) (hc : c ∈ cs) (hgroups : groupsAbove c ≠ []) :
    ∃ s ∈ sketches, s.isChat = true ∧ ∃ b ∈ s.branches, c ∈ b.commands ∧ [s.name, b.name] <+: c.path := by
  have hmem : c ∈ sketches.flatMap (·.commands) :=
    h.commands.symm.subset (List.mem_filter.mpr ⟨hc, decide_eq_true hgroups⟩)
  obtain ⟨s, hs, hcs⟩ := List.mem_flatMap.mp hmem
  obtain ⟨b, hb, hcb⟩ := List.mem_flatMap.mp hcs
  exact ⟨s, hs, h.chat s hs (List.ne_nil_of_mem hb), b, hb, hcb, (h.placed s hs b hb).prefix_path hcb⟩

/-- A command under no group has a description of its own. -/
theorem Files.exists_own (h : Files cs sketches) (hc : c ∈ cs) (hgroups : groupsAbove c = []) :
    ∃ s ∈ sketches, s.owner? = some c := by
  have hmem : c ∈ sketches.filterMap (·.owner?) := by
    rw [h.owners]
    exact List.mem_filter.mpr ⟨hc, decide_eq_true hgroups⟩
  exact List.mem_filterMap.mp hmem

/-- All branches for one name are in one place. -/
theorem Files.eq_of_branches (h : Files cs sketches) (hs : s ∈ sketches) (ht : t ∈ sketches)
    (hsbranches : s.branches ≠ []) (htbranches : t.branches ≠ []) (hname : s.name = t.name) : s = t := by
  have hschat := h.chat s hs hsbranches
  have htchat := h.chat t ht htbranches
  rcases pairwise_forall h.same_name hs ht with heq | hst | hts
  · exact heq
  · exact absurd (hst hschat htchat hname).1 htbranches
  · exact absurd (hts htchat hschat hname.symm).1 hsbranches

/-- No command below groups has the path of another one. -/
theorem Files.commands_pairwise (h : Files cs sketches) (htidy : Tidy cs) (hs : s ∈ sketches) :
    s.commands.Pairwise fun c other => c.path ≠ other.path := by
  have hslash : (cs.filter (groupsAbove · ≠ [])).Sublist (cs.filter (·.kind = .slash)) := by
    refine List.monotone_filter_right _ fun c hc => ?_
    by_contra hkind
    exact of_decide_eq_true hc (if_neg (by simpa using hkind))
  -- the paths of slash commands differ, and those below groups are some of them
  have hall : (sketches.flatMap (·.commands)).Pairwise fun c other => c.path ≠ other.path :=
    (h.commands.pairwise_iff fun hne => hne.symm).mpr (htidy.paths.sublist hslash)
  exact (List.pairwise_flatMap.mp hall).1 s hs

/-- A command with the path of a group above another one is described under no group, before the other one,
and has no parameter that is named like what is below it. -/
structure Yields (cs : List (Command σ)) (c other : Command σ) : Prop where
  topLevel : c.groupPath = []
  first : [c, other].Sublist cs
  parameters : ∀ p ∈ c.parameters, ¬ c.path ++ [p.name] <+: other.path

/-- Every command with the path of a group yields to the commands below. -/
def AllYield (cs : List (Command σ)) : Prop :=
  ∀ c ∈ cs, ∀ other ∈ cs, c.path <+: other.groupPath → Yields cs c other

/-! ### Names that are unique -/

theorem Files.mem_slash (h : Files cs sketches) (hs : s ∈ sketches) {b : Branch σ} (hb : b ∈ s.branches)
    (hc : c ∈ b.commands) : c ∈ cs.filter (·.kind = .slash) := by
  refine List.mem_filter.mpr ⟨h.mem_of_mem_commands hs (List.mem_flatMap.mpr ⟨b, hb, hc⟩), ?_⟩
  exact decide_eq_true (kind_of_placedBelow (h.placed s hs b hb) hc)

/-- Two slash commands stand in the same order among the slash commands alone. -/
theorem sublist_filter_slash (h : [c, other].Sublist cs) (hc : decide (c.kind = .slash) = true)
    (hother : decide (other.kind = .slash) = true) : [c, other].Sublist (cs.filter (·.kind = .slash)) := by
  have hpair := h.filter (·.kind = .slash)
  have hboth : [c, other].filter (·.kind = .slash) = [c, other] :=
    List.filter_eq_self.mpr (List.forall_mem_cons.mpr ⟨hc, List.forall_mem_singleton.mpr hother⟩)
  rwa [hboth] at hpair

/-- A description in the chat is that of a command under no group. -/
theorem Files.own_of_chat (h : Files cs sketches) (hs : s ∈ sketches) (hchat : s.isChat = true)
    (hown : s.owner? = some c) : c ∈ cs.filter (·.kind = .slash) ∧ c.path = [s.name] := by
  have hgroups := h.groupsAbove_of_owner hs hown
  have hmem := h.mem_of_owner hs hown
  cases s with
  | group name branches => cases hown
  | command owner branches =>
    cases hown
    have hkind : c.kind = .slash := of_decide_eq_true hchat
    rw [groupsAbove, if_pos hkind] at hgroups
    refine ⟨List.mem_filter.mpr ⟨hmem, hchat⟩, ?_⟩
    rw [CommandSpec.path, hgroups]
    rfl

/-- Where every command yields, none below a group has the name of another group there. -/
theorem Files.name_ne_group (h : Files cs sketches) (hyield : AllYield (cs.filter (·.kind = .slash)))
    (hs : s ∈ sketches) (hc : .command c ∈ s.branches) {name : String} {members : List (Command σ)}
    (hgroup : .group name members ∈ s.branches) : c.name ≠ name := by
  rintro rfl
  have hpath := (groupsAbove_eq_cons_iff.mp (h.placed s hs _ hc)).2
  obtain ⟨hne, hmembers⟩ := h.placed s hs _ hgroup
  obtain ⟨other, hother⟩ := List.exists_mem_of_ne_nil _ hne
  obtain ⟨rest, hgroups⟩ := hmembers other hother
  -- a command of this name would have the path of the group
  have hprefix : c.path <+: other.groupPath := by
    rw [CommandSpec.path, hpath, (groupsAbove_eq_cons_iff.mp hgroups).2]
    exact ⟨rest, rfl⟩
  -- but then it would stand under no group
  have htop := (hyield c (h.mem_slash hs hc List.mem_cons_self) other (h.mem_slash hs hgroup hother)
    hprefix).topLevel
  rw [hpath] at htop
  cases htop

/-- Where every command yields, the branches below a description have different names. -/
theorem Files.nodup_branchNames (h : Files cs sketches) (htidy : Tidy cs)
    (hyield : AllYield (cs.filter (·.kind = .slash))) (hs : s ∈ sketches) :
    (s.branches.map (·.name)).Nodup := by
  have hcommands := (List.pairwise_flatMap.mp (h.commands_pairwise htidy hs)).2
  have hgroups := List.pairwise_filterMap.mp (h.groups_nodup s hs)
  have hpath : ∀ {c : Command σ}, .command c ∈ s.branches → c.path = [s.name, c.name] := fun hc => by
    rw [CommandSpec.path, (groupsAbove_eq_cons_iff.mp (h.placed s hs _ hc)).2]
    rfl
  rw [List.Nodup, List.pairwise_map]
  -- two commands have different paths, two groups are different, and a command is named otherwise than a group
  refine (hcommands.and hgroups).imp_of_mem fun {b b'} hb hb' hdiffer hname => ?_
  cases b with
  | command c =>
    cases b' with
    | command c' =>
      have hname : c.name = c'.name := hname
      exact hdiffer.1 c List.mem_cons_self c' List.mem_cons_self (by rw [hpath hb, hpath hb', hname])
    | group name members => exact h.name_ne_group hyield hs hb hb' hname
  | group name members =>
    cases b' with
    | command c' => exact h.name_ne_group hyield hs hb' hb hname.symm
    | group name' members' => exact hdiffer.2 name rfl name' rfl hname

/-- Where every command yields, no parameter has the name of a branch beside it. -/
theorem Files.ownName_ne_branch (h : Files cs sketches) (hyield : AllYield (cs.filter (·.kind = .slash)))
    (hs : s ∈ sketches) {name : String} (hname : name ∈ s.ownNames) {b : Branch σ} (hb : b ∈ s.branches) :
    name ≠ b.name := by
  rintro rfl
  cases s with
  | group group branches => cases hname
  | command owner branches =>
    obtain ⟨p, hp, heq⟩ := List.mem_map.mp hname
    have hplaced := h.placed _ hs b hb
    obtain ⟨other, hother⟩ := List.exists_mem_of_ne_nil _ hplaced.commands_ne_nil
    have hchat := h.chat _ hs (List.ne_nil_of_mem hb)
    obtain ⟨howner, hpath⟩ := h.own_of_chat hs hchat rfl
    have hgroup : owner.path <+: other.groupPath := hpath ▸ hplaced.prefix_groupPath hother
    -- the parameter has the name that follows in the path of what is below
    refine (hyield owner howner other (h.mem_slash hs hb hother) hgroup).parameters p hp ?_
    rw [hpath, heq]
    exact hplaced.prefix_path hother

/-- Where every command yields, the options of a description have different names. -/
theorem Files.nodup_optionNames (h : Files cs sketches) (htidy : Tidy cs)
    (hyield : AllYield (cs.filter (·.kind = .slash))) (hs : s ∈ sketches) : s.optionNames.Nodup := by
  refine List.nodup_append.mpr ⟨?_, h.nodup_branchNames htidy hyield hs, ?_⟩
  · cases s with
    | group name branches => exact List.nodup_nil
    | command owner branches => exact htidy.parameters owner (h.mem_of_owner hs rfl)
  · -- a parameter and a branch
    intro name hname other hother heq
    obtain ⟨b, hb, rfl⟩ := List.mem_map.mp hother
    exact h.ownName_ne_branch hyield hs hname hb heq

/-- Where every command yields, no two descriptions in the chat have the same name. -/
theorem Files.names_differ (h : Files cs sketches) (htidy : Tidy cs)
    (hyield : AllYield (cs.filter (·.kind = .slash))) :
    sketches.Pairwise fun s t => s.isChat = true → t.isChat = true → s.name ≠ t.name := by
  have howners : (sketches.filterMap (·.owner?)).Pairwise fun c other =>
      decide (c.kind = .slash) = true → decide (other.kind = .slash) = true → c.path ≠ other.path := by
    rw [h.owners]
    exact (List.pairwise_filter.mp htidy.paths).filter _
  have hnodup : (cs.filter (·.kind = .slash)).Nodup := by
    refine htidy.paths.imp fun hne heq => hne ?_
    rw [heq]
  refine (h.same_name.and (List.pairwise_filterMap.mp howners)).imp_of_mem ?_
  intro s t hs ht ⟨hst, hdiffer⟩ hschat htchat hname
  obtain ⟨_, c, hc, hearlier⟩ := hst hschat htchat hname
  obtain ⟨hcmem, hcpath⟩ := h.own_of_chat ht htchat hc
  cases hown : s.owner? with
  -- two commands under no group have different paths
  | some owner =>
    obtain ⟨hmem, hpath⟩ := h.own_of_chat hs hschat hown
    exact hdiffer owner hown c hc (List.mem_filter.mp hmem).2 (List.mem_filter.mp hcmem).2
      (by rw [hpath, hcpath, hname])
  | none =>
    -- something below the group was there before the command, which should have yielded
    obtain ⟨other, hother, hbefore⟩ := hearlier hown
    obtain ⟨b, hb, hcommand⟩ := List.mem_flatMap.mp hother
    have hmem := h.mem_slash hs hb hcommand
    have hgroup : c.path <+: other.groupPath := by
      rw [hcpath, ← hname]
      exact (h.placed s hs b hb).prefix_groupPath hcommand
    have hfirst := (hyield c hcmem other hmem hgroup).first
    have hbefore := sublist_filter_slash hbefore (List.mem_filter.mp hmem).2 (List.mem_filter.mp hcmem).2
    exact not_sublist_swap hnodup hfirst hbefore

/-! ### Commands that yield -/

/-- Two beginnings of one list are equal if they have the same length. -/
theorem eq_of_prefix_of_length {α : Type} {l₁ l₂ l : List α} (h₁ : l₁ <+: l) (h₂ : l₂ <+: l)
    (hlength : l₁.length = l₂.length) : l₁ = l₂ :=
  (List.prefix_of_prefix_length_le h₁ h₂ hlength.le).eq_of_length hlength

/-- Two groups are all there are, so a command below a group with the path of a group stands below one. -/
theorem Tidy.path_eq_groupPath (htidy : Tidy cs) (hother : other ∈ cs) (hne : c.groupPath ≠ [])
    (hgroup : c.path <+: other.groupPath) : c.path = other.groupPath ∧ c.groupPath.length = 1 := by
  have hpath : c.path.length = c.groupPath.length + 1 := by
    rw [CommandSpec.path, List.length_append, List.length_singleton]
  have hdepth := htidy.depth other hother
  have hlength := hgroup.length_le
  have hpos := List.length_pos_of_ne_nil hne
  rw [maxGroupDepth] at hdepth
  -- the path is at least two long and a group path at most two
  exact ⟨hgroup.eq_of_length (by omega), by omega⟩

/-- Where names are unique, no command below a group has the path of another group. -/
theorem Files.groupPath_eq_nil (h : Files cs sketches) (htidy : Tidy cs)
    (hnames : ∀ s ∈ sketches, s.optionNames.Nodup) (hc : c ∈ cs.filter (·.kind = .slash))
    (hother : other ∈ cs.filter (·.kind = .slash)) (hgroup : c.path <+: other.groupPath) :
    c.groupPath = [] := by
  obtain ⟨hc, hckind⟩ := List.mem_filter.mp hc
  obtain ⟨hother, hokind⟩ := List.mem_filter.mp hother
  have hcgroups : groupsAbove c = c.groupPath := if_pos (of_decide_eq_true hckind)
  have hogroups : groupsAbove other = other.groupPath := if_pos (of_decide_eq_true hokind)
  -- otherwise both have a branch below the same first group
  by_contra hne
  obtain ⟨heq, hone⟩ := htidy.path_eq_groupPath hother hne hgroup
  have hbelow : other.groupPath ≠ [] := heq ▸ List.append_ne_nil_of_right_ne_nil _ (List.cons_ne_nil _ _)
  obtain ⟨s, hs, _, b, hb, hcb, hcstart⟩ := h.exists_branch hc (hcgroups ▸ hne)
  obtain ⟨t, ht, _, b', hb', hob, hostart⟩ := h.exists_branch hother (hogroups ▸ hbelow)
  have hinto : c.path <+: other.path := heq ▸ List.prefix_append _ _
  have htokens := eq_of_prefix_of_length (hcstart.trans hinto) hostart rfl
  obtain ⟨hname, hbranch⟩ : s.name = t.name ∧ b.name = b'.name := by simpa using htokens
  obtain rfl := h.eq_of_branches hs ht (List.ne_nil_of_mem hb) (List.ne_nil_of_mem hb') hname
  -- both stand in one branch, which is neither for a command alone nor for a second group
  have hbranches : (s.branches.map (·.name)).Nodup := (List.nodup_append.mp (hnames s hs)).2.1
  obtain rfl := List.inj_on_of_nodup_map hbranches hb hb' hbranch
  have hplaced := h.placed s hs b hb
  cases b with
  | command owner =>
    have hsame : c = other := (List.mem_singleton.mp hcb).trans (List.mem_singleton.mp hob).symm
    rw [hsame, CommandSpec.path] at heq
    exact absurd (congrArg List.length heq) (by simp)
  | group name members =>
    obtain ⟨rest, hgroups⟩ := hplaced.2 c hcb
    have htwo := congrArg List.length (hcgroups.symm.trans hgroups)
    simp only [List.length_cons] at htwo
    omega

/-- Where the descriptions have different names, a command under no group has the description in which the
commands below its path are. -/
theorem Files.exists_shared (h : Files cs sketches)
    (hheads : sketches.Pairwise fun s t => s.isChat = true → t.isChat = true → s.name ≠ t.name)
    (hc : c ∈ cs.filter (·.kind = .slash)) (hother : other ∈ cs.filter (·.kind = .slash))
    (htop : c.groupPath = []) (hgroup : c.path <+: other.groupPath) :
    ∃ s ∈ sketches, s.owner? = some c ∧ c.path = [s.name] ∧
      ∃ b ∈ s.branches, other ∈ b.commands ∧ [s.name, b.name] <+: other.path := by
  obtain ⟨hcmem, hckind⟩ := List.mem_filter.mp hc
  obtain ⟨homem, hokind⟩ := List.mem_filter.mp hother
  have hogroups : groupsAbove other = other.groupPath := if_pos (of_decide_eq_true hokind)
  have hpath : c.path = [c.name] := by rw [CommandSpec.path, htop, List.nil_append]
  have hbelow : groupsAbove other ≠ [] := by
    rw [hogroups]
    rintro hnil
    rw [hnil, hpath, List.prefix_nil] at hgroup
    cases hgroup
  obtain ⟨s, hs, hown⟩ := h.exists_own hcmem ((if_pos (of_decide_eq_true hckind)).trans htop)
  obtain ⟨t, ht, htchat, b, hb, hob, hprefix⟩ := h.exists_branch homem hbelow
  have hschat : s.isChat = true := by
    cases s with
    | group name branches => cases hown
    | command owner branches => cases hown; exact hckind
  have hsname : c.path = [s.name] := (h.own_of_chat hs hschat hown).2
  have htname : [t.name] <+: other.path := (List.prefix_append [t.name] [b.name]).trans hprefix
  have hinto : [s.name] <+: other.path := hsname ▸ hgroup.trans (List.prefix_append _ _)
  -- both descriptions have the name that the path begins with
  have hname : s.name = t.name := List.singleton_inj.mp (eq_of_prefix_of_length hinto htname rfl)
  have hst : s = t := by
    rcases pairwise_forall hheads hs ht with heq | hst | hts
    · exact heq
    · exact absurd hname (hst hschat htchat)
    · exact absurd hname.symm (hts htchat hschat)
  subst hst
  exact ⟨s, hs, hown, hsname, b, hb, hob, hprefix⟩

/-- Where names are unique, every command yields. -/
theorem Files.allYield (h : Files cs sketches) (htidy : Tidy cs)
    (hheads : sketches.Pairwise fun s t => s.isChat = true → t.isChat = true → s.name ≠ t.name)
    (hnames : ∀ s ∈ sketches, s.optionNames.Nodup) : AllYield (cs.filter (·.kind = .slash)) := by
  intro c hc other hother hgroup
  have htop := h.groupPath_eq_nil htidy hnames hc hother hgroup
  obtain ⟨s, hs, hown, hsname, b, hb, hob, hprefix⟩ := h.exists_shared hheads hc hother htop hgroup
  refine ⟨htop, ?_, ?_⟩
  · -- the description is that of the command, which comes before all that joins it
    have hfirst := h.owner_first s hs c hown other (List.mem_flatMap.mpr ⟨b, hb, hob⟩)
    exact sublist_filter_slash hfirst (List.mem_filter.mp hc).2 (List.mem_filter.mp hother).2
  · intro p hp hparameter
    rw [hsname] at hparameter
    -- a parameter with the next name of the path would have the name of the branch
    have hpname : p.name = b.name := by simpa using eq_of_prefix_of_length hparameter hprefix rfl
    cases s with
    | group name branches => cases hown
    | command owner branches =>
      cases hown
      have hdisjoint := (List.nodup_append.mp (hnames _ hs)).2.2
      exact hdisjoint p.name (List.mem_map_of_mem hp) b.name (List.mem_map_of_mem hb) hpname

/-! ### Names as they are described -/

section Render

variable {modules : List (Module σ)} {suggested : List (List String)}

/-- Commands in one branch have different names. -/
theorem Files.nodup_names_of_branch (h : Files cs sketches) (htidy : Tidy cs) (hs : s ∈ sketches)
    {b : Branch σ} (hb : b ∈ s.branches) : (b.commands.map (·.name)).Nodup := by
  have hpaths := (List.pairwise_flatMap.mp (h.commands_pairwise htidy hs)).1 b hb
  have hplaced := h.placed s hs b hb
  cases b with
  | command c => exact List.nodup_singleton _
  | group name members =>
    -- all members are below the same two groups, so that only their names can differ
    have hmember : ∀ c ∈ members, c.groupPath = [s.name, name] := fun c hc => groupPath_eq_of_member
      (hplaced.2 c hc) (htidy.depth c (h.mem_of_mem_commands hs (List.mem_flatMap.mpr ⟨_, hb, hc⟩)))
    rw [List.Nodup, List.pairwise_map]
    refine hpaths.imp_of_mem fun {c other} hc hother hne hname => hne ?_
    rw [CommandSpec.path, CommandSpec.path, hmember c hc, hmember other hother, hname]

/-- A description in the chat has the parameters of its own command first and one option for each branch behind.
-/
theorem options_render_of_chat (hchat : s.isChat = true) : (s.render modules suggested).options =
    s.owner?.toList.flatMap (parameterOptions suggested) ++
      s.branches.map (Branch.render modules suggested s.name) := by
  cases s with
  | group name branches => rfl
  | command owner branches =>
    rw [Sketch.render, if_pos (of_decide_eq_true hchat), Sketch.owner?, Option.toList_some,
      List.flatMap_singleton]
    rfl

/-- A description for a menu has no options. -/
theorem options_render_of_not_chat (hchat : ¬ s.isChat = true) :
    (s.render modules suggested).options = [] := by
  cases s with
  | group name branches => exact absurd rfl hchat
  | command owner branches =>
    rw [Sketch.render, if_neg fun hkind => hchat (decide_eq_true hkind)]
    rfl

/-- In a description, names are distinct at any depth if they are at the top. -/
theorem Files.distinctNames_render_iff (h : Files cs sketches) (htidy : Tidy cs) (hs : s ∈ sketches) :
    DistinctNames (s.render modules suggested).options ↔ s.optionNames.Nodup := by
  have hown : ∀ o ∈ s.owner?.toList.flatMap (parameterOptions suggested), DistinctNames o.options := by
    intro o ho
    obtain ⟨c, _, ho⟩ := List.mem_flatMap.mp ho
    obtain ⟨p, _, rfl⟩ := List.mem_map.mp ho
    exact ⟨List.nodup_nil, List.forall_mem_nil _⟩
  have hbranches : ∀ o ∈ s.branches.map (Branch.render modules suggested s.name),
      DistinctNames o.options := by
    intro o ho
    obtain ⟨b, hb, rfl⟩ := List.mem_map.mp ho
    refine distinctNames_render_branch (fun c hc => ?_) (h.nodup_names_of_branch htidy hs hb)
    exact htidy.parameters c (h.mem_of_mem_commands hs (List.mem_flatMap.mpr ⟨b, hb, hc⟩))
  have hownNames : (s.owner?.toList.flatMap (parameterOptions suggested)).map (·.name) = s.ownNames := by
    cases s with
    | group name branches => rfl
    | command owner branches =>
      rw [Sketch.owner?, Option.toList_some, List.flatMap_singleton, parameterOptions, List.map_map]
      rfl
  have hbranchNames : (s.branches.map (Branch.render modules suggested s.name)).map (·.name) =
      s.branches.map (·.name) := by
    rw [List.map_map]
    exact List.map_congr_left fun b _ => name_render_branch s.name b
  by_cases hchat : s.isChat = true
  · -- below the top names are distinct anyhow
    rw [options_render_of_chat hchat, distinctNames_iff, List.map_append, hownNames, hbranchNames,
      List.forall_mem_append, and_iff_left ⟨hown, hbranches⟩]
    rfl
  · -- a menu command has no options, and its parameters have different names anyhow
    have hnone : s.branches = [] := by
      by_contra hne
      exact hchat (h.chat s hs hne)
    have hnodup : s.optionNames.Nodup := by
      rw [Sketch.optionNames, hnone, List.map_nil, List.append_nil]
      cases s with
      | group name branches => exact List.nodup_nil
      | command owner branches => exact htidy.parameters owner (h.mem_of_owner hs rfl)
    rw [options_render_of_not_chat hchat]
    exact iff_of_true ⟨List.nodup_nil, List.forall_mem_nil _⟩ hnodup

/-- Descriptions for one menu have different names. -/
theorem Files.menus_differ (h : Files cs sketches) (htidy : Tidy cs) (modules : List (Module σ))
    (suggested : List (List String)) :
    sketches.Pairwise fun s t => ¬ s.isChat = true → ¬ t.isChat = true →
      (s.render modules suggested).kind = (t.render modules suggested).kind →
      Text.sameAscii s.name t.name = false := by
  have hmenus : (sketches.filterMap (·.owner?)).Pairwise fun c other => c.kind ≠ .slash →
      other.kind ≠ .slash → (menuEntry c).kind = (menuEntry other).kind →
      Text.sameAscii c.name other.name = false := by
    rw [h.owners]
    exact htidy.menus.filter _
  refine (List.pairwise_filterMap.mp hmenus).imp fun {s t} hmenu hschat htchat hkinds => ?_
  cases s with
  | group name branches => exact absurd rfl hschat
  | command owner branches =>
    cases t with
    | group name branches => exact absurd rfl htchat
    | command other others =>
      -- neither is a slash command, so both stand in the menu of their kind
      have hkind : owner.kind ≠ .slash := fun hslash => hschat (decide_eq_true hslash)
      have hkind' : other.kind ≠ .slash := fun hslash => htchat (decide_eq_true hslash)
      rw [render_eq_menuEntry rfl hkind, render_eq_menuEntry rfl hkind'] at hkinds
      exact hmenu owner rfl other rfl hkind hkind' hkinds

/-- Two descriptions of one kind have different names if this holds of those in the chat. -/
theorem Files.heads_iff (h : Files cs sketches) (htidy : Tidy cs) (hnamed : ∀ s ∈ sketches, s.Named) :
    ((sketches.map (Sketch.render modules suggested)).Pairwise fun e other =>
        e.kind = other.kind → Text.sameAscii e.name other.name = false) ↔
      sketches.Pairwise fun s t => s.isChat = true → t.isChat = true → s.name ≠ t.name := by
  -- names in the chat have no capitals
  have hsame : ∀ {s t : Sketch σ}, s ∈ sketches → t ∈ sketches → s.isChat = true → t.isChat = true →
      (Text.sameAscii s.name t.name = false ↔ s.name ≠ t.name) := by
    intro s t hs ht hschat htchat
    rw [← Bool.not_eq_true, Text.sameAscii_iff_of_isSlashName ((hnamed s hs).name hschat)
      ((hnamed t ht).name htchat)]
  rw [List.pairwise_map]
  constructor
  · intro hheads
    refine hheads.imp_of_mem fun {s t} hs ht hst hschat htchat => (hsame hs ht hschat htchat).mp ?_
    have hkinds : (s.render modules suggested).kind = (t.render modules suggested).kind :=
      ((kind_render_eq_chatInput_iff s).mpr hschat).trans ((kind_render_eq_chatInput_iff t).mpr htchat).symm
    simpa only [name_render] using hst hkinds
  · intro hnames
    refine (hnames.and (h.menus_differ htidy modules suggested)).imp_of_mem ?_
    intro s t hs ht ⟨hst, hmenu⟩ hkinds
    rw [name_render, name_render]
    have hchat : (s.render modules suggested).kind = .chatInput ↔
        (t.render modules suggested).kind = .chatInput := by
      rw [hkinds]
    -- descriptions of one kind are both in the chat or both in a menu
    have hboth : s.isChat = true ↔ t.isChat = true :=
      (kind_render_eq_chatInput_iff s).symm.trans (hchat.trans (kind_render_eq_chatInput_iff t))
    by_cases hschat : s.isChat = true
    · exact (hsame hs ht hschat (hboth.mp hschat)).mpr (hst hschat (hboth.mp hschat))
    · exact hmenu hschat (fun htchat => hschat (hboth.mpr htchat)) hkinds

/-- **Names in the descriptions** are unique exactly when every command with the path of a group yields. -/
theorem Files.uniquelyNamed_render_iff (h : Files cs sketches) (htidy : Tidy cs)
    (hnamed : ∀ s ∈ sketches, s.Named) :
    UniquelyNamed (sketches.map (Sketch.render modules suggested)) ↔
      AllYield (cs.filter (·.kind = .slash)) := by
  constructor
  · rintro ⟨hheads, hoptions⟩
    refine h.allYield htidy ((h.heads_iff htidy hnamed).mp hheads) fun s hs => ?_
    exact (h.distinctNames_render_iff htidy hs).mp (hoptions _ (List.mem_map_of_mem hs))
  · intro hyield
    refine ⟨(h.heads_iff htidy hnamed).mpr (h.names_differ htidy hyield), fun e he => ?_⟩
    obtain ⟨s, hs, rfl⟩ := List.mem_map.mp he
    exact (h.distinctNames_render_iff htidy hs).mpr (h.nodup_optionNames htidy hyield hs)

end Render

end Files

end Upload

/-! ## Loaded commands

The routers keep the paths of loaded commands apart, which is what makes the commands of a dispatcher tidy. -/

open Upload

section Loaded

variable {d : Dispatcher σ}

/-- Commands that are described have different paths. -/
theorem Reachable.pairwise_described (h : Reachable d) :
    (d.catalog.modules.flatMap describedCommands).Pairwise fun c other =>
      ¬ d.settings.SamePath c other := by
  -- a catalog that can be built has no two commands with the same path
  have hcompatible : d.settings.Compatible d.catalog.modules :=
    Catalog.exists_build_iff_compatible.mp ⟨d.catalog, h.intact.catalog_eq⟩
  have hpart : (d.catalog.modules.flatMap fun m => m.slashCommands ++ m.contextCommands).Sublist
      (d.catalog.modules.flatMap (·.commands)) := by
    refine List.Sublist.flatMap_right _ fun m _ => ?_
    simp only [Module.commands, List.append_assoc]
    exact (List.sublist_append_left _ _).append_left _
  have hperm : (d.catalog.modules.flatMap describedCommands).Perm
      (d.catalog.modules.flatMap fun m => m.slashCommands ++ m.contextCommands) :=
    List.Perm.flatMap_left _ fun m _ => List.perm_append_comm
  exact (hperm.pairwise_iff fun hne hsame => hne hsame.symm).mpr (hcompatible.paths_differ.sublist hpart)

theorem Settings.pathOf_of_slash {s : Settings} {c : Command σ} (hkind : c.kind = .slash) :
    s.pathOf c = c.path := by
  rw [Settings.pathOf, Command.route, hkind]

theorem Settings.pathOf_of_context {s : Settings} {c : Command σ} {target : MenuTarget}
    (hkind : c.kind = .context target) : s.pathOf c = [c.name] := by
  rw [Settings.pathOf, Command.route, hkind]

/-- What is described is a slash command or stands in a menu. -/
theorem Dispatcher.kind_of_described {c : Command σ}
    (h : c ∈ d.catalog.modules.flatMap describedCommands) :
    c.kind = .slash ∨ ∃ target, c.kind = .context target := by
  by_cases hkind : c.kind = .slash
  · exact .inl hkind
  · have hmenu : c ∈ d.contextCommands := by
      rw [← d.filter_describedCommands_menu]
      exact List.mem_filter.mpr ⟨h, decide_eq_true hkind⟩
    exact .inr (mem_contextCommands_iff.mp hmenu).2

/-- The commands that a dispatcher describes are tidy. -/
theorem Reachable.tidy (h : Reachable d) : Tidy (d.catalog.modules.flatMap describedCommands) where
  paths := by
    rw [List.pairwise_filter]
    refine h.pairwise_described.imp fun {c other} hdiffer hc hother hpath => hdiffer ?_
    have hckind := of_decide_eq_true hc
    have hokind := of_decide_eq_true hother
    refine ⟨hckind.trans hokind.symm, ?_⟩
    rw [Settings.pathOf_of_slash hckind, Settings.pathOf_of_slash hokind, hpath]
    exact List.forall₂_same.mpr fun token _ => ⟨rfl, fun _ => .rfl⟩
  menus := by
    refine h.pairwise_described.imp_of_mem fun {c other} hc hother hdiffer hcmenu homenu hkinds => ?_
    obtain ⟨target, hckind⟩ := (Dispatcher.kind_of_described hc).resolve_left hcmenu
    obtain ⟨target', hokind⟩ := (Dispatcher.kind_of_described hother).resolve_left homenu
    have htarget : target = target' := by
      rw [menuEntry, menuEntry, hckind, hokind] at hkinds
      cases target <;> cases target' <;> first | rfl | cases hkinds
    -- the router for the menu compares names in lower case
    rw [← Bool.not_eq_true]
    intro hsame
    refine hdiffer ⟨by rw [hckind, hokind, htarget], ?_⟩
    rw [Settings.pathOf_of_context hckind, Settings.pathOf_of_context hokind]
    refine .cons ⟨Text.lowercase_eq_of_sameAscii hsame, fun htakes => ?_⟩ .nil
    rw [hckind] at htakes
    cases htakes
  parameters c hc := by
    obtain ⟨m, hm, hcommands⟩ := Dispatcher.loaded_of_described hc
    exact h.nodup_parameters hm hcommands
  named c hc hkind := by
    obtain ⟨m, hm, hcommands⟩ := Dispatcher.loaded_of_described hc
    exact h.isSlashName_path hm hcommands hkind
  depth := h.length_groupPath_le_of_described

end Loaded

/-- **When names are unique.** Take any dispatcher that loads and unloads lead to. In its descriptions no two
of one kind have the same name, and no two options side by side, exactly when every slash command with the
path of a group above another slash command

* stands under no group itself,
* comes before that other command, and
* has no parameter with the name that follows in the path of the other one. -/
theorem Reachable.uniquelyNamed_iff {d : Dispatcher σ} (h : Reachable d) :
    UniquelyNamed (describe d.catalog.roots) ↔
      ∀ c ∈ d.slashCommands, ∀ other ∈ d.slashCommands, c.path <+: other.groupPath →
        c.groupPath = [] ∧ [c, other].Sublist d.slashCommands ∧
          ∀ p ∈ c.parameters, ¬ c.path ++ [p.name] <+: other.path := by
  rw [h.describe_eq, (files_sketch _).uniquelyNamed_render_iff h.tidy (named_sketch h.tidy.named),
    d.filter_describedCommands_slash]
  refine forall₂_congr fun c _ => forall₂_congr fun other _ => forall_congr' fun _ => ?_
  exact ⟨fun ⟨topLevel, first, parameters⟩ => ⟨topLevel, first, parameters⟩,
    fun ⟨topLevel, first, parameters⟩ => ⟨topLevel, first, parameters⟩⟩

namespace Sample

def ban : CommandDecl Unit where
  kind := .slash
  name := "ban"
  description := some "d"
  handler := some handler

def admin : CommandDecl Unit where
  kind := .slash
  name := "admin"
  description := some "d"
  handler := some handler

def wardens : ModuleDecl Unit :=
  ⟨"host::Wardens", "Wardens", some ⟨"admin", "d"⟩, true, [], [ban], [], construct "host::Wardens"⟩

def office : ModuleDecl Unit :=
  ⟨"host::Office", "Office", none, true, [], [admin], [], construct "host::Office"⟩

/-- A group and a command with the path of the group, in two orders. -/
def groupFirst : Dispatcher Unit := ((Dispatcher.new {} id).change (.load [wardens, office])).2

def commandFirst : Dispatcher Unit := ((Dispatcher.new {} id).change (.load [office, wardens])).2

theorem reachable_groupFirst : Reachable groupFirst := (Reachable.new {} id).change _

theorem reachable_commandFirst : Reachable commandFirst := (Reachable.new {} id).change _

end Sample

/-- If the command is loaded first, what is below the group joins its description, and names are unique. If
the group is loaded first, they are not. -/
theorem uniquelyNamed_iff_commandFirst :
    Reachable Sample.commandFirst ∧ UniquelyNamed (describe Sample.commandFirst.catalog.roots) ∧
    Reachable Sample.groupFirst ∧ ¬ UniquelyNamed (describe Sample.groupFirst.catalog.roots) := by
  refine ⟨Sample.reachable_commandFirst, (Reachable.uniquelyNamed_iff Sample.reachable_commandFirst).mpr ?_,
    Sample.reachable_groupFirst, fun hunique => ?_⟩
  · -- the command comes first, and has no parameters that a branch could clash with
    obtain ⟨x, y, hcs, hxgroups, hxpath, hxparameters, hygroups, hypath⟩ : ∃ x y,
        Sample.commandFirst.slashCommands = [x, y] ∧ x.groupPath = [] ∧ x.path = ["admin"] ∧
          x.parameters = [] ∧ y.groupPath = ["admin"] ∧ y.path = ["admin", "ban"] :=
      ⟨_, _, rfl, rfl, rfl, rfl, rfl, rfl⟩
    intro c hc other hother hgroup
    rw [hcs, List.mem_cons, List.mem_singleton] at hc hother
    rcases hc with rfl | rfl
    · rcases hother with rfl | rfl
      · rw [hxpath, hxgroups] at hgroup
        exact absurd hgroup (by decide)
      · rw [hcs, hxparameters]
        exact ⟨hxgroups, .refl _, List.forall_mem_nil _⟩
    · rcases hother with rfl | rfl
      · rw [hypath, hxgroups] at hgroup
        exact absurd hgroup (by decide)
      · rw [hypath, hygroups] at hgroup
        exact absurd hgroup (by decide)
  · obtain ⟨x, y, hcs, hygroups, hypath, hxgroups, hxpath⟩ : ∃ x y,
        Sample.groupFirst.slashCommands = [x, y] ∧ y.groupPath = [] ∧ y.path = ["admin"] ∧
          x.groupPath = ["admin"] ∧ x.path = ["admin", "ban"] :=
      ⟨_, _, rfl, rfl, rfl, rfl, rfl⟩
    -- the group comes first here, so the command would have to come before it
    have hyields := (Reachable.uniquelyNamed_iff Sample.reachable_groupFirst).mp hunique y (by simp [hcs])
      x (by simp [hcs]) (by rw [hypath, hxgroups])
    have hne : y ≠ x := by
      rintro rfl
      exact absurd (hypath.symm.trans hxpath) (by decide)
    have hordered : [y, x].Sublist [x, y] := hcs ▸ hyields.2.1
    exact not_sublist_swap (by simpa using hne.symm) (.refl [x, y]) hordered

/-- A group that is loaded before the command with its path is described beside it, under the same name. -/
theorem exists_not_uniquelyNamed :
    ∃ d : Dispatcher Unit, Reachable d ∧
      (describe d.catalog.roots).map (fun e => (e.kind, e.name)) =
        [(.chatInput, "admin"), (.chatInput, "admin")] ∧
      ¬ UniquelyNamed (describe d.catalog.roots) := by
  have hnames : (describe Sample.groupFirst.catalog.roots).map (fun e => (e.kind, e.name)) =
      [(.chatInput, "admin"), (.chatInput, "admin")] := by decide +kernel
  refine ⟨Sample.groupFirst, Sample.reachable_groupFirst, hnames, fun hunique => ?_⟩
  have hpairs : ((describe Sample.groupFirst.catalog.roots).map fun e => (e.kind, e.name)).Pairwise
      fun e other => e.1 = other.1 → Text.sameAscii e.2 other.2 = false :=
    List.pairwise_map.mpr hunique.heads
  rw [hnames, List.pairwise_pair] at hpairs
  exact absurd (hpairs rfl) (by decide)

end ChatDispatch
