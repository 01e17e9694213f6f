import ChatDispatch.Proofs.PathRouting
import ChatDispatch.Upload.Entry
import Mathlib.Data.List.Perm.Basic

/-!
# Folding commands into descriptions

Commands are folded one by one into the descriptions for the platform: a command under no group gets one of
its own, any other joins the description named for its first group. This module says which command goes
where; what is written about each of them comes from `Sketch.render`.

* **`Sketch`**, **`Branch`** — the descriptions with the commands themselves in place of their options.
* **`describe_eq_map_render`** — the descriptions are the sketches of the commands, rendered.
* **`addSketch_cases`**, **`addBranch_cases`** — all that one more command can do.
* **`Files`** — where the commands are: each in one place, and every place named for it.
* **`files_sketch`** — any run of commands is filed so, by `Files.addSketch` for one more command.
-/

namespace ChatDispatch.Upload

variable {σ : Type}

/-! ## One change in a list

The fold looks for the first item with a property and changes it, or adds one at the end. Both ways are told once,
and everything later goes by them. -/

section ChangeFirst

variable {α β : Type} {condition : α → Bool} {fresh : α} {change : α → α} {as : List α}

/-- What a change of the first item comes to: no item has the property and a changed fresh one is added, or the
first that has it is changed where it stands. -/
theorem changeFirst_cases (condition : α → Bool) (fresh : α) (change : α → α) (as : List α) :
    (∀ a ∈ as, condition a = false) ∧ changeFirst condition fresh change as = as ++ [change fresh] ∨
    ∃ front a back, as = front ++ a :: back ∧ (∀ b ∈ front, condition b = false) ∧
      condition a = true ∧ changeFirst condition fresh change as = front ++ change a :: back := by
  induction as with
  | nil => exact .inl ⟨nofun, rfl⟩
  | cons a as ih =>
    rw [changeFirst]
    cases ha : condition a with
    | true => exact .inr ⟨[], a, as, rfl, nofun, ha, rfl⟩
    | false =>
      -- the head is passed over, so it stands in front of what the tail comes to
      rcases ih with ⟨hnone, heq⟩ | ⟨front, b, back, rfl, hfront, hb, heq⟩
      · exact .inl ⟨List.forall_mem_cons.mpr ⟨ha, hnone⟩, congrArg (a :: ·) heq⟩
      · exact .inr ⟨a :: front, b, back, rfl, List.forall_mem_cons.mpr ⟨ha, hfront⟩, hb,
          congrArg (a :: ·) heq⟩

/-- Items without the property are passed over. -/
theorem changeFirst_append_of_not {front : List α} (h : ∀ a ∈ front, condition a = false) :
    changeFirst condition fresh change (front ++ as) =
      front ++ changeFirst condition fresh change as := by
  induction front with
  | nil => rfl
  | cons a front ih =>
    obtain ⟨ha, hfront⟩ := List.forall_mem_cons.mp h
    rw [List.cons_append, changeFirst, ha, ih hfront]
    rfl

/-- A change of the first item is one of the first image, where the images are told apart alike. -/
theorem map_changeFirst (f : α → β) {condition' : β → Bool} {fresh' : β} {change' : β → β}
    (hcondition : ∀ a ∈ as, condition' (f a) = condition a)
    (hfresh : f (change fresh) = change' fresh')
    (hchange : ∀ a ∈ as, condition a = true → f (change a) = change' (f a)) :
    (changeFirst condition fresh change as).map f =
      changeFirst condition' fresh' change' (as.map f) := by
  induction as with
  | nil => exact congrArg ([·]) hfresh
  | cons a as ih =>
    obtain ⟨hconditionHead, hconditionTail⟩ := List.forall_mem_cons.mp hcondition
    obtain ⟨hchangeHead, hchangeTail⟩ := List.forall_mem_cons.mp hchange
    -- the condition says the same of an entry and of its image
    rw [changeFirst, List.map_cons, changeFirst, hconditionHead]
    cases ha : condition a with
    | true =>
      have hhead := hchangeHead ha
      show f (change a) :: as.map f = change' (f a) :: as.map f
      rw [hhead]
    | false =>
      have htail := ih hconditionTail hchangeTail
      show f a :: (changeFirst condition fresh change as).map f = f a :: _
      rw [htail]

end ChangeFirst

/-! ## Sketches

A description is built up option by option, and while it is built only names and kinds matter. A sketch keeps the
commands themselves, so that it can be said which command went where. -/

/-- The groups below which a command is described. Menu commands are described below none. -/
def groupsAbove (c : Command σ) : List String :=
  if c.kind = .slash then c.groupPath else []

/-- What stands in a description besides the parameters of a command: a command below the group, or a
second group with the commands below it. -/
inductive Branch (σ : Type) where
  | command (c : Command σ)
  | group (name : String) (members : List (Command σ))

namespace Branch

def commands : Branch σ → List (Command σ)
  | command c => [c]
  | group _ members => members

/-- The second group that the branch is for. -/
def group? : Branch σ → Option String
  | command _ => none
  | group name _ => some name

def add (c : Command σ) : Branch σ → Branch σ
  | command other => command other
  | group name members => group name (members ++ [c])

end Branch

/-- A description: that of a command, or that of a group alone. -/
inductive Sketch (σ : Type) where
  | command (c : Command σ) (branches : List (Branch σ))
  | group (name : String) (branches : List (Branch σ))

/-- Puts a command below a group, or below a second group in it. -/
def addBranch (c : Command σ) (branches : List (Branch σ)) : List (Branch σ) :=
  match (groupsAbove c).tail with
  | [] => branches ++ [.command c]
  | subgroup :: _ =>
    changeFirst (fun b => b.group? = some subgroup) (.group subgroup []) (·.add c) branches

namespace Sketch

def name : Sketch σ → String
  | command c _ => c.name
  | group name _ => name

/-- The command that the description is its own of. -/
def owner? : Sketch σ → Option (Command σ)
  | command c _ => some c
  | group _ _ => none

def branches : Sketch σ → List (Branch σ)
  | command _ branches => branches
  | group _ branches => branches

/-- Whether the description is one of what is typed into the chat. -/
def isChat : Sketch σ → Bool
  | command c _ => c.kind = .slash
  | group _ _ => true

/-- The commands below the description. -/
def commands (s : Sketch σ) : List (Command σ) := s.branches.flatMap (·.commands)

def add (c : Command σ) : Sketch σ → Sketch σ
  | command owner branches => command owner (addBranch c branches)
  | group name branches => group name (addBranch c branches)

@[simp] theorem name_add (c : Command σ) (s : Sketch σ) : (s.add c).name = s.name := by cases s <;> rfl

@[simp] theorem owner?_add (c : Command σ) (s : Sketch σ) : (s.add c).owner? = s.owner? := by
  cases s <;> rfl

@[simp] theorem isChat_add (c : Command σ) (s : Sketch σ) : (s.add c).isChat = s.isChat := by
  cases s <;> rfl

@[simp] theorem branches_add (c : Command σ) (s : Sketch σ) :
    (s.add c).branches = addBranch c s.branches := by cases s <;> rfl

end Sketch

/-- Puts a command into the sketches: into one of its own, or into the first one that is named for its
first group. -/
def addSketch (c : Command σ) (sketches : List (Sketch σ)) : List (Sketch σ) :=
  match groupsAbove c with
  | [] => sketches ++ [.command c []]
  | group :: _ =>
    changeFirst (fun s => s.isChat ∧ s.name = group) (.group group []) (·.add c) sketches

/-- The sketches of commands, put in one after another. -/
def sketch (cs : List (Command σ)) : List (Sketch σ) :=
  cs.foldl (fun sketches c => addSketch c sketches) []

theorem sketch_append_singleton (cs : List (Command σ)) (c : Command σ) :
    sketch (cs ++ [c]) = addSketch c (sketch cs) := by
  rw [sketch, List.foldl_append]
  rfl

/-! ## Rendering

What a sketch looks like for the platform. -/

section Render

variable (modules : List (Module σ)) (suggested : List (List String))

/-- The option for a command below a group. -/
def subcommandOption (c : Command σ) : OptionEntry :=
  .branch c.name (c.description.getD "") .subcommand (parameterOptions suggested c)

def Branch.render (group : String) : Branch σ → OptionEntry
  | .command c => subcommandOption suggested c
  | .group name members =>
    .branch name (groupDescription modules [group, name]) .subcommandGroup
      (members.map (subcommandOption suggested))

def Sketch.render : Sketch σ → CommandEntry
  | .command c branches =>
    if c.kind = .slash then {
      name := c.name
      kind := .chatInput
      description := c.description.getD ""
      defaultPermission := c.defaultPermission
      options := parameterOptions suggested c ++ branches.map (Branch.render modules suggested c.name) }
    else menuEntry c
  | .group name branches => {
      name := name
      kind := .chatInput
      description := groupDescription modules [name]
      defaultPermission := groupPermission modules name
      options := branches.map (Branch.render modules suggested name) }

/-- Adds a command to the descriptions. -/
def addEntry (c : Command σ) (entries : List CommandEntry) : List CommandEntry :=
  if c.kind = .slash then addSlash modules suggested c entries else entries ++ [menuEntry c]

end Render

/-! ## The descriptions are the rendered sketches

The fold over the modules takes menu commands first and slash commands after them, module by module. Rendering
what is put into the sketches one command after another gives the same. -/

/-- The commands of a module that are described, in the order in which they are. -/
def describedCommands (m : Module σ) : List (Command σ) := m.contextCommands ++ m.slashCommands

theorem kind_of_mem_slashCommands {m : Module σ} {c : Command σ} (h : c ∈ m.slashCommands) :
    c.kind = .slash := of_decide_eq_true (List.mem_filter.mp h).2

/-- The menu commands of a module are no slash commands. -/
theorem kind_of_mem_contextCommands {m : Module σ} {c : Command σ} (h : c ∈ m.contextCommands) :
    c.kind ≠ .slash := by
  intro hslash
  have hmenu := (List.mem_filter.mp h).2
  rw [hslash] at hmenu
  cases hmenu

/-- The descriptions come about command by command. -/
theorem describe_eq_foldl (roots : List (Module σ)) :
    describe roots = ((Module.forest roots).flatMap describedCommands).foldl
      (fun entries c => addEntry (Module.forest roots) (suggestedPaths (Module.forest roots)) c entries)
      [] := by
  rw [describe, List.foldl_flatMap]
  generalize suggestedPaths (Module.forest roots) = suggested
  generalize hmodules : Module.forest roots = modules
  -- for menu commands the step adds their entry, and the order in which they are added is theirs
  have hmenus : ∀ (cs : List (Command σ)) entries, (∀ c ∈ cs, c.kind ≠ .slash) →
      cs.foldl (fun entries c => addEntry modules suggested c entries) entries =
        entries ++ cs.map menuEntry := by
    intro cs
    induction cs with
    | nil => simp
    | cons c cs ih =>
      intro entries hkinds
      obtain ⟨hc, hcs⟩ := List.forall_mem_cons.mp hkinds
      rw [List.foldl_cons, ih _ hcs, addEntry, if_neg hc, List.append_assoc]
      rfl
  -- for slash commands the step is the one of the fold
  have hslash : ∀ (cs : List (Command σ)) entries, (∀ c ∈ cs, c.kind = .slash) →
      cs.foldl (fun entries c => addEntry modules suggested c entries) entries =
        cs.foldl (fun entries c => addSlash modules suggested c entries) entries := by
    intro cs entries hkinds
    refine List.foldl_ext _ _ _ fun entries c hc => ?_
    rw [addEntry, if_pos (hkinds c hc)]
  refine congrArg (fun step => modules.foldl step []) ?_
  funext entries m
  rw [describedCommands, List.foldl_append, hmenus _ _ fun c => kind_of_mem_contextCommands,
    hslash _ _ fun c => kind_of_mem_slashCommands, addModule]

/-! ### Names

The fold looks names up without regard to case; the sketches compare them as they are. The two agree on the
names that slash commands and groups have. -/

/-- Groups are named as slash commands are. -/
structure Sketch.Named (s : Sketch σ) : Prop where
  name : s.isChat = true → isSlashName s.name = true
  branches : ∀ b ∈ s.branches, ∀ name, b.group? = some name → isSlashName name = true

/-- The command and the groups above it are named as slash commands are. -/
def NamedPath (c : Command σ) : Prop := c.kind = .slash → ∀ name ∈ c.path, isSlashName name = true

/-- Only slash commands have groups above them, and these are on their path. -/
theorem mem_path_of_mem_groupsAbove {c : Command σ} {group : String} (h : group ∈ groupsAbove c) :
    c.kind = .slash ∧ group ∈ c.path := by
  rw [groupsAbove] at h
  split at h
  · rename_i hkind
    exact ⟨hkind, List.mem_append_left _ h⟩
  · cases h

/-- The groups above a command are named as slash commands are. -/
theorem NamedPath.isSlashName_group {c : Command σ} (h : NamedPath c) {group : String}
    (hgroup : group ∈ groupsAbove c) : isSlashName group = true :=
  h (mem_path_of_mem_groupsAbove hgroup).1 _ (mem_path_of_mem_groupsAbove hgroup).2

/-- What can become of the branches when a command is put below them. -/
theorem addBranch_cases (c : Command σ) (branches : List (Branch σ)) :
    (groupsAbove c).tail = [] ∧ addBranch c branches = branches ++ [.command c] ∨
    ∃ name rest, (groupsAbove c).tail = name :: rest ∧
      ((∀ b ∈ branches, b.group? ≠ some name) ∧ addBranch c branches = branches ++ [.group name [c]] ∨
      ∃ front members back, branches = front ++ .group name members :: back ∧
        addBranch c branches = front ++ .group name (members ++ [c]) :: back) := by
  rw [addBranch]
  cases htail : (groupsAbove c).tail with
  | nil => exact .inl ⟨rfl, rfl⟩
  | cons name rest =>
    refine .inr ⟨name, rest, rfl, ?_⟩
    -- the first branch for the second group is changed, or there is none
    rcases changeFirst_cases (fun b => b.group? = some name) (.group name []) (·.add c) branches with
      ⟨hnone, heq⟩ | ⟨front, b, back, rfl, _, hb, heq⟩
    · refine .inl ⟨fun b hb hname => ?_, heq⟩
      have hother := hnone b hb
      rw [decide_eq_false_iff_not] at hother
      exact hother hname
    · cases b with
      | command other => cases of_decide_eq_true hb
      | group other members =>
        cases of_decide_eq_true hb
        exact .inr ⟨front, members, back, rfl, heq⟩

/-- What can become of the sketches when a command is put in. -/
theorem addSketch_cases (c : Command σ) (sketches : List (Sketch σ)) :
    groupsAbove c = [] ∧ addSketch c sketches = sketches ++ [.command c []] ∨
    ∃ group rest, groupsAbove c = group :: rest ∧
      ((∀ s ∈ sketches, s.isChat = true → s.name ≠ group) ∧
        addSketch c sketches = sketches ++ [.group group (addBranch c [])] ∨
      ∃ front s back, sketches = front ++ s :: back ∧ s.isChat = true ∧ s.name = group ∧
        (∀ t ∈ front, t.isChat = true → t.name ≠ group) ∧
        addSketch c sketches = front ++ s.add c :: back) := by
  rw [addSketch]
  cases hgroups : groupsAbove c with
  | nil => exact .inl ⟨rfl, rfl⟩
  | cons group rest =>
    refine .inr ⟨group, rest, rfl, ?_⟩
    -- passed over is what is no chat command or has another name
    have hdiffers : ∀ {s : Sketch σ}, decide (s.isChat = true ∧ s.name = group) = false →
        s.isChat = true → s.name ≠ group := by
      intro s hs hchat hname
      rw [decide_eq_false_iff_not] at hs
      exact hs ⟨hchat, hname⟩
    rcases changeFirst_cases (fun s => s.isChat ∧ s.name = group) (.group group []) (·.add c) sketches
      with ⟨hnone, heq⟩ | ⟨front, s, back, rfl, hfront, hs, heq⟩
    · exact .inl ⟨fun s hs => hdiffers (hnone s hs), heq⟩
    · obtain ⟨hchat, hname⟩ := of_decide_eq_true hs
      exact .inr ⟨front, s, back, rfl, hchat, hname, fun t ht => hdiffers (hfront t ht), heq⟩

/-- What holds of all items of a list with one more at its end. -/
theorem forall_mem_append_singleton {α : Type} {p : α → Prop} {as : List α} {a : α} :
    (∀ b ∈ as ++ [a], p b) ↔ (∀ b ∈ as, p b) ∧ p a := by
  rw [List.forall_mem_append, List.forall_mem_singleton]

/-- A command that is named as it should be brings no group with another kind of name. -/
theorem named_addBranch {c : Command σ} (hc : NamedPath c) {branches : List (Branch σ)}
    (h : ∀ b ∈ branches, ∀ name, b.group? = some name → isSlashName name = true) :
    ∀ b ∈ addBranch c branches, ∀ name, b.group? = some name → isSlashName name = true := by
  rcases addBranch_cases c branches with ⟨_, heq⟩ | ⟨name, rest, htail, ⟨_, heq⟩ |
    ⟨front, members, back, rfl, heq⟩⟩
  · rw [heq]
    refine forall_mem_append_singleton.mpr ⟨h, fun _ hname => ?_⟩
    cases hname
  · rw [heq]
    refine forall_mem_append_singleton.mpr ⟨h, fun _ hname => ?_⟩
    cases hname
    exact hc.isSlashName_group (List.mem_of_mem_tail (htail ▸ List.mem_cons_self))
  · rw [heq]
    -- the changed branch has the name that it had
    intro b hb other hother
    simp only [List.mem_append, List.mem_cons] at h hb
    rcases hb with hb | rfl | hb
    · exact h b (.inl hb) other hother
    · exact h _ (.inr (.inl rfl)) other hother
    · exact h b (.inr (.inr hb)) other hother

/-- Putting a command below a description keeps its names in order. -/
theorem Sketch.Named.add {s : Sketch σ} (h : s.Named) {c : Command σ} (hc : NamedPath c) :
    (s.add c).Named where
  name := by simpa using h.name
  branches := by simpa using named_addBranch hc h.branches

/-- Putting a command into sketches keeps their names in order. -/
theorem named_addSketch {c : Command σ} (hc : NamedPath c) {sketches : List (Sketch σ)}
    (h : ∀ s ∈ sketches, s.Named) : ∀ s ∈ addSketch c sketches, s.Named := by
  rcases addSketch_cases c sketches with ⟨_, heq⟩ | ⟨group, rest, hgroups, ⟨_, heq⟩ |
    ⟨front, s, back, rfl, _, _, _, heq⟩⟩
  · rw [heq]
    refine forall_mem_append_singleton.mpr ⟨h, fun hchat => ?_, List.forall_mem_nil _⟩
    exact hc (of_decide_eq_true hchat) _ (List.mem_append_right _ List.mem_cons_self)
  · rw [heq]
    refine forall_mem_append_singleton.mpr ⟨h, fun _ => ?_, named_addBranch hc (List.forall_mem_nil _)⟩
    exact hc.isSlashName_group (hgroups ▸ List.mem_cons_self)
  · rw [heq]
    simp only [List.forall_mem_append, List.forall_mem_cons] at h ⊢
    exact ⟨h.1, h.2.1.add hc, h.2.2⟩

/-! ### One more command -/

section Render

variable {modules : List (Module σ)} {suggested : List (List String)}

/-- No type of arguments is given as a command or as a group. -/
theorem kind_ofType_ne (t : ArgType) :
    OptionKind.ofType t ≠ .subcommand ∧ OptionKind.ofType t ≠ .subcommandGroup := by
  unfold OptionKind.ofType
  split_ifs <;> exact ⟨nofun, nofun⟩

/-- The options for parameters are no commands and no groups. -/
theorem kind_of_mem_parameterOptions {c : Command σ} {o : OptionEntry}
    (h : o ∈ parameterOptions suggested c) : o.kind ≠ .subcommand ∧ o.kind ≠ .subcommandGroup := by
  obtain ⟨p, _, rfl⟩ := List.mem_map.mp h
  exact kind_ofType_ne p.type

/-- Adds a command to the options below a group. -/
def joinOptions (modules : List (Module σ)) (suggested : List (List String)) (group : String)
    (c : Command σ) (options : List OptionEntry) : List OptionEntry :=
  match (groupsAbove c).tail with
  | [] => options ++ [subcommandOption suggested c]
  | subgroup :: _ => addToSubgroup modules group subgroup (subcommandOption suggested c) options

/-- Parameters are not taken for a group, so what is added stands behind them. -/
theorem joinOptions_append {group : String} {c : Command σ} {front options : List OptionEntry}
    (h : ∀ o ∈ front, o.kind ≠ .subcommandGroup) :
    joinOptions modules suggested group c (front ++ options) =
      front ++ joinOptions modules suggested group c options := by
  rw [joinOptions, joinOptions]
  cases (groupsAbove c).tail with
  | nil => exact List.append_assoc _ _ _
  | cons subgroup rest =>
    refine changeFirst_append_of_not fun o ho => ?_
    rw [decide_eq_false_iff_not]
    exact fun hgroup => h o ho hgroup.1

/-- Putting a command below a group and rendering is the same as rendering and adding an option. -/
theorem map_render_addBranch {c : Command σ} {group : String} (hc : NamedPath c)
    {branches : List (Branch σ)}
    (h : ∀ b ∈ branches, ∀ name, b.group? = some name → isSlashName name = true) :
    (addBranch c branches).map (Branch.render modules suggested group) =
      joinOptions modules suggested group c (branches.map (Branch.render modules suggested group)) := by
  rw [addBranch, joinOptions]
  cases htail : (groupsAbove c).tail with
  | nil =>
    rw [List.map_append]
    rfl
  | cons subgroup rest =>
    have hsubgroup := hc.isSlashName_group (List.mem_of_mem_tail (htail ▸ List.mem_cons_self))
    -- the option for a second group is found by its name, and no option for a command is taken for it
    refine map_changeFirst _ ?_ rfl ?_
    · intro b hb
      cases b with
      | command other =>
        rw [Bool.eq_iff_iff, decide_eq_true_iff, decide_eq_true_iff]
        exact iff_of_false (fun hkind => nomatch hkind.1) nofun
      | group name members =>
        rw [Bool.eq_iff_iff, decide_eq_true_iff, decide_eq_true_iff]
        have hsame := Text.sameAscii_iff_of_isSlashName (h _ hb name rfl) hsubgroup
        simpa [Branch.render, OptionEntry.branch, OptionEntry.kind, OptionEntry.name, Branch.group?]
          using hsame
    · intro b _ hb
      cases b with
      | command other => cases of_decide_eq_true hb
      | group name members =>
        simp [Branch.render, Branch.add, OptionEntry.branch, OptionEntry.addOption]

/-- The description with a command put below it. -/
theorem render_add {c : Command σ} (hc : NamedPath c) {s : Sketch σ} (hs : s.Named)
    (hchat : s.isChat = true) :
    (s.add c).render modules suggested = { s.render modules suggested with
      options := joinOptions modules suggested s.name c (s.render modules suggested).options } := by
  cases s with
  | group name branches =>
    have hgroups : ∀ b ∈ branches, ∀ name, b.group? = some name → isSlashName name = true := hs.branches
    simp only [Sketch.add, Sketch.render, Sketch.name, map_render_addBranch hc hgroups]
  | command owner branches =>
    have hslash : owner.kind = .slash := of_decide_eq_true hchat
    have hgroups : ∀ b ∈ branches, ∀ name, b.group? = some name → isSlashName name = true := hs.branches
    -- the parameters of the owner stand in front and are passed over
    have hparameters : ∀ o ∈ parameterOptions suggested owner, o.kind ≠ .subcommandGroup :=
      fun o ho => (kind_of_mem_parameterOptions ho).2
    simp only [Sketch.add, Sketch.render, Sketch.name, hslash, if_true, map_render_addBranch hc hgroups,
      joinOptions_append hparameters]

/-- A slash command below groups is added to the description of its first group, with or without a second one. -/
theorem addSlash_of_group {c : Command σ} (hkind : c.kind = .slash) {group : String} {rest : List String}
    (hpath : c.groupPath = group :: rest) (entries : List CommandEntry) :
    addSlash modules suggested c entries =
      addToGroup modules group (joinOptions modules suggested group c) entries := by
  -- the first group names the entry, the others lead on below it
  have htail : (groupsAbove c).tail = rest := by
    rw [groupsAbove, if_pos hkind, hpath]
    rfl
  cases rest with
  | nil =>
    have hjoin : joinOptions modules suggested group c = (· ++ [subcommandOption suggested c]) := by
      funext options
      rw [joinOptions, htail]
    rw [addSlash, hpath, hjoin]
    rfl
  | cons subgroup rest =>
    have hjoin : joinOptions modules suggested group c =
        addToSubgroup modules group subgroup (subcommandOption suggested c) := by
      funext options
      rw [joinOptions, htail]
    rw [addSlash, hpath, hjoin]
    rfl

/-- The description has the name of the sketch. -/
@[simp] theorem name_render (s : Sketch σ) : (s.render modules suggested).name = s.name := by
  cases s with
  | group name branches => rfl
  | command owner branches =>
    rw [Sketch.render]
    split <;> rfl

/-- The description is for the chat exactly when the sketch is. -/
theorem kind_render_eq_chatInput_iff (s : Sketch σ) :
    (s.render modules suggested).kind = .chatInput ↔ s.isChat = true := by
  cases s with
  | group name branches => exact iff_of_true rfl rfl
  | command owner branches =>
    rw [Sketch.render, Sketch.isChat, decide_eq_true_iff]
    by_cases hslash : owner.kind = .slash
    · rw [if_pos hslash]
      exact iff_of_true rfl hslash
    · rw [if_neg hslash]
      refine iff_of_false ?_ hslash
      rw [menuEntry]
      split_ifs <;> nofun

/-- The fold finds the description of a group by its name up to case, and the sketch by its name. They find the
same one, as long as the names are those of slash commands. -/
theorem decide_isFor_render {s : Sketch σ} (hs : s.Named) {group : String}
    (hgroup : isSlashName group = true) :
    decide ((s.render modules suggested).kind = .chatInput ∧
        Text.sameAscii (s.render modules suggested).name group) =
      decide (s.isChat ∧ s.name = group) := by
  rw [Bool.eq_iff_iff, decide_eq_true_iff, decide_eq_true_iff, kind_render_eq_chatInput_iff, name_render]
  exact and_congr_right fun hchat => Text.sameAscii_iff_of_isSlashName (hs.name hchat) hgroup

/-- Putting a command into the sketches adds it to the descriptions. -/
theorem map_render_addSketch {c : Command σ} (hc : NamedPath c) {sketches : List (Sketch σ)}
    (h : ∀ s ∈ sketches, s.Named) :
    (addSketch c sketches).map (Sketch.render modules suggested) =
      addEntry modules suggested c (sketches.map (Sketch.render modules suggested)) := by
  by_cases hkind : c.kind = .slash
  · have hgroups : groupsAbove c = c.groupPath := if_pos hkind
    rw [addSketch, addEntry, if_pos hkind, hgroups]
    cases hpath : c.groupPath with
    | nil => simp [addSlash, hpath, Sketch.render, hkind]
    | cons group rest =>
      have hgroup := hc.isSlashName_group (hgroups.trans hpath ▸ List.mem_cons_self)
      -- the fresh sketch of the group is named as it should be, too
      have hempty : (Sketch.group group ([] : List (Branch σ))).Named :=
        ⟨fun _ => hgroup, List.forall_mem_nil _⟩
      rw [addSlash_of_group hkind hpath]
      refine map_changeFirst _ (fun s hs => decide_isFor_render (h s hs) hgroup) (render_add hc hempty rfl) ?_
      intro s hs hjoined
      obtain ⟨hchat, hname⟩ := of_decide_eq_true hjoined
      rw [render_add hc (h s hs) hchat, hname]
  · rw [addSketch, addEntry, if_neg hkind, groupsAbove, if_neg hkind, List.map_append]
    simp [Sketch.render, hkind]

end Render

/-- All sketches of commands are named as slash commands are, if the commands are. -/
theorem named_sketch {cs : List (Command σ)} (h : ∀ c ∈ cs, NamedPath c) : ∀ s ∈ sketch cs, s.Named := by
  induction cs using List.reverseRecOn with
  | nil => exact List.forall_mem_nil _
  | append_singleton cs c ih =>
    obtain ⟨hcs, hc⟩ := forall_mem_append_singleton.mp h
    rw [sketch_append_singleton]
    exact named_addSketch hc (ih hcs)

/-- **The descriptions are the sketches of the commands**, rendered: what the fold keeps of a command, it
could as well have written down at the end. -/
theorem describe_eq_map_render (roots : List (Module σ))
    (h : ∀ c ∈ (Module.forest roots).flatMap describedCommands, NamedPath c) :
    describe roots = (sketch ((Module.forest roots).flatMap describedCommands)).map
      (Sketch.render (Module.forest roots) (suggestedPaths (Module.forest roots))) := by
  rw [describe_eq_foldl]
  generalize (Module.forest roots).flatMap describedCommands = cs at h ⊢
  -- command by command from the front, so the last one is put in last on both sides
  induction cs using List.reverseRecOn with
  | nil => rfl
  | append_singleton cs c ih =>
    obtain ⟨hcs, hc⟩ := forall_mem_append_singleton.mp h
    rw [sketch_append_singleton, map_render_addSketch hc (named_sketch hcs), List.foldl_append, ih hcs]
    rfl

/-! ## Where the commands are

The invariant of the fold. It holds of no commands, and one more command keeps it, whichever of the three places
it goes to. -/

/-- The branch belongs below the group: its commands stand below this group, those of a second group below
both. A second group has commands. -/
def Branch.PlacedBelow (group : String) : Branch σ → Prop
  | .command c => groupsAbove c = [group]
  | .group name members => members ≠ [] ∧ ∀ c ∈ members, ∃ rest, groupsAbove c = group :: name :: rest

/-- Where commands are after they were put into sketches. -/
structure Files (cs : List (Command σ)) (sketches : List (Sketch σ)) : Prop where
  /-- Each command under no group has a sketch of its own, in their order. -/
  owners : sketches.filterMap (·.owner?) = cs.filter (groupsAbove · = [])
  /-- Each other command is in one place. -/
  commands : (sketches.flatMap (·.commands)).Perm (cs.filter (groupsAbove · ≠ []))
  chat : ∀ s ∈ sketches, s.branches ≠ [] → s.isChat = true
  placed : ∀ s ∈ sketches, ∀ b ∈ s.branches, b.PlacedBelow s.name
  groups_nodup : ∀ s ∈ sketches, (s.branches.filterMap (·.group?)).Nodup
  /-- A description for a group alone has commands below it. -/
  nonempty : ∀ s ∈ sketches, s.owner? = none → s.commands ≠ []
  /-- What is below the description of a command came after it. -/
  owner_first : ∀ s ∈ sketches, ∀ c, s.owner? = some c → ∀ other ∈ s.commands, [c, other].Sublist cs
  /-- Of two descriptions in the chat with the same name, the second one is that of a command, without
  branches; if the first one is for a group, something below it came before this command. -/
  same_name : sketches.Pairwise fun s t => s.isChat = true → t.isChat = true → s.name = t.name →
    t.branches = [] ∧ ∃ c, t.owner? = some c ∧
      (s.owner? = none → ∃ other ∈ s.commands, [other, c].Sublist cs)

/-! ### One more command -/

/-- Below a group there is one command more, and no other is lost. -/
theorem commands_addBranch_perm (c : Command σ) (branches : List (Branch σ)) :
    ((addBranch c branches).flatMap (·.commands)).Perm (branches.flatMap (·.commands) ++ [c]) := by
  rcases addBranch_cases c branches with ⟨_, heq⟩ | ⟨name, rest, _, ⟨_, heq⟩ |
    ⟨front, members, back, rfl, heq⟩⟩
  · rw [heq, List.flatMap_append]
    exact .refl _
  · rw [heq, List.flatMap_append]
    exact .refl _
  · -- the command goes to the end of its group, the others stay behind it
    rw [heq]
    simp only [List.flatMap_append, List.flatMap_cons, Branch.commands, List.append_assoc]
    exact (List.perm_append_comm.append_left _).append_left _

/-- A command that stands below a group is put in a place below it. -/
theorem placed_addBranch {c : Command σ} {group : String} {rest : List String}
    (hc : groupsAbove c = group :: rest) {branches : List (Branch σ)}
    (h : ∀ b ∈ branches, b.PlacedBelow group) : ∀ b ∈ addBranch c branches, b.PlacedBelow group := by
  have htail : (groupsAbove c).tail = rest := by rw [hc, List.tail_cons]
  -- a command of the group itself, the first one of a second group, or one more of it
  rcases addBranch_cases c branches with ⟨hnil, heq⟩ | ⟨name, below, hcons, ⟨_, heq⟩ |
    ⟨front, members, back, rfl, heq⟩⟩
  · rw [heq]
    refine forall_mem_append_singleton.mpr ⟨h, ?_⟩
    rw [Branch.PlacedBelow, hc, ← htail, hnil]
  · rw [heq]
    refine forall_mem_append_singleton.mpr ⟨h, List.cons_ne_nil _ _, ?_⟩
    intro other hother
    rw [List.mem_singleton.mp hother]
    exact ⟨below, by rw [hc, ← htail, hcons]⟩
  · rw [heq]
    simp only [List.forall_mem_append, List.forall_mem_cons] at h ⊢
    obtain ⟨hfront, ⟨_, hmembers⟩, hback⟩ := h
    refine ⟨hfront, ⟨List.append_ne_nil_of_right_ne_nil _ (List.cons_ne_nil _ _), ?_⟩, hback⟩
    exact forall_mem_append_singleton.mpr ⟨hmembers, below, by rw [hc, ← htail, hcons]⟩

/-- No two branches are for the same second group. -/
theorem groups_nodup_addBranch (c : Command σ) {branches : List (Branch σ)}
    (h : (branches.filterMap (·.group?)).Nodup) : ((addBranch c branches).filterMap (·.group?)).Nodup := by
  rcases addBranch_cases c branches with ⟨_, heq⟩ | ⟨name, rest, _, ⟨hnew, heq⟩ |
    ⟨front, members, back, rfl, heq⟩⟩
  · rw [heq, List.filterMap_append]
    simpa [Branch.group?] using h
  · rw [heq, List.filterMap_append]
    -- a group is added only when there was none with its name
    refine List.nodup_append.mpr ⟨h, List.nodup_singleton _, ?_⟩
    intro other hother name' hname' heq'
    obtain ⟨b, hb, hgroup⟩ := List.mem_filterMap.mp hother
    rw [heq', List.mem_singleton.mp hname'] at hgroup
    exact hnew b hb hgroup
  · rw [heq]
    simpa only [List.filterMap_append, List.filterMap_cons, Branch.group?] using h

/-- Putting a command below a description adds this command, and no other is lost. -/
theorem Sketch.commands_add_perm (c : Command σ) (s : Sketch σ) :
    (s.add c).commands.Perm (s.commands ++ [c]) := by
  rw [Sketch.commands, Sketch.branches_add]
  exact commands_addBranch_perm c s.branches

/-- The commands below a description after one was put there. -/
theorem Sketch.mem_commands_add {c other : Command σ} {s : Sketch σ} :
    other ∈ (s.add c).commands ↔ other ∈ s.commands ∨ other = c := by
  rw [(s.commands_add_perm c).mem_iff, List.mem_append, List.mem_singleton]

namespace Files

variable {cs : List (Command σ)} {sketches : List (Sketch σ)} {c : Command σ}

theorem mem_of_mem_commands (h : Files cs sketches) {s : Sketch σ} (hs : s ∈ sketches)
    {other : Command σ} (hother : other ∈ s.commands) : other ∈ cs :=
  (List.mem_filter.mp (h.commands.subset (List.mem_flatMap.mpr ⟨s, hs, hother⟩))).1

theorem mem_of_owner (h : Files cs sketches) {s : Sketch σ} (hs : s ∈ sketches) (hc : s.owner? = some c) :
    c ∈ cs := by
  have howner : c ∈ sketches.filterMap (·.owner?) := List.mem_filterMap.mpr ⟨s, hs, hc⟩
  rw [h.owners] at howner
  exact (List.mem_filter.mp howner).1

theorem sublist_append_of_mem {other : Command σ} (h : other ∈ cs) : [other, c].Sublist (cs ++ [c]) :=
  (List.singleton_sublist.mpr h).append (.refl [c])

theorem sublist_append_of_sublist {pair : List (Command σ)} (h : pair.Sublist cs) :
    pair.Sublist (cs ++ [c]) := h.trans (List.sublist_append_left _ _)

/-- What was said of two sketches still holds after one more command. -/
theorem same_name_append (h : Files cs sketches) (c : Command σ) :
    sketches.Pairwise fun s t => s.isChat = true → t.isChat = true → s.name = t.name →
      t.branches = [] ∧ ∃ owner, t.owner? = some owner ∧
        (s.owner? = none → ∃ other ∈ s.commands, [other, owner].Sublist (cs ++ [c])) := by
  refine h.same_name.imp ?_
  intro s t hst hs ht hname
  obtain ⟨hbranches, owner, howner, hfirst⟩ := hst hs ht hname
  refine ⟨hbranches, owner, howner, fun hnone => ?_⟩
  obtain ⟨other, hother, hbefore⟩ := hfirst hnone
  exact ⟨other, hother, sublist_append_of_sublist hbefore⟩

theorem pairwise_append_singleton {α : Type} {r : α → α → Prop} {as : List α} {a : α}
    (has : as.Pairwise r) (ha : ∀ b ∈ as, r b a) : (as ++ [a]).Pairwise r := by
  refine List.pairwise_append.mpr ⟨has, List.pairwise_singleton _ _, fun b hb a' ha' => ?_⟩
  rw [List.mem_singleton.mp ha']
  exact ha b hb

/-- A command under no group gets a sketch of its own. -/
theorem own (h : Files cs sketches) (hc : groupsAbove c = []) :
    Files (cs ++ [c]) (sketches ++ [.command c []]) where
  owners := by
    rw [List.filterMap_append, List.filter_append, h.owners]
    simp [Sketch.owner?, hc]
  commands := by
    rw [List.flatMap_append, List.filter_append]
    simpa [Sketch.commands, Sketch.branches, hc] using h.commands
  chat := forall_mem_append_singleton.mpr ⟨h.chat, fun hne => absurd rfl hne⟩
  placed := forall_mem_append_singleton.mpr ⟨h.placed, List.forall_mem_nil _⟩
  groups_nodup := forall_mem_append_singleton.mpr ⟨h.groups_nodup, List.nodup_nil⟩
  nonempty := forall_mem_append_singleton.mpr
    ⟨h.nonempty, fun hnone => absurd hnone (Option.some_ne_none c)⟩
  owner_first := by
    refine forall_mem_append_singleton.mpr ⟨?_, fun _ _ => List.forall_mem_nil _⟩
    intro s hs owner howner other hother
    exact sublist_append_of_sublist (h.owner_first s hs owner howner other hother)
  same_name := by
    refine pairwise_append_singleton (h.same_name_append c) ?_
    intro s hs _ _ _
    refine ⟨rfl, c, rfl, fun hnone => ?_⟩
    -- a sketch for a group has commands, and all of them came before this one
    obtain ⟨other, hother⟩ := List.exists_mem_of_ne_nil _ (h.nonempty s hs hnone)
    exact ⟨other, hother, sublist_append_of_mem (h.mem_of_mem_commands hs hother)⟩

/-- The first command of a group gets a sketch for the group. -/
theorem newGroup (h : Files cs sketches) {group : String} {rest : List String}
    (hc : groupsAbove c = group :: rest) (hnew : ∀ s ∈ sketches, s.isChat = true → s.name ≠ group) :
    Files (cs ++ [c]) (sketches ++ [.group group (addBranch c [])]) where
  owners := by
    rw [List.filterMap_append, List.filter_append, h.owners]
    simp [Sketch.owner?, hc]
  commands := by
    have hown := commands_addBranch_perm c []
    rw [List.flatMap_append, List.filter_append]
    simpa [Sketch.commands, Sketch.branches, hc] using h.commands.append hown
  chat := forall_mem_append_singleton.mpr ⟨h.chat, fun _ => rfl⟩
  placed := forall_mem_append_singleton.mpr ⟨h.placed, placed_addBranch hc (List.forall_mem_nil _)⟩
  groups_nodup := forall_mem_append_singleton.mpr
    ⟨h.groups_nodup, groups_nodup_addBranch c List.nodup_nil⟩
  nonempty := by
    refine forall_mem_append_singleton.mpr ⟨h.nonempty, fun _ hnil => ?_⟩
    -- the group has the command itself below it
    have hmem : c ∈ ((Sketch.group group []).add c).commands := Sketch.mem_commands_add.mpr (.inr rfl)
    have hnil : ((Sketch.group group []).add c).commands = [] := hnil
    rw [hnil] at hmem
    cases hmem
  owner_first := by
    refine forall_mem_append_singleton.mpr ⟨?_, fun _ hnone => absurd hnone.symm (Option.some_ne_none _)⟩
    intro s hs owner howner other hother
    exact sublist_append_of_sublist (h.owner_first s hs owner howner other hother)
  same_name := by
    refine pairwise_append_singleton (h.same_name_append c) ?_
    intro s hs hchat _ hname
    exact absurd hname (hnew s hs hchat)

/-- What joins a sketch comes after its owner. -/
theorem owner_first_join {front back : List (Sketch σ)} {s : Sketch σ} (h : Files cs (front ++ s :: back)) :
    ∀ t ∈ front ++ s.add c :: back, ∀ owner, t.owner? = some owner → ∀ other ∈ t.commands,
      [owner, other].Sublist (cs ++ [c]) := by
  have hbefore : ∀ t ∈ front ++ s :: back, ∀ owner, t.owner? = some owner → ∀ other ∈ t.commands,
      [owner, other].Sublist (cs ++ [c]) := by
    intro t ht owner howner other hother
    exact sublist_append_of_sublist (h.owner_first t ht owner howner other hother)
  simp only [List.forall_mem_append, List.forall_mem_cons] at hbefore ⊢
  refine ⟨hbefore.1, ?_, hbefore.2.2⟩
  intro owner howner other hother
  rw [Sketch.owner?_add] at howner
  rcases Sketch.mem_commands_add.mp hother with hother | rfl
  · exact hbefore.2.1 owner howner other hother
  · exact sublist_append_of_mem (h.mem_of_owner (by simp) howner)

/-- A sketch that something joins is still the first one with its name. -/
theorem same_name_join {front back : List (Sketch σ)} {s : Sketch σ} (h : Files cs (front ++ s :: back))
    (hfirst : ∀ t ∈ front, t.isChat = true → t.name ≠ s.name) :
    (front ++ s.add c :: back).Pairwise fun t u => t.isChat = true → u.isChat = true → t.name = u.name →
      u.branches = [] ∧ ∃ owner, u.owner? = some owner ∧
        (t.owner? = none → ∃ other ∈ t.commands, [other, owner].Sublist (cs ++ [c])) := by
  have hpairs := h.same_name_append c
  rw [List.pairwise_append, List.pairwise_cons] at hpairs ⊢
  obtain ⟨hfront, ⟨hs, hback⟩, hcross⟩ := hpairs
  refine ⟨hfront, ⟨?_, hback⟩, ?_⟩
  · -- towards those behind it, the sketch has one command more to show
    intro t ht
    rw [Sketch.isChat_add, Sketch.name_add, Sketch.owner?_add]
    intro hschat htchat hname
    obtain ⟨hbranches, owner, howner, hearlier⟩ := hs t ht hschat htchat hname
    refine ⟨hbranches, owner, howner, fun hnone => ?_⟩
    obtain ⟨other, hother, hbefore⟩ := hearlier hnone
    exact ⟨other, Sketch.mem_commands_add.mpr (.inl hother), hbefore⟩
  · intro t ht u hu
    rcases List.mem_cons.mp hu with rfl | hu
    · -- none of those in front has its name
      intro htchat _ hname
      exact absurd (hname.trans (s.name_add c)) (hfirst t ht htchat)
    · exact hcross t ht u (List.mem_cons_of_mem _ hu)

/-- Any other command joins the first sketch that is named for its first group. -/
theorem join {front back : List (Sketch σ)} {s : Sketch σ} (h : Files cs (front ++ s :: back))
    {rest : List String} (hc : groupsAbove c = s.name :: rest) (hchat : s.isChat = true)
    (hfirst : ∀ t ∈ front, t.isChat = true → t.name ≠ s.name) :
    Files (cs ++ [c]) (front ++ s.add c :: back) where
  owners := by
    have howners := h.owners
    rw [List.filter_append, ← howners]
    simp [List.filterMap_cons, hc]
  commands := by
    have hown := s.commands_add_perm c
    -- the command goes in the middle, which is the end up to order
    have hall : ((front ++ s.add c :: back).flatMap (·.commands)).Perm
        ((front ++ s :: back).flatMap (·.commands) ++ [c]) := by
      simp only [List.flatMap_append, List.flatMap_cons, List.append_assoc]
      refine List.Perm.append_left _ ((hown.append_right _).trans ?_)
      rw [List.append_assoc]
      exact List.perm_append_comm.append_left _
    rw [List.filter_append]
    simpa [hc] using hall.trans (h.commands.append_right [c])
  chat := by
    have hsketches := h.chat
    simp only [List.forall_mem_append, List.forall_mem_cons] at hsketches ⊢
    exact ⟨hsketches.1, fun _ => (s.isChat_add c).trans hchat, hsketches.2.2⟩
  placed := by
    have hsketches := h.placed
    simp only [List.forall_mem_append, List.forall_mem_cons, Sketch.branches_add, Sketch.name_add]
      at hsketches ⊢
    exact ⟨hsketches.1, placed_addBranch hc hsketches.2.1, hsketches.2.2⟩
  groups_nodup := by
    have hsketches := h.groups_nodup
    simp only [List.forall_mem_append, List.forall_mem_cons, Sketch.branches_add] at hsketches ⊢
    exact ⟨hsketches.1, groups_nodup_addBranch c hsketches.2.1, hsketches.2.2⟩
  nonempty := by
    have hsketches := h.nonempty
    simp only [List.forall_mem_append, List.forall_mem_cons] at hsketches ⊢
    refine ⟨hsketches.1, fun _ hnil => ?_, hsketches.2.2⟩
    have hmem : c ∈ (s.add c).commands := Sketch.mem_commands_add.mpr (.inr rfl)
    rw [hnil] at hmem
    cases hmem
  owner_first := h.owner_first_join
  same_name := h.same_name_join hfirst

/-- **One more command** goes to one place, and everything else stays where it is. -/
theorem addSketch (h : Files cs sketches) (c : Command σ) :
    Files (cs ++ [c]) (Upload.addSketch c sketches) := by
  rcases addSketch_cases c sketches with ⟨hc, heq⟩ | ⟨group, rest, hc, ⟨hnew, heq⟩ |
    ⟨front, s, back, rfl, hchat, rfl, hfirst, heq⟩⟩
  · rw [heq]
    exact h.own hc
  · rw [heq]
    exact h.newGroup hc hnew
  · rw [heq]
    exact h.join hc hchat hfirst

end Files

/-- **Any run of commands** is filed so. -/
theorem files_sketch (cs : List (Command σ)) : Files cs (sketch cs) := by
  induction cs using List.reverseRecOn with
  | nil =>
    exact ⟨rfl, .refl _, List.forall_mem_nil _, List.forall_mem_nil _, List.forall_mem_nil _,
      List.forall_mem_nil _, List.forall_mem_nil _, .nil⟩
  | append_singleton cs c ih =>
    rw [sketch_append_singleton]
    exact ih.addSketch c

end ChatDispatch.Upload
