import ChatDispatch.Proofs.GroupOwners
import ChatDispatch.Proofs.UploadNames
import Mathlib.Data.List.Find

/-!
# The shape of descriptions

What the platform demands of all descriptions and options, whatever has been loaded: texts of some length, and
required options in front of the others. The texts for commands and parameters were checked where they were
declared. The text for a group is looked for among the modules, and is that of a module that declares the group.

* **`Reachable.exists_description`**, **`Reachable.length_description_parameter`**, **`Reachable.required_first`** —
  what is known of a loaded slash command and its parameters.
* **`groupDescription_of_owner`** — the description of a group is that of its owner.
* **`exists_of_placed_group`** — where the options for groups come from.
* **`Reachable.well_shaped`** — the headline.
-/

namespace ChatDispatch

variable {σ : Type}

/-! ## Loaded slash commands

A command was made of a declaration that was checked, and what was checked of it has not changed since. -/

section Loaded

variable {d : Dispatcher σ} {c : Command σ}

/-- The declaration that a loaded slash command was made of keeps the rules for commands. -/
theorem Reachable.exists_valid (h : Reachable d) (hc : c ∈ d.slashCommands) :
    ∃ (table : ConverterTable) (decl : CommandDecl σ), decl.Valid table ∧ decl.kind = .slash ∧
      c.description = decl.description ∧
      List.Forall₂ (fun decl p => ∃ converter, p = ParameterDecl.toParameter decl converter)
        decl.parameters c.parameters := by
  obtain ⟨⟨m, hm, hcommands⟩, hkind⟩ := Dispatcher.mem_slashCommands_iff.mp hc
  obtain ⟨table, owner, decl, _, _, hbuild⟩ := h.exists_buildCommand hm hcommands
  have hvalid : decl.Valid table := exists_buildCommand_iff.mp ⟨c, hbuild⟩
  obtain ⟨_, _, handler, parameters, _, hparameters, rfl⟩ := buildCommand_eq_ok_iff.mp hbuild
  refine ⟨table, decl, hvalid, hkind, rfl, (forall₂_of_buildParameters hparameters).imp fun _ _ hp => ?_⟩
  obtain ⟨converter, _, rfl⟩ := buildParameter_eq_ok_iff.mp hp
  exact ⟨converter, rfl⟩

/-- A loaded slash command has a description, of a length that is allowed. -/
theorem Reachable.exists_description (h : Reachable d) (hc : c ∈ d.slashCommands) :
    ∃ text, c.description = some text ∧ text.length ∈ Set.Icc 1 100 := by
  obtain ⟨table, decl, hvalid, hkind, hdescription, _⟩ := h.exists_valid hc
  have hcalled := hvalid.called
  rw [hkind] at hcalled
  rw [hdescription]
  exact hcalled.2

/-- A parameter without a description is described by its name, which is shorter still. -/
theorem Reachable.length_description_parameter (h : Reachable d) (hc : c ∈ d.slashCommands) {p : Parameter σ}
    (hp : p ∈ c.parameters) : p.description.length ∈ Set.Icc 1 100 := by
  obtain ⟨table, decl, hvalid, hkind, _, hparameters⟩ := h.exists_valid hc
  obtain ⟨own, hown, converter, rfl⟩ := forall₂_mem_right hparameters hp
  have hsound := hvalid.parameters.sound own hown
  show (own.description.getD own.name).length ∈ Set.Icc 1 100
  cases hdescription : own.description with
  | some text => exact hsound.description text hdescription
  | none =>
    have hname := hsound.name
    rw [if_pos hkind] at hname
    exact Set.Icc_subset_Icc_right (by decide) hname.1

/-- Parameters that are required come before those that are not. -/
theorem Reachable.required_first (h : Reachable d) (hc : c ∈ d.slashCommands) :
    c.parameters.Pairwise fun p q => q.required = true → p.required = true := by
  obtain ⟨table, decl, hvalid, _, _, hparameters⟩ := h.exists_valid hc
  have hrequired : decl.parameters.map (·.required) = c.parameters.map (·.required) := by
    rw [← List.forall₂_eq_eq_eq, List.forall₂_map_left_iff, List.forall₂_map_right_iff]
    refine hparameters.imp ?_
    rintro own _ ⟨converter, rfl⟩
    rfl
  have hfirst : (decl.parameters.map (·.required)).Pairwise fun own other => other = true → own = true :=
    List.pairwise_map.mpr hvalid.parameters.required_first
  rw [hrequired] at hfirst
  exact List.pairwise_map.mp hfirst

end Loaded

namespace Upload

/-! ## Options in order

Options for parameters come in the order of the parameters; options for what lies deeper are never required and
come last. -/

/-- No required option stands behind one that is not required. -/
def RequiredFirst (options : List OptionEntry) : Prop :=
  options.Pairwise fun o later => later.required = true → o.required = true

/-- Options that are not required may stand behind any others. -/
theorem RequiredFirst.append {options others : List OptionEntry} (h : RequiredFirst options)
    (hothers : ∀ o ∈ others, o.required = false) : RequiredFirst (options ++ others) := by
  have hnever : ∀ o ∈ others, ∀ {earlier : OptionEntry}, o.required = true → earlier.required = true := by
    intro o ho _ hrequired
    rw [hothers o ho] at hrequired
    cases hrequired
  refine List.pairwise_append.mpr ⟨h, ?_, fun _ _ o ho => hnever o ho⟩
  exact List.pairwise_iff_forall_sublist.mpr fun hpair => hnever _ (hpair.subset (by simp))

/-- Without required options there is nothing to keep in order. -/
theorem requiredFirst_of_optional {options : List OptionEntry} (h : ∀ o ∈ options, o.required = false) :
    RequiredFirst options := by
  show RequiredFirst ([] ++ options)
  exact RequiredFirst.append .nil h

/-- The options for parameters are required as the parameters are. -/
theorem requiredFirst_parameterOptions {suggested : List (List String)} {c : Command σ}
    (h : c.parameters.Pairwise fun p q => q.required = true → p.required = true) :
    RequiredFirst (parameterOptions suggested c) :=
  List.pairwise_map.mpr h

section Render

variable {modules : List (Module σ)} {suggested : List (List String)}

theorem required_render_branch {group : String} (b : Branch σ) :
    (b.render modules suggested group).required = false := by
  cases b <;> rfl

/-! ## Descriptions of groups

A description is searched for among the modules, by the names of the groups. The comparison disregards case, but
names that may be given to groups have no upper case. -/

/-- Names that may be given to groups are compared as they are, one by one. -/
theorem zip_all_sameAscii_iff {path other : List String} (hpath : ∀ name ∈ path, isSlashName name = true)
    (hother : ∀ name ∈ other, isSlashName name = true) :
    (path.length == other.length && (path.zip other).all fun (left, right) => Text.sameAscii left right) =
      decide (path = other) := by
  induction path generalizing other with
  | nil => cases other <;> rfl
  | cons name path ih =>
    cases other with
    | nil => rfl
    | cons otherName other =>
      obtain ⟨hname, hpath⟩ := List.forall_mem_cons.mp hpath
      obtain ⟨hotherName, hother⟩ := List.forall_mem_cons.mp hother
      -- names that may be given to groups are the same up to case when they are equal
      have hsame : Text.sameAscii name otherName = decide (name = otherName) :=
        Bool.eq_iff_iff.mpr ((Text.sameAscii_iff_of_isSlashName hname hotherName).trans decide_eq_true_iff.symm)
      have hrest := ih hpath hother
      simp only [List.length_cons, List.zip_cons_cons, List.all_cons, hsame, List.cons.injEq,
        Bool.decide_and, ← hrest, Bool.beq_eq_decide_eq, Nat.add_right_cancel_iff]
      ac_rfl

/-- **The description of a group** is that of the module that owns it. -/
theorem groupDescription_of_owner {path : List String} {owner : Module σ} {g : Group}
    (hmodules : ∀ m ∈ modules, ∀ name ∈ m.groupPath, isSlashName name = true)
    (h : GroupOwner modules path owner g) : groupDescription modules path = g.description := by
  have hpath : owner.groupPath = path := Module.groupPath_of_find? h.first
  have hnames : ∀ name ∈ path, isSlashName name = true :=
    hpath ▸ hmodules owner (List.mem_of_find?_eq_some h.first)
  have hfind := h.first
  rw [← List.find?_congr fun m hm => zip_all_sameAscii_iff (hmodules m hm) hnames] at hfind
  rw [groupDescription, hfind, Option.bind_some, h.own]
  rfl

/-! ## Where options come from

An option that is found anywhere in an upload is traced back to the command or the branch that it stands for. -/

/-- The only group that an option for a branch holds is that of the branch. -/
theorem eq_of_placed_group {group : String} {b : Branch σ} {kind : InvocationKind} {name : String}
    {above : List (OptionKind × String)} {p : Placed}
    (h : p ∈ (b.render modules suggested group).placed kind name above)
    (hkind : p.option.kind = .subcommandGroup) :
    p.name = name ∧ ∃ sub members, b = .group sub members ∧ p.option = b.render modules suggested group := by
  cases b with
  | command c => exact absurd hkind (kind_of_option (mem_placed_subcommandOption h))
  | group sub members =>
    rw [Branch.render, OptionEntry.branch, OptionEntry.placed, placedAll_eq_flatMap, List.flatMap_map] at h
    rcases List.mem_cons.mp h with rfl | h
    · exact ⟨rfl, sub, members, rfl, rfl⟩
    · obtain ⟨c, _, hc⟩ := List.mem_flatMap.mp h
      exact absurd hkind (kind_of_option (mem_placed_subcommandOption hc))

/-- **The options for groups** are those of the branches for groups. -/
theorem exists_of_placed_group {sketches : List (Sketch σ)} {p : Placed}
    (h : p ∈ placedOptions (sketches.map (Sketch.render modules suggested)))
    (hkind : p.option.kind = .subcommandGroup) :
    ∃ s ∈ sketches, ∃ sub members, .group sub members ∈ s.branches ∧ p.name = s.name ∧
      p.option = Branch.render modules suggested s.name (.group sub members) := by
  rw [placedOptions, List.flatMap_map, List.mem_flatMap] at h
  obtain ⟨s, hs, hp⟩ := h
  rw [placedAll_eq_flatMap, List.mem_flatMap] at hp
  obtain ⟨o, ho, hp⟩ := hp
  by_cases hchat : s.isChat = true
  · rw [options_render_of_chat hchat, List.mem_append] at ho
    rcases ho with ho | ho
    · -- a parameter has nothing below it, and is no group
      obtain ⟨c, _, hc⟩ := List.mem_flatMap.mp ho
      have hown : p ∈ placedAll (s.render modules suggested).kind (s.render modules suggested).name []
          (parameterOptions suggested c) := by
        rw [placedAll_eq_flatMap]
        exact List.mem_flatMap.mpr ⟨o, hc, hp⟩
      rw [placedAll_parameterOptions] at hown
      obtain ⟨o', ho', rfl⟩ := List.mem_map.mp hown
      exact absurd hkind (kind_of_mem_parameterOptions ho').2
    · obtain ⟨b, hb, rfl⟩ := List.mem_map.mp ho
      obtain ⟨hname, sub, members, rfl, heq⟩ := eq_of_placed_group hp hkind
      exact ⟨s, hs, sub, members, hb, hname.trans (name_render s), heq⟩
  · rw [options_render_of_not_chat hchat] at ho
    cases ho

end Render

end Upload

open Upload

/-! ## Descriptions of what is loaded

For a dispatcher that is reachable, each text in an upload is one that was checked when it was declared. -/

/-- The text is that of the group which the first module with these groups declares. -/
def IsGroupText (modules : List (Module σ)) (path : List String) (text : String) : Prop :=
  ∃ owner g, GroupOwner modules path owner g ∧ text = g.description

section Descriptions

variable {d : Dispatcher σ}

/-- **Every search for a description** of groups above a slash command ends at a module that declares them. -/
theorem Reachable.isGroupText (h : Reachable d) {c : Command σ} (hc : c ∈ d.slashCommands) {path : List String}
    (hne : path ≠ []) (hpath : path <+: c.groupPath) :
    IsGroupText d.catalog.modules path (groupDescription d.catalog.modules path) := by
  obtain ⟨⟨m, hm, hcommands⟩, _⟩ := Dispatcher.mem_slashCommands_iff.mp hc
  have hmodule := (h.intact.built hm).prefix_groupPath (Module.mem_commands_iff.mp hcommands)
  obtain ⟨owner, g, howner⟩ := h.exists_groupOwner hm hne (hpath.trans hmodule)
  exact ⟨owner, g, howner, groupDescription_of_owner (fun m hm => h.isSlashName_groupPath hm) howner⟩

theorem Reachable.length_of_isGroupText (h : Reachable d) {path : List String} {text : String}
    (htext : IsGroupText d.catalog.modules path text) : text.length ∈ Set.Icc 1 100 := by
  obtain ⟨owner, g, howner, rfl⟩ := htext
  exact (h.intact.built (List.mem_of_find?_eq_some howner.first)).length_description howner.own

/-- An upload is drawn from sketches in which each command is filed once. -/
theorem Reachable.exists_files (h : Reachable d) : ∃ sketches,
    describe d.catalog.roots =
      sketches.map (Sketch.render d.catalog.modules (suggestedPaths d.catalog.modules)) ∧
    Files (d.catalog.modules.flatMap describedCommands) sketches :=
  ⟨_, h.describe_eq, files_sketch _⟩

/-- **The texts of descriptions** in the chat: those of slash commands under no group, and of groups. -/
theorem Reachable.text_of_mem_describe (h : Reachable d) {e : CommandEntry} (he : e ∈ describe d.catalog.roots)
    (hkind : e.kind = .chatInput) :
    (∃ c ∈ d.slashCommands, c.groupPath = [] ∧ e.name = c.name ∧ c.description = some e.description) ∨
      IsGroupText d.catalog.modules [e.name] e.description := by
  obtain ⟨sketches, heq, hfiles⟩ := h.exists_files
  rw [heq] at he
  obtain ⟨s, hs, rfl⟩ := List.mem_map.mp he
  have hchat := (kind_render_eq_chatInput_iff s).mp hkind
  cases s with
  | command owner branches =>
    obtain ⟨hslash, hpath⟩ := hfiles.own_of_chat hs hchat rfl
    rw [d.filter_describedCommands_slash] at hslash
    -- a command under no group is described by its own text
    obtain ⟨text, htext, _⟩ := h.exists_description hslash
    refine .inl ⟨owner, hslash, ?_, ?_, ?_⟩
    · exact (List.append_eq_singleton_iff.mp hpath).elim (·.1) fun hnil => absurd hnil.2 (List.cons_ne_nil _ _)
    · exact name_render _
    · rw [Sketch.render, if_pos (of_decide_eq_true hchat), htext]
      rfl
  | group name branches =>
    obtain ⟨c, hc⟩ := List.exists_mem_of_ne_nil _ (hfiles.nonempty _ hs rfl)
    obtain ⟨b, hb, hcb⟩ := List.mem_flatMap.mp hc
    -- some command stands below the group, and its module is below one that declares the group
    have hslash := hfiles.mem_slash hs hb hcb
    rw [d.filter_describedCommands_slash] at hslash
    exact .inr (h.isGroupText hslash (List.cons_ne_nil _ _) ((hfiles.placed _ hs b hb).prefix_groupPath hcb))

/-- **In what is uploaded** no required option stands behind one that is not. -/
theorem Reachable.requiredFirst_of_mem_describe (h : Reachable d) {e : CommandEntry}
    (he : e ∈ describe d.catalog.roots) : RequiredFirst e.options := by
  obtain ⟨sketches, heq, hfiles⟩ := h.exists_files
  rw [heq] at he
  obtain ⟨s, hs, rfl⟩ := List.mem_map.mp he
  by_cases hchat : s.isChat = true
  · rw [options_render_of_chat hchat]
    -- what is below the description of a command joins its parameters, and is not required
    refine RequiredFirst.append ?_ fun o ho => ?_
    · cases howner : s.owner? with
      | none => exact .nil
      | some c =>
        have hslash := (hfiles.own_of_chat hs hchat howner).1
        rw [d.filter_describedCommands_slash] at hslash
        rw [Option.toList_some, List.flatMap_singleton]
        exact requiredFirst_parameterOptions (h.required_first hslash)
    · obtain ⟨b, _, rfl⟩ := List.mem_map.mp ho
      exact required_render_branch b
  · rw [options_render_of_not_chat hchat]
    exact .nil

/-- **Options for groups**: the text is that of the group, and what is below is not required. -/
theorem Reachable.option_of_group (h : Reachable d) {p : Placed}
    (hp : p ∈ placedOptions (describe d.catalog.roots)) (hkind : p.option.kind = .subcommandGroup) :
    IsGroupText d.catalog.modules [p.name, p.option.name] p.option.description ∧
      RequiredFirst p.option.options := by
  obtain ⟨sketches, heq, hfiles⟩ := h.exists_files
  rw [heq] at hp
  obtain ⟨s, hs, sub, members, hb, hname, hoption⟩ := exists_of_placed_group hp hkind
  rw [hname, hoption]
  constructor
  · obtain ⟨hne, hmembers⟩ := hfiles.placed s hs _ hb
    obtain ⟨c, hc⟩ := List.exists_mem_of_ne_nil _ hne
    obtain ⟨rest, hgroups⟩ := hmembers c hc
    have hslash := hfiles.mem_slash hs hb hc
    rw [d.filter_describedCommands_slash] at hslash
    refine h.isGroupText hslash (List.cons_ne_nil _ _) ⟨rest, ?_⟩
    exact (groupsAbove_eq_cons_iff.mp hgroups).2.symm
  · refine requiredFirst_of_optional fun o ho => ?_
    obtain ⟨c, _, rfl⟩ := List.mem_map.mp ho
    rfl

/-- **Other options** are made of a slash command or of one of its parameters. -/
theorem Reachable.option_of_command (h : Reachable d) {p : Placed}
    (hp : p ∈ placedOptions (describe d.catalog.roots)) (hkind : p.option.kind ≠ .subcommandGroup) :
    p.option.description.length ∈ Set.Icc 1 100 ∧ RequiredFirst p.option.options := by
  have hperm := h.filter_placedOptions_describe_perm
  obtain ⟨c, hc, hp⟩ := List.mem_flatMap.mp
    (hperm.subset (List.mem_filter.mpr ⟨hp, decide_eq_true hkind⟩))
  rcases mem_commandOptions hp with heq | ho
  · obtain ⟨text, htext, hlength⟩ := h.exists_description hc
    rw [heq]
    refine ⟨?_, requiredFirst_parameterOptions (h.required_first hc)⟩
    show (c.description.getD "").length ∈ Set.Icc 1 100
    rwa [htext, Option.getD_some]
  · obtain ⟨q, hq, heq⟩ := List.mem_map.mp ho
    rw [← heq]
    exact ⟨h.length_description_parameter hc hq, .nil⟩

end Descriptions

/-- **The shape of descriptions.** Take any dispatcher that loads and unloads lead to. What it uploads for the chat
has a description of one to 100 characters, and so has every option at any depth. Wherever options stand side by
side, no required one stands behind one that is not required.

The text for a group, whether it has a description or an option of its own, is that of the first module with the
groups, which declares the innermost of them. So every search for such a text finds one. -/
theorem Reachable.well_shaped {d : Dispatcher σ} (h : Reachable d) :
    (∀ e ∈ describe d.catalog.roots,
      (e.kind = .chatInput → e.description.length ∈ Set.Icc 1 100) ∧ RequiredFirst e.options) ∧
    (∀ p ∈ placedOptions (describe d.catalog.roots),
      p.option.description.length ∈ Set.Icc 1 100 ∧ RequiredFirst p.option.options) ∧
    (∀ e ∈ describe d.catalog.roots, e.kind = .chatInput →
      (∃ c ∈ d.slashCommands, c.groupPath = [] ∧ e.name = c.name ∧ c.description = some e.description) ∨
        IsGroupText d.catalog.modules [e.name] e.description) ∧
    (∀ p ∈ placedOptions (describe d.catalog.roots), p.option.kind = .subcommandGroup →
      IsGroupText d.catalog.modules [p.name, p.option.name] p.option.description) ∧
    ∀ c ∈ d.slashCommands, ∀ path ≠ [], path <+: c.groupPath →
      IsGroupText d.catalog.modules path (groupDescription d.catalog.modules path) := by
  refine ⟨fun e he => ⟨fun hkind => ?_, h.requiredFirst_of_mem_describe he⟩, fun p hp => ?_,
    fun e => h.text_of_mem_describe, fun p hp hkind => (h.option_of_group hp hkind).1,
    fun c hc path hne hpath => h.isGroupText hc hne hpath⟩
  · rcases h.text_of_mem_describe he hkind with ⟨c, hc, _, _, hdescription⟩ | htext
    · obtain ⟨text, htext, hlength⟩ := h.exists_description hc
      cases hdescription.symm.trans htext
      exact hlength
    · exact h.length_of_isGroupText htext
  · by_cases hkind : p.option.kind = .subcommandGroup
    · obtain ⟨htext, hoptions⟩ := h.option_of_group hp hkind
      exact ⟨h.length_of_isGroupText htext, hoptions⟩
    · exact h.option_of_command hp hkind

namespace Sample

def title : ParameterDecl Unit where
  name := "title"
  type := .text

def room : ParameterDecl Unit where
  name := "room"
  description := some "Where to sit"
  type := .text
  required := false

def watch : CommandDecl Unit where
  kind := .slash
  name := "watch"
  description := some "Shows a film"
  parameters := [title, room]
  handler := some handler

def cancel : CommandDecl Unit where
  kind := .slash
  name := "cancel"
  description := some "Gives a seat back"
  handler := some handler

/-- A module without a group of its own, below two groups. -/
def desk : ModuleDecl Unit :=
  ⟨"host::Desk", "Desk", none, true, [], [cancel], [], construct "host::Desk"⟩

def booking : ModuleDecl Unit :=
  ⟨"host::Booking", "Booking", some ⟨"booking", "Seats"⟩, true, [], [], [desk], construct "host::Booking"⟩

/-- A module without a group of its own, below one group. -/
def lobby : ModuleDecl Unit :=
  ⟨"host::Lobby", "Lobby", none, true, [], [watch], [booking], construct "host::Lobby"⟩

def films : ModuleDecl Unit :=
  ⟨"host::Films", "Films", some ⟨"films", "What is on"⟩, true, [], [], [lobby], construct "host::Films"⟩

def cinema : Dispatcher Unit := ((Dispatcher.new {} id).change (.load [films])).2

theorem reachable_cinema : Reachable cinema := (Reachable.new {} id).change _

end Sample

/-- All commands stand below modules without groups of their own. The texts for the groups are found nevertheless,
and a parameter without a description is described by its name. -/
theorem well_shaped_cinema :
    Reachable Sample.cinema ∧
    (describe Sample.cinema.catalog.roots).map (fun e => (e.name, e.description)) = [("films", "What is on")] ∧
    (placedOptions (describe Sample.cinema.catalog.roots)).map
      (fun p => (p.option.name, p.option.description, p.option.required)) =
      [("watch", "Shows a film", false), ("title", "title", true), ("room", "Where to sit", false),
        ("booking", "Seats", false), ("cancel", "Gives a seat back", false)] ∧
    (∀ p ∈ placedOptions (describe Sample.cinema.catalog.roots),
      p.option.description.length ∈ Set.Icc 1 100 ∧ RequiredFirst p.option.options) ∧
    ∃ c ∈ Sample.cinema.slashCommands, c.name = "cancel" ∧
      IsGroupText Sample.cinema.catalog.modules ["films", "booking"]
        (groupDescription Sample.cinema.catalog.modules ["films", "booking"]) := by
  obtain ⟨_, hoptions, _, _, hsearches⟩ := Reachable.well_shaped Sample.reachable_cinema
  have hmem : Sample.cinema.slashCommands[1] ∈ Sample.cinema.slashCommands := List.getElem_mem _
  -- the second command is the one below two groups
  have hgroups : ["films", "booking"] <+: Sample.cinema.slashCommands[1].groupPath := List.prefix_rfl
  exact ⟨Sample.reachable_cinema, by decide +kernel, by decide +kernel, hoptions, _, hmem, rfl,
    hsearches _ hmem _ (List.cons_ne_nil _ _) hgroups⟩

end ChatDispatch
