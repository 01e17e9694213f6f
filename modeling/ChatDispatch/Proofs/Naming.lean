import ChatDispatch.Proofs.Loading

/-!
# Names of slash commands

A slash command is named by lower-case letters, digits and two signs, and so is every group that it
stands under. The names are checked once, where a declaration is assembled, and never again.

* **`Text.lowercase_of_isSlashName`** — such a name is its own lower case.
* **`Text.sameAscii_iff_of_isSlashName`** — two such names that differ in case only are equal.
* **`Text.lowercase_eq_of_sameAscii`** — texts that differ in the case of A to Z only have the same lower
  case.
* **`Ownership.exists_surroundings`** — what holds around a module and is handed down at each level holds
  around every module below it.
* **`Reachable.exists_buildModule`**, **`Reachable.exists_buildCommand`** — every loaded module and every loaded
  command was made below groups with such names.
* **`Reachable.isSlashName_path`** — the path of a loaded slash command consists of such names.
* **`Reachable.lowercase_path`** — the headline: the path of a loaded slash command is its own lower case.
* **`Reachable.length_groupPath_le`** — no command stands below more than two groups.
* **`Reachable.nodup_parameters`** — no two parameters of a command have the same name.
-/

namespace ChatDispatch

variable {σ : Type} {table : ConverterTable}

/-! ## Lower case

Lower case is the full mapping of the platform, in which the place of a letter can matter. Names of slash commands
are made of characters that it leaves alone. -/

/-- The characters of such names are ASCII, and none of them is an upper-case letter. -/
theorem bounds_of_isSlashChar {c : Char} (h : isSlashChar c = true) :
    c.toNat < 0x80 ∧ ¬ ('A'.val ≤ c.val ∧ c.val ≤ 'Z'.val) := by
  -- letters and digits are known by their bounds, as every range of characters is
  have hrange : ∀ first last : Char, (decide (first.val ≤ c.val) && decide (c.val ≤ last.val)) = true →
      first.toNat ≤ c.toNat ∧ c.toNat ≤ last.toNat := by
    intro first last hbounds
    rw [Bool.and_eq_true, decide_eq_true_eq, decide_eq_true_eq, UInt32.le_iff_toNat_le,
      UInt32.le_iff_toNat_le] at hbounds
    exact hbounds
  rw [isSlashChar, Bool.or_eq_true, Bool.or_eq_true, Bool.or_eq_true, beq_iff_eq, beq_iff_eq] at h
  rw [UInt32.le_iff_toNat_le, UInt32.le_iff_toNat_le]
  show c.toNat < 128 ∧ ¬ (65 ≤ c.toNat ∧ c.toNat ≤ 90)
  rcases h with ((rfl | rfl) | hlower) | hdigit
  · decide
  · decide
  · have hletter : 97 ≤ c.toNat ∧ c.toNat ≤ 122 := hrange 'a' 'z' hlower
    omega
  · have hnumeral : 48 ≤ c.toNat ∧ c.toNat ≤ 57 := hrange '0' '9' hdigit
    omega

theorem Text.lowerChar_of_isSlashChar {c : Char} (h : isSlashChar c = true) : lowerChar c = c := by
  obtain ⟨hascii, hnotUpper⟩ := bounds_of_isSlashChar h
  rw [lowerChar, if_pos hascii]
  exact dif_neg hnotUpper

/-- A text of such characters is its own lower case, whatever stands before it. -/
theorem Text.lowerAfter_eq_self {before cs : List Char} (h : ∀ c ∈ cs, isSlashChar c = true) :
    lowerAfter before cs = cs := by
  induction cs generalizing before with
  | nil => rfl
  | cons c cs ih =>
    have hc := h c List.mem_cons_self
    -- the two characters whose lower case depends on their place, or is longer, are not ASCII
    have hspecial : c ≠ 'Σ' ∧ c ≠ 'İ' := by
      have hascii := (bounds_of_isSlashChar hc).1
      constructor
      · rintro rfl
        exact absurd hascii (by decide)
      · rintro rfl
        exact absurd hascii (by decide)
    rw [lowerAfter, if_neg hspecial.1, if_neg hspecial.2, lowerChar_of_isSlashChar hc,
      ih fun other hother => h other (List.mem_cons_of_mem _ hother)]
    rfl

/-- **A name of this kind** is its own lower case. -/
theorem Text.lowercase_of_isSlashName {name : String} (h : isSlashName name = true) :
    lowercase name = name := by
  have hchars : ∀ c ∈ name.toList, isSlashChar c = true := by
    rw [isSlashName, Bool.and_eq_true, List.all_eq_true] at h
    exact h.2
  rw [lowercase, lowerAfter_eq_self hchars, String.ofList_toList]

theorem Text.map_lowercase_of_isSlashName {names : List String}
    (h : ∀ name ∈ names, isSlashName name = true) : names.map lowercase = names := by
  have hself : names.map lowercase = names.map id :=
    List.map_congr_left fun name hname => lowercase_of_isSlashName (h name hname)
  rw [hself, List.map_id]

/-- The lower case of A to Z leaves these characters alone as well. -/
theorem Text.toLower_of_isSlashChar {c : Char} (h : isSlashChar c = true) : c.toLower = c := by
  have hlower := lowerChar_of_isSlashChar h
  rw [lowerChar, if_pos (bounds_of_isSlashChar h).1] at hlower
  exact hlower

/-- Names of this kind are compared without regard to case as if with regard to it. -/
theorem Text.sameAscii_iff_of_isSlashName {name other : String} (h : isSlashName name = true)
    (hother : isSlashName other = true) : sameAscii name other = true ↔ name = other := by
  -- each name is compared as it is
  have hself : ∀ {s : String}, isSlashName s = true → s.toList.map Char.toLower = s.toList := by
    intro s hs
    rw [isSlashName, Bool.and_eq_true, List.all_eq_true] at hs
    have hid : s.toList.map Char.toLower = s.toList.map id :=
      List.map_congr_left fun c hc => toLower_of_isSlashChar (hs.2 c hc)
    rw [hid, List.map_id]
  rw [sameAscii, hself h, hself hother, beq_iff_eq, String.toList_inj]

/-- What lower case is made of does not tell A to Z from a to z. -/
structure Text.SameLower (c other : Char) : Prop where
  cased : isCased other = isCased c
  ignorable : isCaseIgnorable other = isCaseIgnorable c
  lower : lowerChar other = lowerChar c
  sigma : other = 'Σ' ↔ c = 'Σ'
  dotted : other = 'İ' ↔ c = 'İ'

/-- A character and its lower-case letter play the same part. -/
theorem Text.sameLower_toLower (c : Char) : SameLower c c.toLower := by
  by_cases hupper : 'A'.val ≤ c.val ∧ c.val ≤ 'Z'.val
  · -- one of the letters A to Z
    obtain ⟨hfirst, hlast⟩ := hupper
    rw [UInt32.le_iff_toNat_le] at hfirst hlast
    have hbounds : 65 ≤ c.toNat ∧ c.toNat ≤ 90 := ⟨hfirst, hlast⟩
    -- 26 letters, looked at one by one
    have hletters : ∀ n < 26, let c := Char.ofNat (65 + n)
        isCased c.toLower = isCased c ∧ isCaseIgnorable c.toLower = isCaseIgnorable c ∧
          lowerChar c.toLower = lowerChar c ∧ c.toLower ≠ 'Σ' ∧ c ≠ 'Σ' ∧ c.toLower ≠ 'İ' ∧ c ≠ 'İ' := by
      decide +kernel
    have hletter := hletters (c.toNat - 65) (by omega)
    rw [Nat.add_sub_cancel' hbounds.1, Char.ofNat_toNat] at hletter
    obtain ⟨hcased, hignorable, hlower, hsigma, hsigma', hdotted, hdotted'⟩ := hletter
    exact ⟨hcased, hignorable, hlower, iff_of_false hsigma hsigma', iff_of_false hdotted hdotted'⟩
  · have hself : c.toLower = c := dif_neg hupper
    rw [hself]
    exact ⟨rfl, rfl, rfl, .rfl, .rfl⟩

/-- Whether a letter stands next to a place does not depend on the case of A to Z. -/
theorem Text.meetsCased_map_toLower (cs : List Char) :
    meetsCased (cs.map Char.toLower) = meetsCased cs := by
  induction cs with
  | nil => rfl
  | cons c cs ih =>
    have hc := sameLower_toLower c
    rw [meetsCased, meetsCased, List.map_cons, List.dropWhile_cons, List.dropWhile_cons, hc.ignorable]
    cases isCaseIgnorable c with
    | true => exact ih
    | false => exact hc.cased

/-- The case of A to Z is lost in lower case, before a place and after it. -/
theorem Text.lowerAfter_map_toLower (before cs : List Char) :
    lowerAfter (before.map Char.toLower) (cs.map Char.toLower) = lowerAfter before cs := by
  induction cs generalizing before with
  | nil => rfl
  | cons c cs ih =>
    have hc := sameLower_toLower c
    have hrest := ih (c :: before)
    rw [List.map_cons] at hrest
    simp only [List.map_cons, lowerAfter, hrest, hc.sigma, hc.dotted, hc.lower, meetsCased_map_toLower]

/-- Texts that differ in the case of A to Z only have the same lower case. -/
theorem Text.lowercase_eq_of_sameAscii {s t : String} (h : sameAscii s t = true) :
    lowercase s = lowercase t := by
  rw [sameAscii, beq_iff_eq] at h
  have hlower : lowerAfter [] s.toList = lowerAfter [] t.toList := by
    rw [← lowerAfter_map_toLower [] s.toList, h, lowerAfter_map_toLower]
  rw [lowercase, lowercase, hlower]

/-! ## Names of groups and commands

Names are checked where groups and commands are built, so what has been built has such names as far as the groups
around it do. -/

theorem checkSlashName_eq_ok_iff {role : NameRole} {name : String} {u : Unit} :
    checkSlashName role name = .ok u ↔ isSlashName name = true :=
  ensure_eq_ok_iff

/-- A group is named as slash commands are, like the groups around it. -/
theorem isSlashName_of_checkGroup {around path : List String} {group : Option Group}
    (h : checkGroup around group = .ok path) (haround : ∀ name ∈ around, isSlashName name = true) :
    ∀ name ∈ path, isSlashName name = true := by
  cases group with
  | none =>
    cases h
    exact haround
  | some group =>
    simp only [checkGroup, bind_eq_ok_iff, checkSlashName_eq_ok_iff] at h
    obtain ⟨_, hname, _, _, _, _, heq⟩ := h
    cases heq
    intro name hmem
    rcases List.mem_append.mp hmem with hmem | hmem
    · exact haround name hmem
    · rw [List.mem_singleton.mp hmem]
      exact hname

/-- A group that is let through is not too deep. -/
theorem length_le_of_checkGroup {around path : List String} {group : Option Group}
    (h : checkGroup around group = .ok path) (haround : around.length ≤ maxGroupDepth) :
    path.length ≤ maxGroupDepth := by
  cases group with
  | none =>
    cases h
    exact haround
  | some group =>
    simp only [checkGroup, bind_eq_ok_iff, ensure_eq_ok_iff, decide_eq_true_eq] at h
    obtain ⟨_, _, _, _, _, hdepth, heq⟩ := h
    cases heq
    exact hdepth

/-- The path of a slash command consists of such names if the groups do. -/
theorem isSlashName_of_buildCommand {owner : Owner σ} {decl : CommandDecl σ} {c : Command σ}
    (h : buildCommand table owner decl = .ok c) (hkind : c.kind = .slash)
    (howner : ∀ name ∈ owner.groupPath, isSlashName name = true) :
    ∀ name ∈ c.path, isSlashName name = true := by
  obtain ⟨hname, _, handler, parameters, _, _, rfl⟩ := buildCommand_eq_ok_iff.mp h
  have hslash : decl.kind = .slash := hkind
  rw [hslash, checkCommandName, bind_eq_ok_iff] at hname
  obtain ⟨_, hname, _⟩ := hname
  intro name hmem
  rcases List.mem_append.mp hmem with hgroup | hown
  · -- a command that ignores the groups stands under none
    have hgroups : name ∈ if decl.ignoresGroups then [] else owner.groupPath := hgroup
    split at hgroups
    · cases hgroups
    · exact howner name hgroups
  · rw [List.mem_singleton.mp hown]
    exact checkSlashName_eq_ok_iff.mp hname

/-! ## Names of parameters

Parameters are built in order, and each name is compared with all those seen before in lower case. -/

/-- The parameters of a command have different names, apart from case, and none of those before them. -/
theorem nodup_of_buildParameters {kind : CommandKind} {command : String} {seen : List String}
    {optional : Bool} {decls : List (ParameterDecl σ)} {ps : List (Parameter σ)}
    (h : buildParameters table kind command seen optional decls = .ok ps) :
    (ps.map fun p => Text.lowercase p.name).Nodup ∧ ∀ p ∈ ps, Text.lowercase p.name ∉ seen := by
  -- on the declarations, with the names seen so far generalised
  induction decls generalizing seen optional ps with
  | nil =>
    cases h
    exact ⟨List.nodup_nil, List.forall_mem_nil _⟩
  | cons decl decls ih =>
    obtain ⟨_, hfresh, _, p, ps', hp, hps', rfl⟩ := exists_of_buildParameters_cons h
    obtain ⟨_, _, rfl⟩ := buildParameter_eq_ok_iff.mp hp
    obtain ⟨hnodup, hothers⟩ := ih hps'
    constructor
    · refine List.nodup_cons.mpr ⟨fun hmem => ?_, hnodup⟩
      obtain ⟨other, hother, heq⟩ := List.mem_map.mp hmem
      exact hothers other hother (heq ▸ List.mem_cons_self)
    · refine List.forall_mem_cons.mpr ⟨hfresh, fun other hother hseen => ?_⟩
      exact hothers other hother (List.mem_cons_of_mem _ hseen)

/-- The parameters of a slash command are named like slash commands. -/
theorem isSlashName_of_buildParameters {command : String} {seen : List String} {optional : Bool}
    {decls : List (ParameterDecl σ)} {ps : List (Parameter σ)}
    (h : buildParameters table .slash command seen optional decls = .ok ps) :
    ∀ p ∈ ps, isSlashName p.name = true := by
  induction decls generalizing seen optional ps with
  | nil =>
    cases h
    exact List.forall_mem_nil _
  | cons decl decls ih =>
    obtain ⟨hname, _, _, p, ps', hp, hps', rfl⟩ := exists_of_buildParameters_cons h
    obtain ⟨_, _, rfl⟩ := buildParameter_eq_ok_iff.mp hp
    exact List.forall_mem_cons.mpr ⟨checkSlashName_eq_ok_iff.mp hname, ih hps'⟩

/-! ## Loaded commands

A loaded command was assembled at some time, and so was every module around it. What is checked then holds of it
as long as it is loaded. -/

/-- **What is handed down.** If something holds around a module and every level hands it down to the
modules below, it holds around every module of the tree. -/
theorem Ownership.exists_surroundings {P : Surroundings σ → Prop}
    (hdown : ∀ number path around (decl : ModuleDecl σ), P around →
      checkGroup around.groupPath decl.group = .ok path → P (decl.surroundings number path around))
    {number : Nat} {around : Surroundings σ} {decl : ModuleDecl σ} {root m : Module σ}
    {chain : List (ModuleDecl σ)} (howned : Ownership decl root chain m)
    (h : buildModule table number around decl = .ok root) (haround : P around) :
    ∃ k surroundings d, P surroundings ∧ buildModule table k surroundings d = .ok m := by
  induction howned generalizing number around with
  | here decl root => exact ⟨number, around, decl, haround, h⟩
  | @inside decl _ _ _ _ _ _ hdecl hroot _ ih =>
    obtain ⟨path, declared, submodules, hgroup, _, hsubmodules, rfl⟩ := buildModule_eq_ok_iff.mp h
    obtain ⟨s, hs, k, hk⟩ := forall₂_getElem? (forall₂_of_buildModules hsubmodules) hdecl
    cases hroot.symm.trans hs
    exact ih hk (hdown number path around decl haround hgroup)

/-- **How a loaded module was made**: from a declaration, below groups that are named as slash commands are, and
not too deep. -/
theorem Reachable.exists_buildModule {d : Dispatcher σ} (h : Reachable d) {m : Module σ}
    (hm : m ∈ d.catalog.modules) :
    ∃ table number around decl, (∀ name ∈ around.groupPath, isSlashName name = true) ∧
      around.groupPath.length ≤ maxGroupDepth ∧ buildModule table number around decl = .ok m := by
  rw [Catalog.modules, Module.forest_eq_flatMap, List.mem_flatMap] at hm
  obtain ⟨root, hroot, hm⟩ := hm
  obtain ⟨table, number, decl, hassemble⟩ := h.exists_assemble hroot
  have hbuilt := (assemble_eq_ok_iff.mp hassemble).1
  obtain ⟨chain, howned⟩ := exists_ownership hbuilt hm
  -- around a root there are no groups
  have hnone : (∀ name ∈ (Surroundings.none : Surroundings σ).groupPath, isSlashName name = true) ∧
      (Surroundings.none : Surroundings σ).groupPath.length ≤ maxGroupDepth :=
    ⟨List.forall_mem_nil _, Nat.zero_le _⟩
  obtain ⟨k, around, d, ⟨hnames, hdepth⟩, hbuild⟩ := howned.exists_surroundings
    (P := fun around => (∀ name ∈ around.groupPath, isSlashName name = true) ∧
      around.groupPath.length ≤ maxGroupDepth)
    (fun _ _ _ _ haround hgroup => ⟨isSlashName_of_checkGroup hgroup haround.1,
      length_le_of_checkGroup hgroup haround.2⟩) hbuilt hnone
  exact ⟨table, k, around, d, hnames, hdepth, hbuild⟩

/-- **How a loaded command was made**: from a declaration, below groups that are named as slash commands are,
and not too deep. -/
theorem Reachable.exists_buildCommand {d : Dispatcher σ} (h : Reachable d) {m : Module σ} {c : Command σ}
    (hm : m ∈ d.catalog.modules) (hc : c ∈ m.commands) :
    ∃ table owner decl, (∀ name ∈ owner.groupPath, isSlashName name = true) ∧
      owner.groupPath.length ≤ maxGroupDepth ∧ buildCommand table owner decl = .ok c := by
  obtain ⟨table, k, around, d, hnames, hdepth, hbuild⟩ := h.exists_buildModule hm
  obtain ⟨path, declared, submodules, hgroup, hdeclared, _, rfl⟩ := buildModule_eq_ok_iff.mp hbuild
  obtain ⟨commandDecl, _, hcommand⟩ :=
    forall₂_mem_right (forall₂_of_buildCommands hdeclared) (Module.mem_commands_iff.mp hc)
  exact ⟨table, _, commandDecl, isSlashName_of_checkGroup hgroup hnames,
    length_le_of_checkGroup hgroup hdepth, hcommand⟩

/-- The groups of a loaded module are named as slash commands are. -/
theorem Reachable.isSlashName_groupPath {d : Dispatcher σ} (h : Reachable d) {m : Module σ}
    (hm : m ∈ d.catalog.modules) : ∀ name ∈ m.groupPath, isSlashName name = true := by
  obtain ⟨table, k, around, d, hnames, _, hbuild⟩ := h.exists_buildModule hm
  obtain ⟨path, declared, submodules, hgroup, _, _, rfl⟩ := buildModule_eq_ok_iff.mp hbuild
  exact isSlashName_of_checkGroup hgroup hnames

section Reachable

variable {d : Dispatcher σ} {m : Module σ} {c : Command σ}

/-- The path of a loaded slash command consists of names of this kind. -/
theorem Reachable.isSlashName_path (h : Reachable d) (hm : m ∈ d.catalog.modules) (hc : c ∈ m.commands)
    (hkind : c.kind = .slash) : ∀ name ∈ c.path, isSlashName name = true := by
  obtain ⟨_, _, _, hnames, _, hbuild⟩ := h.exists_buildCommand hm hc
  exact isSlashName_of_buildCommand hbuild hkind hnames

/-- **The path of a loaded slash command** is its own lower case, token by token. -/
theorem Reachable.lowercase_path (h : Reachable d) (hm : m ∈ d.catalog.modules) (hc : c ∈ m.commands)
    (hkind : c.kind = .slash) : c.path.map Text.lowercase = c.path :=
  Text.map_lowercase_of_isSlashName (h.isSlashName_path hm hc hkind)

/-- No loaded command stands below more than two groups. -/
theorem Reachable.length_groupPath_le (h : Reachable d) (hm : m ∈ d.catalog.modules)
    (hc : c ∈ m.commands) : c.groupPath.length ≤ maxGroupDepth := by
  obtain ⟨_, owner, decl, _, hdepth, hbuild⟩ := h.exists_buildCommand hm hc
  obtain ⟨_, _, handler, parameters, _, _, rfl⟩ := buildCommand_eq_ok_iff.mp hbuild
  -- a command that ignores the groups stands below none
  show (if decl.ignoresGroups then [] else owner.groupPath).length ≤ maxGroupDepth
  split
  · exact Nat.zero_le _
  · exact hdepth

/-- No two parameters of a loaded command have the same name. -/
theorem Reachable.nodup_parameters (h : Reachable d) (hm : m ∈ d.catalog.modules) (hc : c ∈ m.commands) :
    (c.parameters.map (·.name)).Nodup := by
  obtain ⟨_, owner, decl, _, _, hbuild⟩ := h.exists_buildCommand hm hc
  obtain ⟨_, _, handler, parameters, _, hparameters, rfl⟩ := buildCommand_eq_ok_iff.mp hbuild
  have hlower := (nodup_of_buildParameters hparameters).1
  -- they differ in lower case already
  rw [← Function.comp_def, ← List.map_map] at hlower
  exact hlower.of_map _

/-- The parameters of a loaded slash command are named like slash commands. -/
theorem Reachable.isSlashName_parameter (h : Reachable d) (hm : m ∈ d.catalog.modules)
    (hc : c ∈ m.commands) (hkind : c.kind = .slash) : ∀ p ∈ c.parameters, isSlashName p.name = true := by
  obtain ⟨_, owner, decl, _, _, hbuild⟩ := h.exists_buildCommand hm hc
  obtain ⟨_, _, handler, parameters, _, hparameters, rfl⟩ := buildCommand_eq_ok_iff.mp hbuild
  have hslash : decl.kind = .slash := hkind
  rw [hslash] at hparameters
  exact isSlashName_of_buildParameters hparameters

end Reachable

end ChatDispatch
