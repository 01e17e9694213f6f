import ChatDispatch.Proofs.SelfMatching
import ChatDispatch.Proofs.UploadNames

/-!
# Suggestions, announced and given

The platform asks for suggestions where the description of a parameter announces them. What is announced is
read off the names of the commands that give suggestions, word by word; what is asked for is looked up among
patterns.

* **`Node.forall_segments_of_has_grow`** — all segments of a tree were written as segments of routes.
* **`Reachable.isSome_autocomplete_iff`** — which paths a command for suggestions is found for: those that
  are announced, and those that fit a pattern with a marker.
* **`optionsFor`**, **`Reachable.optionsFor_eq`** — the option that describes a parameter.
* **`Dispatcher.Answers`** — a request is answered for a parameter.
* **`Reachable.answers_iff_announced`** — the headline: what is announced is answered, and what is answered
  without having been announced is so by a pattern.
* **`exists_answers_not_announced`** — there are such patterns.
-/

namespace ChatDispatch

open Router Upload

variable {σ : Type}

/-! ## Segments of a tree

A look-up in lower case meets stored segments, and those may have been written by another route than the one that
is looked for. So first where stored segments come from. -/

namespace Router.Node

variable {α : Type} {node node' : Node α} {rs : List (Route α)}

/-- The segments of a route that was not there before are segments of routes that were added, or were
stored before. -/
theorem forall_segments_of_has_grow (hordered : node.Ordered) (h : node.grow rs = some node') {r : Route α}
    (hhas : node'.Has r) :
    node.Has r ∨ ∀ s ∈ r.segments, node.Stores s ∨ ∃ added ∈ rs, s ∈ added.segments := by
  induction rs generalizing node with
  | nil =>
    cases h
    exact .inl hhas
  | cons added rs ih =>
    obtain ⟨between, hinsert, hrest⟩ := grow_cons_eq_some_iff.mp h
    rcases ih (ordered_insert? hinsert hordered) hrest with hbetween | hsegments
    · rcases (has_insert?_iff hordered hinsert).mp hbetween with hbefore | rfl
      · exact .inl hbefore
      · -- the route is stored along segments that were there
        refine .inr fun s hs => ?_
        obtain ⟨own, hown, hplaced⟩ := forall₂_mem_right (node.forall₂_placed added.segments).flip hs
        rcases hplaced with rfl | ⟨hstores, _⟩
        · exact .inr ⟨added, List.mem_cons_self, hown⟩
        · exact .inl hstores
    · refine .inr fun s hs => ?_
      rcases hsegments s hs with hstores | ⟨other, hother, hmem⟩
      · rcases stores_insert? hordered hinsert hstores with hbefore | hmem
        · exact .inl hbefore
        · exact .inr ⟨added, List.mem_cons_self, hmem⟩
      · exact .inr ⟨other, List.mem_cons_of_mem _ hother, hmem⟩

end Router.Node

namespace Dispatcher

variable {d : Dispatcher σ}

/-- Every segment of a router was written as a token. -/
theorem Intact.exists_ofToken_of_has (h : d.Intact) {kind : CommandKind} {r : Route (Command σ)}
    (hhas : (d.catalog.routers.ofKind kind).root.Has r) :
    ∀ s ∈ r.segments, ∃ token, s = Segment.ofToken (d.catalog.routers.ofKind kind).marker token := by
  intro s hs
  rcases Node.forall_segments_of_has_grow Node.ordered_empty (h.grow_routes kind) hhas with hempty | hadded
  · exact absurd hempty Node.not_has_empty
  · rcases hadded s hs with hstores | ⟨added, hmem, hs⟩
    · exact absurd hstores Node.not_stores_empty
    · obtain ⟨c, _, _, rfl⟩ := mem_routesIn_iff.mp hmem
      obtain ⟨token, _, rfl⟩ := List.mem_map.mp hs
      exact ⟨token, rfl⟩

/-- **A command is found for its path** in lower case, whatever its markers stand for, if this consists of
names of slash commands. -/
theorem Intact.isSome_find?_lowercase (h : d.Intact) {c : Command σ} (hloaded : d.Loaded c)
    (hnames : ∀ token ∈ c.route (d.catalog.routers.ofKind c.kind),
      isSlashName (Text.lowercase token) = true) :
    ((d.catalog.routers.ofKind c.kind).find?
      ((c.route (d.catalog.routers.ofKind c.kind)).map Text.lowercase)).isSome = true := by
  have hmem : (d.catalog.routers.ofKind c.kind).routeOf c ∈ d.routes c.kind :=
    mem_routesIn_iff.mpr ⟨c, hloaded, rfl, rfl⟩
  -- the route of the command, as the router stores it
  obtain ⟨r, hhas, _, hsame⟩ := Node.exists_has_grow Node.ordered_empty (h.grow_routes c.kind) hmem
  refine Node.isSome_find?_iff.mpr ⟨r, hhas, ?_⟩
  rw [routeOf] at hsame
  -- a stored segment may have been written otherwise than the token, but has the same lower case
  have hwritten : ∀ s ∈ r.segments, ∃ written, s = .ofToken (d.catalog.routers.ofKind c.kind).marker written ∧
      isSlashName (Text.lowercase written) = true := by
    intro s hs
    obtain ⟨written, rfl⟩ := h.exists_ofToken_of_has hhas s hs
    obtain ⟨_, hmem, hplace⟩ := forall₂_mem_right hsame.flip hs
    obtain ⟨token, htoken, rfl⟩ := List.mem_map.mp hmem
    exact ⟨written, rfl, Segment.samePlace_ofToken hplace ▸ hnames token htoken⟩
  have hstored := (List.forall₂_and_left _ _).mpr ⟨hwritten, hsame⟩
  rw [List.forall₂_map_right_iff] at hstored
  rw [Route.Fits, List.forall₂_map_right_iff]
  refine hstored.imp fun s token hs => ?_
  obtain ⟨⟨written, rfl, hname⟩, hplace⟩ := hs
  rw [← Segment.samePlace_ofToken hplace]
  exact Segment.ofToken_accepts_lowercase _ hname

/-- What a command gives suggestions for: its name, cut at spaces, below its groups. -/
theorem Intact.route_of_autocomplete (h : d.Intact) {c : Command σ} (hkind : c.kind = .autocomplete) :
    c.route (d.catalog.routers.ofKind c.kind) = c.groupPath ++ Text.splitSpaces c.name := by
  -- the router for suggestions cuts at spaces
  have hspace : ([' '].contains ·) = (· == ' ') := by
    funext c
    rw [List.contains_cons, List.contains_nil, Bool.or_false]
  rw [Command.route, tokenize, h.delimiters_eq, hkind]
  show c.groupPath ++ (Text.splitChars ([' '].contains ·) c.name.toList).map String.ofList = _
  rw [hspace]
  rfl

/-- The commands for suggestions are the loaded ones of this kind. -/
theorem mem_autocompleteCommands_iff {c : Command σ} :
    c ∈ d.autocompleteCommands ↔ d.Loaded c ∧ c.kind = .autocomplete := by
  simp only [autocompleteCommands, Module.autocompleteCommands, Loaded, List.mem_flatMap, List.mem_filter,
    Module.mem_commands_iff, decide_eq_true_eq, ← and_assoc, exists_and_right]

/-- What is announced are the paths of the commands for suggestions in lower case. -/
theorem mem_suggestedPaths_iff {path : List String} :
    path ∈ suggestedPaths d.catalog.modules ↔ ∃ c ∈ d.autocompleteCommands,
      (c.groupPath ++ Text.splitSpaces c.name).map Text.lowercase = path :=
  List.mem_map

end Dispatcher

/-- **Which paths a command for suggestions is found for**, among names of slash commands: those that are
announced, and those that fit a pattern with a marker. -/
theorem Reachable.isSome_autocomplete_iff {d : Dispatcher σ} (h : Reachable d) {path : List String}
    (hnames : ∀ name ∈ path, isSlashName name = true) :
    (d.catalog.routers.autocomplete.find? path).isSome = true ↔
      path ∈ suggestedPaths d.catalog.modules ∨
      ∃ c captures, d.catalog.routers.autocomplete.find? path = some (c, captures) ∧
        ∃ token ∈ c.groupPath ++ Text.splitSpaces c.name, ¬ d.settings.Literal token := by
  have hintact := h.intact
  constructor
  · intro hfound
    obtain ⟨⟨c, captures⟩, hfind⟩ := Option.isSome_iff_exists.mp hfound
    obtain ⟨hloaded, hkind⟩ : d.Loaded c ∧ c.kind = .autocomplete := hintact.loaded_of_find? hfind
    have hroute := hintact.route_of_autocomplete hkind
    -- without a marker in it the path found is equal to the one looked up
    by_cases hliteral : ∀ token ∈ c.groupPath ++ Text.splitSpaces c.name, d.settings.Literal token
    · left
      obtain ⟨m, hm, hc⟩ := hloaded
      have hexact := (hintact.map_find?_eq_some_iff hm hc (hroute ▸ hliteral) path).mp
      rw [hroute, hkind, Text.map_lowercase_of_isSlashName hnames] at hexact
      refine Dispatcher.mem_suggestedPaths_iff.mpr ⟨c, ?_, (hexact ?_).symm⟩
      · exact Dispatcher.mem_autocompleteCommands_iff.mpr ⟨⟨m, hm, hc⟩, hkind⟩
      · exact congrArg (Option.map (·.1)) hfind
    · right
      simp only [not_forall, exists_prop] at hliteral
      exact ⟨c, captures, hfind, hliteral⟩
  · rintro (hsuggested | ⟨c, captures, hfind, _⟩)
    · obtain ⟨c, hc, rfl⟩ := Dispatcher.mem_suggestedPaths_iff.mp hsuggested
      obtain ⟨hloaded, hkind⟩ := Dispatcher.mem_autocompleteCommands_iff.mp hc
      have hfound := hintact.isSome_find?_lowercase hloaded
      rw [hintact.route_of_autocomplete hkind, hkind] at hfound
      exact hfound fun token htoken => hnames _ (List.mem_map_of_mem htoken)
    · rw [hfind]
      rfl

/-! ## The options for parameters

An option of a description is told apart by the names on the way to it. For a parameter these are the path of its
command and its own name. -/

namespace Upload

/-- The kinds of the options for parameters. -/
def OptionKind.isParameter : OptionKind → Bool
  | .subcommandGroup | .subcommand => false
  | _ => true

/-- The names on the way to an option: that of its description, and those of the options above. -/
def Placed.way (q : Placed) : List String := q.name :: q.above.map (·.2)

/-- The options for a parameter, anywhere in descriptions. -/
def optionsFor (entries : List CommandEntry) (path : List String) (parameter : String) : List Placed :=
  (placedOptions entries).filter fun q =>
    q.option.kind.isParameter ∧ (q.way, q.option.name) = (path, parameter)

/-- An option of a slash command in its place. -/
def parameterPlace (c : Command σ) (o : OptionEntry) : Placed where
  kind := .chatInput
  name := c.path.headD ""
  above := c.groupPath.tail.map (fun name => (.subcommandGroup, name)) ++
    if c.groupPath = [] then [] else [(.subcommand, c.name)]
  option := o

/-- The way to an option of a command is the path of the command. -/
theorem way_parameterPlace (c : Command σ) (o : OptionEntry) : (parameterPlace c o).way = c.path := by
  rw [Placed.way, parameterPlace, CommandSpec.path]
  cases c.groupPath with
  | nil => rfl
  | cons group rest =>
    rw [List.map_append, List.map_map]
    exact congrArg (group :: · ++ [c.name]) (List.map_id rest)

section Commands

variable {suggested : List (List String)}

/-- The options for parameters are none for commands or groups. -/
theorem isParameter_of_mem_parameterOptions {c : Command σ} {o : OptionEntry}
    (h : o ∈ parameterOptions suggested c) : o.kind.isParameter = true := by
  obtain ⟨hsubcommand, hgroup⟩ := kind_of_mem_parameterOptions h
  cases hkind : o.kind with
  | subcommand => exact absurd hkind hsubcommand
  | subcommandGroup => exact absurd hkind hgroup
  | _ => rfl

/-- The options for parameters that a command is described with. -/
theorem filter_isParameter_commandOptions (c : Command σ) :
    (commandOptions suggested c).filter (·.option.kind.isParameter) =
      (parameterOptions suggested c).map (parameterPlace c) := by
  have hall : ((parameterOptions suggested c).map (parameterPlace c)).filter (·.option.kind.isParameter) =
      (parameterOptions suggested c).map (parameterPlace c) := by
    rw [List.filter_eq_self]
    intro q hq
    obtain ⟨o, ho, rfl⟩ := List.mem_map.mp hq
    exact isParameter_of_mem_parameterOptions ho
  rw [← hall]
  cases hpath : c.groupPath with
  | nil =>
    -- under no group the options stand at the top
    have hplace : parameterPlace c = fun o => ⟨.chatInput, c.name, [], o⟩ := by
      funext o
      rw [parameterPlace, CommandSpec.path, hpath]
      rfl
    rw [commandOptions_of_nil hpath, hplace]
  | cons group rest =>
    -- below groups they stand behind the option of the command, which is no parameter
    have hplace : parameterPlace c = fun o => ⟨.chatInput, group,
        rest.map (fun name => (.subcommandGroup, name)) ++ [(.subcommand, c.name)], o⟩ := by
      funext o
      rw [parameterPlace, CommandSpec.path, hpath]
      rfl
    rw [commandOptions_of_cons hpath, placed_subcommandOption, List.filter_cons_of_neg Bool.false_ne_true,
      hplace]

end Commands

/-- Where no two items share a key, one key has one item. -/
theorem filter_eq_singleton_of_nodup_map {α κ : Type} [DecidableEq κ] {key : α → κ} {l : List α}
    (h : (l.map key).Nodup) {a : α} (ha : a ∈ l) : l.filter (fun b => key b = key a) = [a] := by
  obtain ⟨front, back, rfl⟩ := List.append_of_mem ha
  rw [List.map_append, List.map_cons] at h
  -- an entry with the same key would be there twice
  have hothers : ∀ b ∈ front ++ back, key b ≠ key a := by
    intro b hb heq
    refine (List.nodup_cons.mp (List.nodup_middle.mp h)).1 ?_
    rw [← heq, ← List.map_append]
    exact List.mem_map_of_mem hb
  have hfront : front.filter (fun b => key b = key a) = [] :=
    List.filter_eq_nil_iff.mpr fun b hb => by simpa using hothers b (List.mem_append_left _ hb)
  have hback : back.filter (fun b => key b = key a) = [] :=
    List.filter_eq_nil_iff.mpr fun b hb => by simpa using hothers b (List.mem_append_right _ hb)
  rw [List.filter_append, List.filter_cons_of_pos (by simp), hfront, hback]
  rfl

end Upload

section Loaded

variable {d : Dispatcher σ}

/-- **The options for parameters**, anywhere in the descriptions, are those of the loaded slash commands. -/
theorem Reachable.filter_isParameter_describe_perm (h : Reachable d) :
    ((placedOptions (describe d.catalog.roots)).filter (·.option.kind.isParameter)).Perm
      (d.slashCommands.flatMap fun c =>
        (parameterOptions (suggestedPaths d.catalog.modules) c).map (parameterPlace c)) := by
  have hperm := h.filter_kind_describe_perm OptionKind.isParameter rfl
  rwa [List.flatMap_congr fun c _ => filter_isParameter_commandOptions c] at hperm

/-- No two parameters have the same name and the same way. -/
theorem Reachable.nodup_ways (h : Reachable d) :
    (((placedOptions (describe d.catalog.roots)).filter (·.option.kind.isParameter)).map
      fun q => (q.way, q.option.name)).Nodup := by
  -- the keys of one command are its path with each of its parameters
  have hkeys : ∀ c : Command σ, ((parameterOptions (suggestedPaths d.catalog.modules) c).map
      (parameterPlace c)).map (fun q => (q.way, q.option.name)) =
      (c.parameters.map (·.name)).map (Prod.mk c.path) := by
    intro c
    rw [parameterOptions, List.map_map, List.map_map, List.map_map]
    refine List.map_congr_left fun p _ => ?_
    exact congrArg (·, p.name) (way_parameterPlace c _)
  -- and two commands have different paths
  have hpaths : d.slashCommands.Pairwise fun c other => c.path ≠ other.path :=
    d.filter_describedCommands_slash ▸ h.tidy.paths
  refine (h.filter_isParameter_describe_perm.map _).nodup_iff.mpr ?_
  rw [List.map_flatMap, List.flatMap_congr fun c _ => hkeys c, List.nodup_flatMap]
  constructor
  · intro c hc
    obtain ⟨⟨m, hm, hcommands⟩, _⟩ := Dispatcher.mem_slashCommands_iff.mp hc
    exact (h.nodup_parameters hm hcommands).map fun _ _ heq => congrArg Prod.snd heq
  · refine hpaths.imp fun {c other} hne key hkey hother => hne ?_
    obtain ⟨_, _, rfl⟩ := List.mem_map.mp hkey
    obtain ⟨_, _, heq⟩ := List.mem_map.mp hother
    exact (congrArg Prod.fst heq).symm

/-- **A parameter is described by one option**, on the way that its command has. -/
theorem Reachable.optionsFor_eq (h : Reachable d) {c : Command σ} (hc : c ∈ d.slashCommands)
    {p : Parameter σ} (hp : p ∈ c.parameters) :
    optionsFor (describe d.catalog.roots) c.path p.name =
      [parameterPlace c (parameterOption p (p.suggester.isSome ||
        (suggestedPaths d.catalog.modules).contains ((c.path ++ [p.name]).map Text.lowercase)))] := by
  have hmem : parameterPlace c (parameterOption p (p.suggester.isSome ||
      (suggestedPaths d.catalog.modules).contains ((c.path ++ [p.name]).map Text.lowercase))) ∈
      (placedOptions (describe d.catalog.roots)).filter (·.option.kind.isParameter) := by
    refine h.filter_isParameter_describe_perm.mem_iff.mpr (List.mem_flatMap.mpr ⟨c, hc, ?_⟩)
    exact List.mem_map_of_mem (List.mem_map_of_mem hp)
  -- there is one option on the way to a parameter
  have hone := filter_eq_singleton_of_nodup_map h.nodup_ways hmem
  rw [List.filter_filter, way_parameterPlace] at hone
  rw [← hone, optionsFor]
  refine List.filter_congr fun q _ => ?_
  rw [Bool.decide_and, Bool.and_comm]
  exact congrArg (_ && ·) Bool.decide_eq_true

/-! ## Requests

A request names the path, the values typed so far and the option that is being typed. What happens to it is
followed through the routing and the search for a suggester. -/

/-- What asks for suggestions while values are typed along a path. -/
def completionAlong (path : List String) (values : List NamedValue) : CompletionRequest :=
  ⟨(typedAlong path values).name, (typedAlong path values).options⟩

/-- The request is answered for a parameter: by a command for suggestions or by the parameter's suggester. -/
def Dispatcher.Answers (d : Dispatcher σ) (request : CompletionRequest) (c : Command σ) (p : Parameter σ) :
    Prop :=
  (∃ found captures, d.route (.autocomplete request) = .command found captures ∧ found.kind = .autocomplete) ∨
    d.route (.autocomplete request) = .suggester request ∧
      ∃ suggester focused, d.suggestionTarget? (optionPath request.name request.options) =
        some (c, p, suggester, focused)

/-- The suggester is asked for a parameter of the command, and the dispatch ends with what comes of it. Nothing is
reported, and the dispatcher stays as it is. -/
structure Dispatcher.AsksSuggester (d : Dispatcher σ) (command : Command σ) (request : SuggestionRequest)
    (suggester : Suggester σ) (context : Context) (services : σ) : Prop where
  delivered : (askSuggester context request suggester services).value = .ok () →
    (d.dispatch context services).1.returned = .ok .success
  faulted : ∀ fault, (askSuggester context request suggester services).value = .error fault →
    (d.dispatch context services).1.returned =
      if d.settings.raiseFaults then .error ⟨command.displayPath, fault⟩ else .ok (.ofFault fault)
  trace_eq : (d.dispatch context services).1.trace = (askSuggester context request suggester services).trace
  unreported : (d.dispatch context services).1.reported = none ∧ (d.dispatch context services).2 = d

theorem optionPath_completionAlong (c : Command σ) (values : List NamedValue) :
    optionPath (completionAlong c.path values).name (completionAlong c.path values).options =
      ⟨c.path, values⟩ :=
  optionPath_typedAlong (List.append_ne_nil_of_right_ne_nil _ (List.cons_ne_nil _ _)) values

/-- What a request looks up is the path followed by the option being typed. -/
theorem completionTokens_completionAlong {c : Command σ} {values : List NamedValue} {focused : NamedValue}
    (h : values.find? (·.focused) = some focused) :
    Dispatcher.completionTokens (completionAlong c.path values) = c.path ++ [focused.name] := by
  rw [Dispatcher.completionTokens, optionPath_completionAlong]
  show c.path ++ ((values.find? (·.focused)).map (·.name)).toList = _
  rw [h]
  rfl

section Request

variable {c : Command σ} {p : Parameter σ} {values : List NamedValue} {focused : NamedValue}

/-- A parameter of a slash command is found by its name, without regard to case. -/
theorem Reachable.find?_parameters (h : Reachable d) (hc : c ∈ d.slashCommands) (hp : p ∈ c.parameters) :
    c.parameters.find? (Text.sameAscii ·.name p.name) = some p := by
  obtain ⟨⟨m, hm, hcommands⟩, hkind⟩ := Dispatcher.mem_slashCommands_iff.mp hc
  have hslash := h.isSlashName_parameter hm hcommands hkind
  have hsame : c.parameters.filter (Text.sameAscii ·.name p.name) =
      c.parameters.filter (·.name = p.name) := by
    refine List.filter_congr fun other hother => ?_
    rw [Bool.eq_iff_iff, decide_eq_true_eq]
    exact Text.sameAscii_iff_of_isSlashName (hslash other hother) (hslash p hp)
  rw [← List.head?_filter, hsame, filter_eq_singleton_of_nodup_map (h.nodup_parameters hm hcommands) hp]
  rfl

/-- The parameter that is being typed is found, and asked if it has a suggester. -/
theorem Reachable.suggestionTarget?_eq (h : Reachable d) (hc : c ∈ d.slashCommands) (hp : p ∈ c.parameters)
    (hfocused : values.find? (·.focused) = some focused) (hname : focused.name = p.name) :
    d.suggestionTarget? ⟨c.path, values⟩ = p.suggester.map fun suggester => (c, p, suggester, focused) := by
  have hparameter := h.find?_parameters hc hp
  rw [← hname] at hparameter
  simp only [Dispatcher.suggestionTarget?, h.findSlash?_path hc, hfocused, hparameter, Option.bind_eq_bind,
    Option.bind_some]
  cases p.suggester <;> rfl

/-- A request goes to a command if the router for suggestions finds it. -/
theorem Dispatcher.route_completionAlong_iff (hfocused : values.find? (·.focused) = some focused)
    {found : Command σ} {captures : List String} :
    d.route (.autocomplete (completionAlong c.path values)) = .command found captures ↔
      d.catalog.routers.autocomplete.find? (c.path ++ [focused.name]) = some (found, captures) := by
  rw [← completionTokens_completionAlong hfocused]
  exact route_eq_command_iff

/-- A request goes to the suggesters if they are asked and the router finds nothing. -/
theorem Dispatcher.route_completionAlong_of_none (hsuggesters : d.settings.useSuggesters = true)
    (hfocused : values.find? (·.focused) = some focused)
    (hnone : d.catalog.routers.autocomplete.find? (c.path ++ [focused.name]) = none) :
    d.route (.autocomplete (completionAlong c.path values)) = .suggester (completionAlong c.path values) := by
  rw [route, completionTokens_completionAlong hfocused, hnone]
  exact if_pos hsuggesters

/-- **When a request is answered**: a command for suggestions is found for the path of the parameter, or the
parameter has a suggester. -/
theorem Reachable.answers_iff (h : Reachable d) (hsuggesters : d.settings.useSuggesters = true)
    (hc : c ∈ d.slashCommands) (hp : p ∈ c.parameters) (hfocused : values.find? (·.focused) = some focused)
    (hname : focused.name = p.name) :
    d.Answers (completionAlong c.path values) c p ↔
      (d.catalog.routers.autocomplete.find? (c.path ++ [p.name])).isSome = true ∨
        p.suggester.isSome = true := by
  -- either the router finds a command, or the suggester is looked for
  have hroute : ∀ found captures, d.route (.autocomplete (completionAlong c.path values)) =
      .command found captures ↔ _ := fun _ _ => Dispatcher.route_completionAlong_iff hfocused
  have htarget := h.suggestionTarget?_eq hc hp hfocused hname
  rw [Dispatcher.Answers, optionPath_completionAlong, htarget]
  simp only [hroute, hname]
  cases hfind : d.catalog.routers.autocomplete.find? (c.path ++ [p.name]) with
  | some found =>
    have hfound : d.Loaded found.1 ∧ found.1.kind = .autocomplete := h.intact.loaded_of_find? hfind
    exact iff_of_true (.inl ⟨_, _, rfl, hfound.2⟩) (.inl rfl)
  | none =>
    have hsuggester := Dispatcher.route_completionAlong_of_none hsuggesters hfocused (hname ▸ hfind)
    cases p.suggester with
    | some suggester => exact iff_of_true (.inr ⟨hsuggester, _, _, rfl⟩) (.inr rfl)
    | none =>
      refine iff_of_false ?_ ?_
      · rintro (⟨_, _, hsome, _⟩ | ⟨_, _, _, hsome⟩)
        · cases hsome
        · cases hsome
      · rintro (hsome | hsome)
        · cases hsome
        · cases hsome

/-- A request that is not answered ends with the result that nothing fits. -/
theorem Reachable.dispatch_of_not_answers (h : Reachable d) (hsuggesters : d.settings.useSuggesters = true)
    (hc : c ∈ d.slashCommands) (hp : p ∈ c.parameters) (hfocused : values.find? (·.focused) = some focused)
    (hname : focused.name = p.name) (hnone : ¬ d.Answers (completionAlong c.path values) c p)
    {context : Context} (hcontext : context.interaction.payload = .autocomplete (completionAlong c.path values))
    (services : σ) :
    d.dispatch context services =
      (Dispatcher.withoutCommand (do return .ok (← Dispatcher.unknown context
        (Text.joinSpaces (c.path ++ [p.name])) false)), d) := by
  rw [h.answers_iff hsuggesters hc hp hfocused hname, not_or] at hnone
  obtain ⟨hfind, hsuggester⟩ := hnone
  rw [Bool.not_eq_true, Option.isSome_eq_false_iff, Option.isNone_iff_eq_none] at hfind hsuggester
  have htokens := completionTokens_completionAlong (c := c) hfocused
  rw [hname] at htokens
  have hroute := Dispatcher.route_completionAlong_of_none hsuggesters hfocused (hname ▸ hfind)
  -- the path leads to the parameter, but it has no suggester
  have htarget := h.suggestionTarget?_eq hc hp hfocused hname
  rw [hsuggester] at htarget
  rw [Dispatcher.dispatch, hcontext, hroute]
  dsimp only
  rw [Dispatcher.suggest, optionPath_completionAlong, htarget, htokens]
  rfl

/-- **What an answer is.** The dispatch runs the command that is found, with its captures and with the values by
name, or it asks the suggester of the parameter. -/
theorem Reachable.dispatch_of_answers (h : Reachable d) (hc : c ∈ d.slashCommands) (hp : p ∈ c.parameters)
    (hfocused : values.find? (·.focused) = some focused) (hname : focused.name = p.name)
    (hanswers : d.Answers (completionAlong c.path values) c p) {context : Context}
    (hcontext : context.interaction.payload = .autocomplete (completionAlong c.path values)) (services : σ) :
    (∃ found captures, d.route (.autocomplete (completionAlong c.path values)) = .command found captures ∧
      found.kind = .autocomplete ∧ d.dispatch context services = d.run found context
        ⟨captures.map .text, values.map fun v => (v.name, v.value)⟩ services) ∨
    ∃ suggester, p.suggester = some suggester ∧
      d.AsksSuggester c ⟨p.name, focused.value, values⟩ suggester context services := by
  rcases hanswers with ⟨found, captures, hroute, hkind⟩ | ⟨hroute, _, _, hasked⟩
  · left
    have hinputs : Inputs.ofInteraction context.interaction captures =
        ⟨captures.map .text, values.map fun v => (v.name, v.value)⟩ := by
      rw [Inputs.ofInteraction, hcontext]
      show (⟨captures.map .text, namedInputs (optionPath _ _).values⟩ : Inputs) = _
      rw [optionPath_completionAlong]
      rfl
    refine ⟨found, captures, hroute, hkind, ?_⟩
    rw [Dispatcher.dispatch, hcontext, hroute, ← hinputs]
  · right
    have htarget := h.suggestionTarget?_eq hc hp hfocused hname
    rw [optionPath_completionAlong, htarget] at hasked
    obtain ⟨suggester, hsuggester, -⟩ := Option.map_eq_some_iff.mp hasked
    rw [hsuggester] at htarget
    have hdispatch : d.dispatch context services =
        (d.suggest context (completionAlong c.path values) services, d) := by
      rw [Dispatcher.dispatch, hcontext, hroute]
    refine ⟨suggester, hsuggester, ?_⟩
    rw [Dispatcher.suggest, optionPath_completionAlong, htarget] at hdispatch
    constructor
    · intro hvalue
      rw [hdispatch]
      simp [Dispatcher.withoutCommand, hvalue]
    · intro fault hvalue
      rw [hdispatch]
      simp [Dispatcher.withoutCommand, hvalue]
    · rw [hdispatch]
      -- what is made of the value leaves nothing behind
      simp only [Option.map_some, Dispatcher.withoutCommand, Traced.trace_bind]
      cases (Dispatcher.askSuggester context ⟨p.name, focused.value, values⟩ suggester services).value with
      | ok _ => exact List.append_nil _
      | error fault => exact List.append_nil _
    · rw [hdispatch]
      exact ⟨rfl, rfl⟩

end Request

end Loaded

/-- **Suggestions, announced and given.** Take any dispatcher that loads and unloads lead to and that asks
suggesters, any parameter of a loaded slash command, and any values typed along the path of this command, of
which the first that is being typed is for the parameter.

One option describes the parameter. The request for suggestions is answered exactly when this option
announces it or the request leads to a command with a marker in its pattern or in a group above. What is
answered runs the command that is found or asks the suggester of the parameter; what is not answered ends with
the result that nothing fits. -/
theorem Reachable.answers_iff_announced {d : Dispatcher σ} (h : Reachable d)
    (hsuggesters : d.settings.useSuggesters = true) {c : Command σ} (hc : c ∈ d.slashCommands)
    {p : Parameter σ} (hp : p ∈ c.parameters) (values : List NamedValue) {focused : NamedValue}
    (hfocused : values.find? (·.focused) = some focused) (hname : focused.name = p.name) :
    ∃ q, optionsFor (describe d.catalog.roots) c.path p.name = [q] ∧
      (d.Answers (completionAlong c.path values) c p ↔
        q.option.autocomplete = true ∨
        ∃ found captures, d.route (.autocomplete (completionAlong c.path values)) = .command found captures ∧
          ∃ token ∈ found.groupPath ++ Text.splitSpaces found.name, ¬ d.settings.Literal token) ∧
      (d.Answers (completionAlong c.path values) c p → ∀ context : Context,
        context.interaction.payload = .autocomplete (completionAlong c.path values) → ∀ services,
          (∃ found captures, d.route (.autocomplete (completionAlong c.path values)) = .command found captures ∧
            found.kind = .autocomplete ∧ d.dispatch context services = d.run found context
              ⟨captures.map .text, values.map fun v => (v.name, v.value)⟩ services) ∨
          ∃ suggester, p.suggester = some suggester ∧
            d.AsksSuggester c ⟨p.name, focused.value, values⟩ suggester context services) ∧
      (¬ d.Answers (completionAlong c.path values) c p → ∀ context : Context,
        context.interaction.payload = .autocomplete (completionAlong c.path values) → ∀ services,
          d.dispatch context services =
            (Dispatcher.withoutCommand (do return .ok (← Dispatcher.unknown context
              (Text.joinSpaces (c.path ++ [p.name])) false)), d)) := by
  obtain ⟨⟨m, hm, hcommands⟩, hkind⟩ := Dispatcher.mem_slashCommands_iff.mp hc
  have hnames : ∀ name ∈ c.path ++ [p.name], isSlashName name = true :=
    List.forall_mem_append.mpr ⟨h.isSlashName_path hm hcommands hkind,
      List.forall_mem_singleton.mpr (h.isSlashName_parameter hm hcommands hkind p hp)⟩
  -- names of commands and parameters are lower case, so they are compared as they are
  have hone := h.optionsFor_eq hc hp
  rw [Text.map_lowercase_of_isSlashName hnames] at hone
  refine ⟨_, hone, ?_, fun hanswers context hcontext services =>
    h.dispatch_of_answers hc hp hfocused hname hanswers hcontext services, fun hnone context hcontext services =>
    h.dispatch_of_not_answers hsuggesters hc hp hfocused hname hnone hcontext services⟩
  rw [h.answers_iff hsuggesters hc hp hfocused hname, h.isSome_autocomplete_iff hnames]
  show _ ↔ (p.suggester.isSome || (suggestedPaths d.catalog.modules).contains (c.path ++ [p.name])) = true ∨ _
  simp only [Dispatcher.route_completionAlong_iff hfocused, hname, Bool.or_eq_true, List.contains_iff_mem]
  exact or_right_comm.trans (or_congr_left or_comm)

namespace Sample

/-- Suggestions for whatever is typed into the command. -/
def titles : CommandDecl Unit where
  kind := .autocomplete
  name := "play *"
  handler := some handler

def radio : ModuleDecl Unit :=
  ⟨"host::Radio", "Radio", some ⟨"music", "Songs"⟩, true, [], [play, titles], [], construct "host::Radio"⟩

def tuned : Dispatcher Unit := ((Dispatcher.new {} id).change (.load [radio])).2

theorem reachable_tuned : Reachable tuned := (Reachable.new {} id).change _

theorem exists_song : ∃ c ∈ tuned.slashCommands, c.path = ["music", "play"] ∧
    ∃ p ∈ c.parameters, p.name = "song" ∧ p.suggester = none :=
  ⟨_, List.mem_cons_self, rfl, _, List.mem_cons_self, rfl, rfl⟩

/-- The song is being typed. -/
def typing : NamedValue := ⟨"song", .text "Dai", true⟩

def typingContext : Context :=
  ⟨⟨⟨1⟩, ⟨⟨1⟩, "ada"⟩, none, none, .autocomplete (completionAlong ["music", "play"] [typing])⟩, none⟩

theorem autocomplete_song : (optionsFor (describe tuned.catalog.roots) ["music", "play"] "song").map
    (·.option.autocomplete) = [false] := by
  decide +kernel

/-- Yet the pattern is found for it. -/
theorem exists_find?_song : ∃ found captures,
    tuned.catalog.routers.autocomplete.find? ["music", "play", "song"] = some (found, captures) ∧
      found.kind = .autocomplete ∧ found.groupPath = ["music"] ∧ found.name = "play *" ∧
        captures = ["song"] := by
  have hfound : (tuned.catalog.routers.autocomplete.find? ["music", "play", "song"]).map
      (fun found => (found.1.kind, found.1.groupPath, found.1.name, found.2)) =
      some (.autocomplete, ["music"], "play *", ["song"]) := by decide +kernel
  obtain ⟨⟨found, captures⟩, hfind, heq⟩ := Option.map_eq_some_iff.mp hfound
  obtain ⟨hkind, heq⟩ := Prod.mk.inj heq
  obtain ⟨hgroups, heq⟩ := Prod.mk.inj heq
  obtain ⟨hname, hcaptures⟩ := Prod.mk.inj heq
  exact ⟨found, captures, hfind, hkind, hgroups, hname, hcaptures⟩

end Sample

/-- The request is answered by the pattern, but not announced. The command that is found is run, and the word that
its marker stands for is handed to it in front of what has been typed. -/
theorem answers_iff_announced_tuned :
    Reachable Sample.tuned ∧ ∃ c ∈ Sample.tuned.slashCommands, ∃ p ∈ c.parameters,
      c.path = ["music", "play"] ∧ p.name = "song" ∧
      Sample.tuned.Answers (completionAlong c.path [Sample.typing]) c p ∧
      (∃ q, optionsFor (describe Sample.tuned.catalog.roots) c.path p.name = [q] ∧
        q.option.autocomplete = false) ∧
      ∃ found : Command Unit, found.name = "play *" ∧ Sample.tuned.dispatch Sample.typingContext () =
        Sample.tuned.run found Sample.typingContext ⟨[.text "song"], [("song", .text "Dai")]⟩ () := by
  obtain ⟨c, hc, hpath, p, hp, hname, hnone⟩ := Sample.exists_song
  obtain ⟨found, captures, hfind, _, hgroups, hfoundName, rfl⟩ := Sample.exists_find?_song
  have hfocused : [Sample.typing].find? (·.focused) = some Sample.typing := rfl
  obtain ⟨q, hone, hanswers, hanswered, _⟩ := Reachable.answers_iff_announced Sample.reachable_tuned rfl hc hp
    [Sample.typing] hfocused hname.symm
  have hroute : Sample.tuned.route (.autocomplete (completionAlong c.path [Sample.typing])) =
      .command found ["song"] := by
    rw [Dispatcher.route_completionAlong_iff hfocused, hpath]
    exact hfind
  have hpattern : ∃ token ∈ found.groupPath ++ Text.splitSpaces found.name,
      ¬ Sample.tuned.settings.Literal token := by
    rw [hgroups, hfoundName]
    exact ⟨"*", by decide, fun hliteral => hliteral "*" rfl (by decide) (List.infix_refl _)⟩
  have hflag := Sample.autocomplete_song
  rw [← hpath, ← hname, hone] at hflag
  have hall : Sample.tuned.Answers (completionAlong c.path [Sample.typing]) c p :=
    hanswers.mpr (.inr ⟨found, _, hroute, hpattern⟩)
  refine ⟨Sample.reachable_tuned, c, hc, p, hp, hpath, hname, hall, ⟨q, hone, List.singleton_inj.mp hflag⟩,
    found, hfoundName, ?_⟩
  have hcontext : Sample.typingContext.interaction.payload =
      .autocomplete (completionAlong c.path [Sample.typing]) := by
    rw [hpath]
    rfl
  -- the song has no suggester, so the command is what answers
  rcases hanswered hall _ hcontext () with ⟨other, others, hother, _, hdispatch⟩ | ⟨_, hsuggester, _⟩
  · cases hroute.symm.trans hother
    exact hdispatch
  · cases hnone.symm.trans hsuggester

/-- **What is answered need not be announced**, though one option describes the parameter and suggesters are
asked. -/
theorem exists_answers_not_announced :
    ∃ d : Dispatcher Unit, Reachable d ∧ d.settings.useSuggesters = true ∧
      ∃ c ∈ d.slashCommands, ∃ p ∈ c.parameters, ∃ focused : NamedValue, focused.focused = true ∧
        focused.name = p.name ∧ d.Answers (completionAlong c.path [focused]) c p ∧
        (optionsFor (describe d.catalog.roots) c.path p.name).map (·.option.autocomplete) = [false] := by
  obtain ⟨c, hc, hpath, p, hp, hname, _⟩ := Sample.exists_song
  obtain ⟨found, captures, hfind, hkind, _⟩ := Sample.exists_find?_song
  have hfocused : [Sample.typing].find? (·.focused) = some Sample.typing := rfl
  refine ⟨Sample.tuned, Sample.reachable_tuned, rfl, c, hc, p, hp, Sample.typing, rfl, hname.symm,
    .inl ⟨found, captures, ?_, hkind⟩, ?_⟩
  · rw [Dispatcher.route_completionAlong_iff hfocused, hpath]
    exact hfind
  · rw [hpath, hname]
    exact Sample.autocomplete_song

end ChatDispatch
