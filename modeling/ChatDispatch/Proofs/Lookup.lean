import ChatDispatch.Proofs.Lists
import ChatDispatch.Proofs.RouterOrder
import Mathlib.Data.List.Forall2

/-!
# Look-up as a search through all routes

Look-up descends the tree and goes back when a branch fails. Here it is compared with a search that
knows nothing of branches: list all routes of the tree and take the first that fits the tokens.

* **`Route.Fits`**, **`Route.captured`** — when a route fits tokens, and what its wildcards capture.
* **`Node.Listing`** — a list of all routes of a tree in the order of preference: at every node what
  stands under exact segments comes first, in any order, then what stands under wildcards, in theirs.
* **`Node.find?_eq_firstFitting`** — below an ordered node, look-up is the search through any such list.
* **`Node.lookUp`**, **`Node.lookUp_eq`** — the search that keeps one list of captures and cuts it back where it
  goes back. It finds what look-up finds.
* **`find?_eq_first_fitting`** — the headline, for every router that inserts lead to.
-/

namespace ChatDispatch.Router

variable {α β : Type}

/-! ## Routes

A route is judged by itself: by its segments and the tokens, and by nothing else that is in the tree. -/

/-- The segment accepts the token: it names it, or its pattern matches it. -/
def Segment.Accepts (segment : Segment) (token : String) : Prop :=
  match segment with
  | .exact key => Text.lowercase token = key
  | .wildcard _ literals => (matchLiterals literals token.toList).isSome = true

instance : DecidableRel Segment.Accepts
  | .exact key, token => inferInstanceAs (Decidable (Text.lowercase token = key))
  | .wildcard _ literals, token =>
    inferInstanceAs (Decidable ((matchLiterals literals token.toList).isSome = true))

/-- The captures of a wildcard in a token that it matches; an exact segment has none. -/
def Segment.captured (segment : Segment) (token : String) : List String :=
  match segment with
  | .exact _ => []
  | .wildcard _ literals => ((matchLiterals literals token.toList).getD []).map String.ofList

/-- A route of a tree: the segments from the root on, and the command at its end. -/
structure Route (α : Type) where
  segments : List Segment
  command : α

namespace Route

/-- The route has a segment for each token, which accepts it. -/
def Fits (r : Route α) (tokens : List String) : Prop :=
  List.Forall₂ Segment.Accepts r.segments tokens

instance (r : Route α) (tokens : List String) : Decidable (r.Fits tokens) :=
  inferInstanceAs (Decidable (List.Forall₂ Segment.Accepts r.segments tokens))

/-- The captures of the wildcards of a route, from left to right. -/
def captured (r : Route α) (tokens : List String) : List String :=
  (r.segments.zip tokens).flatMap fun (segment, token) => segment.captured token

/-- The route that leads through a segment to the start of another route. -/
def under (segment : Segment) (r : Route α) : Route α where
  segments := segment :: r.segments
  command := r.command

end Route

/-- The first of the routes that fits the tokens: its command and its captures. -/
def firstFitting (routes : List (Route α)) (tokens : List String) : Option (α × List String) :=
  (routes.find? fun r => r.Fits tokens).map fun r => (r.command, r.captured tokens)

/-! ## The routes of a tree

A list of routes leaves open in which order exact segments come, because at most one of them can accept a token.
For wildcards the order is that of the tree, and it decides what is found. -/

/-- What stands at a node, by segment: commands and further nodes. -/
def Node.entries (node : Node α) : List (Segment × (α ⊕ Node α)) :=
  node.commands.map (fun (segment, command) => (segment, .inl command)) ++
    node.children.map fun (segment, child) => (segment, .inr child)

mutual

/-- The list holds all routes below the node, those through exact segments before those through
wildcards. Exact segments come in any order, wildcards in that of the node. -/
inductive Node.Listing : Node α → List (Route α) → Prop where
  | intro {node : Node α} {exacts : List (Segment × (α ⊕ Node α))} {routes : List (Route α)}
      (hexacts : exacts.Perm (node.entries.filter (·.1.isExact)))
      (hroutes : EntriesListing (exacts ++ node.entries.filter (!·.1.isExact)) routes) :
      Node.Listing node routes

/-- The list holds all routes through the entries, in the order of the entries. -/
inductive EntriesListing : List (Segment × (α ⊕ Node α)) → List (Route α) → Prop where
  | nil : EntriesListing [] []
  | command {segment : Segment} {command : α} {entries : List (Segment × (α ⊕ Node α))}
      {routes : List (Route α)} (hrest : EntriesListing entries routes) :
      EntriesListing ((segment, .inl command) :: entries) (⟨[segment], command⟩ :: routes)
  | child {segment : Segment} {child : Node α} {entries : List (Segment × (α ⊕ Node α))}
      {below routes : List (Route α)} (hchild : Node.Listing child below)
      (hrest : EntriesListing entries routes) :
      EntriesListing ((segment, .inr child) :: entries) (below.map (Route.under segment) ++ routes)

end

/-! ## Searching lists of routes

How the first route that fits is found follows the way in which the list is put together: one list behind another,
and all routes through one segment. -/

/-- What a segment answers to a token, in terms of acceptance and captures. -/
theorem Segment.captures?_eq (segment : Segment) (token : String) :
    segment.captures? token =
      if segment.Accepts token then some (segment.captured token) else none := by
  cases segment with
  | exact key => rfl
  | wildcard source literals =>
    by_cases haccepts : (wildcard source literals).Accepts token
    · rw [if_pos haccepts]
      obtain ⟨captures, hmatch⟩ := Option.isSome_iff_exists.mp haccepts
      simp only [captures?, captured, hmatch, Option.map_some, Option.getD_some]
    · rw [if_neg haccepts]
      have hmatch := Option.not_isSome_iff_eq_none.mp haccepts
      simp only [captures?, hmatch, Option.map_none]

/-- The first segment of a route decides about the first token, and the rest about the others. -/
theorem Route.fits_under_cons {segment : Segment} {r : Route α} {token : String}
    {tokens : List String} :
    (r.under segment).Fits (token :: tokens) ↔ segment.Accepts token ∧ r.Fits tokens :=
  List.forall₂_cons

theorem Route.not_fits_under_nil {segment : Segment} {r : Route α} :
    ¬ (r.under segment).Fits [] := by
  intro h
  cases h

/-- In two lists, the second one counts where nothing in the first one fits. -/
theorem firstFitting_append (routes others : List (Route α)) (tokens : List String) :
    firstFitting (routes ++ others) tokens =
      (firstFitting routes tokens).or (firstFitting others tokens) := by
  simp only [firstFitting, List.find?_append]
  cases routes.find? fun r => r.Fits tokens with
  | none => rfl
  | some r => rfl

/-- No route leads through a segment without a token for it. -/
theorem firstFitting_under_nil (segment : Segment) (routes : List (Route α)) :
    firstFitting (routes.map (Route.under segment)) [] = none := by
  rw [firstFitting, Option.map_eq_none_iff, List.find?_eq_none]
  intro r hr
  obtain ⟨r, _, rfl⟩ := List.mem_map.mp hr
  simpa using Route.not_fits_under_nil

/-- The first of the routes through a segment that fits goes on with the first that fits the rest. -/
theorem firstFitting_under_cons (segment : Segment) (routes : List (Route α)) (token : String)
    (tokens : List String) :
    firstFitting (routes.map (Route.under segment)) (token :: tokens) =
      (segment.captures? token).bind fun captured =>
        (firstFitting routes tokens).map fun (command, more) => (command, captured ++ more) := by
  rw [firstFitting, List.find?_map, Segment.captures?_eq]
  by_cases haccepts : segment.Accepts token
  · have hfits : ((fun r : Route α => decide (r.Fits (token :: tokens))) ∘ Route.under segment) =
        fun r => decide (r.Fits tokens) := by
      funext r
      simp only [Function.comp, Route.fits_under_cons, haccepts, true_and]
    rw [hfits, if_pos haccepts, firstFitting]
    cases routes.find? fun r => r.Fits tokens with
    | none => rfl
    | some r => rfl
  · rw [if_neg haccepts, Option.map_eq_none_iff.mpr]
    · rfl
    · rw [Option.map_eq_none_iff, List.find?_eq_none]
      intro r _
      simp [Route.fits_under_cons, haccepts]

/-! ## Look-up by entries

Commands and further nodes stand in two lists of a node, and look-up reads one of them, depending on whether a
token is the last. The search reads both as one list of entries. -/

/-- What look-up makes of one entry of a node. -/
def lookUpEntry (tokens : List String) : Segment × (α ⊕ Node α) → Option (α × List String)
  | (segment, .inl command) =>
    match tokens with
    | [token] => (segment.captures? token).map (command, ·)
    | _ => none
  | (segment, .inr child) =>
    match tokens with
    | [] => none
    | token :: rest =>
      (segment.captures? token).bind fun captured =>
        (child.find? rest).map fun (command, more) => (command, captured ++ more)

/-- The search through a command is the search through the one route that ends there. -/
theorem firstFitting_command (segment : Segment) (command : α) (tokens : List String) :
    firstFitting [⟨[segment], command⟩] tokens = lookUpEntry tokens (segment, .inl command) := by
  show firstFitting ([⟨[], command⟩].map (Route.under segment)) tokens = _
  cases tokens with
  | nil => exact firstFitting_under_nil _ _
  | cons token rest =>
    rw [firstFitting_under_cons]
    cases rest with
    | nil =>
      rw [lookUpEntry]
      cases segment.captures? token with
      | none => rfl
      | some captured =>
        show some (command, captured ++ []) = some (command, captured)
        rw [List.append_nil]
    | cons next rest =>
      show (segment.captures? token).bind (fun _ => none) = none
      cases segment.captures? token <;> rfl

/-- Through a list of entries, look-up is the search through the routes that the entries lead to, if
it is so below each of them. -/
theorem EntriesListing.findSome?_eq {tokens : List String}
    {entries : List (Segment × (α ⊕ Node α))} {routes : List (Route α)}
    (h : EntriesListing entries routes)
    (hbelow : ∀ segment child below, (segment, .inr child) ∈ entries → Node.Listing child below →
      ∀ token rest, tokens = token :: rest → child.find? rest = firstFitting below rest) :
    entries.findSome? (lookUpEntry tokens) = firstFitting routes tokens := by
  induction entries generalizing routes with
  | nil =>
    cases h
    rfl
  | cons entry entries ih =>
    have hrest : ∀ {others}, EntriesListing entries others →
        entries.findSome? (lookUpEntry tokens) = firstFitting others tokens := by
      intro others hothers
      apply ih hothers
      intro segment child below hmem
      exact hbelow segment child below (List.mem_cons_of_mem _ hmem)
    have hfirst : (entry :: entries).findSome? (lookUpEntry tokens) =
        (lookUpEntry tokens entry).or (entries.findSome? (lookUpEntry tokens)) := by
      rw [List.findSome?_cons]
      cases lookUpEntry tokens entry with
      | none => rfl
      | some found => rfl
    -- the first entry is a command, with one route, or a node, with the routes below it
    rw [hfirst]
    cases h with
    | @command segment command _ others hothers =>
      rw [hrest hothers, ← firstFitting_command, ← firstFitting_append]
      rfl
    | @child segment child _ below others hchild hothers =>
      rw [hrest hothers, firstFitting_append]
      congr 1
      cases tokens with
      | nil => exact (firstFitting_under_nil _ _).symm
      | cons token rest =>
        rw [firstFitting_under_cons, lookUpEntry,
          hbelow segment child below List.mem_cons_self hchild token rest rfl]

/-! ## The order of the entries

What is left to show of the entries is that their order need not be that of the node: exact segments may come
first, in any order. -/

theorem Node.find?_single (node : Node α) (token : String) :
    node.find? [token] =
      node.commands.findSome? fun branch => lookUpEntry [token] (branch.1, .inl branch.2) := rfl

/-- Several tokens are looked up among the nodes below. -/
theorem Node.find?_several (node : Node α) (token next : String) (rest : List String) :
    node.find? (token :: next :: rest) =
      node.children.findSome? fun branch =>
        lookUpEntry (token :: next :: rest) (branch.1, .inr branch.2) := by
  rw [Node.find?]
  congr 1
  funext ⟨segment, child⟩
  simp only [lookUpEntry, Option.bind_eq_bind, Option.pure_def, Option.map_eq_bind]
  rfl

/-- An exact entry answers only under the lower case of the first token. -/
theorem eq_exact_of_lookUpEntry {token : String} {rest : List String}
    {entry : Segment × (α ⊕ Node α)} (hexact : entry.1.isExact = true)
    (h : lookUpEntry (token :: rest) entry ≠ none) :
    entry.1 = .exact (Text.lowercase token) := by
  obtain ⟨segment, entry⟩ := entry
  cases segment with
  | wildcard => cases hexact
  | exact key =>
    by_cases hkey : Text.lowercase token = key
    · rw [hkey]
    · have hdeclined : (Segment.exact key).captures? token = none := if_neg hkey
      apply absurd _ h
      cases entry with
      | inl command => cases rest <;> simp only [lookUpEntry, hdeclined, Option.map_none]
      | inr child => simp only [lookUpEntry, hdeclined, Option.bind_none]

/-- What is read off the entries is read off the commands first, and then off the further nodes. -/
theorem filterMap_entries {δ : Type} (node : Node α) (p : Segment → Bool)
    (f : Segment × (α ⊕ Node α) → Option δ) :
    (node.entries.filter (p ·.1)).filterMap f =
      (node.commands.filter (p ·.1)).filterMap (fun branch => f (branch.1, .inl branch.2)) ++
        (node.children.filter (p ·.1)).filterMap fun branch => f (branch.1, .inr branch.2) := by
  rw [Node.entries, List.filter_append, List.filter_map, List.filter_map, List.filterMap_append,
    List.filterMap_map, List.filterMap_map]
  rfl

/-- Bringing exact segments to the front, in any order, changes no search that at most one of them can
answer. `branches` are those of the entries that can answer it at all. -/
theorem findSome?_arranged {γ δ : Type} {entries exacts : List (Segment × γ)}
    {branches : List (Segment × β)} {f : Segment × γ → Option δ} {g : Segment × β → Option δ}
    (key : String) (hordered : InOrder branches)
    (hexacts : exacts.Perm (entries.filter (·.1.isExact)))
    (hanswers : ∀ p : Segment → Bool,
      (entries.filter (p ·.1)).filterMap f = (branches.filter (p ·.1)).filterMap g)
    (hkey : ∀ branch : Segment × β, branch.1.isExact = true → g branch ≠ none →
      branch.1 = .exact key) :
    (exacts ++ entries.filter (!·.1.isExact)).findSome? f = branches.findSome? g := by
  -- the exact segments have one answer at most, and a list of one element has one order
  have hanswer : ((branches.filter (·.1.isExact)).filterMap g).length ≤ 1 := by
    apply (hordered.filter _).length_filterMap_le_one
    intro branch hbranch
    exact hkey branch (List.mem_filter.mp hbranch).2
  have hperm : (exacts.filterMap f).Perm ((branches.filter (·.1.isExact)).filterMap g) := by
    rw [← hanswers Segment.isExact]
    exact hexacts.filterMap f
  rw [← List.head?_filterMap, List.filterMap_append, eq_of_perm_of_length_le_one hperm hanswer,
    hanswers (!·.isExact), ← List.filterMap_append, ← hordered.eq_append, List.head?_filterMap]

/-- Look-up does not depend on the order in which the exact segments of a node are tried. -/
theorem Node.find?_eq_findSome?_arranged {node : Node α} (hordered : node.Ordered)
    {exacts : List (Segment × (α ⊕ Node α))}
    (hexacts : exacts.Perm (node.entries.filter (·.1.isExact))) (tokens : List String) :
    node.find? tokens =
      (exacts ++ node.entries.filter (!·.1.isExact)).findSome? (lookUpEntry tokens) := by
  obtain ⟨hcommands, hchildren, _⟩ := hordered
  match tokens with
  | [] =>
    rw [Node.find?, eq_comm, List.findSome?_eq_none_iff]
    rintro ⟨segment, command | child⟩ _
    · rfl
    · rfl
  | [token] =>
    rw [Node.find?_single]
    refine (findSome?_arranged (Text.lowercase token) hcommands hexacts ?_ ?_).symm
    · intro p
      -- nothing is found below a further node, because no token is left for it
      have hnone : (fun branch : Segment × Node α => lookUpEntry [token] (branch.1, .inr branch.2)) =
          fun _ => none := by
        funext branch
        exact Option.bind_eq_none_iff.mpr fun _ _ => rfl
      rw [filterMap_entries, hnone, List.filterMap_none, List.append_nil]
    · intro branch hexact hanswer
      exact eq_exact_of_lookUpEntry hexact hanswer
  | token :: next :: rest =>
    rw [Node.find?_several]
    refine (findSome?_arranged (Text.lowercase token) hchildren hexacts ?_ ?_).symm
    · intro p
      have hnone : (fun branch : Segment × α =>
          lookUpEntry (token :: next :: rest) (branch.1, .inl branch.2)) = fun _ => none := rfl
      rw [filterMap_entries, hnone, List.filterMap_none, List.nil_append]
    · intro branch hexact hanswer
      exact eq_exact_of_lookUpEntry hexact hanswer

/-! ## Look-up is the search

The statements about one node are put together along the tokens. -/

/-- Bringing entries into another order leaves the further nodes among them. -/
theorem Node.mem_children_of_mem_arranged {node : Node α} {exacts : List (Segment × (α ⊕ Node α))}
    (hexacts : exacts.Perm (node.entries.filter (·.1.isExact))) {segment : Segment} {child : Node α}
    (hmem : (segment, .inr child) ∈ exacts ++ node.entries.filter (!·.1.isExact)) :
    (segment, child) ∈ node.children := by
  have hentry : (segment, .inr child) ∈ node.entries := by
    rcases List.mem_append.mp hmem with hexact | hwildcard
    · exact (List.mem_filter.mp (hexacts.mem_iff.mp hexact)).1
    · exact (List.mem_filter.mp hwildcard).1
  rcases List.mem_append.mp hentry with hcommand | hchild
  · obtain ⟨_, _, heq⟩ := List.mem_map.mp hcommand
    cases heq
  · obtain ⟨branch, hbranch, heq⟩ := List.mem_map.mp hchild
    cases heq
    exact hbranch

/-- **One tree.** Below an ordered node, look-up is the search through its routes. -/
theorem Node.find?_eq_firstFitting {node : Node α} (hordered : node.Ordered)
    {routes : List (Route α)} (hlisting : node.Listing routes) (tokens : List String) :
    node.find? tokens = firstFitting routes tokens := by
  -- by the tokens, not by the tree: every step down takes one token
  induction tokens generalizing node routes with
  | nil =>
    obtain ⟨hexacts, hroutes⟩ := hlisting
    rw [Node.find?_eq_findSome?_arranged hordered hexacts]
    exact hroutes.findSome?_eq fun _ _ _ _ _ _ _ h => nomatch h
  | cons token tokens ih =>
    obtain ⟨hexacts, hroutes⟩ := hlisting
    rw [Node.find?_eq_findSome?_arranged hordered hexacts]
    apply hroutes.findSome?_eq
    intro segment child below hmem hchild _ _ heq
    cases heq
    obtain ⟨_, _, hbelow⟩ := hordered
    exact ih (hbelow _ (Node.mem_children_of_mem_arranged hexacts hmem)) hchild

/-- Routes can be listed through entries if they can be below each of them. -/
theorem exists_entriesListing {entries : List (Segment × (α ⊕ Node α))}
    (hbelow : ∀ segment child, (segment, .inr child) ∈ entries →
      ∃ routes, Node.Listing child routes) : ∃ routes, EntriesListing entries routes := by
  induction entries with
  | nil => exact ⟨[], .nil⟩
  | cons entry entries ih =>
    obtain ⟨routes, hroutes⟩ := ih fun segment child hmem =>
      hbelow segment child (List.mem_cons_of_mem _ hmem)
    obtain ⟨segment, command | child⟩ := entry
    · exact ⟨_, .command hroutes⟩
    · obtain ⟨below, hchild⟩ := hbelow segment child List.mem_cons_self
      exact ⟨_, .child hchild hroutes⟩

/-- All routes of a finite tree can be listed. -/
theorem Node.Ordered.exists_listing {node : Node α} (hordered : node.Ordered) :
    ∃ routes, node.Listing routes := by
  induction hordered with
  | @intro node _ _ _ ih =>
    have hexacts := List.Perm.refl (node.entries.filter (·.1.isExact))
    obtain ⟨routes, hroutes⟩ := exists_entriesListing fun segment child hmem =>
      ih (segment, child) (Node.mem_children_of_mem_arranged hexacts hmem)
    exact ⟨routes, .intro hexacts hroutes⟩

/-! ## Look-up with one list of captures

A search that goes back can keep one list of captures for all branches: a wildcard that accepts a token adds what
it captures, and when nothing is found behind it the list is cut back to the length that it had. Exact segments
are found by their key. -/

/-- What has become of the list of captures when a search in a branch is over: what was found has added its own
captures, and a search that found nothing has left the list as it was. -/
def withFound (captures : List String) : Option (α × List String) → Option α × List String
  | some (command, captured) => (some command, captures ++ captured)
  | none => (none, captures)

/-- Goes through wildcards in turn up to one behind which something is found. -/
def tryInTurn (below : β → List String → Option α × List String) (token : String) :
    (wildcards : List (Segment × β)) → (captures : List String) → Option α × List String
  | [], captures => (none, captures)
  | (segment, branch) :: others, captures =>
    match segment.captures? token with
    | none => tryInTurn below token others captures
    | some captured =>
      match below branch (captures ++ captured) with
      | (some command, captures) => (some command, captures)
      | (none, left) => tryInTurn below token others (left.take captures.length)

/-- The command of the first route below the node that fits the tokens. The list of captures is given back as it
is left, whether a command is found or not. -/
def Node.lookUp : (tokens : List String) → Node α → (captures : List String) → Option α × List String
  | [], _, captures => (none, captures)
  | [token], node, captures =>
    match node.commands.lookup (.exact (Text.lowercase token)) with
    | some command => (some command, captures)
    | none =>
      withFound captures <| (node.commands.filter (!·.1.isExact)).findSome? fun (segment, command) =>
        (segment.captures? token).map (command, ·)
  | token :: next :: rest, node, captures =>
    let named :=
      match node.children.lookup (.exact (Text.lowercase token)) with
      | some child => lookUp (next :: rest) child captures
      | none => (none, captures)
    match named with
    | (some command, captures) => (some command, captures)
    | (none, captures) =>
      tryInTurn (fun child captures => lookUp (next :: rest) child captures) token
        (node.children.filter (!·.1.isExact)) captures

/-- An exact segment that takes another place than the one named by a token does not accept it. -/
theorem Segment.captures?_eq_none_of_apart {token : String} {segment : Segment} (hexact : segment.isExact = true)
    (hapart : (exact (Text.lowercase token)).samePlace segment = false) : segment.captures? token = none := by
  cases segment with
  | wildcard source literals => cases hexact
  | exact key =>
    apply if_neg
    intro heq
    simp [samePlace, heq] at hapart

/-- Among branches in order, only the one that is named by a token answers for an exact segment. -/
theorem findSome?_exact {γ : Type} {branches : List (Segment × β)} (hordered : InOrder branches) (token : String)
    (f : β → List String → Option γ) :
    (branches.filter (·.1.isExact)).findSome? (fun branch => (branch.1.captures? token).bind (f branch.2)) =
      (branches.lookup (.exact (Text.lowercase token))).bind (f · []) := by
  induction branches with
  | nil => rfl
  | cons branch branches ih =>
    rw [InOrder, List.map_cons, List.pairwise_cons] at hordered
    obtain ⟨segment, b⟩ := branch
    have hrest := ih hordered.2
    cases segment with
    | wildcard source literals =>
      rw [List.filter_cons_of_neg Bool.false_ne_true, List.lookup_cons]
      exact hrest
    | exact key =>
      rw [List.filter_cons_of_pos rfl, List.findSome?_cons, List.lookup_cons]
      by_cases hkey : Text.lowercase token = key
      · subst hkey
        -- no other segment has this key, so nothing else answers if this branch does not
        have hnone : (branches.filter (·.1.isExact)).findSome?
            (fun branch => (branch.1.captures? token).bind (f branch.2)) = none := by
          rw [List.findSome?_eq_none_iff]
          intro other hother
          obtain ⟨hother, hexact⟩ := List.mem_filter.mp hother
          have hapart := (hordered.1 other.1 (List.mem_map_of_mem hother)).2
          rw [Segment.captures?_eq_none_of_apart hexact hapart, Option.bind_none]
        have hnamed : (Segment.exact (Text.lowercase token)).captures? token = some [] := if_pos rfl
        simp only [hnamed, Option.bind_some, beq_self_eq_true, hnone]
        cases f b [] <;> rfl
      · have hdeclined : (Segment.exact key).captures? token = none := if_neg hkey
        have hne : (Segment.exact (Text.lowercase token) == .exact key) = false := by simpa using hkey
        simp only [hdeclined, Option.bind_none, hne]
        exact hrest

/-- If the search behind each wildcard gives its list back as it should, so does the search through the wildcards.
It finds what the first of them leads to behind which something is found. -/
theorem tryInTurn_eq {below : β → List String → Option α × List String} {f : β → Option (α × List String)}
    {token : String} {wildcards : List (Segment × β)}
    (hbelow : ∀ branch ∈ wildcards, ∀ captures, below branch.2 captures = withFound captures (f branch.2))
    (captures : List String) :
    tryInTurn below token wildcards captures = withFound captures (wildcards.findSome? fun branch =>
      (branch.1.captures? token).bind fun captured =>
        (f branch.2).map fun (command, more) => (command, captured ++ more)) := by
  induction wildcards with
  | nil => rfl
  | cons branch others ih =>
    obtain ⟨hfirst, hothers⟩ := List.forall_mem_cons.mp hbelow
    obtain ⟨segment, b⟩ := branch
    rw [tryInTurn, List.findSome?_cons]
    cases hcaptured : segment.captures? token with
    | none => exact ih hothers
    | some captured =>
      simp only [hfirst, Option.bind_some]
      cases f b with
      | some found =>
        simp only [withFound, Option.map_some, List.append_assoc]
      | none =>
        -- what this wildcard has added is cut off again
        simp only [withFound, Option.map_none, List.take_left']
        exact ih hothers

/-- A search through branches in order asks the branch named by a token first, and then the wildcards. -/
theorem findSome?_eq_or {γ : Type} {branches : List (Segment × β)} (hordered : InOrder branches) (token : String)
    (f : β → List String → Option γ) :
    branches.findSome? (fun branch => (branch.1.captures? token).bind (f branch.2)) =
      ((branches.lookup (.exact (Text.lowercase token))).bind (f · [])).or
        ((branches.filter (!·.1.isExact)).findSome? fun branch =>
          (branch.1.captures? token).bind (f branch.2)) := by
  rw [← findSome?_exact hordered]
  conv_lhs => rw [hordered.eq_append, List.findSome?_append]

/-- **One token** is looked up among the commands of a node, with one list of captures or without. -/
theorem Node.lookUp_single {node : Node α} (hcommands : InOrder node.commands) (token : String)
    (captures : List String) : node.lookUp [token] captures = withFound captures (node.find? [token]) := by
  have hfind : node.find? [token] = node.commands.findSome? fun branch =>
      (branch.1.captures? token).bind fun captured => some (branch.2, captured) := by
    simp only [find?, Option.map_eq_bind]
    rfl
  rw [hfind, findSome?_eq_or hcommands token fun command captured => some (command, captured), lookUp]
  cases node.commands.lookup (.exact (Text.lowercase token)) with
  | some command => exact congrArg (some command, ·) (List.append_nil captures).symm
  | none =>
    simp only [Option.bind_none, Option.none_or, Option.map_eq_bind]
    rfl

/-- **Several tokens** are looked up among the nodes below, and the list of captures is right behind the first
token if it is right below each of these nodes. -/
theorem Node.lookUp_several {node : Node α} (hchildren : InOrder node.children) {token next : String}
    {rest : List String} (hbelow : ∀ branch ∈ node.children, ∀ captures,
      branch.2.lookUp (next :: rest) captures = withFound captures (branch.2.find? (next :: rest)))
    (captures : List String) :
    node.lookUp (token :: next :: rest) captures =
      withFound captures (node.find? (token :: next :: rest)) := by
  have hfind : node.find? (token :: next :: rest) = node.children.findSome? fun branch =>
      (branch.1.captures? token).bind fun captured =>
        (branch.2.find? (next :: rest)).map fun (command, more) => (command, captured ++ more) := by
    simp only [find?, Option.bind_eq_bind, Option.pure_def, Option.map_eq_bind]
    rfl
  -- the list may have any length here, as the branch that is named may have been tried before
  have hwildcards : ∀ captures, tryInTurn (fun child captures => lookUp (next :: rest) child captures) token
      (node.children.filter (!·.1.isExact)) captures =
      withFound captures ((node.children.filter (!·.1.isExact)).findSome? fun branch =>
        (branch.1.captures? token).bind fun captured =>
          (branch.2.find? (next :: rest)).map fun (command, more) => (command, captured ++ more)) :=
    tryInTurn_eq fun branch hbranch => hbelow branch (List.mem_filter.mp hbranch).1
  have hsearch := findSome?_eq_or (γ := α × List String) hchildren token fun child captured =>
    (find? (next :: rest) child).map fun (command, more) => (command, captured ++ more)
  rw [hfind, hsearch, lookUp]
  cases hnamed : node.children.lookup (.exact (Text.lowercase token)) with
  | none => exact hwildcards captures
  | some child =>
    have hmem : (.exact (Text.lowercase token), child) ∈ node.children := by
      obtain ⟨front, back, heq, -⟩ := List.lookup_eq_some_iff.mp hnamed
      rw [heq]
      exact List.mem_append_right _ List.mem_cons_self
    simp only [hbelow _ hmem, Option.bind_some]
    cases child.find? (next :: rest) with
    | some found => rfl
    | none => exact hwildcards captures

/-- **One list of captures.** Below an ordered node, the search with one list finds what look-up finds, and the list
ends as it began but for the captures of what is found. -/
theorem Node.lookUp_eq {node : Node α} (hordered : node.Ordered) (tokens captures : List String) :
    node.lookUp tokens captures = withFound captures (node.find? tokens) := by
  -- by the tokens, with any list of captures, because each wildcard on the way adds to it
  induction tokens generalizing node captures with
  | nil => rfl
  | cons token tokens ih =>
    obtain ⟨hcommands, hchildren, hbelow⟩ := hordered
    cases tokens with
    | nil => exact Node.lookUp_single hcommands token captures
    | cons next rest =>
      exact Node.lookUp_several hchildren (fun branch hbranch => ih (hbelow branch hbranch)) captures

/-! ## Routers

Inserts keep the nodes in order, whatever is inserted and whether it is refused or not. -/

/-- **Every router.** Whatever has been inserted, the routes can be listed in the order of preference.
In any such list the first route that fits the tokens is the one found, with the captures of its own
wildcards and no others; nothing is found exactly when no route fits, and for no tokens at all. A search that
keeps one list of captures finds the same. It adds the captures of what it finds to the list, and leaves the
list as it was when it finds nothing. -/
theorem find?_eq_first_fitting (delimiters : List Char) (marker : Option String)
    (inserts : List (List String × α)) (tokens : List String) :
    (∃ routes, ((empty delimiters marker).insertAll inserts).root.Listing routes) ∧
    (∀ routes, ((empty delimiters marker).insertAll inserts).root.Listing routes →
      ((empty delimiters marker).insertAll inserts).find? tokens =
        ((routes.find? fun r => r.Fits tokens).map fun r => (r.command, r.captured tokens)) ∧
      (((empty delimiters marker).insertAll inserts).find? tokens = none ↔
        ∀ r ∈ routes, ¬ r.Fits tokens) ∧
      ((empty delimiters marker).insertAll inserts).find? [] = none) ∧
    ∀ captures, ((empty delimiters marker).insertAll inserts).root.lookUp tokens captures =
      withFound captures (((empty delimiters marker).insertAll inserts).find? tokens) := by
  have hordered : ((empty delimiters marker).insertAll inserts).root.Ordered :=
    ordered_insertAll Node.ordered_empty inserts
  refine ⟨hordered.exists_listing, ?_, Node.lookUp_eq hordered tokens⟩
  intro routes hlisting
  have hfind := Node.find?_eq_firstFitting hordered hlisting
  refine ⟨hfind tokens, ?_, rfl⟩
  rw [find?, hfind, firstFitting, Option.map_eq_none_iff, List.find?_eq_none]
  simp only [decide_eq_true_eq]

/-- A router with two wildcards that accept the same tokens. -/
def sample : Router Nat :=
  (empty [':'] (some "*")).insertAll [(["a", "x"], 1), (["p*", "y"], 2), (["*", "z"], 3)]

/-- The first wildcard accepts the first token and captures in it, but leads nowhere. The second one
answers, and what the first one has captured is gone, also from a list of captures that was there before. -/
theorem find?_abandons_branch :
    sample.root.Listing
      [⟨[.exact "a", .exact "x"], 1⟩, ⟨[.wildcard "p*" [['p'], []], .exact "y"], 2⟩,
        ⟨[.wildcard "*" [[], []], .exact "z"], 3⟩] ∧
    sample.find? ["pq", "z"] = some (3, ["pq"]) ∧
    sample.root.lookUp ["pq", "z"] ["before"] = (some 3, ["before", "pq"]) ∧
    sample.root.lookUp ["pq", "w"] ["before"] = (none, ["before"]) := by
  have hleaf : ∀ (key : String) (command : Nat), Node.Listing ⟨[(.exact key, command)], []⟩
      [⟨[.exact key], command⟩] := fun key command => .intro (.refl _) (.command .nil)
  have hlisting : sample.root.Listing
      [⟨[.exact "a", .exact "x"], 1⟩, ⟨[.wildcard "p*" [['p'], []], .exact "y"], 2⟩,
        ⟨[.wildcard "*" [[], []], .exact "z"], 3⟩] :=
    .intro (.refl _) (.child (hleaf "x" 1) (.child (hleaf "y" 2) (.child (hleaf "z" 3) .nil)))
  obtain ⟨_, hfind, hshared⟩ := find?_eq_first_fitting [':'] (some "*")
    [(["a", "x"], 1), (["p*", "y"], 2), (["*", "z"], 3)] ["pq", "z"]
  obtain ⟨_, hnone, hleft⟩ := find?_eq_first_fitting [':'] (some "*")
    [(["a", "x"], 1), (["p*", "y"], 2), (["*", "z"], 3)] ["pq", "w"]
  have hfound : sample.find? ["pq", "z"] = some (3, ["pq"]) := by
    rw [sample, (hfind _ hlisting).1]
    decide
  have hlost : sample.find? ["pq", "w"] = none := by
    rw [sample, (hnone _ hlisting).2.1]
    decide
  refine ⟨hlisting, hfound, ?_, ?_⟩
  · rw [sample, hshared, ← sample, hfound]
    rfl
  · rw [sample, hleft, ← sample, hlost]
    rfl

end ChatDispatch.Router
