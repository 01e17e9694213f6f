import ChatDispatch.Proofs.Lookup

/-!
# The routes of a tree as a set

What is found in a tree depends on the routes in it and on their order. This module is about the set:
which routes a tree has, and what one insert does to them.

* **`Node.Has`** — the tree has a route, with the segments that it stores and the command at the end.
* **`Node.placed`** — the segments under which a route would be stored. Up to its last segment, a route
  goes along the segments that the tree has already.
* **`Node.has_insert?_iff`** — an insert adds the route under these segments and nothing else.
* **`Node.insert?_eq_none_iff`** — an insert is refused exactly when a route takes the same places.
* **`Node.exists_of_find?`**, **`Node.isSome_find?_iff`** — look-up answers with a route that fits, and
  answers whenever one does.
* **`Node.find?_of_has_exact`** — a route without wildcards is found by its tokens.
-/

namespace ChatDispatch.Router

variable {α β : Type}

/-! ## Places

To take the same place is an equivalence: exact segments take it when they are equal, wildcards when they are
equal up to case. -/

/-- Every segment takes its own place. -/
@[simp] theorem Segment.samePlace_self (s : Segment) : s.samePlace s = true := by
  cases s with
  | exact key => exact beq_self_eq_true key
  | wildcard source _ => exact beq_self_eq_true source

theorem Segment.samePlace_symm {s t : Segment} (h : s.samePlace t = true) :
    t.samePlace s = true := by
  rw [samePlace_comm]
  exact h

theorem Segment.samePlace_trans {s t u : Segment} (hst : s.samePlace t = true)
    (htu : t.samePlace u = true) : s.samePlace u = true := by
  cases s <;> cases t <;> cases u <;> simp_all [samePlace]

/-- What takes the place of one of two segments that take the same place takes that of the other. -/
theorem Segment.samePlace_congr_right {s t : Segment} (u : Segment) (h : s.samePlace t = true) :
    u.samePlace s = u.samePlace t := by
  rw [Bool.eq_iff_iff]
  exact ⟨fun hs => samePlace_trans hs h, fun ht => samePlace_trans ht (samePlace_symm h)⟩

/-- An exact segment and a wildcard never take the same place. -/
theorem Segment.isExact_eq_of_samePlace {s t : Segment} (h : s.samePlace t = true) :
    s.isExact = t.isExact := by
  cases s <;> cases t <;> simp_all [samePlace, isExact]

/-- Two exact segments that take the same place are the same. -/
theorem Segment.eq_of_samePlace_of_isExact {s t : Segment} (h : s.samePlace t = true)
    (hexact : s.isExact = true) : s = t := by
  cases s with
  | wildcard => cases hexact
  | exact key =>
    cases t with
    | wildcard => cases h
    | exact other => exact congrArg Segment.exact (beq_iff_eq.mp h)

/-- Tokens whose segments take the same place are equal up to case. -/
theorem Segment.samePlace_ofToken {marker : Option String} {token other : String}
    (h : (Segment.ofToken marker other).samePlace (.ofToken marker token) = true) :
    Text.lowercase other = Text.lowercase token := by
  cases marker with
  | none => exact beq_iff_eq.mp h
  | some marker =>
    rw [ofToken, ofToken] at h
    split at h <;> split at h
    all_goals simp_all [samePlace]

/-- Two routes take the same place, segment by segment. -/
def SamePlaces (segments others : List Segment) : Prop :=
  List.Forall₂ (fun s t => s.samePlace t = true) segments others

theorem SamePlaces.refl (segments : List Segment) : SamePlaces segments segments :=
  List.forall₂_same.mpr fun s _ => s.samePlace_self

theorem SamePlaces.symm {segments others : List Segment} (h : SamePlaces segments others) :
    SamePlaces others segments :=
  h.flip.imp fun _ _ => Segment.samePlace_symm

/-- Taking the same places is transitive. -/
theorem SamePlaces.trans {segments others further : List Segment} (h : SamePlaces segments others)
    (h' : SamePlaces others further) : SamePlaces segments further := by
  induction h generalizing further with
  | nil => exact h'
  | cons hs _ ih =>
    obtain ⟨t, rest, ht, hrest, rfl⟩ := List.forall₂_cons_left_iff.mp h'
    exact .cons (Segment.samePlace_trans hs ht) (ih hrest)

/-! ## Branches

In an ordered list one branch at most takes a place. So an insert changes this branch alone, or adds one. -/

/-- What stands around a branch of an ordered list takes another place. -/
theorem InOrder.samePlace_eq_false_around {front back : List (Segment × β)} {stored segment : Segment}
    {b : β} (h : InOrder (front ++ (stored, b) :: back)) (hstored : stored.samePlace segment = true) :
    ∀ branch ∈ front ++ back, branch.1.samePlace segment = false := by
  rw [InOrder, List.map_append, List.map_cons, List.pairwise_append, List.pairwise_cons] at h
  obtain ⟨_, ⟨hback, _⟩, hfront⟩ := h
  intro branch hbranch
  rw [← Segment.samePlace_congr_right branch.1 hstored]
  rcases List.mem_append.mp hbranch with hmem | hmem
  · exact (hfront branch.1 (List.mem_map_of_mem hmem) stored List.mem_cons_self).2
  · rw [Segment.samePlace_comm]
    exact (hback branch.1 (List.mem_map_of_mem hmem)).2

/-- The place of a segment is taken by a branch or free. -/
theorem exists_branch_or_free (segment : Segment) (branches : List (Segment × β)) :
    (∃ front stored b back, branches = front ++ (stored, b) :: back ∧
      stored.samePlace segment = true) ∨
    ∀ branch ∈ branches, branch.1.samePlace segment = false := by
  by_cases hany : branches.any (·.1.samePlace segment) = true
  · left
    obtain ⟨⟨stored, b⟩, hmem, hstored⟩ := List.any_eq_true.mp hany
    obtain ⟨front, back, rfl⟩ := List.append_of_mem hmem
    exact ⟨front, stored, b, back, rfl, hstored⟩
  · exact .inr (forall_samePlace_eq_false hany)

/-- The branch that stands where the segment would is changed, and the others are left as they are. -/
theorem changeBranch_of_branch {front back : List (Segment × β)} {stored segment : Segment} {b fresh : β}
    {change : β → Option β} (h : InOrder (front ++ (stored, b) :: back))
    (hstored : stored.samePlace segment = true) :
    changeBranch segment fresh change (front ++ (stored, b) :: back) =
      (change b).map fun b' => front ++ (stored, b') :: back := by
  have hothers := h.samePlace_eq_false_around hstored
  -- what changes no branch leaves the list as it is
  have hkept : ∀ (f : Segment × β → Option (Segment × β)) (branches : List (Segment × β)),
      (∀ branch ∈ branches, f branch = some branch) → branches.mapM f = some branches := by
    intro f branches hf
    rw [mapM_eq_some_iff, List.forall₂_same]
    exact hf
  have hany : (front ++ (stored, b) :: back).any (·.1.samePlace segment) = true :=
    List.any_eq_true.mpr ⟨(stored, b), by simp, hstored⟩
  rw [changeBranch, if_pos hany, List.mapM_append, hkept _ front, List.mapM_cons, hkept _ back]
  · simp only [hstored, if_true]
    cases change b with
    | none => rfl
    | some b' => rfl
  · intro branch hmem
    simp only [hothers branch (List.mem_append_right _ hmem), Bool.false_eq_true, if_false]
  · intro branch hmem
    simp only [hothers branch (List.mem_append_left _ hmem), Bool.false_eq_true, if_false]

/-- A segment that takes no branch's place gets a branch of its own. -/
theorem changeBranch_of_free {branches : List (Segment × β)} {segment : Segment} {fresh : β}
    {change : β → Option β} (hfree : ∀ branch ∈ branches, branch.1.samePlace segment = false) :
    changeBranch segment fresh change branches = (change fresh).map (place segment · branches) := by
  have hany : ¬ branches.any (·.1.samePlace segment) = true := by
    rw [List.any_eq_true]
    rintro ⟨branch, hbranch, hsame⟩
    rw [hfree branch hbranch] at hsame
    cases hsame
  rw [changeBranch, if_neg hany]

/-- In an ordered list, what an exact segment answers comes first if no other exact segment answers. -/
theorem InOrder.findSome?_of_exact {γ : Type} {branches : List (Segment × β)}
    (h : InOrder branches) {key : String} {b : β} (hmem : (.exact key, b) ∈ branches)
    {f : Segment × β → Option γ} {c : γ} (hanswer : f (.exact key, b) = some c)
    (hkey : ∀ branch ∈ branches, branch.1.isExact = true → f branch ≠ none →
      branch.1 = .exact key) : branches.findSome? f = some c := by
  obtain ⟨front, back, rfl⟩ := List.append_of_mem hmem
  -- what stands before an exact segment is exact, and no other exact segment answers
  have hfront : front.findSome? f = none := by
    rw [List.findSome?_eq_none_iff]
    intro branch hbranch
    rw [InOrder, List.map_append, List.map_cons, List.pairwise_append] at h
    have hprecedes := h.2.2 branch.1 (List.mem_map_of_mem hbranch) (.exact key) List.mem_cons_self
    apply Classical.byContradiction
    intro hsome
    rw [hkey branch (List.mem_append_left _ hbranch) (hprecedes.1 rfl) hsome] at hprecedes
    simp [Segment.Precedes] at hprecedes
  rw [List.findSome?_append, hfront, Option.none_or, List.findSome?_cons, hanswer]

namespace Node

/-- **One step of an insert.** The rest of the route is inserted below the child that stands where the
first segment would, or below a new child. -/
theorem insert?_cons_cases {node : Node α} (hordered : node.Ordered) (segment next : Segment)
    (rest : List Segment) (command : α) :
    (∃ front stored child back, node.children = front ++ (stored, child) :: back ∧
      stored.samePlace segment = true ∧
      node.insert? (segment :: next :: rest) command =
        (child.insert? (next :: rest) command).map fun child' =>
          { node with children := front ++ (stored, child') :: back }) ∨
    (∀ branch ∈ node.children, branch.1.samePlace segment = false) ∧
      node.insert? (segment :: next :: rest) command =
        (empty.insert? (next :: rest) command).map fun child =>
          { node with children := place segment child node.children } := by
  obtain ⟨_, hchildren, _⟩ := hordered
  rcases exists_branch_or_free segment node.children with
    ⟨front, stored, child, back, heq, hstored⟩ | hfree
  · -- the child that takes the place is the one that changes
    refine .inl ⟨front, stored, child, back, heq, hstored, ?_⟩
    rw [heq] at hchildren
    rw [insert?, heq, changeBranch_of_branch hchildren hstored, Option.map_map]
    rfl
  · refine .inr ⟨hfree, ?_⟩
    rw [insert?, changeBranch_of_free hfree, Option.map_map]
    rfl

/-! ## The routes of a tree

A route is read off a tree along its segments. The tree stores the segments of the first route that came to a
place, and `placed` says how a later one is spelled with them. -/

/-- The tree below the node has the route. -/
inductive Has : Node α → Route α → Prop where
  | command {node : Node α} {segment : Segment} {command : α}
      (h : (segment, command) ∈ node.commands) : Has node ⟨[segment], command⟩
  | child {node child : Node α} {segment : Segment} {r : Route α}
      (h : (segment, child) ∈ node.children) (hbelow : Has child r) : Has node (r.under segment)

theorem not_has_nil {node : Node α} {command : α} : ¬ node.Has ⟨[], command⟩ := by
  intro h
  cases h

/-- A route ends at a command of the node, or goes on below a child. -/
theorem has_cons_iff {node : Node α} {segment : Segment} {segments : List Segment} {command : α} :
    node.Has ⟨segment :: segments, command⟩ ↔
      segments = [] ∧ (segment, command) ∈ node.commands ∨
      ∃ child, (segment, child) ∈ node.children ∧ child.Has ⟨segments, command⟩ := by
  constructor
  · intro h
    cases h with
    | command h => exact .inl ⟨rfl, h⟩
    | child h hbelow => exact .inr ⟨_, h, hbelow⟩
  · rintro (⟨rfl, h⟩ | ⟨child, h, hbelow⟩)
    · exact .command h
    · exact .child h hbelow

theorem not_has_empty {r : Route α} : ¬ (empty : Node α).Has r := by
  intro h
  cases h with
  | command h => cases h
  | child h => cases h

/-- The segments under which a route is stored. The last one is its own; before it, a segment whose
place is taken is stored as the segment that takes it. -/
def placed : (route : List Segment) → Node α → List Segment
  | [], _ => []
  | [last], _ => [last]
  | segment :: next :: rest, node =>
    match node.children.find? (·.1.samePlace segment) with
    | some (stored, child) => stored :: placed (next :: rest) child
    | none => segment :: next :: rest

/-- A route is stored along the child that takes the place of its first segment. -/
theorem placed_of_branch {node : Node α} {front back : List (Segment × Node α)}
    {stored segment next : Segment} {child : Node α} {rest : List Segment} (hordered : node.Ordered)
    (h : node.children = front ++ (stored, child) :: back)
    (hstored : stored.samePlace segment = true) :
    node.placed (segment :: next :: rest) = stored :: child.placed (next :: rest) := by
  obtain ⟨_, hchildren, _⟩ := hordered
  rw [h] at hchildren
  -- the places of a list are taken once, so no branch before this one takes this place
  have hfront : front.find? (·.1.samePlace segment) = none := by
    rw [List.find?_eq_none]
    intro branch hbranch
    rw [hchildren.samePlace_eq_false_around hstored branch (List.mem_append_left _ hbranch)]
    exact Bool.false_ne_true
  have hfind : node.children.find? (·.1.samePlace segment) = some (stored, child) := by
    rw [h, List.find?_append, hfront, Option.none_or, List.find?_cons, hstored]
  rw [placed, hfind]

/-- A route is stored as it is where nothing takes the place of its first segment. -/
theorem placed_of_free {node : Node α} {segment next : Segment} {rest : List Segment}
    (hfree : ∀ branch ∈ node.children, branch.1.samePlace segment = false) :
    node.placed (segment :: next :: rest) = segment :: next :: rest := by
  have hfind : node.children.find? (·.1.samePlace segment) = none := by
    rw [List.find?_eq_none]
    intro branch hbranch
    rw [hfree branch hbranch]
    exact Bool.false_ne_true
  rw [placed, hfind]

theorem placed_empty (route : List Segment) : (empty : Node α).placed route = route := by
  match route with
  | [] => rfl
  | [_] => rfl
  | _ :: _ :: _ => rfl

/-- A route is stored at its own place. -/
theorem samePlaces_placed (route : List Segment) (node : Node α) :
    SamePlaces (node.placed route) route := by
  induction route generalizing node with
  | nil => exact .nil
  | cons segment route ih =>
    cases route with
    | nil => exact .refl _
    | cons next rest =>
      rw [placed]
      cases hfind : node.children.find? (·.1.samePlace segment) with
      | none => exact .refl _
      | some branch =>
        have hstored : branch.1.samePlace segment = true := by simpa using List.find?_some hfind
        exact .cons hstored (ih branch.2)

/-! ## One insert

What an insert adds and when it is refused, both by induction along the route, one segment a step. -/

/-- **What an insert adds** is the route, under the segments at which the tree stores it. -/
theorem has_insert?_iff {node node' : Node α} {route : List Segment} {command : α} {r : Route α}
    (hordered : node.Ordered) (h : node.insert? route command = some node') :
    node'.Has r ↔ node.Has r ∨ r = ⟨node.placed route, command⟩ := by
  obtain ⟨segments, other⟩ := r
  rw [Route.mk.injEq]
  -- on the route, the node generalised; a route of the tree is read along with it
  induction route generalizing node node' segments with
  | nil => cases h
  | cons segment route ih =>
    cases segments with
    | nil =>
      have hplaced : (node.placed (segment :: route)).length = (segment :: route).length :=
        (samePlaces_placed _ _).length_eq
      constructor
      · intro hhas
        exact absurd hhas not_has_nil
      · rintro (hhas | ⟨heq, -⟩)
        · exact absurd hhas not_has_nil
        · rw [← heq] at hplaced
          cases hplaced
    | cons s segments =>
      cases route with
      | nil =>
        rw [insert?] at h
        split at h
        · cases h
        · cases h
          simp only [has_cons_iff, mem_place, placed, List.cons.injEq, Prod.mk.injEq]
          grind
      | cons next rest =>
        rcases insert?_cons_cases hordered segment next rest command with
          ⟨front, stored, child, back, hchildren, hstored, hinsert⟩ | ⟨hfree, hinsert⟩
        · rw [hinsert] at h
          obtain ⟨child', hchild', rfl⟩ := Option.map_eq_some_iff.mp h
          have hchild : child.Ordered := by
            obtain ⟨_, _, hbelow⟩ := hordered
            exact hbelow (stored, child) (by simp [hchildren])
          have hbelow := fun segments => ih hchild hchild' segments
          -- below the stored segment, which the tree keeps
          rw [placed_of_branch hordered hchildren hstored]
          simp only [has_cons_iff, hchildren, List.mem_append, List.mem_cons, Prod.mk.injEq,
            List.cons.injEq]
          grind
        · rw [hinsert] at h
          obtain ⟨child, hchild, rfl⟩ := Option.map_eq_some_iff.mp h
          have hbelow := fun segments => ih ordered_empty hchild segments
          simp only [not_has_empty, placed_empty, false_or] at hbelow
          -- below a new child, which has nothing else
          rw [placed_of_free hfree]
          simp only [has_cons_iff, mem_place, Prod.mk.injEq, List.cons.injEq]
          grind

/-- **When an insert is refused.** An empty route has no end; any other route is refused exactly when
the tree has one that takes the same places. -/
theorem insert?_eq_none_iff {node : Node α} {route : List Segment} {command : α}
    (hordered : node.Ordered) :
    node.insert? route command = none ↔
      route = [] ∨ ∃ r, node.Has r ∧ SamePlaces r.segments route := by
  induction route generalizing node with
  | nil => exact iff_of_true rfl (.inl rfl)
  | cons segment route ih =>
    cases route with
    | nil =>
      rw [insert?]
      constructor
      · intro h
        split at h
        · rename_i hany
          obtain ⟨⟨s, other⟩, hmem, hsame⟩ := List.any_eq_true.mp hany
          exact .inr ⟨_, .command hmem, .cons hsame .nil⟩
        · cases h
      · rintro (h | ⟨⟨segments, other⟩, hhas, hsame⟩)
        · cases h
        · obtain ⟨s, rest, hs, hrest, rfl⟩ := List.forall₂_cons_right_iff.mp hsame
          cases hrest
          rcases has_cons_iff.mp hhas with ⟨-, hmem⟩ | ⟨child, -, hbelow⟩
          · rw [if_pos (List.any_eq_true.mpr ⟨_, hmem, hs⟩)]
          · exact absurd hbelow not_has_nil
    | cons next rest =>
      -- a route at the same places leads through the child that stands where the first segment would
      have hthrough : ∀ r, node.Has r → SamePlaces r.segments (segment :: next :: rest) →
          ∃ s child below, (s, child) ∈ node.children ∧ s.samePlace segment = true ∧
            child.Has below ∧ SamePlaces below.segments (next :: rest) := by
        rintro ⟨segments, other⟩ hhas hsame
        obtain ⟨s, more, hs, hmore, rfl⟩ := List.forall₂_cons_right_iff.mp hsame
        rcases has_cons_iff.mp hhas with ⟨rfl, -⟩ | ⟨child, hmem, hbelow⟩
        · cases hmore
        · exact ⟨s, child, ⟨more, other⟩, hmem, hs, hbelow, hmore⟩
      rcases insert?_cons_cases hordered segment next rest command with
        ⟨front, stored, child, back, hchildren, hstored, hinsert⟩ | ⟨hfree, hinsert⟩
      · obtain ⟨_, hchildrenOrdered, hbelowOrdered⟩ := hordered
        have hmem : (stored, child) ∈ node.children := by simp [hchildren]
        rw [hinsert, Option.map_eq_none_iff, ih (hbelowOrdered _ hmem)]
        simp only [List.cons_ne_nil, false_or]
        constructor
        · rintro ⟨r, hhas, hsame⟩
          exact ⟨r.under stored, .child hmem hhas, .cons hstored hsame⟩
        · rintro ⟨r, hhas, hsame⟩
          obtain ⟨s, child', below, hmem', hs, hbelow, hbelowSame⟩ := hthrough r hhas hsame
          rw [hchildren] at hchildrenOrdered hmem'
          have hothers := hchildrenOrdered.samePlace_eq_false_around hstored (s, child')
          rw [hs] at hothers
          -- no other child takes the place
          have heq : (s, child') = (stored, child) := by
            simp only [List.mem_append, List.mem_cons] at hmem' hothers
            grind
          cases heq
          exact ⟨below, hbelow, hbelowSame⟩
      · rw [hinsert, Option.map_eq_none_iff, ih ordered_empty]
        simp only [not_has_empty, false_and, exists_false, List.cons_ne_nil, false_or, false_iff]
        rintro ⟨r, hhas, hsame⟩
        obtain ⟨s, child, _, hmem, hs, _⟩ := hthrough r hhas hsame
        rw [hfree (s, child) hmem] at hs
        cases hs

/-! ## Look-up

Here nothing is said of the order: an answer comes from some route that fits, and where one fits there is an
answer. -/

/-- **What look-up gives** is the command of a route that fits the tokens, with its captures. -/
theorem exists_of_find? {node : Node α} {tokens : List String} {command : α} {captures : List String}
    (h : node.find? tokens = some (command, captures)) :
    ∃ r, node.Has r ∧ r.Fits tokens ∧ r.command = command ∧ r.captured tokens = captures := by
  induction tokens generalizing node captures with
  | nil => cases h
  | cons token tokens ih =>
    -- the last token is for the commands of the node, others are for its children
    cases tokens with
    | nil =>
      rw [find?] at h
      obtain ⟨⟨segment, other⟩, hmem, hfound⟩ := List.exists_of_findSome?_eq_some h
      obtain ⟨captured, hcaptured, heq⟩ := Option.map_eq_some_iff.mp hfound
      cases heq
      rw [Segment.captures?_eq, Option.ite_none_right_eq_some] at hcaptured
      obtain ⟨haccepts, hcaptured⟩ := hcaptured
      cases hcaptured
      exact ⟨_, .command hmem, .cons haccepts .nil, rfl, by simp [Route.captured]⟩
    | cons next rest =>
      rw [find?] at h
      obtain ⟨⟨segment, child⟩, hmem, hfound⟩ := List.exists_of_findSome?_eq_some h
      simp only [Option.bind_eq_bind, Option.bind_eq_some_iff, Option.pure_def] at hfound
      obtain ⟨captured, hcaptured, ⟨other, more⟩, hbelow, heq⟩ := hfound
      rw [Segment.captures?_eq, Option.ite_none_right_eq_some] at hcaptured
      obtain ⟨haccepts, hcaptured⟩ := hcaptured
      cases hcaptured
      cases heq
      obtain ⟨r, hhas, hfits, hcommand, hmore⟩ := ih hbelow
      refine ⟨r.under segment, .child hmem hhas, .cons haccepts hfits, hcommand, ?_⟩
      rw [← hmore]
      rfl

/-- **Look-up answers** exactly when a route fits the tokens. -/
theorem isSome_find?_iff {node : Node α} {tokens : List String} :
    (node.find? tokens).isSome = true ↔ ∃ r, node.Has r ∧ r.Fits tokens := by
  constructor
  · intro h
    obtain ⟨⟨command, captures⟩, hfind⟩ := Option.isSome_iff_exists.mp h
    obtain ⟨r, hhas, hfits, -⟩ := exists_of_find? hfind
    exact ⟨r, hhas, hfits⟩
  · rintro ⟨r, hhas, hfits⟩
    -- on the way in which the tree has the route
    induction hhas generalizing tokens with
    | @command node segment command hmem =>
      obtain ⟨token, _, haccepts, hnil, rfl⟩ := List.forall₂_cons_left_iff.mp hfits
      cases hnil
      have hcaptures : segment.captures? token = some (segment.captured token) := by
        rw [Segment.captures?_eq, if_pos haccepts]
      rw [find?, List.findSome?_isSome_iff]
      exact ⟨_, hmem, by simp [hcaptures]⟩
    | @child node child segment r hmem hbelow ih =>
      obtain ⟨token, tokens, haccepts, hrest, rfl⟩ := List.forall₂_cons_left_iff.mp hfits
      have hcaptures : segment.captures? token = some (segment.captured token) := by
        rw [Segment.captures?_eq, if_pos haccepts]
      cases tokens with
      | nil => cases ih hrest
      | cons next rest =>
        obtain ⟨found, hfound⟩ := Option.isSome_iff_exists.mp (ih hrest)
        rw [find?, List.findSome?_isSome_iff]
        exact ⟨_, hmem, by simp [hcaptures, hfound]⟩

/-- **An exact route is found** by the tokens that it names, whatever else is in the tree. -/
theorem find?_of_has_exact {node : Node α} (hordered : node.Ordered) {command : α}
    {tokens : List String}
    (hhas : node.Has ⟨tokens.map fun token => .exact (Text.lowercase token), command⟩) :
    node.find? tokens = some (command, []) := by
  induction tokens generalizing node with
  | nil => exact absurd hhas not_has_nil
  | cons token tokens ih =>
    obtain ⟨hcommands, hchildren, hbelow⟩ := hordered
    have hcaptures : (Segment.exact (Text.lowercase token)).captures? token = some [] := if_pos rfl
    rcases has_cons_iff.mp hhas with ⟨hnil, hmem⟩ | ⟨child, hmem, hrest⟩
    · rw [List.map_eq_nil_iff.mp hnil, find?_single]
      -- no other exact segment accepts the token, and wildcards stand behind
      refine hcommands.findSome?_of_exact hmem ?_ fun branch _ hexact hsome =>
        eq_exact_of_lookUpEntry hexact hsome
      simp [lookUpEntry, hcaptures]
    · have hfound := ih (hbelow _ hmem) hrest
      cases tokens with
      | nil => exact absurd hrest not_has_nil
      | cons next rest =>
        rw [find?_several]
        refine hchildren.findSome?_of_exact hmem ?_ fun branch _ hexact hsome =>
          eq_exact_of_lookUpEntry hexact hsome
        simp [lookUpEntry, hcaptures, hfound]

end Node

/-! ## Routers

A router cuts the path of a command into tokens and makes a segment of each. -/

/-- A path is registered when its segments can be inserted. -/
theorem insert_eq_ok_iff {router extended : Router α} {path : List String} {command : α} :
    router.insert path command = .ok extended ↔
      ∃ root, router.root.insert? (path.map (Segment.ofToken router.marker)) command = some root ∧
        extended = { router with root := root, size := router.size + 1 } := by
  unfold insert
  cases path with
  | nil => simp [Node.insert?]
  | cons token path =>
    cases router.root.insert? ((token :: path).map (Segment.ofToken router.marker)) command with
    | none => simp
    | some root => simp [eq_comm]

end ChatDispatch.Router
