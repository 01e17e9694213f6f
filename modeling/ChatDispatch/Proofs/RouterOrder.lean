import ChatDispatch.Proofs.Checked
import ChatDispatch.Router.Basic

/-!
# The order of a router's branches

Look-up takes the branches of a node from the front. That this is the order of preference is an
invariant of the tree: exact segments stand in front of wildcards, and no two segments of a node take
the same place. Inserting a route keeps it, so it holds after any number of inserts.

* **`InOrder`** — the invariant for one list of branches, **`Node.Ordered`** for a tree.
* **`Node.ordered_insert?`** — one insert keeps it.
* **`ordered_insertAll`** — it holds of every router that inserts lead to.
-/

namespace ChatDispatch.Router

variable {α β : Type}

/-! ## One list of branches

Exact segments are put in front and wildcards at the end, and a place that is taken is not given away again. So a
list stays in order whatever is put into it. -/

/-- One segment may stand in front of another: it is not a wildcard before an exact segment, and the
two do not take the same place. -/
def Segment.Precedes (s t : Segment) : Prop :=
  (t.isExact = true → s.isExact = true) ∧ s.samePlace t = false

/-- Exact segments stand in front of wildcards, and no two segments take the same place. -/
def InOrder (branches : List (Segment × β)) : Prop :=
  (branches.map (·.1)).Pairwise Segment.Precedes

/-- To take the same place is symmetric. -/
theorem Segment.samePlace_comm (s t : Segment) : s.samePlace t = t.samePlace s := by
  cases s with
  | exact k =>
    cases t with
    | exact l => exact Bool.beq_comm
    | wildcard => rfl
  | wildcard s _ =>
    cases t with
    | exact => rfl
    | wildcard t _ => exact Bool.beq_comm

/-- No branch takes the place of a segment if none is found that does. -/
theorem forall_samePlace_eq_false {segment : Segment} {branches : List (Segment × β)}
    (h : ¬ branches.any (·.1.samePlace segment) = true) :
    ∀ branch ∈ branches, branch.1.samePlace segment = false := by
  intro branch hbranch
  rw [← Bool.not_eq_true]
  intro hsame
  exact h (List.any_eq_true.mpr ⟨branch, hbranch, hsame⟩)

/-- A new branch joins those that are there. -/
theorem mem_place {segment : Segment} {b : β} {branches : List (Segment × β)}
    {branch : Segment × β} :
    branch ∈ place segment b branches ↔ branch = (segment, b) ∨ branch ∈ branches := by
  unfold place
  split
  · exact List.mem_cons
  · rw [List.mem_append, List.mem_singleton, or_comm]

/-- **A new branch** keeps a list in order if its place is free. -/
theorem inOrder_place {segment : Segment} {b : β} {branches : List (Segment × β)}
    (h : InOrder branches) (hfree : ∀ branch ∈ branches, branch.1.samePlace segment = false) :
    InOrder (place segment b branches) := by
  unfold place
  split
  · -- an exact segment comes first, and may stand in front of any other
    rename_i hexact
    rw [InOrder, List.map_cons, List.pairwise_cons]
    refine ⟨?_, h⟩
    intro s hs
    obtain ⟨branch, hbranch, rfl⟩ := List.mem_map.mp hs
    refine ⟨fun _ => hexact, ?_⟩
    rw [Segment.samePlace_comm]
    exact hfree branch hbranch
  · -- a wildcard comes last, and anything may stand in front of it
    rename_i hwildcard
    rw [InOrder, List.map_append, List.pairwise_append]
    refine ⟨h, List.pairwise_singleton _ _, ?_⟩
    intro s hs t ht
    obtain ⟨branch, hbranch, rfl⟩ := List.mem_map.mp hs
    cases List.mem_singleton.mp ht
    exact ⟨fun hexact => absurd hexact hwildcard, hfree branch hbranch⟩

/-- A change of all branches succeeds exactly when it does for each one. -/
theorem mapM_eq_some_iff {γ : Type} {f : β → Option γ} {bs : List β} {cs : List γ} :
    bs.mapM f = some cs ↔ List.Forall₂ (fun b c => f b = some c) bs cs := by
  induction bs generalizing cs with
  | nil => simp [eq_comm]
  | cons b bs ih =>
    simp only [List.mapM_cons, Option.bind_eq_bind, Option.bind_eq_some_iff, Option.pure_def,
      Option.some.injEq, List.forall₂_cons_left_iff, ← ih]
    constructor
    · rintro ⟨c, hc, cs', hcs', rfl⟩
      exact ⟨c, cs', hc, hcs', rfl⟩
    · rintro ⟨c, cs', hc, hcs', rfl⟩
      exact ⟨c, hc, cs', hcs', rfl⟩

/-- **What changing a branch does.** Either some branches are changed and keep their segments, or a
branch that takes no other's place is added. -/
theorem changeBranch_eq_some {segment : Segment} {fresh : β} {change : β → Option β}
    {branches changed : List (Segment × β)}
    (h : changeBranch segment fresh change branches = some changed) :
    List.Forall₂ (fun branch branch' => branch'.1 = branch.1 ∧
        (branch'.2 = branch.2 ∨ change branch.2 = some branch'.2)) branches changed ∨
    (∀ branch ∈ branches, branch.1.samePlace segment = false) ∧
      ∃ b, change fresh = some b ∧ changed = place segment b branches := by
  unfold changeBranch at h
  split at h
  · left
    refine List.Forall₂.imp ?_ (mapM_eq_some_iff.mp h)
    rintro ⟨s, b⟩ branch' hbranch
    dsimp only at hbranch
    split at hbranch
    · obtain ⟨b', hb', rfl⟩ := Option.map_eq_some_iff.mp hbranch
      exact ⟨rfl, .inr hb'⟩
    · cases hbranch
      exact ⟨rfl, .inl rfl⟩
  · rename_i hfree
    right
    obtain ⟨b, hb, rfl⟩ := Option.map_eq_some_iff.mp h
    refine ⟨?_, b, hb, rfl⟩
    intro branch hbranch
    rw [← Bool.not_eq_true]
    intro hsame
    exact hfree (List.any_eq_true.mpr ⟨branch, hbranch, hsame⟩)

/-- What holds below every branch, and is kept by the change, holds below every branch afterwards. -/
theorem forall_changeBranch {p : β → Prop} {segment : Segment} {fresh : β} {change : β → Option β}
    {branches changed : List (Segment × β)} (hbranches : ∀ branch ∈ branches, p branch.2)
    (hfresh : p fresh) (hchange : ∀ b b', change b = some b' → p b → p b')
    (h : changeBranch segment fresh change branches = some changed) :
    ∀ branch ∈ changed, p branch.2 := by
  intro branch' hbranch'
  rcases changeBranch_eq_some h with hall | ⟨_, b, hb, rfl⟩
  · obtain ⟨branch, hbranch, _, hkept | hchanged⟩ := forall₂_mem_right hall hbranch'
    · rw [hkept]
      exact hbranches branch hbranch
    · exact hchange _ _ hchanged (hbranches branch hbranch)
  · rcases mem_place.mp hbranch' with rfl | hbranch'
    · exact hchange _ _ hb hfresh
    · exact hbranches branch' hbranch'

/-- **A changed branch** keeps a list in order, and so does one that is added in its stead. -/
theorem inOrder_changeBranch {segment : Segment} {fresh : β} {change : β → Option β}
    {branches changed : List (Segment × β)} (hordered : InOrder branches)
    (h : changeBranch segment fresh change branches = some changed) : InOrder changed := by
  rcases changeBranch_eq_some h with hall | ⟨hfree, b, _, rfl⟩
  · -- the order speaks of the segments only, and these are kept
    have hsegments : changed.map (·.1) = branches.map (·.1) := by
      clear h hordered
      induction hall with
      | nil => rfl
      | cons hbranch _ ih => rw [List.map_cons, List.map_cons, hbranch.1, ih]
    rw [InOrder, hsegments]
    exact hordered
  · exact inOrder_place hordered hfree

theorem InOrder.filter {branches : List (Segment × β)} (h : InOrder branches)
    (p : Segment × β → Bool) : InOrder (branches.filter p) :=
  List.Pairwise.sublist (List.filter_sublist.map _) h

/-- The exact segments of an ordered list stand in front of its wildcards. -/
theorem InOrder.eq_append {branches : List (Segment × β)} (h : InOrder branches) :
    branches = branches.filter (·.1.isExact) ++ branches.filter (!·.1.isExact) := by
  induction branches with
  | nil => rfl
  | cons branch branches ih =>
    rw [InOrder, List.map_cons, List.pairwise_cons] at h
    cases hexact : branch.1.isExact with
    | true =>
      simp only [List.filter_cons, hexact, if_true, Bool.not_true, Bool.false_eq_true, if_false,
        List.cons_append]
      exact congrArg (branch :: ·) (ih h.2)
    | false =>
      -- behind a wildcard there are wildcards only
      have hnone : branches.filter (·.1.isExact) = [] := by
        rw [List.filter_eq_nil_iff]
        intro other hother hotherExact
        have hprecedes := (h.1 other.1 (List.mem_map_of_mem hother)).1 hotherExact
        rw [hexact] at hprecedes
        cases hprecedes
      have hall := ih h.2
      rw [hnone, List.nil_append] at hall
      simp only [List.filter_cons, hexact, Bool.false_eq_true, if_false, Bool.not_false, if_true,
        hnone, List.nil_append]
      exact congrArg (branch :: ·) hall

/-- Of the exact segments of an ordered list, at most one has a given key. -/
theorem InOrder.length_filterMap_le_one {γ : Type} {branches : List (Segment × β)}
    (h : InOrder branches) {f : Segment × β → Option γ} {key : String}
    (hkey : ∀ branch ∈ branches, f branch ≠ none → branch.1 = .exact key) :
    (branches.filterMap f).length ≤ 1 := by
  induction branches with
  | nil => exact Nat.zero_le 1
  | cons branch branches ih =>
    rw [InOrder, List.map_cons, List.pairwise_cons] at h
    cases hfound : f branch with
    | none =>
      rw [List.filterMap_cons_none hfound]
      exact ih h.2 fun other hother => hkey other (List.mem_cons_of_mem _ hother)
    | some c =>
      -- another branch with the key would take the same place
      have hnone : branches.filterMap f = [] := by
        rw [List.filterMap_eq_nil_iff]
        intro other hother
        apply Classical.byContradiction
        intro hsome
        have hplace := (h.1 other.1 (List.mem_map_of_mem hother)).2
        rw [hkey branch List.mem_cons_self (by rw [hfound]; exact Option.some_ne_none c),
          hkey other (List.mem_cons_of_mem _ hother) hsome] at hplace
        simp [Segment.samePlace] at hplace
      rw [List.filterMap_cons_some hfound, hnone]
      exact Nat.le_refl 1

/-! ## The whole tree

The order of the lists is carried over to all nodes below, by induction on the route that is inserted. -/

/-- Both lists of every node of the tree are in order. -/
inductive Node.Ordered : Node α → Prop where
  | intro {node : Node α} (hcommands : InOrder node.commands) (hchildren : InOrder node.children)
      (hbelow : ∀ branch ∈ node.children, Node.Ordered branch.2) : Node.Ordered node

theorem Node.ordered_empty : (Node.empty : Node α).Ordered :=
  .intro .nil .nil nofun

/-- **One insert** keeps the order of all nodes. -/
theorem Node.ordered_insert? {route : List Segment} {command : α} {node node' : Node α}
    (h : node.insert? route command = some node') (hordered : node.Ordered) : node'.Ordered := by
  induction route generalizing node node' with
  | nil => cases h
  | cons segment route ih =>
    obtain ⟨hcommands, hchildren, hbelow⟩ := hordered
    cases route with
    | nil =>
      rw [Node.insert?] at h
      split at h
      · cases h
      · rename_i hfree
        cases h
        exact .intro (inOrder_place hcommands (forall_samePlace_eq_false hfree)) hchildren hbelow
    | cons next rest =>
      rw [Node.insert?] at h
      -- a child is changed by inserting the rest of the route below it
      obtain ⟨children, hchanged, rfl⟩ := Option.map_eq_some_iff.mp h
      refine .intro hcommands (inOrder_changeBranch hchildren hchanged) ?_
      exact forall_changeBranch hbelow Node.ordered_empty (fun _ _ hinsert => ih hinsert) hchanged

/-! ## Sequences of inserts

A router begins empty and is changed by inserts only. -/

/-- The router after a sequence of registrations. Those that are refused leave it as it is. -/
def insertAll (router : Router α) (inserts : List (List String × α)) : Router α :=
  inserts.foldl (fun router i =>
    match router.insert i.1 i.2 with
    | .ok extended => extended
    | .error _ => router) router

/-- An insert that succeeds keeps the order of the router. -/
theorem ordered_insert {router extended : Router α} {path : List String} {command : α}
    (h : router.insert path command = .ok extended) (hordered : router.root.Ordered) :
    extended.root.Ordered := by
  unfold insert at h
  split at h
  · cases h
  · split at h
    · rename_i root hroot
      cases h
      exact Node.ordered_insert? hroot hordered
    · cases h

/-- **Any number of inserts** leads to a router whose nodes are in order. -/
theorem ordered_insertAll {router : Router α} (hordered : router.root.Ordered)
    (inserts : List (List String × α)) : (router.insertAll inserts).root.Ordered := by
  induction inserts generalizing router with
  | nil => exact hordered
  | cons i inserts ih =>
    rw [insertAll, List.foldl_cons]
    cases hinsert : router.insert i.1 i.2 with
    | ok extended => exact ih (ordered_insert hinsert hordered)
    | error e => exact ih hordered

end ChatDispatch.Router
