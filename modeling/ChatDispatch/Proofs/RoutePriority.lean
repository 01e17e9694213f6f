import ChatDispatch.Proofs.Registration
import Mathlib.Data.List.Pairwise

/-!
# Which route is preferred

The tree of a router is built from a list of routes. Look-up descends the tree, so what it prefers depends
on the order in which the routes came. Here the preference is told by the list alone.

* **`Route.TriedBefore`** — two routes are compared where they part: an exact segment is tried before a
  wildcard, and of two wildcards the one that an earlier route has introduced.
* **`Coherent`** — segments that take the same place match the same tokens.
* **`Node.Reflects`** — how the branches of a node come from the list; **`Node.reflects_grow`** — every tree
  built from a list reflects it.
* **`Node.exists_best_of_find?`** — look-up gives a route that fits and before which no other that fits is
  tried.
* **`Route.samePlaces_of_not_triedBefore`** — there is only one such route.
* **`Node.find?_eq_some_iff`** — look-up told by the list of routes.
-/

namespace ChatDispatch.Router

variable {α β : Type}

/-! ## The order of preference

Wildcards are tried in the order in which the tree got them. In terms of the list this is when their beginning
came up, and the end of a route and the middle of one count apart. -/

instance : DecidableRel SamePlaces := fun segments others =>
  inferInstanceAs (Decidable (List.Forall₂ (fun s t => s.samePlace t = true) segments others))

/-- The route leads through the beginning, place by place, and goes on after it or ends there. -/
def Route.Leads (beginning : List Segment) (goesOn : Bool) (r : Route α) : Prop :=
  SamePlaces (r.segments.take beginning.length) beginning ∧
    (goesOn = true ↔ beginning.length < r.segments.length)

instance (beginning : List Segment) (goesOn : Bool) (r : Route α) :
    Decidable (r.Leads beginning goesOn) :=
  inferInstanceAs (Decidable (_ ∧ _))

/-- When a beginning comes up in a list of routes: the position of the first one that leads through it. -/
def introduction (rs : List (Route α)) (beginning : List Segment) (goesOn : Bool) : Nat :=
  rs.findIdx fun r => r.Leads beginning goesOn

/-- One route is tried before another one. They share a beginning and part after it, where the first has
an exact segment and the second a wildcard, or both have wildcards and that of the first came up earlier
in the list, among the routes that go on like it. -/
inductive Route.TriedBefore (rs : List (Route α)) (r r' : Route α) : Prop where
  | exact {shared shared' rest rest' : List Segment} {s s' : Segment}
      (h : r.segments = shared ++ s :: rest) (h' : r'.segments = shared' ++ s' :: rest')
      (hshared : SamePlaces shared shared') (hs : s.isExact = true) (hs' : s'.isExact = false)
  | wildcard {shared shared' rest rest' : List Segment} {s s' : Segment}
      (h : r.segments = shared ++ s :: rest) (h' : r'.segments = shared' ++ s' :: rest')
      (hshared : SamePlaces shared shared') (hs : s.isExact = false) (hs' : s'.isExact = false)
      (hfirst : introduction rs (shared ++ [s]) (!rest.isEmpty) <
        introduction rs (shared' ++ [s']) (!rest'.isEmpty))

/-- Segments of the routes that take the same place match the same tokens, with the same captures. -/
def Coherent (rs : List (Route α)) : Prop :=
  ∀ r ∈ rs, ∀ r' ∈ rs, ∀ s ∈ r.segments, ∀ s' ∈ r'.segments, s.samePlace s' = true →
    ∀ token, s.captures? token = s'.captures? token

theorem Coherent.mono {rs rs' : List (Route α)} (h : Coherent rs) (hsubset : rs' ⊆ rs) : Coherent rs' :=
  fun r hr r' hr' => h r (hsubset hr) r' (hsubset hr')

/-! ## Beginnings

When a beginning comes up depends on the places that it takes, and routes added at the end change nothing about
those that came up before. -/

/-- Routes with a beginning that takes the same places are the same. -/
theorem Route.leads_congr {beginning beginning' : List Segment} (h : SamePlaces beginning beginning')
    (goesOn : Bool) (r : Route α) : r.Leads beginning goesOn ↔ r.Leads beginning' goesOn := by
  rw [Leads, Leads, h.length_eq]
  exact and_congr_left' ⟨(·.trans h), (·.trans h.symm)⟩

theorem introduction_congr {beginning beginning' : List Segment}
    (h : SamePlaces beginning beginning') (rs : List (Route α)) (goesOn : Bool) :
    introduction rs beginning goesOn = introduction rs beginning' goesOn := by
  simp only [introduction, Route.leads_congr h]

theorem introduction_singleton_congr {s t : Segment} (h : s.samePlace t = true)
    (rs : List (Route α)) (goesOn : Bool) :
    introduction rs [s] goesOn = introduction rs [t] goesOn :=
  introduction_congr (.cons h .nil) rs goesOn

/-- A route leads through its own beginnings. -/
theorem Route.leads_append (shared rest : List Segment) (s : Segment) (command : α) :
    (⟨shared ++ s :: rest, command⟩ : Route α).Leads (shared ++ [s]) (!rest.isEmpty) := by
  constructor
  · -- the beginning is cut off the route again
    have htake : (shared ++ s :: rest).take (shared ++ [s]).length = shared ++ [s] := by
      rw [show shared ++ s :: rest = (shared ++ [s]) ++ rest by simp, List.take_left]
    rw [htake]
    exact .refl _
  · cases rest <;> simp

theorem introduction_lt_length_iff {rs : List (Route α)} {beginning : List Segment} {goesOn : Bool} :
    introduction rs beginning goesOn < rs.length ↔ ∃ r ∈ rs, r.Leads beginning goesOn := by
  simp only [introduction, List.findIdx_lt_length, decide_eq_true_eq]

/-- A beginning comes up in the first list or else in the second. -/
theorem introduction_append (rs rs' : List (Route α)) (beginning : List Segment) (goesOn : Bool) :
    introduction (rs ++ rs') beginning goesOn =
      if introduction rs beginning goesOn < rs.length then introduction rs beginning goesOn
      else introduction rs' beginning goesOn + rs.length :=
  List.findIdx_append

/-- What came up in a list comes up at the same position when routes are added. -/
theorem introduction_append_of_exists {rs : List (Route α)} {beginning : List Segment} {goesOn : Bool}
    (h : ∃ r ∈ rs, r.Leads beginning goesOn) (rs' : List (Route α)) :
    introduction (rs ++ rs') beginning goesOn = introduction rs beginning goesOn := by
  rw [introduction_append, if_pos (introduction_lt_length_iff.mpr h)]

theorem length_le_introduction_append {rs : List (Route α)} {beginning : List Segment} {goesOn : Bool}
    (h : ¬ ∃ r ∈ rs, r.Leads beginning goesOn) (rs' : List (Route α)) :
    rs.length ≤ introduction (rs ++ rs') beginning goesOn := by
  rw [introduction_append, if_neg (introduction_lt_length_iff.not.mpr h)]
  exact Nat.le_add_left _ _

/-! ## The routes below a segment

A child of a node is a tree of its own, built from the rests of the routes through it. Everything about the order
of routes is carried over to these rests. -/

/-- What is left of a route after its first segment, if this takes the place of the segment and the route
goes on. -/
def Route.after? (segment : Segment) (r : Route α) : Option (Route α) :=
  match r.segments with
  | t :: next :: rest => if t.samePlace segment then some ⟨next :: rest, r.command⟩ else none
  | _ => none

/-- The routes that lead through a segment and go on, without it. -/
def below (segment : Segment) (rs : List (Route α)) : List (Route α) :=
  rs.filterMap (Route.after? segment)

/-- What is left of a route is a route that the segment was put in front of. -/
theorem after?_eq_some_iff {segment : Segment} {r r' : Route α} :
    r.after? segment = some r' ↔
      r'.segments ≠ [] ∧ ∃ t, t.samePlace segment = true ∧ r = r'.under t := by
  obtain ⟨segments, command⟩ := r
  obtain ⟨segments', command'⟩ := r'
  match segments with
  | [] => simp [Route.after?, Route.under]
  | [t] =>
    refine iff_of_false nofun ?_
    rintro ⟨hne, u, _, heq⟩
    simp only [Route.under, Route.mk.injEq, List.cons.injEq] at heq
    exact hne heq.1.2.symm
  | t :: next :: rest =>
    simp only [Route.after?, Route.under, Option.ite_none_right_eq_some, Option.some.injEq,
      Route.mk.injEq, List.cons.injEq]
    constructor
    · rintro ⟨hsame, rfl, rfl⟩
      exact ⟨List.cons_ne_nil _ _, t, hsame, ⟨rfl, rfl⟩, rfl⟩
    · rintro ⟨_, _, hsame, ⟨rfl, rfl⟩, rfl⟩
      exact ⟨hsame, rfl, rfl⟩

/-- Below a segment are the rests of the routes whose first segment takes its place. -/
theorem mem_below_iff {segment : Segment} {rs : List (Route α)} {r : Route α} :
    r ∈ below segment rs ↔
      r.segments ≠ [] ∧ ∃ t, t.samePlace segment = true ∧ r.under t ∈ rs := by
  simp only [below, List.mem_filterMap, after?_eq_some_iff]
  constructor
  · rintro ⟨_, hmem, hne, t, hsame, rfl⟩
    exact ⟨hne, t, hsame, hmem⟩
  · rintro ⟨hne, t, hsame, hmem⟩
    exact ⟨_, hmem, hne, t, hsame, rfl⟩

/-- The rests of coherent routes are coherent. -/
theorem Coherent.below {rs : List (Route α)} (h : Coherent rs) (segment : Segment) :
    Coherent (below segment rs) := by
  intro r hr r' hr' s hs s' hs'
  obtain ⟨_, t, _, hmem⟩ := mem_below_iff.mp hr
  obtain ⟨_, t', _, hmem'⟩ := mem_below_iff.mp hr'
  exact h _ hmem _ hmem' s (List.mem_cons_of_mem _ hs) s' (List.mem_cons_of_mem _ hs')

/-- A route leads through a longer beginning when what is left of it does so after the first segment. -/
theorem decide_leads_cons {segment t : Segment} (hsame : t.samePlace segment = true)
    {beginning : List Segment} (hne : beginning ≠ []) (goesOn : Bool) (r : Route α) :
    decide (r.Leads (t :: beginning) goesOn) =
      (r.after? segment).any fun r => r.Leads beginning goesOn := by
  obtain ⟨s, others, rfl⟩ := List.exists_cons_of_ne_nil hne
  obtain ⟨segments, command⟩ := r
  match segments with
  | [] => simp [Route.after?, Route.Leads, SamePlaces]
  | [u] => simp [Route.after?, Route.Leads, SamePlaces]
  | u :: next :: rest =>
    -- whatever takes the place of one of the two segments takes that of the other
    have hu : u.samePlace t = u.samePlace segment := Segment.samePlace_congr_right u hsame
    by_cases hplace : u.samePlace segment = true
    · simp [Route.after?, Route.Leads, SamePlaces, hu, hplace]
    · simp [Route.after?, Route.Leads, SamePlaces, hu, hplace]

/-- The order in which longer beginnings come up is that in which they do below the first segment. -/
theorem introduction_below_lt_iff {segment t t' : Segment} (ht : t.samePlace segment = true)
    (ht' : t'.samePlace segment = true) {beginning beginning' : List Segment} (hne : beginning ≠ [])
    (hne' : beginning' ≠ []) (goesOn goesOn' : Bool) (rs : List (Route α)) :
    introduction (below segment rs) beginning goesOn < introduction (below segment rs) beginning' goesOn' ↔
      introduction rs (t :: beginning) goesOn < introduction rs (t' :: beginning') goesOn' :=
  findIdx_lt_findIdx_filterMap_iff (decide_leads_cons ht hne goesOn) (decide_leads_cons ht' hne' goesOn')
    rs

/-- Two routes through a segment are tried in the order of what is left of them. -/
theorem Route.TriedBefore.below {segment t t' : Segment} (ht : t.samePlace segment = true)
    (ht' : t'.samePlace segment = true) {rs : List (Route α)} {r r' : Route α} (hr : r.segments ≠ [])
    (hr' : r'.segments ≠ []) (h : (r.under t).TriedBefore rs (r'.under t')) :
    r.TriedBefore (below segment rs) r' := by
  have hsame : t.samePlace t' = true := by
    rw [← Segment.samePlace_congr_right t (Segment.samePlace_symm ht')]
    exact ht
  have hexact := Segment.isExact_eq_of_samePlace hsame
  cases h with
  | @exact shared shared' rest rest' s s' h h' hshared hs hs' =>
    cases hshared with
    | nil =>
      cases h
      cases h'
      -- the routes cannot part at the first segment, which takes one place in both
      rw [hs, hs'] at hexact
      cases hexact
    | cons _ hshared =>
      exact .exact (List.cons.inj h).2 (List.cons.inj h').2 hshared hs hs'
  | @wildcard shared shared' rest rest' s s' h h' hshared hs hs' hfirst =>
    cases hshared with
    | nil =>
      cases h
      cases h'
      -- both go on through one segment, which came up once
      rw [List.isEmpty_eq_false_iff.mpr hr, List.isEmpty_eq_false_iff.mpr hr', List.nil_append,
        List.nil_append, introduction_singleton_congr hsame] at hfirst
      exact absurd hfirst (Nat.lt_irrefl _)
    | cons _ hshared =>
      obtain ⟨rfl, hrest⟩ := List.cons.inj h
      obtain ⟨rfl, hrest'⟩ := List.cons.inj h'
      refine .wildcard hrest hrest' hshared hs hs' ?_
      exact (introduction_below_lt_iff ht ht' (by simp) (by simp) _ _ rs).mpr hfirst

/-! ## The branches of a node

`Reflects` ties one node to the list. An insert adds a command, changes the child at the place of the first
segment, or adds a child; each keeps to the list with one more route. -/

/-- A route ends at a segment if it is the only one. -/
theorem Route.leads_singleton_false_iff {s : Segment} {r : Route α} :
    r.Leads [s] false ↔ ∃ t, t.samePlace s = true ∧ r.segments = [t] := by
  rw [Leads]
  match r.segments with
  | [] => simp [SamePlaces]
  | [t] => simp [SamePlaces]
  | t :: next :: rest => simp [SamePlaces]

/-- A route goes on after a segment if another one follows. -/
theorem Route.leads_singleton_true_iff {s : Segment} {r : Route α} :
    r.Leads [s] true ↔ ∃ t next rest, t.samePlace s = true ∧ r.segments = t :: next :: rest := by
  rw [Leads]
  match r.segments with
  | [] => simp [SamePlaces]
  | [t] => simp [SamePlaces]
  | t :: next :: rest => simp [SamePlaces]

/-- The wildcards among the segments stand in the order in which they came up. -/
def Arranged (goesOn : Bool) (rs : List (Route α)) (segments : List Segment) : Prop :=
  segments.Pairwise fun s s' => s.isExact = false → s'.isExact = false →
    introduction rs [s] goesOn < introduction rs [s'] goesOn

section Arranged

variable {goesOn : Bool} {rs : List (Route α)}

/-- More routes do not change the order of what has come up. -/
theorem Arranged.append {segments : List Segment} (h : Arranged goesOn rs segments)
    (hknown : ∀ s ∈ segments, ∃ r ∈ rs, r.Leads [s] goesOn) (rs' : List (Route α)) :
    Arranged goesOn (rs ++ rs') segments := by
  refine List.Pairwise.imp_of_mem ?_ h
  intro s s' hs hs' hbefore hwildcard hwildcard'
  rw [introduction_append_of_exists (hknown s hs), introduction_append_of_exists (hknown s' hs')]
  exact hbefore hwildcard hwildcard'

/-- What comes up last is placed last. -/
theorem Arranged.place {branches : List (Segment × β)} {segment : Segment}
    (h : Arranged goesOn rs (branches.map (·.1)))
    (hknown : ∀ s ∈ branches.map (·.1), ∃ r ∈ rs, r.Leads [s] goesOn)
    (hnew : ¬ ∃ r ∈ rs, r.Leads [segment] goesOn) (r : Route α) (b : β) :
    Arranged goesOn (rs ++ [r]) ((place segment b branches).map (·.1)) := by
  have hkept := h.append hknown [r]
  rw [Router.place]
  split
  · rename_i hexact
    -- an exact segment goes to the front, where the order of wildcards does not count
    rw [Arranged, List.map_cons, List.pairwise_cons]
    refine ⟨?_, hkept⟩
    intro s _ hwildcard
    rw [hexact] at hwildcard
    cases hwildcard
  · -- a wildcard goes to the end, and all others came up earlier
    rw [Arranged, List.map_append, List.pairwise_append]
    refine ⟨hkept, List.pairwise_singleton _ _, ?_⟩
    intro s hs s' hs' _ _
    cases List.mem_singleton.mp hs'
    have hearlier := introduction_lt_length_iff.mpr (hknown s hs)
    rw [introduction_append_of_exists (hknown s hs)]
    exact Nat.lt_of_lt_of_le hearlier (length_le_introduction_append hnew [r])

/-- The first branch that answers: no other that does is preferred to it. -/
theorem Arranged.exists_of_findSome? {γ : Type} {branches : List (Segment × β)}
    (h : Arranged goesOn rs (branches.map (·.1))) (hordered : InOrder branches)
    {f : Segment × β → Option γ} {c : γ} (hfound : branches.findSome? f = some c) :
    ∃ branch ∈ branches, f branch = some c ∧ ∀ other ∈ branches, f other ≠ none →
      (other.1.isExact = true → branch.1.isExact = true) ∧
      (other.1.isExact = false → branch.1.isExact = false →
        introduction rs [branch.1] goesOn ≤ introduction rs [other.1] goesOn) := by
  obtain ⟨front, branch, back, rfl, hanswer, hfront⟩ := List.findSome?_eq_some_iff.mp hfound
  refine ⟨branch, by simp, hanswer, ?_⟩
  intro other hother hsome
  rw [Arranged, List.map_append, List.map_cons, List.pairwise_append, List.pairwise_cons] at h
  rw [InOrder, List.map_append, List.map_cons, List.pairwise_append, List.pairwise_cons] at hordered
  rcases List.mem_append.mp hother with hmem | hmem
  · -- what stands before does not answer
    exact absurd (hfront other hmem) hsome
  · rcases List.mem_cons.mp hmem with rfl | hmem
    · exact ⟨fun hexact => hexact, fun _ _ => Nat.le_refl _⟩
    · have hback := List.mem_map_of_mem (f := (·.1)) hmem
      refine ⟨(hordered.2.1.1 other.1 hback).1, fun hwildcard hwildcard' => ?_⟩
      exact Nat.le_of_lt (h.2.1.1 other.1 hback hwildcard' hwildcard)

end Arranged

namespace Node

/-- The branches of a node come from the routes: the commands are those of the routes with one segment,
a child is reached by the first segment of some longer route and is built from the routes below it, and
wildcards stand in the order in which they came up. -/
structure Reflects (node : Node α) (rs : List (Route α)) : Prop where
  mem_commands_iff : ∀ s c, (s, c) ∈ node.commands ↔ ⟨[s], c⟩ ∈ rs
  commands : Arranged false rs (node.commands.map (·.1))
  stored : ∀ branch ∈ node.children, ∃ next rest c, ⟨branch.1 :: next :: rest, c⟩ ∈ rs
  covered : ∀ t next rest c, ⟨t :: next :: rest, c⟩ ∈ rs →
    ∃ branch ∈ node.children, branch.1.samePlace t = true
  children : Arranged true rs (node.children.map (·.1))
  below : ∀ branch ∈ node.children, empty.grow (Router.below branch.1 rs) = some branch.2

variable {node node' : Node α} {rs : List (Route α)}

/-- The empty tree reflects no routes. -/
theorem reflects_empty : (empty : Node α).Reflects [] where
  mem_commands_iff := by simp [empty]
  commands := .nil
  stored := nofun
  covered := nofun
  children := .nil
  below := nofun

/-- The segments of commands have come up at the end of a route. -/
theorem Reflects.commands_known (h : node.Reflects rs) :
    ∀ s ∈ node.commands.map (·.1), ∃ r ∈ rs, r.Leads [s] false := by
  intro s hs
  obtain ⟨⟨s, c⟩, hmem, rfl⟩ := List.mem_map.mp hs
  refine ⟨⟨[s], c⟩, (h.mem_commands_iff s c).mp hmem, ?_⟩
  exact Route.leads_singleton_false_iff.mpr ⟨s, s.samePlace_self, rfl⟩

/-- The segments of children have come up before the end of a route. -/
theorem Reflects.children_known (h : node.Reflects rs) :
    ∀ s ∈ node.children.map (·.1), ∃ r ∈ rs, r.Leads [s] true := by
  intro s hs
  obtain ⟨branch, hmem, rfl⟩ := List.mem_map.mp hs
  obtain ⟨next, rest, c, hr⟩ := h.stored branch hmem
  refine ⟨_, hr, ?_⟩
  exact Route.leads_singleton_true_iff.mpr ⟨branch.1, next, rest, branch.1.samePlace_self, rfl⟩

/-- A segment whose place no command takes has not come up at the end of a route. -/
theorem Reflects.not_leads_of_free_command (h : node.Reflects rs) {segment : Segment}
    (hfree : ∀ branch ∈ node.commands, branch.1.samePlace segment = false) :
    ¬ ∃ r ∈ rs, r.Leads [segment] false := by
  rintro ⟨⟨segments, c⟩, hr, hleads⟩
  obtain ⟨t, ht, rfl⟩ := Route.leads_singleton_false_iff.mp hleads
  have hother := hfree _ ((h.mem_commands_iff t c).mpr hr)
  rw [ht] at hother
  cases hother

/-- A segment whose place no child takes has not come up before the end of a route. -/
theorem Reflects.not_leads_of_free_child (h : node.Reflects rs) {segment : Segment}
    (hfree : ∀ branch ∈ node.children, branch.1.samePlace segment = false) :
    ¬ ∃ r ∈ rs, r.Leads [segment] true := by
  rintro ⟨⟨segments, c⟩, hr, hleads⟩
  obtain ⟨t, next, rest, ht, rfl⟩ := Route.leads_singleton_true_iff.mp hleads
  obtain ⟨branch, hbranch, hplace⟩ := h.covered t next rest c hr
  have hother := hfree branch hbranch
  rw [Segment.samePlace_trans hplace ht] at hother
  cases hother

theorem below_append_singleton (segment : Segment) (rs : List (Route α)) (r : Route α) :
    Router.below segment (rs ++ [r]) = Router.below segment rs ++ (r.after? segment).toList := by
  rw [Router.below, Router.below, List.filterMap_append]
  rfl

/-- A route with one segment adds a command. -/
theorem Reflects.place_command (h : node.Reflects rs) {last : Segment} {command : α}
    (hfree : ∀ branch ∈ node.commands, branch.1.samePlace last = false) :
    ({ node with commands := place last command node.commands } : Node α).Reflects
      (rs ++ [⟨[last], command⟩]) where
  mem_commands_iff := by
    intro s c
    rw [mem_place, h.mem_commands_iff, List.mem_append, List.mem_singleton]
    simp only [Prod.mk.injEq, Route.mk.injEq, List.cons.injEq, and_true]
    exact or_comm
  commands := h.commands.place h.commands_known (h.not_leads_of_free_command hfree) _ _
  stored := by
    intro branch hbranch
    obtain ⟨next, rest, c, hr⟩ := h.stored branch hbranch
    exact ⟨next, rest, c, List.mem_append_left _ hr⟩
  covered := by
    intro t next rest c hr
    rcases List.mem_append.mp hr with hr | hr
    · exact h.covered t next rest c hr
    · cases List.mem_singleton.mp hr
  children := h.children.append h.children_known _
  below := by
    intro branch hbranch
    rw [below_append_singleton]
    show grow empty (_ ++ []) = _
    rw [List.append_nil]
    exact h.below branch hbranch

section Deeper

variable {s next : Segment} {rest : List Segment} {command : α}

theorem Reflects.mem_commands_iff_append (h : node.Reflects rs) (t : Segment) (c : α) :
    (t, c) ∈ node.commands ↔ ⟨[t], c⟩ ∈ rs ++ [⟨s :: next :: rest, command⟩] := by
  rw [h.mem_commands_iff, List.mem_append, List.mem_singleton]
  simp

/-- It adds the rest of itself below the place of its first segment. -/
theorem below_append_of_samePlace {t : Segment} (ht : t.samePlace s = true) :
    Router.below t (rs ++ [⟨s :: next :: rest, command⟩]) =
      Router.below t rs ++ [⟨next :: rest, command⟩] := by
  have hafter : Route.after? t ⟨s :: next :: rest, command⟩ = some ⟨next :: rest, command⟩ :=
    if_pos (Segment.samePlace_symm ht)
  rw [below_append_singleton, hafter]
  rfl

/-- It adds nothing below other places. -/
theorem below_append_of_not_samePlace {t : Segment} (ht : t.samePlace s = false) :
    Router.below t (rs ++ [⟨s :: next :: rest, command⟩]) = Router.below t rs := by
  have hafter : Route.after? t ⟨s :: next :: rest, command⟩ = none := by
    rw [Segment.samePlace_comm, ← Bool.not_eq_true] at ht
    exact if_neg ht
  rw [below_append_singleton, hafter]
  exact List.append_nil _

/-- Lists of branches with the same segments have a branch for each of the other's. -/
theorem exists_branch_of_map_eq {branches others : List (Segment × β)}
    (h : branches.map (·.1) = others.map (·.1)) :
    ∀ branch ∈ branches, ∃ other ∈ others, other.1 = branch.1 := by
  intro branch hmem
  have hsegment := List.mem_map_of_mem (f := (·.1)) hmem
  rw [h] at hsegment
  exact List.mem_map.mp hsegment

/-- A longer route whose first segment stands where a child does changes this child. -/
theorem Reflects.change_child (h : node.Reflects rs) (hordered : node.Ordered)
    {front back : List (Segment × Node α)} {stored : Segment} {child child' : Node α}
    (hchildren : node.children = front ++ (stored, child) :: back)
    (hstored : stored.samePlace s = true)
    (hchild : child.insert? (next :: rest) command = some child') :
    ({ node with children := front ++ (stored, child') :: back } : Node α).Reflects
      (rs ++ [⟨s :: next :: rest, command⟩]) := by
  -- the branches before and afterwards have the same segments
  have hsegments : (front ++ (stored, child') :: back).map (·.1) = node.children.map (·.1) := by
    rw [hchildren, List.map_append, List.map_append, List.map_cons, List.map_cons]
  refine {
    mem_commands_iff := h.mem_commands_iff_append
    commands := h.commands.append h.commands_known _
    stored := ?_
    covered := ?_
    children := ?_
    below := ?_ }
  · intro branch hmem
    obtain ⟨other, hother, heq⟩ := exists_branch_of_map_eq hsegments branch hmem
    obtain ⟨next', rest', c, hr⟩ := h.stored other hother
    rw [heq] at hr
    exact ⟨next', rest', c, List.mem_append_left _ hr⟩
  · intro t next' rest' c hr
    rcases List.mem_append.mp hr with hr | hr
    · obtain ⟨branch, hbranch, ht⟩ := h.covered t next' rest' c hr
      obtain ⟨other, hother, heq⟩ := exists_branch_of_map_eq hsegments.symm branch hbranch
      exact ⟨other, hother, by rw [heq]; exact ht⟩
    · cases List.mem_singleton.mp hr
      exact ⟨(stored, child'), by simp, hstored⟩
  · show Arranged true _ ((front ++ (stored, child') :: back).map (·.1))
    rw [hsegments]
    exact h.children.append h.children_known _
  · obtain ⟨_, hchildrenOrdered, _⟩ := hordered
    rw [hchildren] at hchildrenOrdered
    -- no other child takes the place, so nothing is added below it
    have haround := hchildrenOrdered.samePlace_eq_false_around hstored
    have hmem : ∀ branch ∈ front ++ back, branch ∈ node.children := by
      intro branch hbranch
      rw [hchildren, List.mem_append, List.mem_cons]
      rw [List.mem_append] at hbranch
      exact hbranch.imp_right .inr
    have hkept : ∀ branch ∈ front ++ back,
        empty.grow (Router.below branch.1 (rs ++ [⟨s :: next :: rest, command⟩])) =
          some branch.2 := by
      intro branch hbranch
      rw [below_append_of_not_samePlace (haround branch hbranch)]
      exact h.below branch (hmem branch hbranch)
    intro branch hbranch
    rcases List.mem_append.mp hbranch with hbranch | hbranch
    · exact hkept branch (List.mem_append_left _ hbranch)
    · rcases List.mem_cons.mp hbranch with rfl | hbranch
      · -- the child is built from one more route
        have hgrow := h.below (stored, child) (by rw [hchildren]; simp)
        rw [below_append_of_samePlace hstored, grow_append, hgrow, Option.bind_some,
          grow_cons_eq_some_iff]
        exact ⟨child', hchild, rfl⟩
      · exact hkept branch (List.mem_append_right _ hbranch)

/-- A longer route whose first segment takes no child's place adds a child. -/
theorem Reflects.place_child (h : node.Reflects rs) {child : Node α}
    (hfree : ∀ branch ∈ node.children, branch.1.samePlace s = false)
    (hchild : empty.insert? (next :: rest) command = some child) :
    ({ node with children := place s child node.children } : Node α).Reflects
      (rs ++ [⟨s :: next :: rest, command⟩]) := by
  have hnew := h.not_leads_of_free_child hfree
  refine {
    mem_commands_iff := h.mem_commands_iff_append
    commands := h.commands.append h.commands_known _
    stored := ?_
    covered := ?_
    children := h.children.place h.children_known hnew _ _
    below := ?_ }
  · intro branch hmem
    rcases mem_place.mp hmem with rfl | hmem
    · exact ⟨next, rest, command, by simp⟩
    · obtain ⟨next', rest', c, hr⟩ := h.stored _ hmem
      exact ⟨next', rest', c, List.mem_append_left _ hr⟩
  · intro t next' rest' c hr
    rcases List.mem_append.mp hr with hr | hr
    · obtain ⟨branch, hmem, ht⟩ := h.covered t next' rest' c hr
      exact ⟨branch, mem_place.mpr (.inr hmem), ht⟩
    · cases List.mem_singleton.mp hr
      exact ⟨_, mem_place.mpr (.inl rfl), s.samePlace_self⟩
  · intro branch hmem
    rcases mem_place.mp hmem with rfl | hmem
    · -- no route before leads through the new segment and goes on
      have hnone : Router.below s rs = [] := by
        rw [List.eq_nil_iff_forall_not_mem]
        rintro ⟨segments, c⟩ hmem
        obtain ⟨hne, t, ht, hr⟩ := mem_below_iff.mp hmem
        obtain ⟨next', rest', rfl⟩ := List.exists_cons_of_ne_nil hne
        exact hnew ⟨_, hr, Route.leads_singleton_true_iff.mpr ⟨t, next', rest', ht, rfl⟩⟩
      rw [below_append_of_samePlace s.samePlace_self, hnone, List.nil_append, grow_cons_eq_some_iff]
      exact ⟨child, hchild, rfl⟩
    · rw [below_append_of_not_samePlace (hfree branch hmem)]
      exact h.below branch hmem

end Deeper

/-- **One insert.** The node goes on to reflect its routes. -/
theorem Reflects.insert? (h : node.Reflects rs) (hordered : node.Ordered) {r : Route α}
    (hinsert : node.insert? r.segments r.command = some node') : node'.Reflects (rs ++ [r]) := by
  obtain ⟨segments, command⟩ := r
  match segments with
  | [] => cases hinsert
  | [last] =>
    rw [Node.insert?] at hinsert
    split at hinsert
    · cases hinsert
    · rename_i hfree
      cases hinsert
      -- the end of the route
      exact h.place_command (forall_samePlace_eq_false hfree)
  | s :: next :: rest =>
    -- the route goes on below a child, known or new
    rcases insert?_cons_cases hordered s next rest command with
      ⟨front, stored, child, back, hchildren, hstored, hstep⟩ | ⟨hfree, hstep⟩
    · rw [hstep] at hinsert
      obtain ⟨child', hchild, rfl⟩ := Option.map_eq_some_iff.mp hinsert
      exact h.change_child hordered hchildren hstored hchild
    · rw [hstep] at hinsert
      obtain ⟨child, hchild, rfl⟩ := Option.map_eq_some_iff.mp hinsert
      exact h.place_child hfree hchild

/-- **Every tree built from a list of routes** reflects it. -/
theorem reflects_grow (hgrow : empty.grow rs = some node) : node.Reflects rs := by
  -- on the routes still to come, from any tree that reflects those that came before
  have hfrom : ∀ (rest before : List (Route α)) (between : Node α), between.Reflects before →
      between.Ordered → between.grow rest = some node → node.Reflects (before ++ rest) := by
    intro rest
    induction rest with
    | nil =>
      intro before between h _ hrest
      cases hrest
      rw [List.append_nil]
      exact h
    | cons r rest ih =>
      intro before between h hordered hrest
      obtain ⟨next, hinsert, hrest⟩ := grow_cons_eq_some_iff.mp hrest
      rw [List.append_cons]
      exact ih _ next (h.insert? hordered hinsert) (ordered_insert? hinsert hordered) hrest
  exact hfrom rs [] empty reflects_empty ordered_empty hgrow

end Node

/-! ## Look-up

Look-up is followed down the tree: at each node the first branch that answers is taken, and what stands before it
answers nothing. -/

/-- A segment gives captures for what it accepts, and then what it captures. -/
theorem Segment.captures?_eq_some_iff {s : Segment} {token : String} {captures : List String} :
    s.captures? token = some captures ↔ s.Accepts token ∧ s.captured token = captures := by
  rw [captures?_eq]
  split
  · rename_i haccepts
    simp [haccepts]
  · rename_i haccepts
    simp [haccepts]

/-- Where two routes part at once, and what then puts one of them first. -/
theorem Route.TriedBefore.heads {rs : List (Route α)} {t t' : Segment} {segments segments' : List Segment}
    {c c' : α} (h : Route.TriedBefore rs ⟨t :: segments, c⟩ ⟨t' :: segments', c'⟩) :
    t.samePlace t' = true ∧ segments ≠ [] ∧ segments' ≠ [] ∨
    t.isExact = true ∧ t'.isExact = false ∨
    t.isExact = false ∧ t'.isExact = false ∧
      introduction rs [t] (!segments.isEmpty) < introduction rs [t'] (!segments'.isEmpty) := by
  cases h with
  | exact h h' hshared hs hs' =>
    cases hshared with
    | nil =>
      cases h
      cases h'
      exact .inr (.inl ⟨hs, hs'⟩)
    | cons hsame _ =>
      cases h
      cases h'
      exact .inl ⟨hsame, by simp, by simp⟩
  | wildcard h h' hshared hs hs' hfirst =>
    cases hshared with
    | nil =>
      cases h
      cases h'
      exact .inr (.inr ⟨hs, hs', hfirst⟩)
    | cons hsame _ =>
      cases h
      cases h'
      exact .inl ⟨hsame, by simp, by simp⟩

namespace Node

variable {node : Node α} {rs : List (Route α)}

/-- A child matches what the routes through its place match. -/
theorem Reflects.captures?_eq (h : node.Reflects rs) (hcoherent : Coherent rs)
    {branch : Segment × Node α} (hbranch : branch ∈ node.children) {t : Segment}
    {segments : List Segment} {c : α} (hr : ⟨t :: segments, c⟩ ∈ rs)
    (hsame : branch.1.samePlace t = true) (token : String) :
    branch.1.captures? token = t.captures? token := by
  obtain ⟨next, rest, c', hr'⟩ := h.stored branch hbranch
  exact hcoherent _ hr' _ hr branch.1 List.mem_cons_self t List.mem_cons_self hsame token

/-- Some route is found when one of the list fits. -/
theorem isSome_find?_of_fits (hcoherent : Coherent rs) (hgrow : empty.grow rs = some node)
    {r : Route α} (hr : r ∈ rs) {tokens : List String} (hfits : r.Fits tokens) :
    (node.find? tokens).isSome := by
  induction tokens generalizing node rs r with
  | nil =>
    have haccepted := (isSome_grow_iff ordered_empty).mp (Option.isSome_of_eq_some hgrow)
    exact absurd (List.forall₂_nil_right_iff.mp hfits) (haccepted.1 r hr).1
  | cons token tokens ih =>
    have hreflects := reflects_grow hgrow
    obtain ⟨segments, c⟩ := r
    obtain ⟨t, segments, haccepts, hrest, rfl⟩ := List.forall₂_cons_right_iff.mp hfits
    have hcaptures := Segment.captures?_eq_some_iff.mpr ⟨haccepts, rfl⟩
    cases tokens with
    | nil =>
      cases hrest
      rw [find?, List.findSome?_isSome_iff]
      exact ⟨_, (hreflects.mem_commands_iff t c).mpr hr, by simp [hcaptures]⟩
    | cons next rest =>
      obtain ⟨u, segments, _, _, rfl⟩ := List.forall₂_cons_right_iff.mp hrest
      -- the child at the place of the first segment finds the rest of the route
      obtain ⟨branch, hbranch, hsame⟩ := hreflects.covered t u segments c hr
      have hbelow : (⟨u :: segments, c⟩ : Route α) ∈ Router.below branch.1 rs :=
        mem_below_iff.mpr ⟨List.cons_ne_nil _ _, t, Segment.samePlace_symm hsame, hr⟩
      obtain ⟨found, hfound⟩ := Option.isSome_iff_exists.mp
        (ih (hcoherent.below branch.1) (hreflects.below branch hbranch) hbelow hrest)
      rw [find?, List.findSome?_isSome_iff]
      refine ⟨_, hbranch, ?_⟩
      simp [hreflects.captures?_eq hcoherent hbranch hr hsame, hcaptures, hfound]

/-- **What look-up gives** is a route of the list that fits, and no other that does is tried before. -/
theorem exists_best_of_find? (hcoherent : Coherent rs) (hgrow : empty.grow rs = some node)
    {tokens : List String} {c : α} {captures : List String}
    (hfind : node.find? tokens = some (c, captures)) :
    ∃ r ∈ rs, r.Fits tokens ∧ r.command = c ∧ r.captured tokens = captures ∧
      ∀ r' ∈ rs, r'.Fits tokens → ¬ r'.TriedBefore rs r := by
  -- on the tokens, the tree and its routes generalised: a child is built from the routes below it
  induction tokens generalizing node rs c captures with
  | nil => cases hfind
  | cons token tokens ih =>
    have hreflects := reflects_grow hgrow
    obtain ⟨hcommands, hchildren, -⟩ := ordered_grow ordered_empty hgrow
    cases tokens with
    | nil =>
      rw [find?_single] at hfind
      obtain ⟨⟨s, c⟩, hmem, hanswer, hbest⟩ := hreflects.commands.exists_of_findSome? hcommands hfind
      obtain ⟨captured, hcaptures, heq⟩ := Option.map_eq_some_iff.mp hanswer
      cases heq
      obtain ⟨haccepts, hcaptured⟩ := Segment.captures?_eq_some_iff.mp hcaptures
      refine ⟨⟨[s], c⟩, (hreflects.mem_commands_iff s c).mp hmem, .cons haccepts .nil, rfl, ?_, ?_⟩
      · simp [Route.captured, hcaptured]
      · rintro ⟨segments, c'⟩ hr' hfits htried
        obtain ⟨s', rest, haccepts', hrest, rfl⟩ := List.forall₂_cons_right_iff.mp hfits
        cases hrest
        have hanswer' : lookUpEntry [token] (s', .inl c') ≠ none := by
          simp [lookUpEntry, Segment.captures?_eq_some_iff.mpr ⟨haccepts', rfl⟩]
        obtain ⟨hexact, hfirst⟩ :=
          hbest (s', c') ((hreflects.mem_commands_iff s' c').mpr hr') hanswer'
        -- one segment each: they part at once, and the exact one or the earlier wildcard answers
        rcases htried.heads with ⟨_, hne, _⟩ | ⟨hs', hs⟩ | ⟨hs', hs, hlt⟩
        · exact hne rfl
        · rw [hexact hs'] at hs
          cases hs
        · exact absurd hlt (Nat.not_lt.mpr (hfirst hs' hs))
    | cons next rest =>
      rw [find?_several] at hfind
      obtain ⟨⟨s, child⟩, hmem, hanswer, hbest⟩ := hreflects.children.exists_of_findSome? hchildren hfind
      obtain ⟨captured, hcaptures, hanswer⟩ := Option.bind_eq_some_iff.mp hanswer
      obtain ⟨⟨_, more⟩, hfound, heq⟩ := Option.map_eq_some_iff.mp hanswer
      cases heq
      obtain ⟨r, hr, hfits, rfl, rfl, hbestBelow⟩ :=
        ih (hcoherent.below s) (hreflects.below _ hmem) hfound
      -- the best route below the child is the rest of a route of the list
      obtain ⟨hne, t, ht, hr⟩ := mem_below_iff.mp hr
      have hsame : s.samePlace t = true := Segment.samePlace_symm ht
      rw [hreflects.captures?_eq hcoherent hmem hr hsame] at hcaptures
      obtain ⟨haccepts, rfl⟩ := Segment.captures?_eq_some_iff.mp hcaptures
      refine ⟨r.under t, hr, .cons haccepts hfits, rfl, rfl, ?_⟩
      rintro ⟨segments, c'⟩ hr' hfits' htried
      obtain ⟨t', segments, haccepts', hrest, rfl⟩ := List.forall₂_cons_right_iff.mp hfits'
      obtain ⟨u, segments, _, _, rfl⟩ := List.forall₂_cons_right_iff.mp hrest
      by_cases hplace : t'.samePlace s = true
      · -- below one child, the rests of the two routes are compared
        have hbelow : (⟨u :: segments, c'⟩ : Route α) ∈ Router.below s rs :=
          mem_below_iff.mpr ⟨List.cons_ne_nil _ _, t', hplace, hr'⟩
        exact hbestBelow _ hbelow hrest (htried.below hplace ht (List.cons_ne_nil _ _) hne)
      · -- the other route leads through another child, which answers as well
        obtain ⟨⟨s', child'⟩, hmem', hsame'⟩ := hreflects.covered t' u segments c' hr'
        have hbelow : (⟨u :: segments, c'⟩ : Route α) ∈ Router.below s' rs :=
          mem_below_iff.mpr ⟨List.cons_ne_nil _ _, t', Segment.samePlace_symm hsame', hr'⟩
        obtain ⟨found, hfound'⟩ := Option.isSome_iff_exists.mp
          (isSome_find?_of_fits (hcoherent.below s') (hreflects.below _ hmem') hbelow hrest)
        have hanswer' : lookUpEntry (token :: next :: rest) (s', .inr child') ≠ none := by
          simp [lookUpEntry, hreflects.captures?_eq hcoherent hmem' hr' hsame',
            Segment.captures?_eq_some_iff.mpr ⟨haccepts', rfl⟩, hfound']
        obtain ⟨hexact, hfirst⟩ := hbest (s', child') hmem' hanswer'
        rw [Segment.isExact_eq_of_samePlace hsame, Segment.isExact_eq_of_samePlace hsame'] at hexact hfirst
        rw [introduction_singleton_congr hsame, introduction_singleton_congr hsame'] at hfirst
        rcases htried.heads with ⟨hparted, _⟩ | ⟨ht', ht⟩ | ⟨ht', ht, hlt⟩
        · exact hplace (Segment.samePlace_trans hparted ht)
        · rw [hexact ht'] at ht
          cases ht
        · rw [List.isEmpty_eq_false_iff.mpr hne] at hlt
          exact absurd hlt (Nat.not_lt.mpr (hfirst ht' ht))

end Node

/-! ## The best route

Routes that fit the same tokens agree up to some segment and part there. The order decides between any two
segments at which they can part. -/

/-- Beginnings of one length that come up at the same position take the same places. -/
theorem samePlaces_of_introduction_eq {rs : List (Route α)} {beginning beginning' : List Segment}
    {goesOn goesOn' : Bool} (hlength : beginning.length = beginning'.length)
    (hleads : ∃ r ∈ rs, r.Leads beginning goesOn)
    (heq : introduction rs beginning goesOn = introduction rs beginning' goesOn') :
    SamePlaces beginning beginning' := by
  have hlt := introduction_lt_length_iff.mpr hleads
  have hlt' := heq ▸ hlt
  -- one route leads through both
  have hfirst : (rs[introduction rs beginning goesOn]).Leads beginning goesOn :=
    of_decide_eq_true (List.findIdx_getElem (w := hlt))
  have hfirst' : (rs[introduction rs beginning' goesOn']).Leads beginning' goesOn' :=
    of_decide_eq_true (List.findIdx_getElem (w := hlt'))
  simp only [← heq] at hfirst'
  have hsame := hfirst'.1
  rw [← hlength] at hsame
  exact hfirst.1.symm.trans hsame

theorem SamePlaces.last {segments others : List Segment} {s t : Segment}
    (h : SamePlaces (segments ++ [s]) (others ++ [t])) : s.samePlace t = true := by
  have hreverse := List.forall₂_reverse_iff.mpr h
  rw [List.reverse_concat, List.reverse_concat] at hreverse
  exact (List.forall₂_cons.mp hreverse).1

/-- Routes that fit the same tokens take the same places or part at some token, which both accept. -/
theorem samePlaces_or_part {segments segments' : List Segment} {tokens : List String}
    (hfits : List.Forall₂ Segment.Accepts segments tokens)
    (hfits' : List.Forall₂ Segment.Accepts segments' tokens) :
    SamePlaces segments segments' ∨
      ∃ shared shared' s s' rest rest' token, segments = shared ++ s :: rest ∧
        segments' = shared' ++ s' :: rest' ∧ SamePlaces shared shared' ∧ s.samePlace s' = false ∧
        rest.length = rest'.length ∧ s.Accepts token ∧ s'.Accepts token := by
  induction tokens generalizing segments segments' with
  | nil =>
    cases hfits
    cases hfits'
    exact .inl .nil
  | cons token tokens ih =>
    obtain ⟨s, rest, hs, hrest, rfl⟩ := List.forall₂_cons_right_iff.mp hfits
    obtain ⟨s', rest', hs', hrest', rfl⟩ := List.forall₂_cons_right_iff.mp hfits'
    cases hsame : s.samePlace s' with
    | false =>
      have hlength : rest.length = rest'.length := by rw [hrest.length_eq, hrest'.length_eq]
      exact .inr ⟨[], [], s, s', rest, rest', token, rfl, rfl, .nil, hsame, hlength, hs, hs'⟩
    | true =>
      rcases ih hrest hrest' with htail | ⟨shared, shared', t, t', _, _, token', rfl, rfl, hshared, hpart⟩
      · exact .inl (.cons hsame htail)
      · exact .inr ⟨s :: shared, s' :: shared', t, t', _, _, token', rfl, rfl,
          .cons hsame hshared, hpart⟩

/-- **There is only one best route.** Of two routes that fit the same tokens, one is tried before the
other unless they take the same places. -/
theorem Route.samePlaces_of_not_triedBefore {rs : List (Route α)} {r r' : Route α} (hr : r ∈ rs)
    (hr' : r' ∈ rs) {tokens : List String} (hfits : r.Fits tokens) (hfits' : r'.Fits tokens)
    (h : ¬ r.TriedBefore rs r') (h' : ¬ r'.TriedBefore rs r) :
    SamePlaces r.segments r'.segments := by
  obtain ⟨segments, c⟩ := r
  obtain ⟨segments', c'⟩ := r'
  rcases samePlaces_or_part hfits hfits' with
    hsame | ⟨shared, shared', s, s', rest, rest', token, rfl, rfl, hshared, hpart, hlength, hs, hs'⟩
  · exact hsame
  exfalso
  cases hexact : s.isExact with
  | true =>
    cases hexact' : s'.isExact with
    | true =>
      -- both name the token
      cases s with
      | wildcard => cases hexact
      | exact key =>
        cases s' with
        | wildcard => cases hexact'
        | exact key' =>
          have hkey : Text.lowercase token = key := hs
          have hkey' : Text.lowercase token = key' := hs'
          rw [← hkey, ← hkey', Segment.samePlace_self] at hpart
          cases hpart
    | false => exact h (.exact rfl rfl hshared hexact hexact')
  | false =>
    cases hexact' : s'.isExact with
    | true => exact h' (.exact rfl rfl hshared.symm hexact' hexact)
    | false =>
      -- two wildcards: one came up first, or both take one place after all
      rcases Nat.lt_trichotomy (introduction rs (shared ++ [s]) (!rest.isEmpty))
          (introduction rs (shared' ++ [s']) (!rest'.isEmpty)) with hlt | heq | hlt
      · exact h (.wildcard rfl rfl hshared hexact hexact' hlt)
      · have hsame := samePlaces_of_introduction_eq (by simp [hshared.length_eq])
          ⟨_, hr, leads_append shared rest s c⟩ heq
        rw [hsame.last] at hpart
        cases hpart
      · exact h' (.wildcard rfl rfl hshared.symm hexact' hexact hlt)

/-- **Look-up told by the list of routes.** In a tree built from coherent routes, look-up gives the route
that fits and before which no other one that fits is tried, with its captures. -/
theorem Node.find?_eq_some_iff {node : Node α} {rs : List (Route α)} (hcoherent : Coherent rs)
    (hgrow : empty.grow rs = some node) {tokens : List String} {c : α} {captures : List String} :
    node.find? tokens = some (c, captures) ↔
      ∃ r ∈ rs, r.Fits tokens ∧ r.command = c ∧ r.captured tokens = captures ∧
        ∀ r' ∈ rs, r'.Fits tokens → ¬ r'.TriedBefore rs r := by
  constructor
  · exact exists_best_of_find? hcoherent hgrow
  · rintro ⟨r, hr, hfits, rfl, rfl, hbest⟩
    obtain ⟨⟨c, captures⟩, hfind⟩ :=
      Option.isSome_iff_exists.mp (isSome_find?_of_fits hcoherent hgrow hr hfits)
    obtain ⟨r', hr', hfits', rfl, rfl, hbest'⟩ := exists_best_of_find? hcoherent hgrow hfind
    have hsame := Route.samePlaces_of_not_triedBefore hr hr' hfits hfits' (hbest' r hr hfits)
      (hbest r' hr' hfits')
    -- routes that were added take different places
    have hdifferent := ((isSome_grow_iff ordered_empty).mp (Option.isSome_of_eq_some hgrow)).2
    have hsymm : Std.Symm fun r r' : Route α => ¬ SamePlaces r.segments r'.segments :=
      ⟨fun _ _ hdiffer h => hdiffer h.symm⟩
    have heq : r = r' := by
      apply Classical.byContradiction
      intro hne
      exact hdifferent.forall hr hr' hne hsame
    rw [hfind, heq]

end ChatDispatch.Router
