import ChatDispatch.Proofs.RouteSet
import ChatDispatch.Proofs.Splitting

/-!
# What an insert makes resolve

A path is written as tokens, and a token list resolves by the segments that the tree stores. The two
agree except at one place: before its last token, a path goes along the wildcards that are there already.
Such a wildcard was written in the same letters up to case, but its marker is found with regard to case, so
it may have been cut elsewhere and match other texts.

* **`TokenMatches`**, **`PathMatches`** — what the text of a path itself matches.
* **`Node.Stores`**, **`Node.forall₂_placed`** — each stored segment is the path's own or one from before.
* **`isSome_find?_insert_iff`** — the headline: after an insert, a token list resolves exactly when it did
  before or the stored segments accept it; where tokens that are equal up to case match the same texts,
  these are the token lists that the path matches.
* **`insert_can_miss_its_own_path`** — where they do not, a path can be accepted and never be found.
-/

namespace ChatDispatch.Router

variable {α : Type}

/-! ## What a path matches

Matching is said of tokens and texts, without segments or trees. -/

/-- The token of a path matches a text: without the marker it does up to case, and with the marker the
text consists of the pieces around it with something captured in between. -/
def TokenMatches (marker token text : String) : Prop :=
  if marker.toList <:+: token.toList then
    (matchLiterals (Text.splitMarker marker.toList token.toList) text.toList).isSome = true
  else Text.lowercase text = Text.lowercase token

instance (marker : String) : DecidableRel (TokenMatches marker) := fun token text =>
  inferInstanceAs (Decidable (if marker.toList <:+: token.toList then
    (matchLiterals (Text.splitMarker marker.toList token.toList) text.toList).isSome = true
    else Text.lowercase text = Text.lowercase token))

/-- The path has a token for each text, which matches it. -/
def PathMatches (marker : String) (path tokens : List String) : Prop :=
  List.Forall₂ (TokenMatches marker) path tokens

instance (marker : String) (path tokens : List String) : Decidable (PathMatches marker path tokens) :=
  inferInstanceAs (Decidable (List.Forall₂ (TokenMatches marker) path tokens))

/-- The segment of a token accepts what the token matches. -/
theorem Segment.ofToken_accepts_iff {marker : String} (hmarker : marker ≠ "") (token text : String) :
    (Segment.ofToken (some marker) token).Accepts text ↔ TokenMatches marker token text := by
  rw [TokenMatches]
  split
  · rename_i hcontains
    rw [ofToken_eq_wildcard hmarker hcontains]
    rfl
  · rename_i hcontains
    rw [ofToken_eq_exact hmarker hcontains]
    rfl

/-! ## The segments that a tree stores

Only the segments inside a route are shared. Each of them was written for some route that was inserted, and which
one it was can matter. -/

namespace Node

/-- The segment leads from one node of the tree to another. -/
inductive Stores : Node α → Segment → Prop where
  | here {node child : Node α} {segment : Segment} (h : (segment, child) ∈ node.children) :
      Stores node segment
  | deeper {node child : Node α} {segment inner : Segment} (h : (segment, child) ∈ node.children)
      (hbelow : Stores child inner) : Stores node inner

theorem not_stores_empty {segment : Segment} : ¬ (empty : Node α).Stores segment := by
  intro h
  cases h with
  | here h => cases h
  | deeper h => cases h

/-- A route is stored under its own segments and under segments at the same place that the tree stores
already. -/
theorem forall₂_placed (route : List Segment) (node : Node α) :
    List.Forall₂ (fun stored segment => stored = segment ∨
      node.Stores stored ∧ stored.samePlace segment = true) (node.placed route) route := by
  induction route generalizing node with
  | nil => exact .nil
  | cons segment route ih =>
    cases route with
    | nil => exact .cons (.inl rfl) .nil
    | cons next rest =>
      rw [placed]
      cases hfind : node.children.find? (·.1.samePlace segment) with
      | none => exact List.forall₂_same.mpr fun _ _ => .inl rfl
      | some branch =>
        have hmem := List.mem_of_find?_eq_some hfind
        -- the branch that takes the place is kept, and the route goes on below it
        have hstored : branch.1.samePlace segment = true := by simpa using List.find?_some hfind
        refine .cons (.inr ⟨.here hmem, hstored⟩) ((ih branch.2).imp ?_)
        rintro stored own (rfl | ⟨hstores, hsame⟩)
        · exact .inl rfl
        · exact .inr ⟨.deeper hmem hstores, hsame⟩

/-- An insert stores no other segments than those of its route. -/
theorem stores_insert? {node node' : Node α} {route : List Segment} {command : α} {stored : Segment}
    (hordered : node.Ordered) (h : node.insert? route command = some node')
    (hstores : node'.Stores stored) : node.Stores stored ∨ stored ∈ route := by
  induction route generalizing node node' with
  | nil => cases h
  | cons segment route ih =>
    cases route with
    | nil =>
      rw [insert?] at h
      split at h
      · cases h
      · cases h
        -- the children are those from before
        cases hstores with
        | here hmem => exact .inl (.here hmem)
        | deeper hmem hbelow => exact .inl (.deeper hmem hbelow)
    | cons next rest =>
      rcases insert?_cons_cases hordered segment next rest command with
        ⟨front, kept, child, back, hchildren, _, hinsert⟩ | ⟨_, hinsert⟩
      · rw [hinsert] at h
        obtain ⟨child', hchild', rfl⟩ := Option.map_eq_some_iff.mp h
        obtain ⟨_, _, hbelowOrdered⟩ := hordered
        have hkept : (kept, child) ∈ node.children := by simp [hchildren]
        have hold : ∀ branch ∈ front ++ back, branch ∈ node.children := by
          intro branch hbranch
          rw [hchildren, List.mem_append, List.mem_cons]
          exact (List.mem_append.mp hbranch).imp_right .inr
        -- a child is one from before or the one that was changed
        have hcases : ∀ branch ∈ front ++ (kept, child') :: back,
            branch ∈ front ++ back ∨ branch = (kept, child') := by
          intro branch hbranch
          simp only [List.mem_append, List.mem_cons] at hbranch ⊢
          grind
        cases hstores with
        | here hmem =>
          rcases hcases _ hmem with hmem | heq
          · exact .inl (.here (hold _ hmem))
          · cases heq
            exact .inl (.here hkept)
        | deeper hmem hbelow =>
          rcases hcases _ hmem with hmem | heq
          · exact .inl (.deeper (hold _ hmem) hbelow)
          · cases heq
            exact (ih (hbelowOrdered _ hkept) hchild' hbelow).imp (.deeper hkept)
              (List.mem_cons_of_mem segment)
      · rw [hinsert] at h
        -- a new child, below which there is only the route itself
        obtain ⟨child, hchild, rfl⟩ := Option.map_eq_some_iff.mp h
        cases hstores with
        | here hmem =>
          rcases mem_place.mp hmem with heq | hmem
          · cases heq
            exact .inr List.mem_cons_self
          · exact .inl (.here hmem)
        | deeper hmem hbelow =>
          rcases mem_place.mp hmem with heq | hmem
          · cases heq
            rcases ih ordered_empty hchild hbelow with hnone | hmem
            · exact absurd hnone not_stores_empty
            · exact .inr (List.mem_cons_of_mem segment hmem)
          · exact .inl (.deeper hmem hbelow)

end Node

/-! ## Sequences of inserts

A segment comes from the first path with an equal token, so a later path may be stored under a pattern that is not
its own. -/

/-- Inserts leave the marker as it is. -/
theorem marker_insertAll (router : Router α) (inserts : List (List String × α)) :
    (router.insertAll inserts).marker = router.marker := by
  induction inserts generalizing router with
  | nil => rfl
  | cons i inserts ih =>
    rw [insertAll, List.foldl_cons]
    cases hinsert : router.insert i.1 i.2 with
    | error e => exact ih router
    | ok extended =>
      obtain ⟨root, _, rfl⟩ := insert_eq_ok_iff.mp hinsert
      exact ih _

/-- A segment that a router stores was written as a token of a path that was inserted. -/
theorem exists_token_of_stores {router : Router α} (hordered : router.root.Ordered)
    {inserts : List (List String × α)} {stored : Segment}
    (h : (router.insertAll inserts).root.Stores stored) :
    router.root.Stores stored ∨
      ∃ i ∈ inserts, ∃ token ∈ i.1, stored = .ofToken router.marker token := by
  induction inserts generalizing router with
  | nil => exact .inl h
  | cons i inserts ih =>
    rw [insertAll, List.foldl_cons] at h
    cases hinsert : router.insert i.1 i.2 with
    | error e =>
      rw [hinsert] at h
      rcases ih hordered h with hstores | ⟨j, hj, hrest⟩
      · exact .inl hstores
      · exact .inr ⟨j, List.mem_cons_of_mem i hj, hrest⟩
    | ok extended =>
      rw [hinsert] at h
      rcases ih (ordered_insert hinsert hordered) h with hstores | ⟨j, hj, token, htoken, heq⟩
      · obtain ⟨root, hroot, rfl⟩ := insert_eq_ok_iff.mp hinsert
        rcases Node.stores_insert? hordered hroot hstores with hstores | hmem
        · exact .inl hstores
        · -- it belongs to the path that was inserted first
          obtain ⟨token, htoken, rfl⟩ := List.mem_map.mp hmem
          exact .inr ⟨i, List.mem_cons_self, token, htoken, rfl⟩
      · obtain ⟨_, _, rfl⟩ := insert_eq_ok_iff.mp hinsert
        exact .inr ⟨j, List.mem_cons_of_mem i hj, token, htoken, heq⟩

/-- The segments under which a path is stored are its own and those of earlier tokens that are equal up to
case. -/
theorem forall₂_placed_insertAll {delimiters : List Char} {marker : String} (hmarker : marker ≠ "")
    {inserts : List (List String × α)} {router : Router α}
    (hrouter : (empty delimiters (some marker)).insertAll inserts = router) (path : List String) :
    List.Forall₂ (fun stored token => stored = .ofToken (some marker) token ∨
      ∃ i ∈ inserts, ∃ earlier ∈ i.1, stored = .ofToken (some marker) earlier ∧
        Text.lowercase earlier = Text.lowercase token)
      (router.root.placed (path.map (.ofToken (some marker)))) path := by
  have hplaced := router.root.forall₂_placed (path.map (.ofToken (some marker)))
  rw [List.forall₂_map_right_iff] at hplaced
  refine hplaced.imp ?_
  rintro stored token (hown | ⟨hstores, hsame⟩)
  · exact .inl hown
  · right
    subst hrouter
    -- what the tree stores has been written as a token of some path
    rcases exists_token_of_stores Node.ordered_empty hstores with
      hnone | ⟨i, hi, earlier, hearlier, hstored⟩
    · exact absurd hnone Node.not_stores_empty
    · have hempty : (empty delimiters (some marker) : Router α).marker = some marker := by
        simp [empty, Option.filter, hmarker]
      rw [hempty] at hstored
      rw [hstored] at hsame
      exact ⟨i, hi, earlier, hearlier, hstored, Segment.samePlace_ofToken hsame⟩

/-- Lists that correspond stand in a relation to the same lists, if their elements do. -/
theorem forall₂_congr_of_forall₂ {β γ : Type} {r : α → β → Prop} {p : α → γ → Prop}
    {q : β → γ → Prop} {as : List α} {bs : List β} (h : List.Forall₂ r as bs)
    (hpq : ∀ a, ∀ b ∈ bs, r a b → ∀ c, p a c ↔ q b c) (cs : List γ) :
    List.Forall₂ p as cs ↔ List.Forall₂ q bs cs := by
  induction h generalizing cs with
  | nil => cases cs <;> simp
  | @cons a b as bs hr _ ih =>
    cases cs with
    | nil => simp
    | cons c cs =>
      have hhead : p a c ↔ q b c := hpq a b List.mem_cons_self hr c
      -- entry by entry
      have htail : List.Forall₂ p as cs ↔ List.Forall₂ q bs cs :=
        ih (fun a b hb => hpq a b (List.mem_cons_of_mem _ hb)) cs
      rw [List.forall₂_cons, List.forall₂_cons, hhead, htail]

/-- **What an insert makes resolve.** Once a path is accepted, a token list resolves exactly when it did
before or the segments accept it under which the path is stored. Each of these is the segment of the
path's own token or that of an earlier token which is equal up to case. When such tokens match the same
texts, the token lists that the insert adds are those that the path matches. -/
theorem isSome_find?_insert_iff {delimiters : List Char} {marker : String} (hmarker : marker ≠ "")
    {inserts : List (List String × α)} {router extended : Router α} {path : List String} {command : α}
    (hrouter : (empty delimiters (some marker)).insertAll inserts = router)
    (h : router.insert path command = .ok extended) :
    (∀ tokens, (extended.find? tokens).isSome = true ↔ (router.find? tokens).isSome = true ∨
      List.Forall₂ Segment.Accepts (router.root.placed (path.map (.ofToken (some marker)))) tokens) ∧
    List.Forall₂ (fun stored token => stored = .ofToken (some marker) token ∨
      ∃ i ∈ inserts, ∃ earlier ∈ i.1, stored = .ofToken (some marker) earlier ∧
        Text.lowercase earlier = Text.lowercase token)
      (router.root.placed (path.map (.ofToken (some marker)))) path ∧
    ((∀ i ∈ inserts, ∀ earlier ∈ i.1, ∀ token ∈ path,
        Text.lowercase earlier = Text.lowercase token →
        ∀ text, TokenMatches marker earlier text ↔ TokenMatches marker token text) →
      ∀ tokens, (extended.find? tokens).isSome = true ↔
        (router.find? tokens).isSome = true ∨ PathMatches marker path tokens) := by
  have hordered : router.root.Ordered := by
    rw [← hrouter]
    exact ordered_insertAll Node.ordered_empty inserts
  have hrouterMarker : router.marker = some marker := by
    rw [← hrouter, marker_insertAll]
    simp [empty, Option.filter, hmarker]
  -- the tree has one more route, under the segments where it is stored
  have hfound : ∀ tokens, (extended.find? tokens).isSome = true ↔
      (router.find? tokens).isSome = true ∨ List.Forall₂ Segment.Accepts
        (router.root.placed (path.map (.ofToken (some marker)))) tokens := by
    intro tokens
    obtain ⟨root, hroot, rfl⟩ := insert_eq_ok_iff.mp h
    rw [hrouterMarker] at hroot
    rw [find?, find?, Node.isSome_find?_iff, Node.isSome_find?_iff]
    simp only [Node.has_insert?_iff hordered hroot, or_and_right, exists_or, exists_eq_left]
    rfl
  have hstored := forall₂_placed_insertAll hmarker hrouter path
  refine ⟨hfound, hstored, ?_⟩
  intro hagree tokens
  rw [hfound tokens, PathMatches]
  refine or_congr_right (forall₂_congr_of_forall₂ hstored ?_ tokens)
  rintro stored token htoken (rfl | ⟨i, hi, earlier, hearlier, rfl, hcase⟩) text
  · exact Segment.ofToken_accepts_iff hmarker token text
  · rw [Segment.ofToken_accepts_iff hmarker]
    exact hagree i hi earlier hearlier token htoken hcase text

/-- A router with a path whose marker stands in the middle of its first token. -/
def crossing : Router Nat := (empty [] (some "X")).insertAll [(["aXx", "one"], 1)]

/-- The router with a second path, whose first token is equal up to case and has its marker at the end. -/
def crossed : Router Nat := (empty [] (some "X")).insertAll [(["aXx", "one"], 1), (["axX", "two"], 2)]

/-- The second path is stored behind the wildcard of the first one, and this is what resolves. -/
theorem isSome_find?_crossed :
    crossing.insert ["axX", "two"] 2 = .ok crossed ∧
    crossing.root.placed (["axX", "two"].map (.ofToken (some "X"))) =
      [.wildcard "axx" [['a'], ['x']], .exact "two"] ∧
    (crossed.find? ["aqx", "two"]).isSome = true ∧ (crossed.find? ["axq", "two"]).isSome = false := by
  have hinsert : crossing.insert ["axX", "two"] 2 = .ok crossed := rfl
  have hplaced : crossing.root.placed (["axX", "two"].map (.ofToken (some "X"))) =
      [.wildcard "axx" [['a'], ['x']], .exact "two"] := by decide
  have hadds := (isSome_find?_insert_iff (by decide) rfl hinsert).1
  rw [← crossing, hplaced] at hadds
  refine ⟨hinsert, hplaced, (hadds _).mpr (.inr (by decide)), ?_⟩
  rw [← Bool.not_eq_true, hadds]
  decide

/-- **A path can be accepted and never be found.** It is not so that an insert adds what its path matches:
the second path matches tokens that do not resolve, and does not match others that resolve by it. -/
theorem insert_can_miss_its_own_path :
    ¬ ∀ (delimiters : List Char) (marker : String) (inserts : List (List String × Nat))
        (path : List String) (command : Nat) (extended : Router Nat), marker ≠ "" →
      ((empty delimiters (some marker)).insertAll inserts).insert path command = .ok extended →
      ∀ tokens, (extended.find? tokens).isSome = true ↔
        (((empty delimiters (some marker)).insertAll inserts).find? tokens).isSome = true ∨
          PathMatches marker path tokens := by
  intro h
  have hcrossed := h [] "X" [(["aXx", "one"], 1)] ["axX", "two"] 2 crossed (by decide) rfl
  have hmatches : PathMatches "X" ["axX", "two"] ["axq", "two"] := by decide
  have hmissed : ¬ (crossed.find? ["axq", "two"]).isSome = true := by decide
  exact hmissed ((hcrossed ["axq", "two"]).mpr (.inr hmatches))

end ChatDispatch.Router
