import ChatDispatch.Proofs.RouteSet
import ChatDispatch.Proofs.Splitting

/-!
# Inserts in place

`insert` gives a new router or none at all. A router that changes where it stands makes the nodes of a path
while it walks along, and finds out last whether the end of the path is free. This module is about such an
insert: what it leaves behind when it is refused, and when that is.

* **`Node.store`**, **`Router.store`** — the insert in place. It also says where the walk could lose its way.
* **`Node.store_eq`** — below an ordered node it does what `insert?` does, and a refusal changes nothing: if
  the end is taken, all nodes on the way are there already.
* **`SamePath`** — two paths are equal up to case, and hold the marker in the same tokens.
* **`Registered`** — the invariant: the routes of a router are the paths that it has accepted.
* **`Registered.store`**, **`registered_storeAll`** — one insert keeps it, and so does any number of them.
* **`store_outcome`** — the headline: when an insert is refused, for which reason, and what changes.
-/

namespace ChatDispatch.Router

variable {α β : Type}

/-! ## Changing a router where it stands

The walk makes a node when it is missing and then looks it up again. It could fail on its way and leave nodes
behind, and that it does not is part of what is proved. -/

/-- What keeps a command from being stored. -/
inductive Obstacle where
  /-- The path has no tokens. -/
  | noEnd
  /-- There is a command at the end of the path. -/
  | taken
  /-- The node for the token is not where it was found or made. -/
  | lost (token : String)

/-- The refusal that an insert of the path ends with. -/
def Obstacle.refusal (path : List String) : Obstacle → RouteError
  | noEnd => .emptyPath
  | taken => .duplicatePath path
  | lost token => .duplicatePath [token]

/-- Where the branch stands that has the place of a segment, and the branches with this one made if it is
missing. -/
def reserve (segment : Segment) (fresh : β) (branches : List (Segment × β)) : Nat × List (Segment × β) :=
  match branches.findIdx? (·.1.samePlace segment) with
  | some i => (i, branches)
  | none => (if segment.isExact then 0 else branches.length, place segment fresh branches)

/-- Stores a command at the end of a path and makes the nodes on the way. The node is given back as it is
left, whether the command could be stored or not. -/
def Node.store (marker : Option String) :
    (path : List String) → (command : α) → Node α → Except Obstacle Unit × Node α
  | [], _, node => (.error .noEnd, node)
  | [last], command, node =>
    let segment := Segment.ofToken marker last
    if node.commands.any (·.1.samePlace segment) then (.error .taken, node)
    else (.ok (), { node with commands := place segment command node.commands })
  | token :: next :: rest, command, node =>
    let (i, children) := reserve (Segment.ofToken marker token) empty node.children
    match children[i]? with
    | none => (.error (.lost token), { node with children := children })
    | some (stored, child) =>
      let (outcome, child) := store marker (next :: rest) command child
      (outcome, { node with children := children.set i (stored, child) })

/-- Stores a command at the end of a path of tokens, and gives the router back as it is left. -/
def store (router : Router α) (path : List String) (command : α) : Except RouteError Unit × Router α :=
  match router.root.store router.marker path command with
  | (.ok (), root) => (.ok (), { router with root := root, size := router.size + 1 })
  | (.error obstacle, root) => (.error (obstacle.refusal path), { router with root := root })

/-- The router as a sequence of inserts in place leaves it. -/
def storeAll (router : Router α) : List (List String × α) → Router α
  | [] => router
  | (path, command) :: inserts => (router.store path command).2.storeAll inserts

/-- The paths that are accepted in a sequence of inserts in place. -/
def accepted (router : Router α) : List (List String × α) → List (List String)
  | [] => []
  | (path, command) :: inserts =>
    match router.store path command with
    | (.ok (), changed) => path :: changed.accepted inserts
    | (.error _, left) => left.accepted inserts

/-! ## One list of branches

A branch that has just been made is found where it was put. -/

section Branches

variable {segment stored : Segment} {fresh b b' : β} {front back branches : List (Segment × β)}

/-- A branch that has the place of the segment is found where it stands. -/
theorem reserve_of_branch (h : InOrder (front ++ (stored, b) :: back))
    (hstored : stored.samePlace segment = true) :
    reserve segment fresh (front ++ (stored, b) :: back) =
      (front.length, front ++ (stored, b) :: back) := by
  -- no branch before it has the place
  have hfront : front.findIdx? (·.1.samePlace segment) = none := by
    rw [List.findIdx?_eq_none_iff]
    intro branch hbranch
    exact h.samePlace_eq_false_around hstored branch (List.mem_append_left _ hbranch)
  have hfind : (front ++ (stored, b) :: back).findIdx? (·.1.samePlace segment) = some front.length := by
    rw [List.findIdx?_append, hfront, List.findIdx?_cons, hstored]
    simp
  rw [reserve, hfind]

/-- A segment that takes no branch's place gets a branch of its own. -/
theorem reserve_of_free (hfree : ∀ branch ∈ branches, branch.1.samePlace segment = false) :
    reserve segment fresh branches =
      (if segment.isExact then 0 else branches.length, place segment fresh branches) := by
  rw [reserve, List.findIdx?_eq_none_iff.mpr hfree]

/-- A new branch stands in front if its segment is exact and at the end otherwise. -/
theorem getElem?_place :
    (place segment b branches)[if segment.isExact then 0 else branches.length]? = some (segment, b) := by
  cases hexact : segment.isExact <;> simp [place, hexact]

/-- Changing the new branch is putting the changed one there. -/
theorem set_place :
    (place segment b branches).set (if segment.isExact then 0 else branches.length) (segment, b') =
      place segment b' branches := by
  cases hexact : segment.isExact <;> simp [place, hexact]

end Branches

/-! ## One insert

The walk in place is compared with the insert that gives a new tree, node by node. -/

/-- Nothing is in the way below a node that was just made. -/
theorem Node.exists_insert?_empty (segment : Segment) (rest : List Segment) (command : α) :
    ∃ changed : Node α, empty.insert? (segment :: rest) command = some changed := by
  rw [← Option.isSome_iff_exists, Option.isSome_iff_ne_none, ne_eq, insert?_eq_none_iff ordered_empty]
  rintro (hnil | ⟨r, hhas, -⟩)
  · cases hnil
  · exact not_has_empty hhas

/-- **An insert in place** stores the command where `insert?` puts it. If it is refused, it leaves the node as
it was, and the walk never loses its way. -/
theorem Node.store_eq {node : Node α} (hordered : node.Ordered) (marker : Option String)
    (path : List String) (command : α) :
    node.store marker path command =
      match node.insert? (path.map (.ofToken marker)) command with
      | some changed => (.ok (), changed)
      | none => (.error (if path.isEmpty then .noEnd else .taken), node) := by
  -- on the path, for any ordered node
  induction path generalizing node with
  | nil => rfl
  | cons token path ih =>
    cases path with
    | nil =>
      simp only [store, List.map_cons, List.map_nil, insert?]
      split <;> rfl
    | cons next rest =>
      rw [List.map_cons, List.map_cons]
      rcases insert?_cons_cases hordered (.ofToken marker token) (.ofToken marker next)
          (rest.map (.ofToken marker)) command with
        ⟨front, stored, child, back, hchildren, hstored, hinsert⟩ | ⟨hfree, hinsert⟩
      · obtain ⟨_, hbranches, hbelow⟩ := hordered
        have hmem : (stored, child) ∈ node.children := by simp [hchildren]
        have hchild := ih (hbelow _ hmem)
        rw [hchildren] at hbranches
        have hthere : (front ++ (stored, child) :: back)[front.length]? = some (stored, child) := by
          simp
        -- only the child changes
        have hset : ∀ left, (front ++ (stored, child) :: back).set front.length (stored, left) =
            front ++ (stored, left) :: back := by
          intro left
          simp
        simp only [store, hchildren, reserve_of_branch hbranches hstored, hthere, hchild, hinsert, hset,
          List.map_cons]
        cases child.insert? (.ofToken marker next :: rest.map (.ofToken marker)) command with
        | some changed => rfl
        | none =>
          -- the child is left as it was, and so is the node
          have hleft : (⟨node.commands, node.children⟩ : Node α) = node := by
            cases node
            rfl
          simp only [Option.map_none, List.isEmpty_cons, Bool.false_eq_true, if_false, ← hchildren, hleft]
      · -- below a node that was just made there is room
        have hnew := ih ordered_empty
        obtain ⟨changed, hchanged⟩ := exists_insert?_empty (.ofToken marker next)
          (rest.map (.ofToken marker)) command
        simp only [List.map_cons, hchanged] at hnew
        simp only [store, reserve_of_free hfree, getElem?_place, set_place, hnew, hinsert, hchanged,
          Option.map_some]

/-- **An insert in place** and one that gives a new router come to the same. -/
theorem store_eq {router : Router α} (hordered : router.root.Ordered) (path : List String) (command : α) :
    router.store path command =
      match router.insert path command with
      | .ok extended => (.ok (), extended)
      | .error e => (.error e, router) := by
  rw [store, Node.store_eq hordered, insert]
  -- a path without tokens is refused before the tree is looked at
  cases path with
  | nil => rfl
  | cons token path =>
    cases router.root.insert? ((token :: path).map (.ofToken router.marker)) command with
    | some root => rfl
    | none => rfl

/-! ## Equal paths

When two tokens are written as segments for one place, in terms of the tokens. -/

/-- The marker occurs in the token. An empty marker is none. -/
def HoldsMarker (marker : Option String) (token : String) : Prop :=
  ∃ m ∈ marker, m ≠ "" ∧ m.toList <:+: token.toList

/-- Two tokens are equal in lower case, and the marker occurs in both or in neither. -/
def SameToken (marker : Option String) (token other : String) : Prop :=
  Text.lowercase token = Text.lowercase other ∧ (HoldsMarker marker token ↔ HoldsMarker marker other)

/-- Two paths have the same tokens, position by position. -/
def SamePath (marker : Option String) (path other : List String) : Prop :=
  List.Forall₂ (SameToken marker) path other

/-- A token that holds the marker is written as a wildcard. -/
theorem Segment.exists_ofToken_eq_wildcard {marker : Option String} {token : String}
    (h : HoldsMarker marker token) : ∃ pieces,
      ofToken (marker.filter (!·.isEmpty)) token = .wildcard (Text.lowercase token) pieces := by
  obtain ⟨m, hm, hne, hoccurs⟩ := h
  rw [Option.mem_def] at hm
  have hkept : marker.filter (!·.isEmpty) = some m := by simp [hm, Option.filter, hne]
  rw [hkept]
  exact ⟨_, ofToken_eq_wildcard hne hoccurs⟩

/-- A token that does not hold the marker is written as itself. -/
theorem Segment.ofToken_eq_exact_of_not {marker : Option String} {token : String}
    (h : ¬ HoldsMarker marker token) :
    ofToken (marker.filter (!·.isEmpty)) token = .exact (Text.lowercase token) := by
  cases hkept : marker.filter (!·.isEmpty) with
  | none => rfl
  | some m =>
    obtain ⟨hm, hne⟩ := Option.filter_eq_some_iff.mp hkept
    have hne : m ≠ "" := by simpa using hne
    exact ofToken_eq_exact hne fun hoccurs => h ⟨m, hm, hne, hoccurs⟩

/-- **Two tokens take the same place** exactly when they are the same. -/
theorem Segment.samePlace_ofToken_iff {marker : Option String} {token other : String} :
    (ofToken (marker.filter (!·.isEmpty)) token).samePlace
      (ofToken (marker.filter (!·.isEmpty)) other) = true ↔ SameToken marker token other := by
  unfold SameToken
  by_cases htoken : HoldsMarker marker token <;> by_cases hother : HoldsMarker marker other
  · obtain ⟨pieces, hpieces⟩ := exists_ofToken_eq_wildcard htoken
    obtain ⟨others, hothers⟩ := exists_ofToken_eq_wildcard hother
    simp [hpieces, hothers, samePlace, htoken, hother]
  · obtain ⟨pieces, hpieces⟩ := exists_ofToken_eq_wildcard htoken
    simp [hpieces, ofToken_eq_exact_of_not hother, samePlace, htoken, hother]
  · obtain ⟨others, hothers⟩ := exists_ofToken_eq_wildcard hother
    simp [hothers, ofToken_eq_exact_of_not htoken, samePlace, htoken, hother]
  · simp [ofToken_eq_exact_of_not htoken, ofToken_eq_exact_of_not hother, samePlace, htoken, hother]

/-! ## The paths that a router has accepted

The routes of the tree are put in terms of the paths. `Registered` holds at the beginning and is kept by every
insert. -/

/-- The segments that a path is written for. -/
def segmentsOf (marker : Option String) (path : List String) : List Segment :=
  path.map (.ofToken (marker.filter (!·.isEmpty)))

theorem samePlaces_segmentsOf_iff {marker : Option String} {path other : List String} :
    SamePlaces (segmentsOf marker path) (segmentsOf marker other) ↔ SamePath marker path other := by
  simp only [SamePlaces, segmentsOf, List.forall₂_map_left_iff, List.forall₂_map_right_iff,
    Segment.samePlace_ofToken_iff]
  rfl

/-- The router has a route for each of the paths and no others. The paths are different, and the router
counts them. -/
structure Registered (marker : Option String) (router : Router α) (paths : List (List String)) : Prop where
  marker_eq : router.marker = marker.filter (!·.isEmpty)
  ordered : router.root.Ordered
  size_eq : router.size = paths.length
  has : ∀ path ∈ paths, ∃ r, router.root.Has r ∧ SamePlaces r.segments (segmentsOf marker path)
  path_of_has : ∀ r, router.root.Has r → ∃ path ∈ paths, SamePlaces r.segments (segmentsOf marker path)
  differ : paths.Pairwise fun path other => ¬ SamePath marker path other

namespace Registered

variable {marker : Option String} {router : Router α} {paths : List (List String)}

/-- A router begins without paths. -/
theorem empty (delimiters : List Char) (marker : Option String) :
    Registered marker (Router.empty delimiters marker : Router α) [] where
  marker_eq := rfl
  ordered := Node.ordered_empty
  size_eq := rfl
  has := nofun
  path_of_has := fun _ hhas => absurd hhas Node.not_has_empty
  differ := .nil

/-- A route takes the places of a path exactly when a path was accepted that is the same. -/
theorem exists_has_iff (h : Registered marker router paths) (path : List String) :
    (∃ r, router.root.Has r ∧ SamePlaces r.segments (segmentsOf marker path)) ↔
      ∃ earlier ∈ paths, SamePath marker earlier path := by
  simp only [← samePlaces_segmentsOf_iff]
  constructor
  · rintro ⟨r, hhas, hsame⟩
    obtain ⟨earlier, hearlier, hplaces⟩ := h.path_of_has r hhas
    exact ⟨earlier, hearlier, hplaces.symm.trans hsame⟩
  · rintro ⟨earlier, hearlier, hsame⟩
    obtain ⟨r, hhas, hplaces⟩ := h.has earlier hearlier
    exact ⟨r, hhas, hplaces.trans hsame⟩

/-- When there is no room for a path: it has no end, or it is the same as one that was accepted. -/
theorem insert?_eq_none_iff (h : Registered marker router paths) (path : List String) (command : α) :
    router.root.insert? (segmentsOf marker path) command = none ↔
      path = [] ∨ ∃ earlier ∈ paths, SamePath marker earlier path := by
  rw [Node.insert?_eq_none_iff h.ordered, h.exists_has_iff, segmentsOf, List.map_eq_nil_iff]

/-- A path without tokens is the same as none that was accepted. -/
theorem not_samePath_nil (h : Registered marker router paths) :
    ¬ ∃ earlier ∈ paths, SamePath marker earlier [] := by
  rw [← h.exists_has_iff]
  rintro ⟨⟨segments, command⟩, hhas, hsame⟩
  cases hsame
  exact Node.not_has_nil hhas

/-- Where there is room for a path, the router has it from then on. -/
theorem extend (h : Registered marker router paths) {path : List String} {command : α} {root : Node α}
    (hinsert : router.root.insert? (segmentsOf marker path) command = some root) :
    Registered marker { router with root := root, size := router.size + 1 } (paths ++ [path]) := by
  have hplaced : SamePlaces (router.root.placed (segmentsOf marker path)) (segmentsOf marker path) :=
    Node.samePlaces_placed _ _
  have hhas := fun r => Node.has_insert?_iff (r := r) h.ordered hinsert
  -- there was room for it, so it is the same as none before
  have hdiffer : ∀ earlier ∈ paths, ¬ SamePath marker earlier path := by
    intro earlier hearlier hsame
    rw [(h.insert?_eq_none_iff path command).mpr (.inr ⟨earlier, hearlier, hsame⟩)] at hinsert
    cases hinsert
  constructor
  · exact h.marker_eq
  · exact Node.ordered_insert? hinsert h.ordered
  · rw [h.size_eq, List.length_append]
    rfl
  · intro other hother
    rcases List.mem_append.mp hother with hother | hother
    · obtain ⟨r, hr, hsame⟩ := h.has other hother
      exact ⟨r, (hhas r).mpr (.inl hr), hsame⟩
    · cases List.mem_singleton.mp hother
      exact ⟨_, (hhas _).mpr (.inr rfl), hplaced⟩
  · intro r hr
    rcases (hhas r).mp hr with hold | rfl
    · obtain ⟨other, hother, hsame⟩ := h.path_of_has r hold
      exact ⟨other, List.mem_append_left _ hother, hsame⟩
    · exact ⟨path, List.mem_append_right _ List.mem_cons_self, hplaced⟩
  · rw [List.pairwise_append]
    refine ⟨h.differ, List.pairwise_singleton _ _, fun earlier hearlier other hother => ?_⟩
    cases List.mem_singleton.mp hother
    exact hdiffer earlier hearlier

/-- **One insert in place**: either there is room for the path, which the router has from then on, or
nothing changes. -/
theorem store (h : Registered marker router paths) (path : List String) (command : α) :
    (path ≠ [] ∧ (∀ earlier ∈ paths, ¬ SamePath marker earlier path) ∧
      ∃ changed, router.store path command = (.ok (), changed) ∧
        router.insert path command = .ok changed ∧ Registered marker changed (paths ++ [path])) ∨
    ((path = [] ∨ ∃ earlier ∈ paths, SamePath marker earlier path) ∧
      ∃ e, e = (if path.isEmpty then RouteError.emptyPath else .duplicatePath path) ∧
        router.store path command = (.error e, router) ∧ router.insert path command = .error e) := by
  have hroom := h.insert?_eq_none_iff path command
  rw [store_eq h.ordered]
  cases hinsert : router.root.insert? (segmentsOf marker path) command with
  | none =>
    have hrefused : router.insert path command =
        .error (if path.isEmpty then RouteError.emptyPath else .duplicatePath path) := by
      rw [segmentsOf, ← h.marker_eq] at hinsert
      rw [Router.insert, hinsert]
      cases path <;> rfl
    rw [hrefused]
    exact .inr ⟨hroom.mp hinsert, _, rfl, rfl, rfl⟩
  | some root =>
    have hextended : router.insert path command =
        .ok { router with root := root, size := router.size + 1 } := by
      rw [insert_eq_ok_iff, h.marker_eq]
      exact ⟨root, hinsert, rfl⟩
    rw [hinsert] at hroom
    simp only [reduceCtorEq, false_iff, not_or, not_exists, not_and] at hroom
    rw [hextended]
    exact .inl ⟨hroom.1, hroom.2, _, rfl, rfl, h.extend hinsert⟩

end Registered

/-- **Any number of inserts in place** leads to a router that has the accepted paths for its routes. It is
the router that the same inserts lead to when each gives a new router. -/
theorem registered_storeAll {marker : Option String} {router : Router α} {paths : List (List String)}
    (h : Registered marker router paths) (inserts : List (List String × α)) :
    Registered marker (router.storeAll inserts) (paths ++ router.accepted inserts) ∧
      router.storeAll inserts = router.insertAll inserts := by
  induction inserts generalizing router paths with
  | nil =>
    rw [accepted, List.append_nil]
    exact ⟨h, rfl⟩
  | cons i inserts ih =>
    obtain ⟨path, command⟩ := i
    rw [storeAll, accepted, insertAll, List.foldl_cons]
    rcases h.store path command with
      ⟨-, -, changed, hstore, hinsert, hchanged⟩ | ⟨-, e, -, hstore, hinsert⟩
    · -- the path was accepted and counts from now on
      obtain ⟨hregistered, heq⟩ := ih hchanged
      simp only [hstore, hinsert]
      rw [List.append_assoc] at hregistered
      exact ⟨hregistered, heq⟩
    · obtain ⟨hregistered, heq⟩ := ih h
      simp only [hstore, hinsert]
      exact ⟨hregistered, heq⟩

/-- **What an insert comes to**, in any router that inserts lead to. It is refused

* as a path without tokens exactly when there are none,
* as a duplicate exactly when a path was accepted before that is the same,

and succeeds in all other cases. A success adds one to the size, which is the number of accepted paths; no two
of these are the same. A refusal leaves the router as it was, with all of its nodes. The walk along the path
never loses its way, and `insert` comes to the same. -/
theorem store_outcome (delimiters : List Char) (marker : Option String)
    (inserts : List (List String × α)) (path : List String) (command : α) :
    let fresh : Router α := empty delimiters marker
    let router := fresh.storeAll inserts
    let earlier := fresh.accepted inserts
    ((router.store path command).1 = .error .emptyPath ↔ path = []) ∧
    ((router.store path command).1 = .error (.duplicatePath path) ↔
      ∃ other ∈ earlier, SamePath marker other path) ∧
    ((router.store path command).1 = .ok () ↔
      path ≠ [] ∧ ∀ other ∈ earlier, ¬ SamePath marker other path) ∧
    ((router.store path command).1 = .ok () → (router.store path command).2.size = router.size + 1) ∧
    (router.size = earlier.length ∧ earlier.Pairwise fun other later => ¬ SamePath marker other later) ∧
    (∀ e, (router.store path command).1 = .error e → (router.store path command).2 = router) ∧
    (∀ token, (router.root.store router.marker path command).1 ≠ .error (.lost token)) ∧
    (router = fresh.insertAll inserts ∧
      router.insert path command = (router.store path command).1.map fun _ =>
        (router.store path command).2) := by
  intro fresh router earlier
  obtain ⟨hregistered, heq⟩ := registered_storeAll (Registered.empty delimiters marker) inserts
  rw [List.nil_append] at hregistered
  -- an insert in place ends as `insert?` does, so the walk loses no node
  have hnever : ∀ token, (router.root.store router.marker path command).1 ≠ .error (.lost token) := by
    intro token
    rw [Node.store_eq hregistered.ordered]
    split
    · nofun
    · split <;> nofun
  rcases hregistered.store path command with
    ⟨hne, hdiffer, changed, hstore, hinsert, hchanged⟩ | ⟨htaken, e, rfl, hstore, hinsert⟩
  · have hsize : changed.size = router.size + 1 := by
      rw [hchanged.size_eq, List.length_append, List.length_singleton, ← hregistered.size_eq]
    have hnone : ¬ ∃ other ∈ earlier, SamePath marker other path := by
      rintro ⟨other, hother, hsame⟩
      exact hdiffer other hother hsame
    rw [hstore]
    exact ⟨iff_of_false nofun hne, iff_of_false nofun hnone, iff_of_true rfl ⟨hne, hdiffer⟩,
      fun _ => hsize, ⟨hregistered.size_eq, hregistered.differ⟩, nofun, hnever, heq, hinsert⟩
  · rw [hstore]
    cases path with
    | nil =>
      exact ⟨iff_of_true rfl rfl, iff_of_false nofun hregistered.not_samePath_nil,
        iff_of_false nofun fun h => h.1 rfl, nofun, ⟨hregistered.size_eq, hregistered.differ⟩,
        fun _ _ => rfl, hnever, heq, hinsert⟩
    | cons token rest =>
      have hduplicate : ∃ other ∈ earlier, SamePath marker other (token :: rest) :=
        htaken.resolve_left (List.cons_ne_nil _ _)
      obtain ⟨other, hother, hsame⟩ := hduplicate
      exact ⟨iff_of_false nofun (List.cons_ne_nil _ _), iff_of_true rfl ⟨other, hother, hsame⟩,
        iff_of_false nofun fun h => h.2 other hother hsame, nofun,
        ⟨hregistered.size_eq, hregistered.differ⟩, fun _ _ => rfl, hnever, heq, hinsert⟩

end ChatDispatch.Router
