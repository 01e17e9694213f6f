import ChatDispatch.Proofs.Identifiers
import ChatDispatch.Proofs.Patterns

/-!
# Captures in an identifier

An identifier is cut into tokens before anything is looked up, and the cuts lose nothing. So what a wildcard
captures is text of the identifier between two delimiters, and the captures of several wildcards stand in the
identifier one behind the other.

* **`woven_tokenize`** — the tokens with the delimiters between them are the identifier.
* **`InTurn`** — pieces of a text in their order, without overlap.
* **`Decomposes.inTurn`**, **`Segment.inTurn_captured`** — the captures of one wildcard in its token.
* **`inTurn_flatten`** — what stands in texts stands in them when they are woven together.
* **`findId?_capturesInTurn`** — the headline, for every router and every identifier.
-/

namespace ChatDispatch.Router

variable {α : Type}

/-! ## Tokens lose nothing

Cutting a text at some characters and putting these back between the pieces gives the text again. -/

/-- There is one more piece than there are cuts. -/
theorem length_splitChars (cut : Char → Bool) (cs : List Char) :
    (Text.splitChars cut cs).length = (cs.filter cut).length + 1 := by
  induction cs with
  | nil => rfl
  | cons c cs ih =>
    cases hc : cut c with
    | true =>
      rw [Text.splitChars, if_pos hc, List.filter_cons_of_pos hc, List.length_cons, List.length_cons, ih]
    | false =>
      -- the character joins the first piece
      obtain ⟨piece, pieces, hpieces⟩ := List.exists_cons_of_ne_nil (Text.splitChars_ne_nil cut cs)
      rw [Text.splitChars_cons_of_not hc hpieces, List.filter_cons_of_neg (by simp [hc]), ← ih, hpieces]
      rfl

theorem woven_cons_cons (c : Char) (text : List Char) (texts : List (List Char)) (captures : Captures) :
    woven ((c :: text) :: texts) captures = c :: woven (text :: texts) captures := by
  cases captures <;> rfl

/-- The pieces with the cuts between them are the text that was cut. -/
theorem woven_splitChars (cut : Char → Bool) (cs : List Char) :
    woven (Text.splitChars cut cs) ((cs.filter cut).map ([·])) = cs := by
  induction cs with
  | nil => rfl
  | cons c cs ih =>
    cases hc : cut c with
    | true =>
      rw [Text.splitChars, if_pos hc, List.filter_cons_of_pos hc, List.map_cons, woven, ih]
      rfl
    | false =>
      obtain ⟨piece, pieces, hpieces⟩ := List.exists_cons_of_ne_nil (Text.splitChars_ne_nil cut cs)
      rw [hpieces] at ih
      rw [Text.splitChars_cons_of_not hc hpieces, List.filter_cons_of_neg (by simp [hc]), woven_cons_cons, ih]

/-- The delimiters of a router in an identifier, in their order. -/
def cutsOf (router : Router α) (identifier : String) : List Char :=
  identifier.toList.filter (router.delimiters.contains ·)

theorem tokenize_of_nil {router : Router α} (h : router.delimiters = []) (identifier : String) :
    router.tokenize identifier = [identifier] := by
  rw [tokenize, h]
  rfl

theorem cutsOf_of_nil {router : Router α} (h : router.delimiters = []) (identifier : String) :
    router.cutsOf identifier = [] := by
  rw [cutsOf, h]
  exact List.filter_eq_nil_iff.mpr fun _ _ => Bool.false_ne_true

theorem map_toList_tokenize {router : Router α} (h : router.delimiters ≠ []) (identifier : String) :
    (router.tokenize identifier).map String.toList =
      Text.splitChars (router.delimiters.contains ·) identifier.toList := by
  rw [tokenize, if_neg (by simpa using h), List.map_map]
  simp [Function.comp_def]

/-- There is one more token than there are delimiters in the identifier. -/
theorem length_tokenize (router : Router α) (identifier : String) :
    (router.tokenize identifier).length = (router.cutsOf identifier).length + 1 := by
  by_cases h : router.delimiters = []
  · rw [tokenize_of_nil h, cutsOf_of_nil h]
    rfl
  · rw [← List.length_map, map_toList_tokenize h]
    exact length_splitChars _ _

/-- **Tokens lose nothing**: with the delimiters between them they are the identifier. -/
theorem woven_tokenize (router : Router α) (identifier : String) :
    woven ((router.tokenize identifier).map String.toList) ((router.cutsOf identifier).map ([·])) =
      identifier.toList := by
  by_cases h : router.delimiters = []
  · rw [tokenize_of_nil h, cutsOf_of_nil h]
    rfl
  · rw [map_toList_tokenize h]
    exact woven_splitChars _ _

/-- A token holds no delimiter. -/
theorem notMem_delimiters {router : Router α} {identifier token : String}
    (htoken : token ∈ router.tokenize identifier) {c : Char} (hc : c ∈ token.toList) :
    c ∉ router.delimiters := by
  by_cases h : router.delimiters = []
  · rw [h]
    exact List.not_mem_nil
  · exact notMem_of_mem_tokenize h htoken hc

/-! ## Pieces in their order

`InTurn` is kept when more text is put in front or behind, so it can be put together token by token. -/

/-- The pieces stand in the text in this order, each behind the end of the one before. -/
inductive InTurn : (pieces : Captures) → (cs : List Char) → Prop where
  | nil (cs : List Char) : InTurn [] cs
  | cons (gap piece : List Char) {pieces : Captures} {rest : List Char} (h : InTurn pieces rest) :
      InTurn (piece :: pieces) (gap ++ piece ++ rest)

namespace InTurn

variable {pieces others : Captures} {cs ds : List Char}

/-- More text in front leaves the pieces in their order. -/
theorem behind (h : InTurn pieces cs) (gap : List Char) : InTurn pieces (gap ++ cs) := by
  cases h with
  | nil => exact .nil _
  | cons before piece h =>
    rw [← List.append_assoc, ← List.append_assoc]
    exact .cons (gap ++ before) piece h

/-- Pieces of two texts stand in both together. -/
theorem append (h : InTurn pieces cs) (h' : InTurn others ds) : InTurn (pieces ++ others) (cs ++ ds) := by
  induction h with
  | nil cs => exact h'.behind cs
  | cons gap piece _ ih =>
    rw [List.append_assoc _ _ ds]
    exact .cons gap piece ih

/-- Each piece is part of the text. -/
theorem infix_of_mem (h : InTurn pieces cs) {piece : List Char} (hpiece : piece ∈ pieces) :
    piece <:+: cs := by
  induction h with
  | nil => cases hpiece
  | cons gap first _ ih =>
    rcases List.mem_cons.mp hpiece with rfl | hpiece
    · exact ⟨gap, _, rfl⟩
    · exact (ih hpiece).trans (List.suffix_append _ _).isInfix

end InTurn

/-- The captures between texts stand in what these make together. -/
theorem inTurn_woven {texts : List (List Char)} {captures : Captures}
    (h : captures.length + 1 = texts.length) : InTurn captures (woven texts captures) := by
  induction captures generalizing texts with
  | nil => exact .nil _
  | cons capture captures ih =>
    cases texts with
    | nil => cases h
    | cons text texts => exact .cons text capture (ih (Nat.succ.inj h))

/-- The captures of a decomposition stand between its literals. -/
theorem Decomposes.inTurn {literals : List (List Char)} {captures : Captures} {cs : List Char}
    (h : Decomposes literals captures cs) : InTurn captures cs := by
  obtain ⟨hlength, _, texts, htexts, rfl⟩ := h
  exact inTurn_woven (hlength.trans htexts.length_eq)

/-- What stands in texts stands in them when they are woven together, whatever is between them. -/
theorem inTurn_flatten {perText : List Captures} {texts : List (List Char)}
    (h : List.Forall₂ InTurn perText texts) {cuts : Captures} (hcuts : texts.length = cuts.length + 1) :
    InTurn perText.flatten (woven texts cuts) := by
  induction h generalizing cuts with
  | nil => cases hcuts
  | @cons pieces text perText texts hpieces hrest ih =>
    rw [List.flatten_cons]
    -- behind the last text there is no cut
    cases cuts with
    | nil =>
      obtain rfl : texts = [] := List.length_eq_zero_iff.mp (Nat.succ.inj hcuts)
      cases hrest
      rw [List.flatten_nil, List.append_nil]
      exact hpieces
    | cons cut cuts =>
      rw [woven, List.append_assoc]
      exact hpieces.append ((ih (Nat.succ.inj hcuts)).behind cut)

/-! ## The captures of a look-up

The route that is found captures token by token, and the tokens make up the identifier. -/

/-- What a pattern captures decomposes the token. -/
theorem decomposes_of_matchLiterals {literals : List (List Char)} {captures : Captures} {cs : List Char}
    (h : matchLiterals literals cs = some captures) : Decomposes literals captures cs := by
  cases literals with
  | nil => cases h
  | cons literal literals =>
    rw [← head?_candidates] at h
    exact mem_candidates_iff.mp (List.mem_of_head? h)

/-- **The captures in one token** stand in it in their order, and none is empty. -/
theorem Segment.inTurn_captured {segment : Segment} {token : String} (h : segment.Accepts token) :
    InTurn ((segment.captured token).map String.toList) token.toList ∧
      ∀ capture ∈ segment.captured token, capture ≠ "" := by
  cases segment with
  | exact key => exact ⟨.nil _, List.forall_mem_nil _⟩
  | wildcard source literals =>
    obtain ⟨captures, hmatch⟩ := Option.isSome_iff_exists.mp h
    have hcaptured : (wildcard source literals).captured token = captures.map String.ofList := by
      rw [captured, hmatch]
      rfl
    -- the captures stand between the literals of the pattern
    have hdecomposes := decomposes_of_matchLiterals hmatch
    rw [hcaptured]
    constructor
    · rw [List.map_map]
      simpa [Function.comp_def] using hdecomposes.inTurn
    · intro capture hcapture
      obtain ⟨cs, hcs, rfl⟩ := List.mem_map.mp hcapture
      simpa using (hdecomposes.capturable cs hcs).1

/-- The captures of a route come token by token. -/
theorem Route.exists_perToken {segments : List Segment} {command : α} {tokens : List String}
    (h : Fits ⟨segments, command⟩ tokens) :
    ∃ perToken : List (List String), captured ⟨segments, command⟩ tokens = perToken.flatten ∧
      List.Forall₂ (fun captures token => InTurn (captures.map String.toList) token.toList ∧
        ∀ capture ∈ captures, capture ≠ "") perToken tokens := by
  change List.Forall₂ Segment.Accepts segments tokens at h
  induction h with
  | nil => exact ⟨[], rfl, .nil⟩
  | @cons segment token segments tokens haccepts _ ih =>
    obtain ⟨perToken, heq, hall⟩ := ih
    refine ⟨segment.captured token :: perToken, ?_, .cons (Segment.inTurn_captured haccepts) hall⟩
    rw [List.flatten_cons, ← heq]
    rfl

/-- **Captures in an identifier.** Take any router, whatever has been inserted, and any identifier. Its tokens hold no
delimiter, and they rebuild it with the delimiters between them that occur in it; without delimiters it is its only
token.

So whatever a look-up of the identifier captures, it captures token by token. Every capture is text of one token that
is not empty and holds no delimiter, and all captures stand in the identifier in their order without overlap. -/
theorem findId?_capturesInTurn (router : Router α) (identifier : String) :
    (∀ token ∈ router.tokenize identifier, ∀ c ∈ token.toList, c ∉ router.delimiters) ∧
    (router.tokenize identifier).length =
      (identifier.toList.filter (router.delimiters.contains ·)).length + 1 ∧
    woven ((router.tokenize identifier).map String.toList)
      ((identifier.toList.filter (router.delimiters.contains ·)).map ([·])) = identifier.toList ∧
    (router.delimiters = [] → router.tokenize identifier = [identifier]) ∧
    ∀ command captures, router.findId? identifier = some (command, captures) →
      (∃ perToken : List (List String), captures = perToken.flatten ∧
        List.Forall₂ (fun captures token => InTurn (captures.map String.toList) token.toList) perToken
          (router.tokenize identifier)) ∧
      (∀ capture ∈ captures, capture ≠ "" ∧ (∀ c ∈ capture.toList, c ∉ router.delimiters) ∧
        ∃ token ∈ router.tokenize identifier, capture.toList <:+: token.toList) ∧
      InTurn (captures.map String.toList) identifier.toList := by
  refine ⟨fun token htoken c => notMem_delimiters htoken, router.length_tokenize identifier,
    router.woven_tokenize identifier, fun h => tokenize_of_nil h identifier, ?_⟩
  intro command captures hfound
  obtain ⟨⟨segments, _⟩, _, hfits, _, rfl⟩ := Node.exists_of_find? hfound
  obtain ⟨perToken, heq, hall⟩ := Route.exists_perToken hfits
  have hturns : List.Forall₂ (fun captures token => InTurn (captures.map String.toList) token.toList)
      perToken (router.tokenize identifier) := hall.imp fun _ _ h => h.1
  refine ⟨⟨perToken, heq, hturns⟩, ?_, ?_⟩
  · intro capture hcapture
    rw [heq] at hcapture
    -- the capture belongs to one token
    obtain ⟨own, hown, hcapture⟩ := List.mem_flatten.mp hcapture
    obtain ⟨token, htoken, hturn, hnonempty⟩ := forall₂_mem_right hall.flip hown
    have hpart : capture.toList <:+: token.toList := hturn.infix_of_mem (List.mem_map_of_mem hcapture)
    exact ⟨hnonempty capture hcapture, fun c hc => notMem_delimiters htoken (hpart.subset hc),
      token, htoken, hpart⟩
  · -- all tokens with their captures, woven together with the delimiters
    have hlists : List.Forall₂ InTurn (perToken.map (·.map String.toList))
        ((router.tokenize identifier).map String.toList) :=
      List.forall₂_map_left_iff.mpr (List.forall₂_map_right_iff.mpr hturns)
    have hlength : ((router.tokenize identifier).map String.toList).length =
        ((router.cutsOf identifier).map ([·])).length + 1 := by
      rw [List.length_map, List.length_map, length_tokenize]
    have hwhole := inTurn_flatten hlists hlength
    rwa [woven_tokenize, ← List.map_flatten, ← heq] at hwhole

/-- A router whose identifiers are cut at two delimiters. -/
def ballots : Router Nat :=
  (empty [':', '-'] (some "*")).insertAll [(["vote", "*", "", "p*q*"], 1), (["vote", "*"], 2)]

/-- Between the delimiters side by side there is an empty token, in which nothing can be captured. The two
captures of the last token stand behind that of the second one. -/
theorem findId?_capturesInTurn_ballots :
    ballots.tokenize "Vote:ada-:p1q23" = ["Vote", "ada", "", "p1q23"] ∧
    woven [['V', 'o', 't', 'e'], ['a', 'd', 'a'], [], ['p', '1', 'q', '2', '3']] [[':'], ['-'], [':']] =
      "Vote:ada-:p1q23".toList ∧
    ballots.findId? "Vote:ada-:p1q23" = some (1, ["ada", "1", "23"]) ∧
    InTurn [['a', 'd', 'a'], ['1'], ['2', '3']] "Vote:ada-:p1q23".toList := by
  have htokens : ballots.tokenize "Vote:ada-:p1q23" = ["Vote", "ada", "", "p1q23"] := by decide
  have hfound : ballots.findId? "Vote:ada-:p1q23" = some (1, ["ada", "1", "23"]) := by decide
  obtain ⟨_, _, hwoven, _, hcaptures⟩ := findId?_capturesInTurn ballots "Vote:ada-:p1q23"
  exact ⟨htokens, by decide, hfound, (hcaptures _ _ hfound).2.2⟩

end ChatDispatch.Router
