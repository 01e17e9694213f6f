import ChatDispatch.Json.Reader
import ChatDispatch.Proofs.JsonTexts

/-!
# Reading back what is written

A reader reads back a value as something of its type, wherever the value stands, as long as the reader may
still enter as many arrays and objects as stand around one another in it.

* **`Source.Admits`** — where a value can be read without meeting the limit.
* **`Reads`** — a reader takes a value for something, wherever it is admitted.
* **`Shape.Fills`** — the members of an object fill the shape of a record.
* **`reads_shape`**, **`reads_tagged`**, **`reads_adjacent`** — records, and the two ways to write a variant.
* **`readWhole_write`** — what is written on its own is read back.
-/

namespace ChatDispatch.Json

mutual

/-- How many arrays and objects stand around one another in a value. -/
def Value.nesting : Value → Nat
  | .null | .boolean _ | .number _ | .text _ => 0
  | .array items => nestingItems items + 1
  | .object members => nestingMembers members + 1

/-- How many arrays and objects stand around one another in the items of an array. -/
def nestingItems : List Value → Nat
  | [] => 0
  | v :: vs => max v.nesting (nestingItems vs)

/-- How many arrays and objects stand around one another in the members of an object. -/
def nestingMembers : List (String × Value) → Nat
  | [] => 0
  | (_, v) :: ms => max v.nesting (nestingMembers ms)

end

/-- An item is nested no deeper than the items together. -/
theorem nesting_le_nestingItems {v : Value} {items : List Value} (h : v ∈ items) :
    v.nesting ≤ nestingItems items := by
  induction items with
  | nil => cases h
  | cons w ws ih =>
    rw [nestingItems]
    rcases List.mem_cons.mp h with rfl | h
    · exact Nat.le_max_left _ _
    · exact Nat.le_trans (ih h) (Nat.le_max_right _ _)

/-- The value of a member is nested no deeper than the members together. -/
theorem nesting_le_nestingMembers {m : String × Value} {members : List (String × Value)} (h : m ∈ members) :
    m.2.nesting ≤ nestingMembers members := by
  induction members with
  | nil => cases h
  | cons n ns ih =>
    rw [nestingMembers]
    rcases List.mem_cons.mp h with rfl | h
    · exact Nat.le_max_left _ _
    · exact Nat.le_trans (ih h) (Nat.le_max_right _ _)

theorem nesting_lt_of_mem {m : String × Value} {members : List (String × Value)} (h : m ∈ members) :
    m.2.nesting < (Value.object members).nesting :=
  Nat.lt_succ_of_le (nesting_le_nestingMembers h)

/-- The value can be read here without meeting the limit on arrays and objects around one another. -/
def Source.Admits : Source → Value → Prop
  | .held, _ => True
  | .live depth, v => v.nesting < depth

/-- The members can be read here. -/
def Source.AdmitsMembers (source : Source) (ms : List (String × Value)) : Prop :=
  ∀ m ∈ ms, source.Admits m.2

/-- The array is entered, and all its items can be read inside. -/
theorem Source.Admits.enter_array {source : Source} {items : List Value} (h : source.Admits (.array items)) :
    ∃ inner, source.enter = .ok inner ∧ ∀ v ∈ items, inner.Admits v := by
  cases source with
  | held => exact ⟨.held, rfl, fun _ _ => trivial⟩
  | live depth =>
    simp only [Source.Admits, Value.nesting] at h
    -- entering uses up one level, and the items need one less than the array
    refine ⟨.live (depth - 1), if_neg (by omega), fun v hv => ?_⟩
    have := nesting_le_nestingItems hv
    simp only [Source.Admits]
    omega

/-- The object is entered, and all its members can be read inside. -/
theorem Source.Admits.enter_object {source : Source} {members : List (String × Value)}
    (h : source.Admits (.object members)) :
    ∃ inner, source.enter = .ok inner ∧ inner.AdmitsMembers members := by
  cases source with
  | held => exact ⟨.held, rfl, fun _ _ => trivial⟩
  | live depth =>
    simp only [Source.Admits, Value.nesting] at h
    refine ⟨.live (depth - 1), if_neg (by omega), fun m hm => ?_⟩
    have := nesting_le_nestingMembers hm
    simp only [Source.Admits]
    omega

/-! ## Keeping a value

A reader that meets the content of a variant before its tag keeps the content for later. Keeping has a limit of
its own, which a value that can be read does not meet. -/

mutual

/-- A value nested below the limit is kept without an error. -/
theorem holdError_draft : (v : Value) → (depth : Nat) → v.nesting < depth → v.draft.holdError depth = none
  | .null, _, _ | .boolean _, _, _ | .number _, _, _ | .text _, _, _ => rfl
  | .array items, depth, h => by
    rw [Value.nesting] at h
    rw [Value.draft, Draft.holdError, if_neg (by omega), holdItems_draftItems items (depth - 1) (by omega)]
    rfl
  | .object members, depth, h => by
    rw [Value.nesting] at h
    rw [Value.draft, Draft.holdError, if_neg (by omega),
      holdMembers_draftMembers members (depth - 1) (by omega)]
    rfl

/-- The items of an array are kept without an error. -/
theorem holdItems_draftItems : (items : List Value) → (depth : Nat) → nestingItems items < depth →
    holdItems depth (draftItems items) = none
  | [], _, _ => rfl
  | v :: vs, depth, h => by
    rw [nestingItems, Nat.max_lt] at h
    rw [draftItems, holdItems, holdError_draft v depth h.1, holdItems_draftItems vs depth h.2]
    rfl

/-- The members of an object are kept without an error. -/
theorem holdMembers_draftMembers : (members : List (String × Value)) → (depth : Nat) →
    nestingMembers members < depth → holdMembers depth (draftMembers members) = none
  | [], _, _ => rfl
  | (name, v) :: ms, depth, h => by
    rw [nestingMembers, Nat.max_lt] at h
    rw [draftMembers, holdMembers, holdError_draft v depth h.1, holdMembers_draftMembers ms depth h.2]
    rfl

end

theorem hold_draft {source : Source} {v : Value} (h : source.Admits v) : hold source v.draft = .ok () := by
  cases source with
  | held => rfl
  | live depth => rw [hold, holdError_draft v depth h]

/-! ## Readers

The readers of single values, and those that pass a value on to another reader. -/

/-- The reader takes the value for `a`, wherever it can be read. -/
def Reads {α : Type} (read : Reader α) (v : Value) (a : α) : Prop :=
  ∀ source : Source, source.Admits v → read source v.draft = .ok a

theorem reads_text (s : String) : Reads readText (.text s) s := fun _ _ => rfl

theorem reads_boolean (b : Bool) : Reads readBool (.boolean b) b := fun _ _ => rfl

theorem reads_natural (n : UInt64) : Reads readUInt64 (.number (.natural n)) n := fun _ _ => rfl

/-- An integer of 64 bits is read back, whichever of the two kinds of number it is written as. -/
theorem reads_ofInt64 (n : Int64) : Reads readInt64 (.ofInt64 n) n := by
  intro source _
  unfold Value.ofInt64 Number.ofInt64
  split
  · rfl
  · -- an integer that is not negative is written as a natural number, below 2^63
    rename_i hneg
    have hle : 0 ≤ n := Int64.not_lt.mp hneg
    have hbound : n.toUInt64.toNat < Nat.pow 2 63 := by
      have hlt := n.toInt_lt
      rw [Int64.toNat_toUInt64_of_le hle]
      show n.toInt.toNat < 2 ^ 63
      omega
    show (if n.toUInt64.toNat < Nat.pow 2 63 then Except.ok n.toUInt64.toInt64 else _) = _
    rw [if_pos hbound, Int64.toInt64_toUInt64]

section
variable {α β : Type} {read : Reader α}

/-- A reader whose result is mapped takes the value for the image. -/
theorem Reads.map {v : Value} {a : α} (h : Reads read v a) (f : α → β) :
    Reads (fun source d => (read source d).map f) v (f a) := by
  intro source hsource
  show (read source v.draft).map f = _
  rw [h source hsource]
  rfl

/-- An optional value is read back, if no value is written as null. -/
theorem reads_ofOption {f : α → Value} {o : Option α} (hnull : ∀ a ∈ o, f a ≠ .null)
    (h : ∀ a ∈ o, Reads read (f a) a) : Reads (readOption read) (.ofOption f o) o := by
  intro source hsource
  cases o with
  | none => rfl
  | some a =>
    have hread := h a rfl source hsource
    have hne := hnull a rfl
    rw [Value.ofOption]
    cases hv : f a with
    | null => exact absurd hv hne
    -- anything but null goes to the reader of the value
    | _ =>
      rw [hv] at hread
      exact congrArg (Except.map some) hread

/-- The items are read back one after the other. -/
theorem mapM_read_draftItems {source : Source} {f : α → Value} {as : List α}
    (hadmits : ∀ v ∈ as.map f, source.Admits v) (h : ∀ a ∈ as, Reads read (f a) a) :
    (draftItems (as.map f)).mapM (read source) = .ok as := by
  induction as with
  | nil => rfl
  | cons a as ih =>
    rw [List.map_cons, List.forall_mem_cons] at hadmits
    rw [List.forall_mem_cons] at h
    rw [List.map_cons, draftItems, List.mapM_cons, h.1 source hadmits.1, ih hadmits.2 h.2]
    rfl

/-- A list is read back if each of its items is. -/
theorem reads_ofList {f : α → Value} {as : List α} (h : ∀ a ∈ as, Reads read (f a) a) :
    Reads (readList read) (.ofList f as) as := by
  intro source hsource
  obtain ⟨inner, henter, hadmits⟩ := hsource.enter_array
  rw [Value.ofList, Value.draft, readList, henter]
  show ((draftItems (as.map f)).mapM (read inner) >>= _) = _
  rw [mapM_read_draftItems hadmits h]
  rfl

end

/-! ## Records

A record is read member by member into its fields. What a whole run over the members does is `ReadsInto`, one step
for each member; records made together are read by the fields of both. -/

/-- Reading the members makes the record `p` to the record `q`. Every member is a field that has not been
read before. -/
inductive ReadsInto {σ : Type} (fields : List (Field σ)) (source : Source) :
    List (String × Value) → σ → σ → Prop where
  | nil {p : σ} : ReadsInto fields source [] p p
  | cons {name : String} {v : Value} {ms : List (String × Value)} {f : Field σ} {p q r : σ} :
    fields.find? (·.name == name) = some f → f.isRead p = false → f.read p source v.draft = .ok q →
    ReadsInto fields source ms q r → ReadsInto fields source ((name, v) :: ms) p r

/-- A field of the first of two records made together. -/
def Field.left {σ τ : Type} (f : Field σ) : Field (σ × τ) where
  name := f.name
  isRead p := f.isRead p.1
  read p source d := (f.read p.1 source d).map (·, p.2)

/-- A field of the second of two records made together. -/
def Field.right {σ τ : Type} (f : Field τ) : Field (σ × τ) where
  name := f.name
  isRead p := f.isRead p.2
  read p source d := (f.read p.2 source d).map (p.1, ·)

namespace ReadsInto

variable {σ τ : Type} {fields : List (Field σ)} {others : List (Field τ)} {source : Source}
  {ms ns : List (String × Value)}

theorem append {p q r : σ} (h : ReadsInto fields source ms p q) (h' : ReadsInto fields source ns q r) :
    ReadsInto fields source (ms ++ ns) p r := by
  induction h with
  | nil => exact h'
  | cons hfind hunread hread _ ih => exact .cons hfind hunread hread (ih h')

/-- Members of the first record leave the second one as it is. -/
theorem left {p p' : σ} (h : ReadsInto fields source ms p p') (q : τ) :
    ReadsInto (fields.map Field.left ++ others.map Field.right) source ms (p, q) (p', q) := by
  induction h with
  | nil => exact .nil
  | @cons name v ms f p p₁ p₂ hfind hunread hread _ ih =>
    have hleft : (fields.map (Field.left (τ := τ))).find? (·.name == name) = some f.left := by
      rw [List.find?_map]
      exact congrArg (Option.map Field.left) hfind
    refine .cons (f := f.left) ?_ hunread (congrArg (Except.map (·, q)) hread) ih
    -- the fields of the first record are looked up first
    rw [List.find?_append, hleft]
    rfl

/-- Members of the second record leave the first one as it is, if they are no fields of the first. -/
theorem right {q q' : τ} (h : ReadsInto others source ms q q') (p : σ)
    (hdisjoint : ∀ f ∈ fields, ∀ g ∈ others, f.name ≠ g.name) :
    ReadsInto (fields.map Field.left ++ others.map Field.right) source ms (p, q) (p, q') := by
  induction h with
  | nil => exact .nil
  | @cons name v ms g q q₁ q₂ hfind hunread hread _ ih =>
    have hleft : (fields.map (Field.left (τ := τ))).find? (·.name == name) = none := by
      rw [List.find?_map, Option.map_eq_none_iff, List.find?_eq_none]
      -- no field of the first record has the name of a field of the second
      intro f hf hname
      have hg : g.name = name := by simpa using List.find?_some hfind
      exact hdisjoint f hf g (List.mem_of_find?_eq_some hfind) ((beq_iff_eq.mp hname).trans hg.symm)
    have hright : (others.map (Field.right (σ := σ))).find? (·.name == name) = some g.right := by
      rw [List.find?_map]
      exact congrArg (Option.map Field.right) hfind
    refine .cons (f := g.right) ?_ hunread (congrArg (Except.map (p, ·)) hread) ih
    rw [List.find?_append, hleft, hright]
    rfl

end ReadsInto

namespace Shape

variable {α β : Type} {s : Shape α} {t : Shape β} {source : Source} {ms ns : List (String × Value)}
  {a : α} {b : β}

/-- Reading the members does what the steps say. -/
theorem readMembers_of_readsInto {p q : s.Partial} (h : ReadsInto s.fields source ms p q) :
    s.readMembers source (draftMembers ms) p = .ok q := by
  induction h with
  | nil => rfl
  | @cons name v ms f p q r hfind hunread hread _ ih =>
    rw [draftMembers, readMembers]
    -- the member is a known field that has not been read before, so its reader runs
    simp only [readName, bind, Except.bind, hfind, hunread, hread, Bool.false_eq_true, if_false]
    exact ih

/-- The names of the fields. -/
def names (s : Shape α) : List String := s.fields.map Field.name

@[simp]
theorem names_required (name : String) (read : Reader α) : (required name read).names = [name] := rfl

@[simp]
theorem names_optional (name : String) (read : Reader α) (default : α) :
    (optional name read default).names = [name] := rfl

@[simp]
theorem names_both (s : Shape α) (t : Shape β) : (s.both t).names = s.names ++ t.names := by
  show (s.fields.map Field.left ++ t.fields.map Field.right).map Field.name = _
  rw [List.map_append, List.map_map, List.map_map]
  rfl

/-- The members fill the record with what makes it `a`, wherever they can be read. -/
def Fills (s : Shape α) (ms : List (String × Value)) (a : α) : Prop :=
  ∀ source : Source, source.AdmitsMembers ms →
    ∃ p, ReadsInto s.fields source ms s.blank p ∧ s.finish p = .ok a

/-- A field that is there does without the default. -/
theorem fills_ofField {name : String} {read : Reader α} {absent : Except ReadError α} {v : Value}
    (h : Reads read v a) : (ofField name read absent).Fills [(name, v)] a := by
  intro source hsource
  have hread := h source (hsource _ (List.mem_singleton_self _))
  refine ⟨some a, ?_, rfl⟩
  show ReadsInto [⟨name, Option.isSome, fun _ source d => (read source d).map some⟩] source [(name, v)] none
    (some a)
  exact .cons (List.find?_cons_of_pos (beq_self_eq_true name)) rfl (congrArg (Except.map some) hread) .nil

theorem fills_required (name : String) {read : Reader α} {v : Value} (h : Reads read v a) :
    (required name read).Fills [(name, v)] a := fills_ofField h

theorem fills_optional (name : String) {read : Reader α} {v : Value} (default : α) (h : Reads read v a) :
    (optional name read default).Fills [(name, v)] a := fills_ofField h

theorem Fills.map (h : s.Fills ms a) (f : α → β) : (s.map f).Fills ms (f a) := by
  intro source hsource
  obtain ⟨p, hp, hfinish⟩ := h source hsource
  exact ⟨p, hp, congrArg (Except.map f) hfinish⟩

/-- **Two records with different fields** are filled one after the other. -/
theorem Fills.both (hs : s.Fills ms a) (ht : t.Fills ns b)
    (hdisjoint : ∀ name ∈ s.names, name ∉ t.names) : (s.both t).Fills (ms ++ ns) (a, b) := by
  intro source hsource
  have hnames : ∀ f ∈ s.fields, ∀ g ∈ t.fields, f.name ≠ g.name := fun f hf g hg heq =>
    hdisjoint f.name (List.mem_map_of_mem hf) (heq ▸ List.mem_map_of_mem hg)
  obtain ⟨p, hp, hfinishp⟩ := hs source fun m hm => hsource m (List.mem_append_left _ hm)
  obtain ⟨q, hq, hfinishq⟩ := ht source fun m hm => hsource m (List.mem_append_right _ hm)
  -- the first members leave the second record blank, the others leave the first as it is
  refine ⟨(p, q), (hp.left t.blank).append (hq.right p hnames), ?_⟩
  show (do return (← s.finish p, ← t.finish q)) = _
  rw [hfinishp, hfinishq]
  rfl

end Shape

/-- **A record is read from an object** whose members fill it. -/
theorem reads_shape {α : Type} {s : Shape α} {ms : List (String × Value)} {a : α} (h : s.Fills ms a) :
    Reads s.read (.object ms) a := by
  intro source hsource
  obtain ⟨inner, henter, hadmits⟩ := hsource.enter_object
  obtain ⟨p, hp, hfinish⟩ := h inner hadmits
  rw [Value.draft, Shape.read, henter]
  show (s.readMembers inner (draftMembers ms) s.blank >>= _) = _
  rw [Shape.readMembers_of_readsInto hp]
  exact hfinish

/-! ## Variants

A variant is a text, or an object with a tag. The tag stands among the fields of the variant or beside a member
with its content. -/

section
variable {α : Type} {tag content name : String} {variants : List (String × Reader α)} {read : Reader α}
  {a : α}

theorem findVariant_eq {β : Type} {variants : List (String × β)} {b : β}
    (hfind : variants.find? (·.1 == name) = some (name, b)) : findVariant variants name = .ok b := by
  rw [findVariant, hfind]

/-- A plain variant is read from its name. -/
theorem reads_plain {β : Type} {variants : List (String × Variant β)} {b : β}
    (hfind : variants.find? (·.1 == name) = some (name, .plain b)) :
    Reads (readEnum variants) (.text name) b := by
  intro source _
  show (findVariant variants name >>= _) = _
  rw [findVariant_eq hfind]
  rfl

/-- When the tag has been read the other members are kept. -/
theorem readTagMembers_draftMembers {source : Source} {ms : List (String × Value)}
    (hsource : source.AdmitsMembers ms) (htag : ∀ m ∈ ms, m.1 ≠ tag) (r : Option (Reader α)) :
    readTagMembers tag variants source (draftMembers ms) r = .ok (r, draftMembers ms) := by
  induction ms with
  | nil => rfl
  | cons m ms ih =>
    rw [List.forall_mem_cons] at htag
    rw [Source.AdmitsMembers, List.forall_mem_cons] at hsource
    show (if (m.1 == tag) = true then _ else hold source m.2.draft >>= _) = _
    -- the member is not the tag, so it is kept
    rw [if_neg (by simp [htag.1]), hold_draft hsource.1]
    show (readTagMembers tag variants source (draftMembers ms) r >>= _) = _
    rw [ih hsource.2 htag.2]
    rfl

/-- A variant with its tag among its fields. -/
theorem reads_tagged {ms : List (String × Value)} (hfind : variants.find? (·.1 == name) = some (name, read))
    (htag : ∀ m ∈ ms, m.1 ≠ tag) (h : Reads read (.object ms) a) :
    Reads (readTagged tag variants) (.object ((tag, .text name) :: ms)) a := by
  intro source hsource
  obtain ⟨inner, henter, hadmits⟩ := hsource.enter_object
  -- the tag comes first and picks the reader, and all other members are kept
  have hmembers : readTagMembers tag variants inner (draftMembers ((tag, .text name) :: ms)) none =
      .ok (some read, draftMembers ms) := by
    show (if (tag == tag) = true then findVariant variants name >>= _ else _) = _
    rw [if_pos (beq_self_eq_true tag), findVariant_eq hfind]
    exact readTagMembers_draftMembers (fun m hm => hadmits m (List.mem_cons_of_mem _ hm)) htag (some read)
  rw [Value.draft, readTagged, henter]
  show (readTagMembers tag variants inner (draftMembers ((tag, .text name) :: ms)) none >>= _) = _
  rw [hmembers]
  -- the fields are read from what has been kept
  exact h .held trivial

/-- A variant with its tag beside its content. -/
theorem reads_adjacent {v : Value} (hfind : variants.find? (·.1 == name) = some (name, read))
    (hne : content ≠ tag) (h : Reads read v a) :
    Reads (readAdjacent tag content variants) (.object [(tag, .text name), (content, v)]) a := by
  intro source hsource
  obtain ⟨inner, henter, hadmits⟩ := hsource.enter_object
  have hplain : (variants.map fun v => (v.1, Variant.plain v.2)).find? (·.1 == name) =
      some (name, .plain read) := by
    rw [List.find?_map]
    exact congrArg (Option.map _) hfind
  -- the tag picks the reader, which then reads the content
  have hstate : readAdjacentMembers tag content variants inner (draftMembers [(tag, .text name), (content, v)])
      .nothing = .ok (.done a) := by
    have htag := reads_plain hplain inner (hadmits (tag, .text name) (by simp))
    have hread := h inner (hadmits (content, v) (by simp))
    show (if (tag == tag) = true then
      readEnum (variants.map fun v => (v.1, .plain v.2)) inner (Value.text name).draft >>= _ else _) = _
    rw [if_pos (beq_self_eq_true tag), htag]
    show (if (content == tag) = true then _ else if (content == content) = true then
      read inner v.draft >>= _ else _) = _
    rw [if_neg (by simp [hne]), if_pos (beq_self_eq_true content), hread]
    rfl
  rw [Value.draft, readAdjacent, henter]
  show (readAdjacentMembers tag content variants inner (draftMembers [(tag, .text name), (content, v)]) .nothing
    >>= _) = _
  rw [hstate]
  rfl

end

/-! ## Whole texts

Reading a text starts at the limit on arrays and objects around one another. -/

/-- **A value that a reader takes for `a` is read back as `a`** from its text. -/
theorem readWhole_write {α : Type} {read : Reader α} {v : Value} {a : α} (hexact : v.Exact)
    (hnesting : v.nesting < depthLimit) (h : Reads read v a) : readWhole read (write v) = .ok a := by
  rw [readWhole, ofText_write hexact]
  show (read (.live depthLimit) v.draft >>= _) = _
  rw [h (.live depthLimit) hnesting]
  rfl

end ChatDispatch.Json
