import ChatDispatch.Argument.ArgType
import ChatDispatch.Proofs.FamilyOrder

/-!
# The deepest adapter

Of the adapters that a type has under a family, the one that lies deepest is taken. It is a most derived one, since
in a hierarchy what a family covers is ordered, and lies deeper the further down it is.

* **`ArgType.adapterFor?_eq_none_iff`**, **`ArgType.adapterFor?_spec`** — what the search for an adapter finds.
* **`Family.Hierarchy.covers_trans`**, **`Family.Hierarchy.covers_antisymm`**,
  **`Family.Hierarchy.covers_comparable`** — covering is a partial order in which what is above a family stands in
  one line.
* **`Family.Hierarchy.depth_lt_of_covers`** — depth grades it.
* **`Family.Hierarchy.graded`** — the headline: all of this, and that no other adapter under the family derives from
  the one that is found.
-/

namespace ChatDispatch

/-! ## The search

The search goes through the adapters once and keeps the deepest so far, the later one of two that are equally
deep. -/

namespace ArgType

/-- One step of the search for the deepest adapter. -/
def deeper : Option Adapter → Adapter → Option Adapter
  | none, a => some a
  | some b, a => if b.family.depth ≤ a.family.depth then some a else some b

/-- The search is a fold over the adapters under the family. -/
theorem adapterFor?_eq_foldl (t : ArgType) (family : Family) :
    t.adapterFor? family = (t.adapters.filter fun a => family.covers a.family).foldl deeper none := by
  rw [adapterFor?]
  congr 1
  funext best a
  cases best <;> rfl

/-- One step finds the adapter at hand or what was found before, and nothing less deep than either. -/
theorem exists_deeper (best : Option Adapter) (a : Adapter) :
    ∃ b, deeper best a = some b ∧ (best = some b ∨ b = a) ∧ a.family.depth ≤ b.family.depth ∧
      ∀ c, best = some c → c.family.depth ≤ b.family.depth := by
  cases best with
  | none => exact ⟨a, rfl, .inr rfl, Nat.le_refl _, nofun⟩
  | some c =>
    rw [deeper]
    split
    · next hle =>
      refine ⟨a, rfl, .inr rfl, Nat.le_refl _, ?_⟩
      rintro _ ⟨⟩
      exact hle
    · next hlt =>
      refine ⟨c, rfl, .inl rfl, Nat.le_of_not_le hlt, ?_⟩
      rintro _ ⟨⟩
      exact Nat.le_refl _

/-- The whole search finds what it began with or one of those that it goes through, and nothing less deep than any
of them. -/
theorem exists_of_foldl_deeper {as : List Adapter} (start : Option Adapter) (h : start ≠ none ∨ as ≠ []) :
    ∃ b, as.foldl deeper start = some b ∧ (start = some b ∨ b ∈ as) ∧
      (∀ c, start = some c → c.family.depth ≤ b.family.depth) ∧ ∀ a ∈ as, a.family.depth ≤ b.family.depth := by
  induction as generalizing start with
  | nil =>
    obtain ⟨b, rfl⟩ := Option.ne_none_iff_exists'.mp (h.resolve_right fun hne => hne rfl)
    refine ⟨b, rfl, .inl rfl, ?_, List.forall_mem_nil _⟩
    rintro _ ⟨⟩
    exact Nat.le_refl _
  | cons a as ih =>
    -- one step, and then the rest of the search from what it found
    obtain ⟨b, hb, hone, ha, hstart⟩ := exists_deeper start a
    obtain ⟨best, hbest, hmem, hfirst, hrest⟩ := ih (deeper start a) (.inl (hb ▸ Option.some_ne_none b))
    have hle : b.family.depth ≤ best.family.depth := hfirst b hb
    refine ⟨best, hbest, ?_, fun c hc => Nat.le_trans (hstart c hc) hle,
      List.forall_mem_cons.mpr ⟨Nat.le_trans ha hle, hrest⟩⟩
    rcases hmem with heq | hmem
    · cases hb.symm.trans heq
      exact hone.imp_right fun hsame : b = a => hsame ▸ List.mem_cons_self
    · exact .inr (List.mem_cons_of_mem _ hmem)

variable {t : ArgType} {family : Family}

/-- The search finds nothing only when the type has no adapter under the family. -/
theorem adapterFor?_eq_none_iff :
    t.adapterFor? family = none ↔ ∀ a ∈ t.adapters, family.covers a.family = false := by
  have hnil : (t.adapters.filter fun a => family.covers a.family) = [] ↔
      ∀ a ∈ t.adapters, family.covers a.family = false := by
    rw [List.filter_eq_nil_iff]
    exact forall₂_congr fun a _ => by rw [Bool.not_eq_true]
  rw [adapterFor?_eq_foldl, ← hnil]
  constructor
  · intro hnone
    apply Classical.byContradiction
    intro hne
    obtain ⟨b, hb, _⟩ := exists_of_foldl_deeper none (.inr hne)
    cases hb.symm.trans hnone
  · intro hempty
    rw [hempty, List.foldl_nil]

/-- **What the search finds** is an adapter of the type under the family, and none of the others there lies
deeper. -/
theorem adapterFor?_spec {best : Adapter} (h : t.adapterFor? family = some best) :
    best ∈ t.adapters ∧ family.covers best.family = true ∧
      ∀ a ∈ t.adapters, family.covers a.family = true → a.family.depth ≤ best.family.depth := by
  -- something was found, so there is an adapter to be found
  have hne : (t.adapters.filter fun a => family.covers a.family) ≠ [] := by
    intro hnil
    rw [adapterFor?_eq_foldl, hnil] at h
    cases h
  obtain ⟨b, hb, hmem, _, hdeepest⟩ := exists_of_foldl_deeper none (.inr hne)
  rw [adapterFor?_eq_foldl, hb] at h
  cases h
  obtain ⟨hbest, hcovers⟩ := List.mem_filter.mp (hmem.resolve_left nofun)
  exact ⟨hbest, hcovers, fun a ha hcovered => hdeepest a (List.mem_filter.mpr ⟨ha, hcovered⟩)⟩

end ArgType

/-! ## The order

Names stand for families in a hierarchy, so the order of names is that of derivation. -/

namespace Family

theorem covers_self (f : Family) : f.covers f = true :=
  List.any_eq_true.mpr ⟨f, mem_chain_iff.mpr (.inl rfl), beq_self_eq_true f.name⟩

namespace Hierarchy

variable {members : Family → Prop} {f g k : Family}

/-- What a covered family covers is covered. -/
theorem covers_trans (h : Hierarchy members) (hf : members f) (hg : members g) (hk : members k)
    (hfg : f.covers g = true) (hgk : g.covers k = true) : f.covers k = true := by
  rw [h.covers_iff hf hg] at hfg
  rw [h.covers_iff hg hk] at hgk
  rw [h.covers_iff hf hk]
  rcases hfg with rfl | hfg
  · exact hgk
  · rcases hgk with rfl | hgk
    · exact .inr hfg
    · exact .inr (hgk.trans hfg)

/-- **Depth grades the order**: what a family covers besides itself lies deeper. -/
theorem depth_lt_of_covers (h : Hierarchy members) (hf : members f) (hg : members g)
    (hcovers : f.covers g = true) (hother : f.same g = false) : f.depth < g.depth := by
  rcases (h.covers_iff hf hg).mp hcovers with rfl | hderives
  · cases (beq_self_eq_true f.name).symm.trans hother
  · exact depth_lt_of_derivesFrom hderives

/-- Two families that cover each other are the same. -/
theorem covers_antisymm (h : Hierarchy members) (hf : members f) (hg : members g)
    (hfg : f.covers g = true) (hgf : g.covers f = true) : f.same g = true := by
  rw [h.same_iff hf hg]
  rcases (h.covers_iff hf hg).mp hfg with rfl | hderives
  · rfl
  · rcases (h.covers_iff hg hf).mp hgf with rfl | hback
    · rfl
    · -- each would lie deeper than the other
      exact absurd (depth_lt_of_derivesFrom hderives) (Nat.lt_asymm (depth_lt_of_derivesFrom hback))

/-- Of two families that cover the same one, one covers the other. -/
theorem covers_comparable (h : Hierarchy members) (hf : members f) (hg : members g) (hk : members k)
    (hfk : f.covers k = true) (hgk : g.covers k = true) : f.covers g = true ∨ g.covers f = true := by
  rcases (h.covers_iff hf hk).mp hfk with rfl | hbelow
  · exact .inr hgk
  · rcases (h.covers_iff hg hk).mp hgk with rfl | hbelow'
    · exact .inl hfk
    · rw [h.covers_iff hf hg, h.covers_iff hg hf]
      rcases hbelow.comparable hbelow' with heq | hderives | hderives
      · exact .inl (.inl heq)
      · exact .inl (.inr hderives)
      · exact .inr (.inr hderives)

end Hierarchy

/-- **The order of families.** Take a hierarchy, that is families with all that lie above them, known by their
names. Covering is a partial order of them: a family covers itself, what it covers covers no more than it does, and
two families that cover each other are the same. It is graded by depth, as whatever else a family covers lies
deeper. And it branches downwards only: of two families that cover the same one, one covers the other.

So take any type with adapters for families from there, and any family. The search for an adapter fails only when the
type has none under the family. What it finds is an adapter of the type under the family, and no other one under the
family is strictly derived from it. -/
theorem Hierarchy.graded {members : Family → Prop} (h : Hierarchy members) :
    (∀ f : Family, f.covers f = true) ∧
    (∀ f g k, members f → members g → members k →
      f.covers g = true → g.covers k = true → f.covers k = true) ∧
    (∀ f g, members f → members g → f.covers g = true → g.covers f = true → f.same g = true) ∧
    (∀ f g, members f → members g → f.covers g = true → f.same g = false → f.depth < g.depth) ∧
    (∀ f g k, members f → members g → members k →
      f.covers k = true → g.covers k = true → f.covers g = true ∨ g.covers f = true) ∧
    ∀ (type : ArgType) (family : Family), (∀ a ∈ type.adapters, members a.family) →
      (type.adapterFor? family = none ↔ ∀ a ∈ type.adapters, family.covers a.family = false) ∧
      ∀ best, type.adapterFor? family = some best →
        best ∈ type.adapters ∧ family.covers best.family = true ∧
        ∀ other ∈ type.adapters, family.covers other.family = true →
          ¬ (best.family.covers other.family = true ∧ best.family.same other.family = false) := by
  refine ⟨covers_self, fun _ _ _ => h.covers_trans, fun _ _ => h.covers_antisymm,
    fun _ _ => h.depth_lt_of_covers, fun _ _ _ => h.covers_comparable, fun type family hmembers => ?_⟩
  refine ⟨ArgType.adapterFor?_eq_none_iff, fun best hfound => ?_⟩
  obtain ⟨hbest, hcovers, hdeepest⟩ := ArgType.adapterFor?_spec hfound
  refine ⟨hbest, hcovers, fun other hother hunder ⟨hbelow, hdiffers⟩ => ?_⟩
  -- another adapter that is strictly derived would lie deeper
  have hdeeper : best.family.depth < other.family.depth :=
    h.depth_lt_of_covers (hmembers best hbest) (hmembers other hother) hbelow hdiffers
  exact Nat.not_lt.mpr (hdeepest other hother hunder) hdeeper

end Family

namespace Sample

/-- An adapter that takes nothing. -/
def idle (family : Family) : Adapter := ⟨family, fun _ => none, []⟩

/-- A type that can be made of any entity, and in other ways of users, of roles and of numbers. -/
def member : ArgType := ⟨"host::Member", [idle .user, idle .role, idle .entity, idle .integer]⟩

theorem families_member : ∀ a ∈ member.adapters, a.family ∈ Family.standard := by
  intro a ha
  simp only [member, List.mem_cons, List.not_mem_nil, or_false] at ha
  rcases ha with rfl | rfl | rfl | rfl <;> simp [idle, Family.standard]

end Sample

/-- Entities cover roles, which lie two levels deeper. Of the adapters under entities, that for roles is found:
nothing under entities is strictly derived from roles. Nothing at all is found under channels. -/
theorem Family.graded_member :
    Family.Hierarchy (· ∈ Family.standard) ∧
    (∀ a ∈ Sample.member.adapters, a.family ∈ Family.standard) ∧
    Family.entity.depth < Family.role.depth ∧
    (Family.entity.covers .mentionable = true ∨ Family.mentionable.covers .entity = true) ∧
    Sample.member.adapterFor? .entity = some (Sample.idle .role) ∧
    (∀ other ∈ Sample.member.adapters, Family.entity.covers other.family = true →
      ¬ (Family.role.covers other.family = true ∧ Family.role.same other.family = false)) ∧
    ∀ a ∈ Sample.member.adapters, Family.channel.covers a.family = false := by
  have hmembers : ∀ f ∈ [Family.entity, .mentionable, .role], f ∈ Family.standard := by simp [Family.standard]
  obtain ⟨hentity, hmentionable, hrole⟩ : _ ∧ _ ∧ _ := by simpa using hmembers
  obtain ⟨_, _, _, hgraded, hcomparable, hadapters⟩ := Family.Hierarchy.graded Family.hierarchy_standard
  obtain ⟨_, hfound⟩ := hadapters Sample.member .entity Sample.families_member
  obtain ⟨hnone, _⟩ := hadapters Sample.member .channel Sample.families_member
  refine ⟨Family.hierarchy_standard, Sample.families_member, ?_, ?_, rfl, ?_, hnone.mp rfl⟩
  · exact hgraded .entity .role hentity hrole rfl rfl
  · exact hcomparable .entity .mentionable .role hentity hmentionable hrole rfl rfl
  · exact (hfound _ rfl).2.2

end ChatDispatch
