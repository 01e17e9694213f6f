import ChatDispatch.Proofs.ArgumentTypes
import ChatDispatch.Proofs.JsonTexts

/-!
# Texts of integers

Captures and fields of forms deliver texts, and a parameter of an integer type takes the number that the text is
written for. On the way every number is one of 64 bits with a sign, whatever the type, and a type other than
that one then takes what it holds. So the two types with greater numbers cannot be given those.

* **`Text.trimBlanks_surrounded`** — white space around a text is dropped, and nothing of the text.
* **`Decimal.readInt?_toString`** — the decimal text of an integer is read as that integer.
* **`Converter.MakesIntegers`** — a converter makes the numbers of a type that raw values stand for.
* **`ConverterTable.search_integer`** — what is found for an integer type does so: the converter for one type or
  the one for the family.
* **`ConverterTable.Unmodified.resolve_integerText`** — the headline: the text of a number of a type becomes that
  number if it has 64 bits with a sign, and is declined otherwise.
-/

namespace ChatDispatch

/-! ## Blanks around a text

What is trimmed is white space in the sense of the platform, far more than the ASCII blanks. -/

namespace Text

/-- No digit is white space. -/
theorem isBlank_eq_false_of_isDigit {c : Char} (h : c.isDigit = true) : isBlank c = false := by
  have hbounds : 48 ≤ c.toNat ∧ c.toNat ≤ 57 := by
    simpa [Char.isDigit, UInt32.le_iff_toNat_le] using h
  simp only [isBlank, CodeRange.covers, blankRanges, List.any_cons, List.any_nil, Bool.or_eq_false_iff,
    Bool.and_eq_false_iff, decide_eq_false_iff_not, and_true]
  omega

/-- Blanks in front of a text that does not begin with one are dropped, and nothing more. -/
theorem dropWhile_isBlank_append {blanks cs : List Char} (hblanks : ∀ c ∈ blanks, isBlank c = true)
    (hcs : ∀ c ∈ cs.head?, isBlank c = false) : (blanks ++ cs).dropWhile isBlank = cs := by
  rw [List.dropWhile_append_of_pos hblanks]
  cases cs with
  | nil => rfl
  | cons c cs => exact List.dropWhile_cons_of_neg (by simp [hcs c rfl])

/-- **White space around a text** is dropped, and nothing of a text without white space. -/
theorem trimBlanks_surrounded {before cs after : List Char} (hne : cs ≠ [])
    (hbefore : ∀ c ∈ before, isBlank c = true) (hcs : ∀ c ∈ cs, isBlank c = false)
    (hafter : ∀ c ∈ after, isBlank c = true) : trimBlanks (before ++ cs ++ after) = cs := by
  -- from the front
  have hfront : (before ++ (cs ++ after)).dropWhile isBlank = cs ++ after := by
    refine dropWhile_isBlank_append hbefore fun c hc => ?_
    rw [List.head?_append_of_ne_nil cs hne] at hc
    exact hcs c (List.mem_of_mem_head? hc)
  -- and from the back, in reverse
  have hback : (after.reverse ++ cs.reverse).dropWhile isBlank = cs.reverse :=
    dropWhile_isBlank_append (fun c hc => hafter c (List.mem_reverse.mp hc)) fun c hc =>
      hcs c (List.mem_reverse.mp (List.mem_of_mem_head? hc))
  rw [trimBlanks, List.append_assoc, hfront, List.reverse_append, hback, List.reverse_reverse]

end Text

/-! ## Decimal texts

Reading undoes writing, sign by sign and digit by digit. -/

namespace Decimal

/-- The digits of a number are read as the number. -/
theorem readNat?_toDigits (n : Nat) : readNat? (Nat.toDigits 10 n) = some n := by
  have hdigits : (Nat.toDigits 10 n).all Char.isDigit = true :=
    List.all_eq_true.mpr fun c hc => Nat.isDigit_of_mem_toDigits (by decide) (by decide) hc
  have hne : (Nat.toDigits 10 n).isEmpty = false := List.isEmpty_eq_false_iff.mpr Nat.toDigits_ne_nil
  rw [readNat?, hdigits, hne, Json.valueOf_toDigits]
  rfl

/-- An integer that is not negative is written in digits only. -/
theorem toString_toList_of_nonneg {n : Int} (h : 0 ≤ n) : (toString n).toList = Nat.toDigits 10 n.toNat := by
  rw [Int.toString_eq_repr, Int.repr_eq_if, if_pos h, Nat.repr_eq_ofList_toDigits, String.toList_ofList]

/-- A text that begins with a digit has no sign. -/
theorem readSign_of_isDigit {cs : List Char} (h : ∀ c ∈ cs.head?, c.isDigit = true) :
    readSign cs = (false, cs) := by
  unfold readSign
  split
  · exact absurd (h '-' rfl) (by decide)
  · exact absurd (h '+' rfl) (by decide)
  · rfl

/-- Behind a sign stand digits, and their number is taken with the sign. -/
theorem readInt?_of_readSign {cs : List Char} {negative : Bool} {n : Nat}
    (h : readSign cs = (negative, Nat.toDigits 10 n)) :
    readInt? cs = some (if negative then -(n : Int) else n) := by
  simp only [readInt?, h, readNat?_toDigits]
  rfl

/-- **The decimal text of an integer** is read as that integer. -/
theorem readInt?_toString (n : Int) : readInt? (toString n).toList = some n := by
  rcases Int.lt_or_le n 0 with hneg | hnonneg
  · -- a negative integer is written as its sign and the digits of its opposite
    have habs : -(n.natAbs : Int) = n := by omega
    rw [Json.toString_toList_of_neg hneg, readInt?_of_readSign rfl, if_pos rfl, habs]
  · have hhead : ∀ c ∈ (Nat.toDigits 10 n.toNat).head?, c.isDigit = true := fun c hc =>
      Nat.isDigit_of_mem_toDigits (by decide) (by decide) (List.mem_of_mem_head? hc)
    rw [toString_toList_of_nonneg hnonneg, readInt?_of_readSign (readSign_of_isDigit hhead),
      if_neg Bool.false_ne_true, Int.toNat_of_nonneg hnonneg]

theorem toString_toList_ne_nil (n : Int) : (toString n).toList ≠ [] := by
  intro hnil
  have hread := readInt?_toString n
  rw [hnil] at hread
  cases hread

/-- The decimal text of an integer has no white space. -/
theorem isBlank_of_mem_toString {n : Int} {c : Char} (hc : c ∈ (toString n).toList) :
    Text.isBlank c = false := by
  -- digits are no white space, and neither is the sign
  have hdigit : ∀ {m : Nat}, c ∈ Nat.toDigits 10 m → Text.isBlank c = false := fun hmem =>
    Text.isBlank_eq_false_of_isDigit (Nat.isDigit_of_mem_toDigits (by decide) (by decide) hmem)
  rcases Int.lt_or_le n 0 with hneg | hnonneg
  · rw [Json.toString_toList_of_neg hneg] at hc
    rcases List.mem_cons.mp hc with rfl | hc
    · rfl
    · exact hdigit hc
  · rw [toString_toList_of_nonneg hnonneg] at hc
    exact hdigit hc

end Decimal

/-! ## Integers of 64 bits

Raw integers have 64 bits with a sign, whatever the type of the parameter. The numbers that do not fit are those
of 2^63 and more. -/

namespace IntegerType

/-- The type `i64` holds what lies between its least and its greatest number. -/
theorem i64_holds_eq_true_iff {n : Int} :
    i64.holds n = true ↔ Int64.minValue.toInt ≤ n ∧ n ≤ Int64.maxValue.toInt := by
  simp only [holds, isSigned, if_true, Bool.and_eq_true, decide_eq_true_eq]
  exact and_congr_right fun _ => Int.lt_add_one_iff (b := Int64.maxValue.toInt)

/-- The numbers of an integer type have 64 bits with a sign, but for the greater ones of the two widest types
without a sign. -/
theorem i64_holds_iff {t : IntegerType} {n : Int} (h : t.holds n = true) :
    i64.holds n = true ↔ ¬ ((t = .u64 ∨ t = .usize) ∧ Int64.maxValue.toInt < n) := by
  have hleast : Int64.minValue.toInt = -9223372036854775808 := rfl
  have hgreatest : Int64.maxValue.toInt = 9223372036854775807 := rfl
  rw [i64_holds_eq_true_iff, hleast, hgreatest]
  cases hsigned : t.isSigned with
  | true =>
    -- types with a sign have 64 bits at most
    have hwide : ¬ (t = .u64 ∨ t = .usize) := by rintro (rfl | rfl) <;> cases hsigned
    have hbits : Nat.pow 2 (t.bits - 1) ≤ 9223372036854775808 := by cases t <;> decide
    simp only [holds, hsigned, if_true, Bool.and_eq_true, decide_eq_true_eq] at h
    exact iff_of_true (by omega) fun hgreat => hwide hgreat.1
  | false =>
    simp only [holds, hsigned, Bool.false_eq_true, if_false, Bool.and_eq_true, decide_eq_true_eq] at h
    by_cases hwide : t = .u64 ∨ t = .usize
    · -- the two widest types without a sign go beyond
      simp only [hwide, true_and]
      omega
    · have hbits : Nat.pow 2 t.bits ≤ 9223372036854775808 := by
        cases t <;> first | decide | exact absurd hsigned (by decide) | simp at hwide
      exact iff_of_true (by omega) fun hgreat => hwide hgreat.1

theorem toInt_ofInt {n : Int} (h : i64.holds n = true) : (Int64.ofInt n).toInt = n := by
  obtain ⟨hlow, hhigh⟩ := i64_holds_eq_true_iff.mp h
  exact Int64.toInt_ofInt_of_le hlow (Int.lt_add_one_iff.mpr hhigh)

end IntegerType

namespace Converter

/-- **The text of an integer** stands for the integer if it has 64 bits with a sign, whatever white space is
around it. -/
theorem integerOf?_text {before after : String} (hbefore : ∀ c ∈ before.toList, Text.isBlank c = true)
    (hafter : ∀ c ∈ after.toList, Text.isBlank c = true) (n : Int) :
    integerOf? (.text (before ++ toString n ++ after)) =
      if IntegerType.i64.holds n = true then some (Int64.ofInt n) else none := by
  rw [integerOf?, String.toList_append, String.toList_append,
    Text.trimBlanks_surrounded (Decimal.toString_toList_ne_nil n) hbefore
      (fun c hc => Decimal.isBlank_of_mem_toString hc) hafter, Decimal.readInt?_toString, Option.bind_some]

/-! ## What serves the integer types

One type has a converter of its own and the others share that of the family. Both read the same raw values. -/

/-- The converter makes the numbers of the type that raw values stand for, and declines all other values. -/
def MakesIntegers (converter : Converter) (t : IntegerType) : Prop :=
  ∀ interaction raw, converter.convert interaction raw (.integer t) =
    match integerOf? raw with
    | some n =>
      if t.holds n.toInt = true then .ok (.value (.integer t n.toInt))
      else .error (declined raw (.integer t))
    | none => .error (declined raw (.integer t))

/-- The converter of `i64` makes its numbers. -/
theorem makesIntegers_integer : integer.MakesIntegers .i64 := by
  intro interaction raw
  simp only [integer, ofType]
  cases integerOf? raw with
  | none => rfl
  | some n => simp only [Option.map_some, IntegerType.i64_holds_toInt, if_true]

/-- The adapter of an integer type other than the one that raw integers have. -/
theorem adapterFor?_integer {t : IntegerType} (ht : t ≠ .i64) :
    (ArgType.integer t).adapterFor? .integer =
      some (.ofInteger fun n => if t.holds n.toInt then some (.integer t n.toInt) else none) := by
  cases t <;> first | exact absurd rfl ht | rfl

/-- The converter of the family makes the numbers of every other integer type. -/
theorem makesIntegers_ofFamily {t : IntegerType} (ht : t ≠ .i64) :
    (ofFamily .integer fun value => (integerOf? value).map .integer).MakesIntegers t := by
  intro interaction raw
  simp only [ofFamily, adapterFor?_integer ht]
  cases integerOf? raw with
  | none => rfl
  | some n =>
    simp only [Option.map_some, Option.bind_some, Adapter.ofInteger]
    -- the adapter takes what the type holds
    by_cases hholds : t.holds n.toInt = true
    · simp only [hholds, if_true, Option.map_some]
    · simp only [hholds, if_false, Option.map_none, Bool.false_eq_true]

end Converter

namespace ConverterTable

/-- **What is found for an integer type** makes the numbers of the type. -/
theorem search_integer (t : IntegerType) :
    ∃ converter, standard.search (.integer t) = some converter ∧ converter.MakesIntegers t := by
  by_cases ht : t = .i64
  · cases ht
    exact ⟨.integer, rfl, Converter.makesIntegers_integer⟩
  · refine ⟨_, ?_, Converter.makesIntegers_ofFamily ht⟩
    cases t <;> first | exact absurd rfl ht | rfl

/-- A look-up answers with what is found. -/
theorem resolve_fst_eq_find? (table : ConverterTable) (type : ArgType) :
    (table.resolve type).1 = table.find? type := by
  unfold resolve find?
  cases table.found.find? (·.1 == type.name) with
  | some entry => rfl
  | none =>
    cases table.search type with
    | some converter => rfl
    | none => rfl

/-- **Texts of integers.** A table in which the host has registered nothing has a converter for every integer
type. With any white space around it, the decimal text of a number of the type becomes that number, unless the
type is `u64` or `usize` and the number has no place in 64 bits with a sign. Such a text is declined. -/
theorem Unmodified.resolve_integerText {table : ConverterTable} (h : table.Unmodified) {t : IntegerType}
    {n : Int} (hn : t.holds n = true) {before after : String}
    (hbefore : ∀ c ∈ before.toList, Text.isBlank c = true)
    (hafter : ∀ c ∈ after.toList, Text.isBlank c = true) :
    ∃ converter, (table.resolve (.integer t)).1 = some converter ∧ ∀ interaction,
      converter.convert interaction (.text (before ++ toString n ++ after)) (.integer t) =
        if (t = .u64 ∨ t = .usize) ∧ Int64.maxValue.toInt < n then
          .error (.invalid (before ++ toString n ++ after) t.name)
        else .ok (.value (.integer t n)) := by
  obtain ⟨converter, hsearch, hmakes⟩ := search_integer t
  refine ⟨converter, ?_, fun interaction => ?_⟩
  · rw [resolve_fst_eq_find?, h.find?_eq (.integer t), hsearch]
  · rw [hmakes, Converter.integerOf?_text hbefore hafter]
    by_cases hgreat : (t = .u64 ∨ t = .usize) ∧ Int64.maxValue.toInt < n
    · -- the text stands for no raw integer, so it is declined
      have hnot : ¬ IntegerType.i64.holds n = true := fun h64 => (IntegerType.i64_holds_iff hn).mp h64 hgreat
      simp only [if_neg hnot, if_pos hgreat]
      rfl
    · have h64 : IntegerType.i64.holds n = true := (IntegerType.i64_holds_iff hn).mpr hgreat
      simp only [if_pos h64, if_neg hgreat, IntegerType.toInt_ofInt h64, hn, if_true]

/-- The least number of 64 bits has no positive counterpart among them. Its text is read nevertheless, here with
an ideographic space before it and a line break behind it, after another type has been looked up. -/
theorem resolve_integerText_least :
    Unmodified (standard.resolve .role).2 ∧ IntegerType.i64.holds (-9223372036854775808) = true ∧
    (∀ c ∈ "\u3000".toList, Text.isBlank c = true) ∧ (∀ c ∈ "\n".toList, Text.isBlank c = true) ∧
    ∃ converter, ((standard.resolve .role).2.resolve (.integer .i64)).1 = some converter ∧ ∀ interaction,
      converter.convert interaction (.text "\u3000-9223372036854775808\n") (.integer .i64) =
        .ok (.value (.integer .i64 (-9223372036854775808))) := by
  have htable : Unmodified (standard.resolve .role).2 := .resolve .standard (.inl .role)
  have hbefore : ∀ c ∈ "\u3000".toList, Text.isBlank c = true :=
    List.forall_mem_singleton (a := '\u3000').mpr rfl
  have hafter : ∀ c ∈ "\n".toList, Text.isBlank c = true :=
    List.forall_mem_singleton (a := '\n').mpr rfl
  obtain ⟨converter, hfound, hconvert⟩ :=
    htable.resolve_integerText (t := .i64) (n := -9223372036854775808) (by decide) hbefore hafter
  refine ⟨htable, by decide, hbefore, hafter, converter, hfound, fun interaction => ?_⟩
  -- the number fits into the type
  have hmade := hconvert interaction
  rwa [if_neg (by decide)] at hmade

/-- The greatest number of `u64` cannot be given as a text. -/
theorem resolve_integer_greatest :
    IntegerType.u64.holds 18446744073709551615 = true ∧
    toString (18446744073709551615 : Int) = "18446744073709551615" ∧
    ¬ ∃ converter, (standard.resolve (.integer .u64)).1 = some converter ∧ ∃ interaction,
      converter.convert interaction (.text "18446744073709551615") (.integer .u64) =
        .ok (.value (.integer .u64 18446744073709551615)) := by
  refine ⟨by decide, rfl, ?_⟩
  rintro ⟨converter, hfound, interaction, hmade⟩
  obtain ⟨known, hsearch, hmakes⟩ := search_integer .u64
  cases hfound.symm.trans ((resolve_fst_eq_find? standard _).trans hsearch)
  rw [hmakes] at hmade
  cases hmade

end ConverterTable

end ChatDispatch
