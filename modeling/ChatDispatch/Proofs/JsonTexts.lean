import ChatDispatch.Json.Draft
import Mathlib.Data.List.Forall2

/-!
# Texts of JSON values

A value is written on one line and read back in two steps: the text is cut into tokens, and the tokens are
put together to a draft. For values without doubles both steps undo the writing.

* **`Value.Exact`** — the values whose texts tell them exactly.
* **`Scans`** — a text is cut into given tokens, whatever stands after it.
* **`scans_write`** — the text of a value is cut into the tokens of the value.
* **`draftOf_tokens`** — the tokens of a value are put together to its draft.
* **`ofText_write`** — the headline: the text of a value has the draft of the value.
-/

namespace ChatDispatch.Json

mutual

/-- Values without doubles, in which every number that says so is negative. -/
def Value.Exact : Value → Prop
  | .null | .boolean _ | .text _ | .number (.natural _) => True
  | .number (.negative n) => n < 0
  | .number (.float _) => False
  | .array items => ExactItems items
  | .object members => ExactMembers members

/-- The items of an exact array. -/
def ExactItems : List Value → Prop
  | [] => True
  | v :: vs => v.Exact ∧ ExactItems vs

/-- The members of an exact object. -/
def ExactMembers : List (String × Value) → Prop
  | [] => True
  | (_, v) :: ms => v.Exact ∧ ExactMembers ms

end

/-- Integers are written with the sign that they have, so their values are exact. -/
theorem exact_ofInt64 (n : Int64) : (Value.ofInt64 n).Exact := by
  unfold Value.ofInt64 Number.ofInt64
  split
  · assumption
  · trivial

/-- An absent value is exact, and a present one is if it was. -/
theorem exact_ofOption {α : Type} {f : α → Value} {o : Option α} (h : ∀ a ∈ o, (f a).Exact) :
    (Value.ofOption f o).Exact := by
  cases o with
  | none => trivial
  | some a => exact h a rfl

/-- An array of exact values is exact. -/
theorem exact_ofList {α : Type} (f : α → Value) (as : List α) (h : ∀ a ∈ as, (f a).Exact) :
    (Value.ofList f as).Exact := by
  show ExactItems (as.map f)
  induction as with
  | nil => trivial
  | cons a as ih =>
    rw [List.forall_mem_cons] at h
    exact ⟨h.1, ih h.2⟩

mutual

/-- The tokens of a value. -/
def Value.tokens : Value → List Token
  | .null => [.null]
  | .boolean b => [.boolean b]
  | .number n => [.number (.ok n)]
  | .text s => [.text (.ok s)]
  | .array items => .openArray :: ([.comma].intercalate (itemTokens items) ++ [.closeArray])
  | .object members => .openObject :: ([.comma].intercalate (memberTokens members) ++ [.closeObject])

/-- The tokens of the items of an array. -/
def itemTokens : List Value → List (List Token)
  | [] => []
  | v :: vs => v.tokens :: itemTokens vs

/-- The tokens of the members of an object. -/
def memberTokens : List (String × Value) → List (List Token)
  | [] => []
  | (name, v) :: ms => (.text (.ok name) :: .colon :: v.tokens) :: memberTokens ms

end

/-! ## Cutting a text into tokens

The reader takes one token after the other from the front of a text. Where a token ends is seen from what stands
behind it in one case only: a number may go on. So every statement here is about a text with something behind it
with which no number goes on. -/

/-- No number goes on in `rest`. -/
def Stops (rest : List Char) : Prop :=
  ∀ c ∈ rest.head?, c.isDigit = false ∧ c ≠ '.' ∧ c ≠ 'e' ∧ c ≠ 'E'

/-- The characters are cut into the tokens wherever no number goes on after them. -/
structure Scans (cs : List Char) (ts : List Token) : Prop where
  length_le : ts.length ≤ cs.length
  tokensWithin_eq : ∀ rest, Stops rest → ∀ fuel,
    tokensWithin (ts.length + fuel) (cs ++ rest) = ts ++ tokensWithin fuel rest

/-- The character is a token of its own, and no number goes on with it. -/
structure Delimits (c : Char) (t : Token) : Prop where
  isSpace_eq : isSpace c = false
  isLast_eq : t.isLast = false
  scanToken_eq : ∀ rest, scanToken c rest = (t, rest)
  ends_number : c.isDigit = false ∧ c ≠ '.' ∧ c ≠ 'e' ∧ c ≠ 'E'

theorem delimits_comma : Delimits ',' .comma := ⟨rfl, rfl, fun _ => rfl, by decide⟩

theorem delimits_colon : Delimits ':' .colon := ⟨rfl, rfl, fun _ => rfl, by decide⟩

theorem delimits_openArray : Delimits '[' .openArray := ⟨rfl, rfl, fun _ => rfl, by decide⟩

theorem delimits_closeArray : Delimits ']' .closeArray := ⟨rfl, rfl, fun _ => rfl, by decide⟩

theorem delimits_openObject : Delimits '\x7b' .openObject := ⟨rfl, rfl, fun _ => rfl, by decide⟩

theorem delimits_closeObject : Delimits '\x7d' .closeObject := ⟨rfl, rfl, fun _ => rfl, by decide⟩

theorem Delimits.stops {c : Char} {t : Token} (h : Delimits c t) (rest : List Char) : Stops (c :: rest) := by
  intro d hd
  obtain rfl : c = d := by simpa using hd
  exact h.ends_number

theorem stops_nil : Stops [] := fun _ h => by cases h

@[simp]
theorem tokensWithin_nil (fuel : Nat) : tokensWithin fuel [] = [] := by
  cases fuel <;> rfl

theorem tokensWithin_succ {c : Char} {cs rest : List Char} {t : Token} (fuel : Nat)
    (hspace : isSpace c = false) (hlast : t.isLast = false) (hscan : scanToken c cs = (t, rest)) :
    tokensWithin (fuel + 1) (c :: cs) = t :: tokensWithin fuel rest := by
  rw [tokensWithin, List.dropWhile_cons_of_neg (by simp [hspace])]
  simp only [hscan, hlast, Bool.false_eq_true, if_false]

namespace Scans

theorem nil : Scans [] [] := ⟨Nat.le_refl 0, fun rest _ fuel => by simp⟩

/-- A text of one token. -/
theorem single {c : Char} {cs : List Char} {t : Token} (hspace : isSpace c = false) (hlast : t.isLast = false)
    (hscan : ∀ rest, Stops rest → scanToken c (cs ++ rest) = (t, rest)) : Scans (c :: cs) [t] where
  length_le := by simp
  tokensWithin_eq := fun rest hrest fuel => by
    rw [List.length_singleton, Nat.add_comm, List.cons_append,
      tokensWithin_succ fuel hspace hlast (hscan rest hrest), List.singleton_append]

/-- A delimiter in front of a text is one token more. -/
theorem cons {c : Char} {t : Token} {cs : List Char} {ts : List Token} (hc : Delimits c t)
    (h : Scans cs ts) : Scans (c :: cs) (t :: ts) where
  length_le := Nat.succ_le_succ h.length_le
  tokensWithin_eq := fun rest hrest fuel => by
    rw [List.length_cons, Nat.add_right_comm, List.cons_append,
      tokensWithin_succ _ hc.isSpace_eq hc.isLast_eq (hc.scanToken_eq _), h.tokensWithin_eq rest hrest,
      List.cons_append]

/-- Two texts with a delimiter between them. -/
theorem append {c : Char} {t : Token} {cs cs' : List Char} {ts ts' : List Token} (h : Scans cs ts)
    (hc : Delimits c t) (h' : Scans cs' ts') : Scans (cs ++ c :: cs') (ts ++ t :: ts') where
  length_le := by
    have := h.length_le
    have := h'.length_le
    simp only [List.length_append, List.length_cons]
    omega
  tokensWithin_eq := fun rest hrest fuel => by
    -- no number of the first text goes on with the delimiter
    rw [List.length_append, Nat.add_assoc, List.append_assoc, h.tokensWithin_eq (c :: cs' ++ rest) (hc.stops _),
      (h'.cons hc).tokensWithin_eq rest hrest, List.append_assoc]

/-- Texts with commas between them. -/
theorem intercalate {css : List (List Char)} {tss : List (List Token)} (h : List.Forall₂ Scans css tss) :
    Scans ([','].intercalate css) ([.comma].intercalate tss) := by
  -- by the texts: a comma stands in front of all but the first
  induction h with
  | nil => exact .nil
  | cons h htail ih =>
    cases htail with
    | nil => simpa using h
    | cons =>
      rw [List.intercalate_cons_cons, List.intercalate_cons_cons, List.append_assoc, List.append_assoc]
      exact h.append delimits_comma ih

theorem tokens_eq {s : String} {ts : List Token} (h : Scans s.toList ts) : Json.tokens s = ts := by
  -- the fuel is the length of the text, and there are no more tokens than that
  have hs := h.tokensWithin_eq [] stops_nil (s.toList.length - ts.length)
  rwa [List.append_nil, Nat.add_sub_cancel' h.length_le, tokensWithin_nil, List.append_nil] at hs

end Scans

/-! ### Strings

Each character is read as it was written, plain, behind a backslash or by its number, so a string is. -/

/-- The number of a control character has four digits, which stand for it. -/
theorem hexadecimalOfWidth_four : ∀ n < 0x20, (Text.hexadecimalOfWidth 4 n).length = 4 ∧
    Text.hexValue? (Text.hexadecimalOfWidth 4 n) = some n := by
  decide

/-- A character that has to be written by its number. -/
theorem scanText_numbered {c : Char} (h : c.toNat < 0x20) (taken rest : List Char) :
    scanText taken none none ('\\' :: 'u' :: Text.hexadecimalOfWidth 4 c.toNat ++ rest) =
      scanText (c :: taken) none none rest := by
  obtain ⟨hlength, hvalue⟩ := hexadecimalOfWidth_four c.toNat h
  obtain ⟨a, b, d, e, heq⟩ := List.length_eq_four.mp hlength
  rw [heq] at hvalue ⊢
  -- the number is no half of a surrogate pair
  have htrailing : isTrailing c.toNat = false := by
    simp only [isTrailing, Bool.and_eq_false_iff, decide_eq_false_iff_not]
    omega
  have hleading : isLeading c.toNat = false := by
    simp only [isLeading, Bool.and_eq_false_iff, decide_eq_false_iff_not]
    omega
  show scanText taken none none ('\\' :: 'u' :: a :: b :: d :: e :: rest) = _
  rw [scanText.eq_def]
  simp only [hvalue, htrailing, hleading, Char.ofNat_toNat, Bool.false_eq_true, if_false]

/-- A character that is written as itself. -/
theorem scanText_plain {c : Char} (hquoted : ¬ (c = '"' ∨ c = '\\')) (hlow : ¬ c.toNat < 0x20)
    (taken rest : List Char) : scanText taken none none (c :: rest) = scanText (c :: taken) none none rest := by
  rw [not_or] at hquoted
  rw [scanText.eq_def]
  -- the case of a character as such is the last one of the reader
  split
  case h_7 heq =>
    obtain ⟨rfl, rfl⟩ := List.cons.inj heq
    rw [if_neg hlow, Option.map_none, Option.or_none]
  -- the other cases begin with a quotation mark or a backslash
  all_goals simp_all

/-- A character of a string is read as it was written. -/
theorem scanText_escapeChar (c : Char) (taken rest : List Char) :
    scanText taken none none (escapeChar c ++ rest) = scanText (c :: taken) none none rest := by
  unfold escapeChar
  split
  · rename_i hquoted
    rcases hquoted with rfl | rfl <;> rfl
  · rename_i hquoted
    split
    · rename_i hlow
      exact scanText_numbered hlow taken rest
    · rename_i hlow
      exact scanText_plain hquoted hlow taken rest

/-- The characters of a string up to the quotation mark at its end, behind those that were taken before. -/
theorem scanText_flatMap_escapeChar (cs taken rest : List Char) :
    scanText taken none none (cs.flatMap escapeChar ++ '"' :: rest) =
      (.ok (String.ofList (taken.reverse ++ cs)), rest) := by
  -- the reader keeps what it has taken in reverse
  induction cs generalizing taken with
  | nil => simp [scanText]
  | cons c cs ih =>
    rw [List.flatMap_cons, List.append_assoc, scanText_escapeChar, ih, List.reverse_cons, List.append_assoc,
      List.singleton_append]

/-- The text of a string is one token, which holds the string. -/
theorem scans_writeText (s : String) : Scans (writeText s).toList [.text (.ok s)] := by
  rw [writeText, String.toList_ofList, List.cons_append]
  refine .single rfl rfl fun rest _ => ?_
  have hscan := scanText_flatMap_escapeChar s.toList [] rest
  rw [List.reverse_nil, List.nil_append, String.ofList_toList] at hscan
  show (Token.text (scanText [] none none _).1, (scanText [] none none _).2) = _
  rw [List.append_assoc, List.singleton_append, hscan]

/-! ### Numbers

An integer is written with its digits and a sign, without places or an exponent. The reader takes all digits,
finds nothing that goes on with them, and makes the number again. -/

/-- Further digits do not make a number smaller. -/
theorem le_valueOf (start : Nat) (ds : List Char) : start ≤ Decimal.valueOf start ds := by
  induction ds generalizing start with
  | nil => exact Nat.le_refl _
  | cons d ds ih =>
    -- the first digit alone leads to ten times the start or more
    have := ih (10 * start + (d.toNat - '0'.toNat))
    simp only [Decimal.valueOf, List.foldl_cons] at this ⊢
    omega

/-- Digits of a number of 64 bits are absorbed without rest. -/
theorem absorb_eq {start : Nat} {ds : List Char} (h : Decimal.valueOf start ds < Nat.pow 2 64) :
    absorb start ds = (Decimal.valueOf start ds, []) := by
  induction ds generalizing start with
  | nil => rfl
  | cons d ds ih =>
    -- a number of 64 bits with all digits is one with the first of them, too
    have hnext : Decimal.valueOf start [d] < Nat.pow 2 64 := Nat.lt_of_le_of_lt (le_valueOf _ ds) h
    rw [absorb, if_pos hnext]
    exact ih h

theorem valueOf_toDigits (n : Nat) : Decimal.valueOf 0 (Nat.toDigits 10 n) = n :=
  Nat.ofDigitChars_ten_toDigits

/-- The digits of a number of 64 bits are absorbed without rest, and give the number. -/
theorem absorb_toDigits {n : Nat} (h : n < Nat.pow 2 64) : absorb 0 (Nat.toDigits 10 n) = (n, []) := by
  rw [absorb_eq (by rwa [valueOf_toDigits]), valueOf_toDigits]

/-- Only zero is written with a zero in front. -/
theorem toDigits_eq_zero_cons {n : Nat} {ds : List Char} (h : Nat.toDigits 10 n = '0' :: ds) : ds = [] := by
  induction n using Nat.strongRecOn generalizing ds with
  | ind n ih =>
    rw [Nat.toDigits_eq_if (by decide)] at h
    split at h
    · exact (List.cons.inj h).2.symm
    · rename_i hn
      have hne : Nat.toDigits 10 (n / 10) ≠ [] := Nat.toDigits_ne_nil
      obtain ⟨d, ds', hds⟩ := List.exists_cons_of_ne_nil hne
      rw [hds] at h
      obtain ⟨rfl, hrest⟩ := List.cons.inj h
      -- what is in front of the last digit is then zero, and the number has one digit only
      have hnil := ih (n / 10) (by omega) hds
      have hzero : n / 10 = 0 := by
        rw [← valueOf_toDigits (n / 10), hds, hnil]
        rfl
      omega

theorem Stops.takeWhile_isDigit {rest : List Char} (h : Stops rest) : rest.takeWhile Char.isDigit = [] := by
  cases rest with
  | nil => rfl
  | cons c cs => exact List.takeWhile_cons_of_neg (by simp [(h c rfl).1])

theorem Stops.dropWhile_isDigit {rest : List Char} (h : Stops rest) : rest.dropWhile Char.isDigit = rest := by
  cases rest with
  | nil => rfl
  | cons c cs => exact List.dropWhile_cons_of_neg (by simp [(h c rfl).1])

/-- The whole part of a number is its digits, up to where it stops. -/
theorem scanWhole_toDigits {rest : List Char} (hrest : Stops rest) (n : Nat) :
    scanWhole (Nat.toDigits 10 n ++ rest) = .ok (Nat.toDigits 10 n, rest) := by
  have hdigits : ∀ c ∈ Nat.toDigits 10 n, c.isDigit = true := fun c hc =>
    Nat.isDigit_of_mem_toDigits (by decide) (by decide) hc
  unfold scanWhole
  simp only [List.takeWhile_append_of_pos hdigits, List.dropWhile_append_of_pos hdigits,
    hrest.takeWhile_isDigit, hrest.dropWhile_isDigit, List.append_nil]
  -- neither are there no digits, nor is there a zero in front of others
  split
  · rename_i h
    exact absurd h Nat.toDigits_ne_nil
  · rename_i h
    exact absurd (toDigits_eq_zero_cons h) (List.cons_ne_nil _ _)
  · rfl

theorem scanPlaces_of_stops {rest : List Char} (hrest : Stops rest) : scanPlaces rest = .ok (none, rest) := by
  unfold scanPlaces
  split
  · exact absurd rfl (hrest '.' rfl).2.1
  · rfl

/-- A number that stops has no exponent. -/
theorem scanExponent_of_stops {rest : List Char} (hrest : Stops rest) :
    scanExponent rest = .ok (none, rest) := by
  cases rest with
  | nil => rfl
  | cons c cs =>
    obtain ⟨-, -, he, hE⟩ := hrest c rfl
    rw [scanExponent, if_neg (not_or.mpr ⟨he, hE⟩)]

/-- Digits of an integer and the sign before them stand for one number. -/
theorem scanNumber_toDigits {negative : Bool} {n : Nat} {number : Number} {rest : List Char}
    (hrest : Stops rest)
    (hvalue : NumberParts.value? ⟨negative, Nat.toDigits 10 n, none, none⟩ = some number) :
    scanNumber negative (Nat.toDigits 10 n ++ rest) = (.ok number, rest) := by
  unfold scanNumber
  simp only [scanWhole_toDigits hrest, scanPlaces_of_stops hrest, scanExponent_of_stops hrest, bind,
    Except.bind, pure, Except.pure, hvalue]

theorem value?_natural (n : UInt64) :
    NumberParts.value? ⟨false, Nat.toDigits 10 n.toNat, none, none⟩ = some (.natural n) := by
  simp [NumberParts.value?, absorb_toDigits n.toNat_lt]

/-- Digits behind a sign are a negative number, the least one among them. -/
theorem value?_negative {n : Int64} (h : n < 0) :
    NumberParts.value? ⟨true, Nat.toDigits 10 n.toInt.natAbs, none, none⟩ = some (.negative n) := by
  have hneg : n.toInt < 0 := Int64.lt_iff_toInt_lt.mp h
  have hlow := n.le_toInt
  -- the least number has the greatest distance from zero, which is half of the range
  have hbound : n.toInt.natAbs ≤ Nat.pow 2 63 := by
    show _ ≤ 2 ^ 63
    omega
  have habsorb := absorb_toDigits (Nat.lt_of_le_of_lt hbound (by decide))
  have hnat : -(n.toInt.natAbs : Int) = n.toInt := by omega
  have hne : n.toInt.natAbs ≠ 0 := by omega
  rw [NumberParts.value?, habsorb]
  simp only [Option.isNone_none, List.isEmpty_nil, Bool.and_self, Bool.not_true, Bool.false_eq_true, if_true,
    if_false, if_neg hne, if_pos hbound, hnat, Int64.ofInt_toInt]

/-- A text that begins with a digit is read as a number. -/
theorem scanToken_of_isDigit {c : Char} (h : c.isDigit = true) (cs : List Char) :
    scanToken c cs = (.number (scanNumber false (c :: cs)).1, (scanNumber false (c :: cs)).2) := by
  unfold scanToken
  split
  all_goals first | exact absurd h (by decide) | skip
  rw [if_pos h]

theorem isSpace_of_isDigit {c : Char} (h : c.isDigit = true) : isSpace c = false := by
  rw [isSpace, decide_eq_false_iff_not]
  rintro (rfl | rfl | rfl | rfl) <;> exact absurd h (by decide)

/-- A negative number is written with a sign in front of its digits. -/
theorem toString_toList_of_neg {n : Int} (h : n < 0) :
    (toString n).toList = '-' :: Nat.toDigits 10 n.natAbs := by
  have habs : (-n).toNat = n.natAbs := by omega
  rw [Int.toString_eq_repr, Int.repr_eq_if, if_neg (by omega), habs, Nat.repr_eq_ofList_toDigits,
    String.toList_append, String.toList_ofList (l := Nat.toDigits 10 n.natAbs)]
  rfl

/-- The text of an exact number is one token, which holds the number. -/
theorem scans_writeNumber {n : Number} (h : Value.Exact (.number n)) :
    Scans (writeNumber n).toList [.number (.ok n)] := by
  cases n with
  | natural n =>
    -- the first digit tells the reader that a number begins
    obtain ⟨d, ds, hds⟩ := List.exists_cons_of_ne_nil (Nat.toDigits_ne_nil (n := n.toNat) (b := 10))
    have hdigit : d.isDigit = true :=
      Nat.isDigit_of_mem_toDigits (by decide) (by decide) (hds ▸ List.mem_cons_self)
    rw [writeNumber, Nat.toString_eq_ofList_toDigits, String.toList_ofList, hds]
    refine .single (isSpace_of_isDigit hdigit) rfl fun rest hrest => ?_
    rw [scanToken_of_isDigit hdigit, ← List.cons_append, ← hds,
      scanNumber_toDigits hrest (value?_natural n)]
  | negative n =>
    rw [writeNumber, toString_toList_of_neg (Int64.lt_iff_toInt_lt.mp h)]
    refine .single rfl rfl fun rest hrest => ?_
    show (Token.number (scanNumber true _).1, (scanNumber true _).2) = _
    rw [scanNumber_toDigits hrest (value?_negative h)]
  | float x => exact h.elim

/-! ### Values

Arrays and objects are their items and members with commas between them, and with brackets around them. -/

mutual

/-- **The text of a value is cut into its tokens.** -/
theorem scans_write : (v : Value) → v.Exact → Scans (write v).toList v.tokens
  | .null, _ => .single rfl rfl fun _ _ => rfl
  | .boolean true, _ => .single rfl rfl fun _ _ => rfl
  | .boolean false, _ => .single rfl rfl fun _ _ => rfl
  | .number _, h => scans_writeNumber h
  | .text s, _ => scans_writeText s
  | .array items, h => by
    -- items stand between brackets, with commas between them
    have hitems := Scans.intercalate (scans_writeItems items h)
    rw [write, Value.tokens, String.toList_append, String.toList_append, String.toList_intercalate]
    exact (hitems.append delimits_closeArray .nil).cons delimits_openArray
  | .object members, h => by
    have hmembers := Scans.intercalate (scans_writeMembers members h)
    rw [write, Value.tokens, String.toList_append, String.toList_append, String.toList_intercalate]
    exact (hmembers.append delimits_closeObject .nil).cons delimits_openObject

/-- The texts of the items are cut into the tokens of the items, one by one. -/
theorem scans_writeItems : (items : List Value) → ExactItems items →
    List.Forall₂ Scans ((writeItems items).map String.toList) (itemTokens items)
  | [], _ => .nil
  | v :: vs, h => .cons (scans_write v h.1) (scans_writeItems vs h.2)

/-- The texts of the members are cut into the tokens of the members, one by one. -/
theorem scans_writeMembers : (members : List (String × Value)) → ExactMembers members →
    List.Forall₂ Scans ((writeMembers members).map String.toList) (memberTokens members)
  | [], _ => .nil
  | (name, v) :: ms, h => by
    refine .cons ?_ (scans_writeMembers ms h.2)
    rw [String.toList_append, String.toList_append, List.append_assoc]
    exact (scans_writeText name).append delimits_colon (scans_write v h.1)

end

/-! ## Putting tokens together

A draft is made of tokens with one token in sight. The tokens of a value end before what stands behind them, so
what is made of them does not depend on it. -/

/-- The token begins a value. -/
def Token.Opens : Token → Prop
  | .closeArray | .closeObject | .comma | .colon | .stray => False
  | _ => True

theorem Value.tokens_eq_cons (v : Value) : ∃ t ts, v.tokens = t :: ts ∧ t.Opens := by
  cases v <;> exact ⟨_, _, rfl, trivial⟩

/-- The tokens of items begin with a value. -/
theorem exists_intercalate_itemTokens (v : Value) (vs : List Value) :
    ∃ t ts, [.comma].intercalate (itemTokens (v :: vs)) = t :: ts ∧ t.Opens := by
  obtain ⟨t, ts, htokens, hopens⟩ := v.tokens_eq_cons
  cases vs with
  | nil => exact ⟨t, ts, by rw [itemTokens, itemTokens, List.intercalate_singleton, htokens], hopens⟩
  | cons w ws =>
    refine ⟨t, ts ++ [.comma] ++ [.comma].intercalate (itemTokens (w :: ws)), ?_, hopens⟩
    rw [itemTokens, itemTokens, List.intercalate_cons_cons, htokens, List.cons_append, List.cons_append]

theorem exists_intercalate_memberTokens (name : String) (v : Value) (ms : List (String × Value)) :
    ∃ ts, [.comma].intercalate (memberTokens ((name, v) :: ms)) = .text (.ok name) :: ts := by
  cases ms with
  | nil => exact ⟨_, by rw [memberTokens, memberTokens, List.intercalate_singleton]⟩
  | cons m ms => exact ⟨_, by rw [memberTokens, memberTokens, List.intercalate_cons_cons]; rfl⟩

/-- Behind the bracket of an array that is not empty its items are read. -/
theorem draftOf_openArray {t : Token} (h : t.Opens) (fuel : Nat) (ts : List Token) :
    draftOf (fuel + 1) (.openArray :: t :: ts) =
      (.array (itemsOf fuel (t :: ts)).1 (itemsOf fuel (t :: ts)).2.1, (itemsOf fuel (t :: ts)).2.2) := by
  cases t <;> first | rfl | exact h.elim

theorem draftOf_openObject (fuel : Nat) (name : Except Flaw String) (ts : List Token) :
    draftOf (fuel + 1) (.openObject :: .text name :: ts) =
      (.object (membersOf fuel false (.text name :: ts)).1 (membersOf fuel false (.text name :: ts)).2.1,
        (membersOf fuel false (.text name :: ts)).2.2) := rfl

/-- Behind an item and a comma the next items are read. -/
theorem itemsOf_comma {fuel : Nat} {ts rest : List Token} {d : Draft} {t : Token}
    (hitem : draftOf fuel ts = (d, .comma :: t :: rest)) (h : t.Opens) :
    itemsOf (fuel + 1) ts =
      (d :: (itemsOf fuel (t :: rest)).1, (itemsOf fuel (t :: rest)).2.1,
        (itemsOf fuel (t :: rest)).2.2) := by
  rw [itemsOf, hitem]
  cases t <;> first | rfl | exact h.elim

/-- Behind a member and a comma the next members are read, of which the first one has a comma before it. -/
theorem membersOf_comma {fuel : Nat} {afterComma : Bool} {ts rest : List Token} {d : Draft}
    {name next : Except Flaw String} (hvalue : draftOf fuel ts = (d, .comma :: .text next :: rest)) :
    membersOf (fuel + 1) afterComma (.text name :: .colon :: ts) =
      ((name, d) :: (membersOf fuel true (.text next :: rest)).1,
        (membersOf fuel true (.text next :: rest)).2.1, (membersOf fuel true (.text next :: rest)).2.2) := by
  rw [membersOf, hvalue]

mutual

-- By recursion on the value. Twice the number of tokens is fuel enough: every step around another one takes
-- a token, and an item takes one step more than its value.
/-- **The tokens of a value are put together to its draft**, whatever comes after them. -/
theorem draftOf_tokens : (v : Value) → (fuel : Nat) → 2 * v.tokens.length ≤ fuel → (rest : List Token) →
    draftOf fuel (v.tokens ++ rest) = (v.draft, rest)
  | v, 0, hfuel, rest => by
    obtain ⟨t, ts, htokens, _⟩ := v.tokens_eq_cons
    simp [htokens] at hfuel
  | .null, _ + 1, _, _ | .boolean _, _ + 1, _, _ | .number _, _ + 1, _, _ | .text _, _ + 1, _, _ => rfl
  | .array [], _ + 1, _, _ | .object [], _ + 1, _, _ => rfl
  | .array (v :: vs), fuel + 1, hfuel, rest => by
    simp only [Value.tokens, List.length_cons, List.length_append] at hfuel
    -- the array is not empty, and its items have fuel enough
    have hitems := itemsOf_tokens (v :: vs) (List.cons_ne_nil _ _) fuel (by omega) rest
    obtain ⟨t, ts, htokens, hopens⟩ := exists_intercalate_itemTokens v vs
    rw [Value.tokens, List.cons_append, List.append_assoc, List.singleton_append]
    rw [htokens, List.cons_append] at hitems ⊢
    rw [draftOf_openArray hopens, hitems, Value.draft]
  | .object ((name, v) :: ms), fuel + 1, hfuel, rest => by
    simp only [Value.tokens, List.length_cons, List.length_append] at hfuel
    have hmembers := membersOf_tokens ((name, v) :: ms) (List.cons_ne_nil _ _) fuel (by omega) false rest
    obtain ⟨ts, htokens⟩ := exists_intercalate_memberTokens name v ms
    rw [Value.tokens, List.cons_append, List.append_assoc, List.singleton_append]
    rw [htokens, List.cons_append] at hmembers ⊢
    rw [draftOf_openObject, hmembers, Value.draft]

/-- The tokens of items are put together to their drafts, up to the bracket that closes the array. -/
theorem itemsOf_tokens : (items : List Value) → items ≠ [] → (fuel : Nat) →
    2 * ([.comma].intercalate (itemTokens items)).length + 1 ≤ fuel → (rest : List Token) →
    itemsOf fuel ([.comma].intercalate (itemTokens items) ++ .closeArray :: rest) =
      (draftItems items, .closed, rest)
  | [], hne, _, _, _ => absurd rfl hne
  | _, _, 0, hfuel, _ => by omega
  | [v], _, fuel + 1, hfuel, rest => by
    simp only [itemTokens, List.intercalate_singleton] at hfuel ⊢
    rw [itemsOf, draftOf_tokens v fuel (by omega)]
    rfl
  | v :: w :: ws, _, fuel + 1, hfuel, rest => by
    rw [itemTokens, itemTokens, List.intercalate_cons_cons, ← itemTokens] at hfuel ⊢
    simp only [List.length_append, List.length_singleton] at hfuel
    have hitems := itemsOf_tokens (w :: ws) (List.cons_ne_nil _ _) fuel (by omega) rest
    obtain ⟨t, ts, htokens, hopens⟩ := exists_intercalate_itemTokens w ws
    rw [htokens, List.cons_append] at hitems
    -- the comma and the next item stand behind this item
    have hitem := draftOf_tokens v fuel (by omega) (.comma :: t :: (ts ++ .closeArray :: rest))
    rw [List.append_assoc, List.append_assoc, htokens, List.singleton_append, List.cons_append,
      itemsOf_comma hitem hopens, hitems]
    rfl

/-- The tokens of members are put together to their drafts, up to the bracket that closes the object. -/
theorem membersOf_tokens : (members : List (String × Value)) → members ≠ [] → (fuel : Nat) →
    2 * ([.comma].intercalate (memberTokens members)).length + 1 ≤ fuel → (afterComma : Bool) →
    (rest : List Token) →
    membersOf fuel afterComma ([.comma].intercalate (memberTokens members) ++ .closeObject :: rest) =
      (draftMembers members, .closed, rest)
  | [], hne, _, _, _, _ => absurd rfl hne
  | _, _, 0, hfuel, _, _ => by omega
  | [(name, v)], _, fuel + 1, hfuel, afterComma, rest => by
    simp only [memberTokens, List.intercalate_singleton, List.length_cons] at hfuel ⊢
    rw [List.cons_append, List.cons_append, membersOf, draftOf_tokens v fuel (by omega)]
    rfl
  | (name, v) :: (next, w) :: ms, _, fuel + 1, hfuel, afterComma, rest => by
    rw [memberTokens, memberTokens, List.intercalate_cons_cons, ← memberTokens] at hfuel ⊢
    simp only [List.length_append, List.length_cons, List.length_nil] at hfuel
    -- the first member takes its own fuel, and what is left is enough for the others
    have hmembers := membersOf_tokens ((next, w) :: ms) (List.cons_ne_nil _ _) fuel (by omega) true rest
    obtain ⟨ts, htokens⟩ := exists_intercalate_memberTokens next w ms
    rw [htokens, List.cons_append] at hmembers
    have hvalue := draftOf_tokens v fuel (by omega) (.comma :: .text (.ok next) :: (ts ++ .closeObject :: rest))
    rw [List.append_assoc, List.append_assoc, htokens, List.cons_append, List.cons_append,
      List.singleton_append, List.cons_append, membersOf_comma hvalue, hmembers]
    rfl

end

/-- **The text of an exact value has the draft of the value**, and nothing follows it. -/
theorem ofText_write {v : Value} (h : v.Exact) : Draft.ofText (write v) = (v.draft, false) := by
  have htokens := (scans_write v h).tokens_eq
  have hdraft := draftOf_tokens v (2 * v.tokens.length + 2) (by omega) []
  rw [List.append_nil] at hdraft
  rw [Draft.ofText, htokens]
  simp only [hdraft, List.isEmpty_nil, Bool.not_true]

end ChatDispatch.Json
