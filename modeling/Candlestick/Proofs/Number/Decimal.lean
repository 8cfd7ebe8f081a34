import Mathlib.Algebra.Group.Nat.Defs
import Mathlib.Data.List.TakeWhile
import Candlestick.Number.Reading
import Candlestick.Proofs.Text.Leg

set_option autoImplicit false

/-! # Whole numbers are read back from their decimal texts

The decimal text of an integer is an optional minus sign and its digits. The reader of numbers accepts
far more, blanks and underscores and exponents and digits of any script; it finds none of that there,
and `Double.ofText?_toString` says that it reads the number nearest to the integer. -/

namespace Candlestick

namespace NumberText

/-! ## Plain characters -/

/-- An ASCII character that is no blank and no underscore. -/
def IsPlain (c : Char) : Prop := c.toNat < 0x80 ∧ Text.isAsciiSpace c = false ∧ c ≠ '_'

theorem isPlain_minus : IsPlain '-' := by
  unfold IsPlain
  decide

theorem isPlain_point : IsPlain '.' := by
  unfold IsPlain
  decide

theorem isPlain_of_isDigit {c : Char} (h : c.isDigit = true) : IsPlain c := by
  have hascii : c.toNat < 0x80 := Nat.lt_of_le_of_lt (Char.isDigit_iff_toNat.1 h).2 (by decide)
  exact ⟨hascii, Text.of_ascii (P := fun c => c.isDigit = true →
    Text.isAsciiSpace c = false ∧ c ≠ '_') (by decide) hascii h⟩

section Plain

variable {cs : List Char}

theorem toAscii_of_plain (h : ∀ c ∈ cs, IsPlain c) : toAscii cs = cs := by
  induction cs with
  | nil => rfl
  | cons c rest ih =>
    have hrest := ih fun d hd => h d (List.mem_cons_of_mem _ hd)
    rw [toAscii] at hrest ⊢
    rw [List.map_cons, if_pos (h c List.mem_cons_self).1, hrest]

theorem trimmed_of_plain (h : ∀ c ∈ cs, IsPlain c) : Text.Trimmed Text.isAsciiSpace cs where
  head c hc := (h c (List.mem_of_mem_head? hc)).2.1
  last c hc := (h c (List.mem_of_getLast? hc)).2.1

theorem dropUnderscores?_of_plain (h : ∀ c ∈ cs, IsPlain c) (afterDigit : Bool) :
    dropUnderscores? afterDigit cs = some cs := by
  induction cs generalizing afterDigit with
  | nil => rfl
  | cons c rest ih =>
    have hc : c ≠ '_' := (h c List.mem_cons_self).2.2
    have hrest := ih (fun d hd => h d (List.mem_cons_of_mem _ hd)) c.isDigit
    rw [dropUnderscores?, hrest, Option.map_some]
    · exact fun _ _ hunder _ => hc hunder
    · exact fun hunder _ => hc hunder

end Plain

/-! ## Runs of digits -/

section Digits

variable {cs : List Char} (hdigits : ∀ c ∈ cs, c.isDigit = true)
include hdigits

theorem spanDigits_of_digits : spanDigits cs = (cs, []) := by
  have htake : cs.takeWhile Char.isDigit = cs := List.takeWhile_eq_self_iff.2 hdigits
  have hdrop : cs.dropWhile Char.isDigit = [] := List.dropWhile_eq_nil_iff.2 hdigits
  rw [spanDigits, htake, hdrop]

/-- Digits with nothing after them are a decimal. -/
theorem decimal?_of_digits (hne : cs ≠ []) (negative : Bool) :
    decimal? negative cs = some (Double.ofDecimal negative (digitsValue 0 cs) 0) := by
  have hfilled : cs.isEmpty = false := by simpa using hne
  simp only [decimal?, spanDigits_of_digits hdigits, hfilled, Bool.false_and]
  rfl

/-- Digits are cut off up to the first other character. -/
theorem spanDigits_append {c : Char} (hc : c.isDigit = false) (rest : List Char) :
    spanDigits (cs ++ c :: rest) = (cs, c :: rest) := by
  have htake : (cs ++ c :: rest).takeWhile Char.isDigit = cs := by
    rw [List.takeWhile_append_of_pos hdigits, List.takeWhile_cons_of_neg (by simp [hc]), List.append_nil]
  have hdrop : (cs ++ c :: rest).dropWhile Char.isDigit = c :: rest := by
    rw [List.dropWhile_append_of_pos hdigits, List.dropWhile_cons_of_neg (by simp [hc])]
  rw [spanDigits, htake, hdrop]

/-- Digits that a dash follows are none. -/
theorem decimal?_of_dash (negative : Bool) (rest : List Char) : decimal? negative (cs ++ '-' :: rest) = none := by
  have hexponent : exponent? ('-' :: rest) = none := rfl
  simp only [decimal?, spanDigits_append hdigits (by decide : '-'.isDigit = false)]
  split
  · rename_i hdot
    exact absurd (List.cons.inj hdot).1 (by decide)
  · simp [hexponent]

/-- Digits with more digits after a point are one; each digit after the point is a power of ten less. -/
theorem decimal?_of_point (hne : cs ≠ []) {fraction : List Char}
    (hfraction : ∀ c ∈ fraction, c.isDigit = true) (negative : Bool) :
    decimal? negative (cs ++ '.' :: fraction) = some (Double.ofDecimal negative
      (digitsValue (digitsValue 0 cs) fraction) (-(fraction.length : Int))) := by
  have hfilled : cs.isEmpty = false := by simpa using hne
  simp only [decimal?, spanDigits_append hdigits (by decide : '.'.isDigit = false),
    spanDigits_of_digits hfraction, hfilled, Bool.false_and, Bool.false_eq_true, if_false]
  rw [exponent?, Option.map_some, Int.zero_sub]

end Digits

/-! ## Texts that begin with a digit -/

section Head

variable {cs : List Char} (hhead : ∃ c ∈ cs.head?, c.isDigit = true)
include hhead

/-- A text that begins with a digit is no name of a number, -/
theorem unsigned?_of_head (negative : Bool) : unsigned? negative cs = decimal? negative cs := by
  obtain ⟨c, hc, hdigit⟩ := hhead
  obtain ⟨rest, rfl⟩ := List.head?_eq_some_iff.1 hc
  have hascii := (isPlain_of_isDigit hdigit).1
  have hlower : c.toLower ≠ 'i' ∧ c.toLower ≠ 'n' :=
    Text.of_ascii (P := fun c => c.isDigit = true → c.toLower ≠ 'i' ∧ c.toLower ≠ 'n')
      (by decide) hascii hdigit
  have hname : ∀ (first : Char) (others : List Char), c.toLower ≠ first →
      String.ofList ((c :: rest).map Char.toLower) ≠ String.ofList (first :: others) := by
    intro first others hne heq
    rw [String.ofList_inj, List.map_cons, List.cons.injEq] at heq
    exact hne heq.1
  have hinf : String.ofList ((c :: rest).map Char.toLower) ≠ "inf" := hname 'i' ['n', 'f'] hlower.1
  have hinfinity : String.ofList ((c :: rest).map Char.toLower) ≠ "infinity" :=
    hname 'i' ['n', 'f', 'i', 'n', 'i', 't', 'y'] hlower.1
  have hnan : String.ofList ((c :: rest).map Char.toLower) ≠ "nan" := hname 'n' ['a', 'n'] hlower.2
  simp only [unsigned?, hinf, hinfinity, hnan, decide_false, Bool.or_false, Bool.false_eq_true,
    if_false]

/-- and it has no sign. -/
theorem spanSign_of_head : spanSign cs = (false, cs) := by
  obtain ⟨c, hc, hdigit⟩ := hhead
  obtain ⟨rest, rfl⟩ := List.head?_eq_some_iff.1 hc
  rw [spanSign]
  · rintro rest' heq
    cases heq
    exact absurd hdigit (by decide)
  · rintro rest' heq
    cases heq
    exact absurd hdigit (by decide)

end Head

/-! ## Decimal texts -/

theorem isDigit_of_mem_toDigits {n : Nat} : ∀ c ∈ Nat.toDigits 10 n, c.isDigit = true :=
  fun _ hc => Nat.isDigit_of_mem_toDigits (by decide) (by decide) hc

theorem digitsValue_toDigits (n : Nat) : digitsValue 0 (Nat.toDigits 10 n) = n :=
  Nat.ofDigitChars_ten_toDigits

end NumberText

namespace Double

open NumberText

/-- A number of at most two hundred digits without an exponent is rounded as it stands. -/
theorem ofDecimal_zero {n : Nat} (hn : n < 10 ^ 200) (negative : Bool) :
    ofDecimal negative n 0 = ofRatio negative n 1 := by
  by_cases hzero : n = 0
  · rw [ofDecimal, if_pos hzero, hzero]
  · have hlength : (toString n).length ≤ 200 := by
      rw [Nat.toString_eq_ofList_toDigits, String.length_ofList]
      exact (Nat.length_toDigits_le_iff (by decide) (by decide)).2 hn
    simp only [ofDecimal, if_neg hzero]
    rw [if_neg (by omega), if_neg (by omega), if_pos (Int.le_refl 0)]
    simp

/-- A plain text is read as it stands: nothing is trimmed off or dropped from it. -/
theorem ofText?_of_plain {s : String} (h : ∀ c ∈ s.toList, IsPlain c) :
    ofText? s = unsigned? (spanSign s.toList).1 (spanSign s.toList).2 := by
  rw [ofText?, toAscii_of_plain h, Text.trimBy_of_trimmed (trimmed_of_plain h),
    dropUnderscores?_of_plain h]
  rfl

/-- The text of an integer: its digits, after a minus sign if it is negative. -/
theorem toList_toString (n : Int) : (toString n).toList =
    if n < 0 then '-' :: Nat.toDigits 10 n.natAbs else Nat.toDigits 10 n.natAbs := by
  cases n with
  | ofNat m =>
    have htext : toString (Int.ofNat m) = toString m := rfl
    rw [htext, if_neg (by simp), Nat.toString_eq_ofList_toDigits, String.toList_ofList]
    rfl
  | negSucc m =>
    have htext : toString (Int.negSucc m) = "-" ++ toString (m + 1) := rfl
    rw [htext, if_pos (Int.negSucc_lt_zero m), Nat.toString_eq_ofList_toDigits,
      String.toList_append, String.toList_ofList, String.toList_ofList]
    rfl

/-- A text that begins with the digits of an integer is read as a decimal with the integer's sign. -/
theorem ofText?_toString_append (n : Int) {tail : String} (htail : ∀ c ∈ tail.toList, IsPlain c) :
    ofText? (toString n ++ tail) = decimal? (n < 0) (Nat.toDigits 10 n.natAbs ++ tail.toList) := by
  have hdigits : ∀ c ∈ Nat.toDigits 10 n.natAbs, c.isDigit = true := isDigit_of_mem_toDigits
  have hne : Nat.toDigits 10 n.natAbs ≠ [] := Nat.toDigits_ne_nil
  have hhead : ∃ c ∈ (Nat.toDigits 10 n.natAbs ++ tail.toList).head?, c.isDigit = true := by
    rw [List.head?_append, List.head?_eq_some_head hne, Option.some_or]
    exact ⟨_, rfl, hdigits _ (List.head_mem hne)⟩
  have hplain : ∀ c ∈ Nat.toDigits 10 n.natAbs ++ tail.toList, IsPlain c := by
    intro c hc
    rcases List.mem_append.1 hc with hc | hc
    · exact isPlain_of_isDigit (hdigits c hc)
    · exact htail c hc
  have htext : (toString n ++ tail).toList = if n < 0 then
      '-' :: (Nat.toDigits 10 n.natAbs ++ tail.toList) else Nat.toDigits 10 n.natAbs ++ tail.toList := by
    rw [String.toList_append, toList_toString]
    split <;> rfl
  by_cases hneg : n < 0
  · rw [if_pos hneg] at htext
    have hall : ∀ c ∈ (toString n ++ tail).toList, IsPlain c := by
      rw [htext]
      exact List.forall_mem_cons.2 ⟨isPlain_minus, hplain⟩
    rw [ofText?_of_plain hall, htext, spanSign, unsigned?_of_head hhead, decide_eq_true hneg]
  · rw [if_neg hneg] at htext
    have hall : ∀ c ∈ (toString n ++ tail).toList, IsPlain c := by
      rw [htext]
      exact hplain
    rw [ofText?_of_plain hall, htext, spanSign_of_head hhead, unsigned?_of_head hhead,
      decide_eq_false hneg]

/-- The decimal text of an integer denotes the number nearest to it. -/
theorem ofText?_toString {n : Int} (hn : n.natAbs < 10 ^ 200) :
    ofText? (toString n) = some (ofInt n) := by
  have hread := ofText?_toString_append n (by simp : ∀ c ∈ "".toList, IsPlain c)
  rw [String.append_empty, String.toList_empty, List.append_nil,
    decimal?_of_digits isDigit_of_mem_toDigits Nat.toDigits_ne_nil, digitsValue_toDigits,
    ofDecimal_zero hn] at hread
  exact hread

end Double

end Candlestick
