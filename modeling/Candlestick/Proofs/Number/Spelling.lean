import Candlestick.Proofs.Number.Reading

set_option autoImplicit false

/-! # Times are exact in every spelling

A provider writes a time as a number or as a text, and some texts have white space around the digits or a
point and zeros after them. All of them go through a binary64 number on the way to milliseconds. Neither
the white space nor the zeros change the number (`Double.ofText?_white`, `Double.ofDecimal_zeros`), and a
whole number of 53 bits comes out as it went in, so `Reading.time_exact` says that times are exact and in
the order of the numbers that were written. -/

namespace Candlestick

namespace NumberText

/-! ## White space -/

/-- White space in the sense of Unicode's property of this name: every blank character but the information
    separators of ASCII. -/
def IsWhite (c : Char) : Prop := Text.isAsciiSpace c = true ∨ c.toNat ∈ Text.wideBlanks

theorem wideBlanks_ge : ∀ n ∈ Text.wideBlanks, 0x85 ≤ n := by decide

/-- To the reader of numbers white space is a space of ASCII. -/
theorem isAsciiSpace_toAscii {cs : List Char} (h : ∀ c ∈ cs, IsWhite c) :
    ∀ c ∈ toAscii cs, Text.isAsciiSpace c = true := by
  intro c hc
  obtain ⟨d, hd, rfl⟩ := List.mem_map.1 hc
  rcases h d hd with hascii | hwide
  · have hsmall : d.toNat < 0x80 := by
      simp only [Text.isAsciiSpace, Bool.or_eq_true, Bool.and_eq_true, decide_eq_true_eq] at hascii
      omega
    rwa [if_pos hsmall]
  · have hlarge := wideBlanks_ge _ hwide
    have hblank : Text.isBlank d = true := by
      simp [Text.isBlank, hlarge, hwide]
    rw [if_neg (by omega), if_pos hblank]
    rfl

/-! ## Zeros after a point -/

/-- What may stand after the digits of a whole number: nothing, or a point and zeros. -/
def IsWholeTail (tail : String) : Prop := tail = "" ∨ ∃ k, tail.toList = '.' :: List.replicate k '0'

theorem digitsValue_zeros (n k : Nat) : digitsValue n (List.replicate k '0') = n * 10 ^ k := by
  induction k generalizing n with
  | zero => exact (Nat.mul_one n).symm
  | succ k ih =>
    have hstep : digitsValue n (List.replicate (k + 1) '0') = digitsValue (10 * n) (List.replicate k '0') := rfl
    rw [hstep, ih, Nat.pow_succ]
    ring

end NumberText

namespace Double

open NumberText

/-- Zeros after the point are rounded away with their power of ten. -/
theorem ofDecimal_zeros {n : Nat} (hn : n < 10 ^ 200) (negative : Bool) (k : Nat) :
    ofDecimal negative (n * 10 ^ k) (-(k : Int)) = ofRatio negative n 1 := by
  rcases Nat.eq_zero_or_pos n with rfl | hpos
  · rw [Nat.zero_mul, ofDecimal, if_pos rfl]
  rcases Nat.eq_zero_or_pos k with rfl | hk
  · rw [Nat.pow_zero, Nat.mul_one]
    exact ofDecimal_zero hn negative
  have hten : 0 < 10 ^ k := Nat.pow_pos (by decide)
  have hdigits : 0 < n * 10 ^ k := Nat.mul_pos hpos hten
  -- The digits and the zeros are more than `k`, and at most two hundred more.
  have hlength : k < (toString (n * 10 ^ k)).length ∧ (toString (n * 10 ^ k)).length ≤ 200 + k := by
    rw [Nat.toString_eq_ofList_toDigits, String.length_ofList]
    refine ⟨?_, (Nat.length_toDigits_le_iff (by decide) (by omega)).2 ?_⟩
    · rw [← Nat.not_le, Nat.length_toDigits_le_iff (by decide) hk, Nat.not_lt]
      exact Nat.le_mul_of_pos_left _ hpos
    · rw [Nat.pow_add]
      exact Nat.mul_lt_mul_of_pos_right hn hten
  simp only [ofDecimal, if_neg (Nat.ne_of_gt hdigits)]
  rw [if_neg (by omega), if_neg (by omega), if_neg (by omega), Int.neg_neg, Int.toNat_natCast]
  have hbits := nearestBits_mul_right n Nat.one_pos hten
  rw [Nat.one_mul] at hbits
  simp only [ofRatio, Nat.pow_eq, hbits]

/-- White space on either side of a text does not change the number that it denotes. -/
theorem ofText?_white {before s after : String} (hbefore : ∀ c ∈ before.toList, IsWhite c)
    (hafter : ∀ c ∈ after.toList, IsWhite c) : ofText? (before ++ s ++ after) = ofText? s := by
  have hascii : toAscii (before ++ s ++ after).toList =
      toAscii before.toList ++ toAscii s.toList ++ toAscii after.toList := by
    simp only [toAscii, String.toList_append, List.map_append]
  rw [ofText?, ofText?, hascii, Text.trimBy_append (isAsciiSpace_toAscii hbefore)
    (isAsciiSpace_toAscii hafter)]

/-- The decimal text of an integer denotes the number nearest to it, with zeros after a point as well. -/
theorem ofText?_whole {n : Int} (hn : n.natAbs < 10 ^ 200) {tail : String} (htail : IsWholeTail tail) :
    ofText? (toString n ++ tail) = some (ofInt n) := by
  rcases htail with rfl | ⟨k, hk⟩
  · rw [String.append_empty, ofText?_toString hn]
  · have hzeros : ∀ c ∈ List.replicate k '0', c.isDigit = true := by
      intro c hc
      rw [List.eq_of_mem_replicate hc]
      decide
    have hplain : ∀ c ∈ tail.toList, IsPlain c := by
      rw [hk]
      exact List.forall_mem_cons.2 ⟨isPlain_point, fun c hc => isPlain_of_isDigit (hzeros c hc)⟩
    rw [ofText?_toString_append n hplain, hk, decimal?_of_point isDigit_of_mem_toDigits
      Nat.toDigits_ne_nil hzeros, digitsValue_toDigits, digitsValue_zeros, List.length_replicate,
      ofDecimal_zeros hn, ofInt]

end Double

namespace Reading

open NumberText

/-- A value denotes an integer: as a number, or as a text of its digits, which zeros after a point may
    follow, with or without white space on either side. -/
def Denotes (value : Json) (n : Int) : Prop :=
  value = .int n ∨ ∃ before tail after : String, (∀ c ∈ before.toList, IsWhite c) ∧ IsWholeTail tail ∧
    (∀ c ∈ after.toList, IsWhite c) ∧ value = .str (before ++ (toString n ++ tail) ++ after)

theorem number_of_denotes {value : Json} {n : Int} (h : Denotes value n) (hn : n.natAbs ≤ 2 ^ 53) :
    number value = .ok (Double.ofInt n) := by
  rcases h with rfl | ⟨before, tail, after, hbefore, htail, hafter, rfl⟩
  · exact number_int hn
  · rw [number, Double.ofText?_white hbefore hafter, Double.ofText?_whole (by omega) htail,
      Option.getD_some]

/-- Whatever way an integer of seconds or milliseconds is written, its time is exact up to 53 bits of
    milliseconds; so later integers have later times. -/
theorem time_exact {value : Json} {n scale : Int} (h : Denotes value n) (hscale : 0 < scale)
    (hscale' : scale ≤ 2 ^ 53) (hn : (n * scale).natAbs ≤ 2 ^ 53) :
    time value scale = .ok (some (n * scale)) ∧
      ∀ other m, Denotes other m → (m * scale).natAbs ≤ 2 ^ 53 →
        ∃ ms, time other scale = .ok (some ms) ∧ (n * scale < ms ↔ n < m) := by
  refine ⟨time_of_whole (number_of_denotes h) hscale hn hscale', ?_⟩
  intro other m hother hm
  exact ⟨m * scale, time_of_whole (number_of_denotes hother) hscale hm hscale',
    Int.mul_lt_mul_right hscale⟩

/-- The earliest and the latest whole second of 53 bits, the one between an ideographic space and a line
    feed with a zero after its point, the other as a number. -/
theorem time_exact_padded : Denotes (.str "\u3000-9007199254740.0\n") (-9007199254740) ∧
    time (.str "\u3000-9007199254740.0\n") 1000 = .ok (some (-9007199254740000)) ∧
    ∃ ms, time (.int 9007199254740) 1000 = .ok (some ms) ∧ -9007199254740000 < ms := by
  have hspace : ∀ c ∈ "\u3000".toList, IsWhite c := by simp [IsWhite, Text.wideBlanks]
  have hfeed : ∀ c ∈ "\n".toList, IsWhite c := by simp [IsWhite, Text.isAsciiSpace]
  have hdenotes : Denotes (.str "\u3000-9007199254740.0\n") (-9007199254740) :=
    Or.inr ⟨"\u3000", ".0", "\n", hspace, Or.inr ⟨1, rfl⟩, hfeed, congrArg Json.str (by decide +kernel)⟩
  obtain ⟨htime, hlater⟩ := time_exact hdenotes (by decide : (0 : Int) < 1000) (by decide) (by decide)
  obtain ⟨ms, hms, horder⟩ := hlater (.int 9007199254740) 9007199254740 (Or.inl rfl) (by decide)
  exact ⟨hdenotes, htime, ms, hms, horder.2 (by decide)⟩

/-- The bound is the greatest one: the integer after it has its time. -/
example : time (.int (2 ^ 53 + 1)) = time (.int (2 ^ 53)) := by rfl

end Reading

end Candlestick
