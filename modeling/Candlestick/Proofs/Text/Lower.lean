import Mathlib.Data.List.Basic
import Candlestick.Proofs.Text.Upper

set_option autoImplicit false

/-! # Lower case of ASCII

In ASCII a text in upper case can be had back from its lower case, character by character, and blanks stay
blanks. Outside ASCII neither is so: a final sigma and a dotted capital i take other ways. -/

namespace Candlestick.Text

/-- All characters are of ASCII. -/
def IsAscii (s : String) : Prop := ∀ c ∈ s.toList, c.toNat < 128

instance (s : String) : Decidable (IsAscii s) := s.toList.decidableBAll _

theorem isAscii_append {s t : String} (hs : IsAscii s) (ht : IsAscii t) : IsAscii (s ++ t) := by
  intro c hc
  rw [String.toList_append, List.mem_append] at hc
  exact hc.elim (hs c) (ht c)

/-! ## Characters -/

theorem toNat_toUpper_lt {c : Char} (hc : c.toNat < 128) : c.toUpper.toNat < 128 :=
  of_ascii (P := fun c => c.toUpper.toNat < 128) (by decide) hc

theorem isBlank_toLower {c : Char} (hc : c.toNat < 128) : isBlank c.toLower = isBlank c :=
  of_ascii (P := fun c => isBlank c.toLower = isBlank c) (by decide) hc

/-- What is its own upper case comes back from lower case. -/
theorem upperChar_toLower {c : Char} (hc : c.toNat < 128) (hupper : upperChar c = [c]) :
    upperChar c.toLower = [c] :=
  of_ascii (P := fun c => upperChar c = [c] → upperChar c.toLower = [c]) (by decide) hc hupper

/-- Nothing but capital letters and digits. -/
def IsAlphanumeric (s : String) : Prop := ∀ c ∈ s.toList, c.isUpper = true ∨ c.isDigit = true

instance (s : String) : Decidable (IsAlphanumeric s) := s.toList.decidableBAll _

theorem IsAlphanumeric.isAscii {s : String} (h : IsAlphanumeric s) : IsAscii s := by
  intro c hc
  rcases h c hc with hupper | hdigit
  · have hle : c.val ≤ 'Z'.val := (of_decide_eq_true hupper).2
    exact Nat.lt_of_le_of_lt (UInt32.le_iff_toNat_le.1 hle) (by decide)
  · exact Nat.lt_of_le_of_lt (Char.isDigit_iff_toNat.1 hdigit).2 (by decide)

theorem IsAlphanumeric.isSettled {s : String} (h : IsAlphanumeric s) : ∀ c ∈ s.toList, IsSettled c :=
  fun c hc => of_ascii (P := fun c => c.isUpper = true ∨ c.isDigit = true → IsSettled c) (by decide)
    (h.isAscii c hc) (h c hc)

/-! ## Texts -/

/-- No character of ASCII is a sigma, so each has its lower case whatever its neighbours are. -/
theorem lowerAfter_of_ascii {cs : List Char} (h : ∀ c ∈ cs, c.toNat < 128) (before : List Char) :
    lowerAfter before cs = cs.map Char.toLower := by
  induction cs generalizing before with
  | nil => rfl
  | cons c cs ih =>
    obtain ⟨hc, hcs⟩ := List.forall_mem_cons.1 h
    have hsigma : ¬ c.toNat = 0x3A3 := by omega
    rw [lowerAfter, ih hcs, if_neg hsigma, lowerChar, if_pos hc]
    rfl

theorem toList_lower {s : String} (h : IsAscii s) : (lower s).toList = s.toList.map Char.toLower := by
  rw [lower, String.toList_ofList, lowerAfter_of_ascii h]

/-- A text in upper case comes back from lower case. -/
theorem flatMap_upperChar_toLower {cs : List Char} (hascii : ∀ c ∈ cs, c.toNat < 128)
    (hupper : ∀ c ∈ cs, upperChar c = [c]) : (cs.map Char.toLower).flatMap upperChar = cs := by
  rw [List.flatMap_map]
  calc cs.flatMap (fun c => upperChar c.toLower) = cs.flatMap (fun c => [c]) :=
        List.flatMap_congr fun c hc => upperChar_toLower (hascii c hc) (hupper c hc)
    _ = cs := List.flatMap_singleton' cs

end Candlestick.Text
