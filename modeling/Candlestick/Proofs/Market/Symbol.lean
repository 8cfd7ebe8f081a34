import Candlestick.Proofs.Text.Leg
import Candlestick.Proofs.Text.Lower

set_option autoImplicit false

/-! # A symbol stands for itself

Whatever asset a symbol is built of, the symbol is compound: it holds the quote, or it is the asset that
already was compound. So the symbol, given as the asset, comes back as it is (`leg_join`).

A pair may also be written out by hand, the asset's leg before a separator and the quote. Only the ends of
that text are trimmed, so blanks in front of the quote stay in the middle of it (`leg_written`), and it has
the pair's symbol exactly if there are none and the asset is no whole symbol of its own
(`join_written_iff`). -/

namespace Candlestick.Symbol

open Text

variable {asset base quote separator suffix s t : String} {lowercase : Bool}

/-! ## Legs -/

theorem isLeg_append (hs : IsLeg s) (ht : IsLeg t) : IsLeg (s ++ t) where
  trimmed := by
    rw [String.toList_append]
    exact trimmed_append hs.trimmed ht.trimmed
  upper := by
    intro c hc
    rw [String.toList_append, List.mem_append] at hc
    exact hc.elim (hs.upper c) (ht.upper c)

theorem isLeg_of_settled (h : ∀ c ∈ s.toList, IsSettled c) : IsLeg s where
  trimmed :=
    ⟨fun c hc => (h c (List.mem_of_mem_head? hc)).2, fun c hc => (h c (List.mem_of_mem_getLast? hc)).2⟩
  upper := fun c hc => (h c hc).1

theorem isAscii_leg (h : IsAscii s) : IsAscii (leg s) := by
  intro d hd
  rw [toList_leg] at hd
  obtain ⟨c, hc, hd⟩ := List.mem_flatMap.1 hd
  have hascii := h c (mem_of_mem_trimBy hc)
  rw [upperChar, if_pos hascii, List.mem_singleton] at hd
  rw [hd]
  exact toNat_toUpper_lt hascii

/-- To lower the case of a leg loses nothing. -/
theorem leg_lower (h : IsLeg s) (hascii : IsAscii s) : leg (lower s) = s := by
  have htrimmed : Trimmed isBlank (s.toList.map Char.toLower) :=
    trimmed_map (fun c hc => isBlank_toLower (hascii c hc)) h.trimmed
  refine String.toList_injective ?_
  rw [toList_leg, toList_lower hascii, trimBy_of_trimmed htrimmed,
    flatMap_upperChar_toLower hascii h.upper]

/-- A text behind a leg keeps the blanks that it begins with, and the rest of it becomes its leg. -/
theorem leg_append (hs : IsLeg s) (hne : s ≠ "") (ht : IsAscii t) (hleg : leg t ≠ "") :
    leg (s ++ t) = s ++ lead t ++ leg t := by
  have hchars : s.toList ≠ [] := fun h => hne (String.toList_eq_nil_iff.1 h)
  have hstripped : trimBy isBlank t.toList ≠ [] := by
    intro hnil
    exact hleg (String.toList_eq_nil_iff.1 (by rw [toList_leg, hnil, List.flatMap_nil]))
  have hlead : ∀ c ∈ t.toList.takeWhile isBlank, upperChar c = [c] := fun c hc =>
    upperChar_of_isBlank (ht c ((List.takeWhile_sublist isBlank).mem hc)) (List.mem_takeWhile_imp hc)
  refine String.toList_injective ?_
  rw [toList_leg, String.toList_append, trimBy_append_of_trimmed hs.trimmed hchars hstripped,
    List.flatMap_append, List.flatMap_append, flatMap_upperChar hs.upper, flatMap_upperChar hlead,
    String.toList_append, String.toList_append, lead, String.toList_ofList, toList_leg]

/-- Legs of ASCII stay apart in lower case. -/
theorem lower_inj (hs : IsLeg s) (hs' : IsAscii s) (ht : IsLeg t) (ht' : IsAscii t) :
    lower s = lower t ↔ s = t := by
  refine ⟨fun h => ?_, congrArg lower⟩
  rw [← leg_lower hs hs', h, leg_lower ht ht']

/-! ## Compound assets -/

theorem occursIn_iff {pattern cs : List Char} : occursIn pattern cs = true ↔ pattern <:+: cs := by
  induction cs with
  | nil => rw [occursIn, List.isEmpty_iff, List.infix_nil]
  | cons c rest ih =>
    rw [occursIn, Bool.or_eq_true, List.isPrefixOf_iff_prefix, ih, List.infix_cons_iff]

theorem isCompound_iff : isCompound base quote = true ↔
    '-' ∈ base.toList ∨ '_' ∈ base.toList ∨ quote ≠ "" ∧ quote.toList <:+: base.toList := by
  simp only [isCompound, Bool.or_eq_true, Bool.and_eq_true, List.contains_iff_mem, decide_eq_true_eq,
    occursIn_iff, or_assoc]

/-- A base asset that is only one leg of a symbol: it holds neither a separator nor the quote asset. -/
structure IsSimple (base quote : String) : Prop where
  hyphen : '-' ∉ base.toList
  underscore : '_' ∉ base.toList
  quote : ¬ quote.toList <:+: base.toList

theorem isCompound_eq_false_iff (hquote : quote ≠ "") :
    isCompound base quote = false ↔ IsSimple base quote := by
  rw [Bool.eq_false_iff, Ne, isCompound_iff]
  constructor
  · intro h
    exact ⟨fun hc => h (Or.inl hc), fun hc => h (Or.inr (Or.inl hc)),
      fun hc => h (Or.inr (Or.inr ⟨hquote, hc⟩))⟩
  · rintro hsimple (h | h | ⟨-, h⟩)
    · exact hsimple.hyphen h
    · exact hsimple.underscore h
    · exact hsimple.quote h

/-! ## Whole symbols -/

/-- The symbol of an asset pair before its case is chosen. -/
def whole (asset quote separator suffix : String) : String :=
  if isCompound (leg asset) (leg quote) then leg asset else leg asset ++ separator ++ leg quote ++ suffix

theorem join_eq_whole : join asset quote separator suffix lowercase =
    if lowercase then lower (whole asset quote separator suffix) else whole asset quote separator suffix :=
  rfl

/-- A compound asset is all of its symbol. -/
theorem join_of_isCompound (h : isCompound (leg asset) (leg quote) = true) :
    join asset quote separator suffix lowercase = if lowercase then lower (leg asset) else leg asset := by
  rw [join_eq_whole, whole, if_pos h]

theorem isCompound_append (hquote : strip quote ≠ "") (s t : String) :
    isCompound (s ++ leg quote ++ t) (leg quote) = true := by
  refine isCompound_iff.2 (Or.inr (Or.inr ⟨leg_ne_empty hquote, ?_⟩))
  rw [String.toList_append, String.toList_append]
  exact List.infix_append _ _ _

theorem isCompound_whole (hquote : strip quote ≠ "") :
    isCompound (whole asset quote separator suffix) (leg quote) = true := by
  unfold whole
  split
  · assumption
  · exact isCompound_append hquote _ _

/-- What is closed under appends and holds of all parts of a symbol holds of the symbol. -/
theorem whole_of_parts {P : String → Prop} (happend : ∀ {s t}, P s → P t → P (s ++ t))
    (hasset : P (leg asset)) (hseparator : P separator) (hquote : P (leg quote)) (hsuffix : P suffix) :
    P (whole asset quote separator suffix) := by
  unfold whole
  split
  · exact hasset
  · exact happend (happend (happend hasset hseparator) hquote) hsuffix

theorem isLeg_whole (hseparator : IsLeg separator) (hsuffix : IsLeg suffix) :
    IsLeg (whole asset quote separator suffix) :=
  whole_of_parts isLeg_append (isLeg_leg asset) hseparator (isLeg_leg quote) hsuffix

theorem isAscii_whole (hasset : IsAscii asset) (hquote : IsAscii quote) (hseparator : IsAscii separator)
    (hsuffix : IsAscii suffix) : IsAscii (whole asset quote separator suffix) :=
  whole_of_parts isAscii_append (isAscii_leg hasset) hseparator (isAscii_leg hquote) hsuffix

/-- In either case, the leg of a symbol is the whole symbol. -/
theorem leg_join (hasset : IsAscii asset) (hquote : IsAscii quote) (hseparator : IsAscii separator)
    (hsuffix : IsAscii suffix) (hseparator' : IsLeg separator) (hsuffix' : IsLeg suffix) :
    leg (join asset quote separator suffix lowercase) = whole asset quote separator suffix := by
  have hwhole : IsLeg (whole asset quote separator suffix) := isLeg_whole hseparator' hsuffix'
  rw [join_eq_whole]
  cases lowercase with
  | false => rw [if_neg Bool.false_ne_true, leg_of_isLeg hwhole]
  | true => rw [if_pos rfl, leg_lower hwhole (isAscii_whole hasset hquote hseparator hsuffix)]

/-- A text whose leg is a whole symbol has that symbol. -/
theorem join_of_leg_eq_whole (hquote : strip quote ≠ "") (h : leg s = whole asset quote separator suffix) :
    join s quote separator suffix lowercase = join asset quote separator suffix lowercase := by
  have hcompound : isCompound (leg s) (leg quote) = true := by
    rw [h]
    exact isCompound_whole hquote
  rw [join_of_isCompound hcompound, h, join_eq_whole]

/-! ## Settled texts and separators -/

theorem isSettled_of_all (h : s.toList.all (fun c => IsSettled c) = true) : ∀ c ∈ s.toList, IsSettled c :=
  fun c hc => of_decide_eq_true (List.all_eq_true.1 h c hc)

theorem isSettled_of_separator (h : separator ∈ ["", "-", "_"]) : ∀ c ∈ separator.toList, IsSettled c := by
  refine isSettled_of_all ?_
  revert separator
  decide +kernel

theorem isAscii_of_separator (h : separator ∈ ["", "-", "_"]) : IsAscii separator := by
  revert separator
  decide +kernel

/-! ## Pairs that are written out -/

section Written

variable {written : String} (hne : separator ≠ "") (hblank : strip quote ≠ "")
include hne hblank

/-- The leg of a pair that is written out: the blanks in front of the quote are in the middle of it. -/
theorem leg_written (hseparator : IsLeg separator) (hascii : IsAscii written)
    (hwritten : leg written = leg quote) :
    leg (leg asset ++ separator ++ written) = leg asset ++ separator ++ lead written ++ leg quote := by
  have hbase : leg asset ++ separator ≠ "" := fun h => hne (String.append_eq_empty_iff.1 h).2
  have hfilled : leg written ≠ "" := by
    rw [hwritten]
    exact leg_ne_empty hblank
  rw [leg_append (isLeg_append (isLeg_leg asset) hseparator) hbase hascii hfilled, hwritten]

/-- This is the symbol of the pair, exactly if the asset is only one leg and there are no such blanks. -/
theorem written_eq_whole_iff :
    leg asset ++ separator ++ lead written ++ leg quote = whole asset quote separator "" ↔
      IsSimple (leg asset) (leg quote) ∧ lead written = "" := by
  rw [← isCompound_eq_false_iff (leg_ne_empty hblank), whole, String.append_empty]
  cases isCompound (leg asset) (leg quote) with
  | true =>
    -- The asset is all of its symbol, and the other text is longer.
    have hlength : separator.length ≠ 0 := fun h => hne (String.length_eq_zero_iff.1 h)
    rw [if_pos rfl]
    refine iff_of_false (fun heq => ?_) (fun h => Bool.noConfusion h.1)
    have hcount := congrArg String.length heq
    simp only [String.length_append] at hcount
    omega
  | false =>
    rw [if_neg Bool.false_ne_true, String.append_left_inj, String.append_eq_left_iff, and_iff_right rfl]

/-- Neither case hides a difference between the two. -/
theorem join_written_iff (hseparator : IsLeg separator) (hseparator' : IsAscii separator)
    (hasset : IsAscii asset) (hquote : IsAscii quote) (hascii : IsAscii written)
    (hwritten : leg written = leg quote) :
    join (leg asset ++ separator ++ written) quote separator "" lowercase =
        join asset quote separator "" lowercase ↔
      IsSimple (leg asset) (leg quote) ∧ lead written = "" := by
  have hleg : leg (leg asset ++ separator ++ written) =
      leg asset ++ separator ++ lead written ++ leg quote :=
    leg_written hne hblank hseparator hascii hwritten
  have hcompound := isCompound_append hblank (leg asset ++ separator ++ lead written) ""
  rw [String.append_empty, ← hleg] at hcompound
  rw [join_of_isCompound hcompound, join_eq_whole, ← written_eq_whole_iff hne hblank, ← hleg]
  cases lowercase with
  | false => rw [if_neg Bool.false_ne_true, if_neg Bool.false_ne_true]
  | true =>
    have hempty : IsLeg "" := isLeg_of_settled (isSettled_of_separator List.mem_cons_self)
    have hempty' : IsAscii "" := isAscii_of_separator List.mem_cons_self
    rw [if_pos rfl, if_pos rfl]
    exact lower_inj (isLeg_leg _)
      (isAscii_leg (isAscii_append (isAscii_append (isAscii_leg hasset) hseparator') hascii))
      (isLeg_whole hseparator hempty) (isAscii_whole hasset hquote hseparator' hempty')

end Written

/-! ## Symbols are settled -/

/-- A symbol, given as the asset, is its own symbol, with any separator there is, any suffix and in either
    case. Where separators are written, the asset's leg, the separator and the quote, as it is given or in any
    other way that has its leg, make a text with the asset's symbol exactly if the asset's leg is simple and
    the quote is written without blanks in front. -/
theorem join_settled (hasset : IsAscii asset) (hquote : IsAscii quote) (hblank : strip quote ≠ "") :
    (∀ separator ∈ ["", "-", "_"], ∀ suffix, IsAlphanumeric suffix → ∀ lowercase,
      join (join asset quote separator suffix lowercase) quote separator suffix lowercase =
        join asset quote separator suffix lowercase) ∧
    (∀ separator ∈ ["-", "_"], ∀ written, IsAscii written → leg written = leg quote → ∀ lowercase,
      (join (leg asset ++ separator ++ written) quote separator "" lowercase =
          join asset quote separator "" lowercase ↔
        IsSimple (leg asset) (leg quote) ∧ lead written = "")) := by
  constructor
  · intro separator hseparator suffix hsuffix lowercase
    exact join_of_leg_eq_whole hblank (leg_join hasset hquote (isAscii_of_separator hseparator)
      hsuffix.isAscii (isLeg_of_settled (isSettled_of_separator hseparator))
      (isLeg_of_settled hsuffix.isSettled))
  · intro separator hseparator written hascii hwritten lowercase
    have hany : separator ∈ ["", "-", "_"] := List.mem_cons_of_mem "" hseparator
    have hne : separator ≠ "" := by
      rintro rfl
      exact absurd hseparator (by decide)
    exact join_written_iff hne hblank (isLeg_of_settled (isSettled_of_separator hany))
      (isAscii_of_separator hany) hasset hquote hascii hwritten

/-- Both halves for one pair: the symbol of a future in lower case, and the pair written out with its quote as
    it is given. -/
theorem join_settled_future : IsAscii " btc " ∧ IsAscii "usdt" ∧ strip "usdt" ≠ "" ∧
    join (join " btc " "usdt" "-" "M" true) "usdt" "-" "M" true = join " btc " "usdt" "-" "M" true ∧
      join " btc " "usdt" "-" "M" true = "btc-usdtm" ∧
      join "BTC_usdt" "usdt" "_" = join " btc " "usdt" "_" ∧ join " btc " "usdt" "_" = "BTC_USDT" := by
  have hasset : IsAscii " btc " := by decide +kernel
  have hquote : IsAscii "usdt" := by decide +kernel
  have hblank : strip "usdt" ≠ "" := by decide +kernel
  obtain ⟨hagain, hcompound⟩ := join_settled hasset hquote hblank
  have hleg : leg " btc " = "BTC" := by decide +kernel
  have hsimple : IsSimple (leg " btc ") (leg "usdt") :=
    ⟨by decide +kernel, by decide +kernel, by decide +kernel⟩
  refine ⟨hasset, hquote, hblank, hagain "-" (by decide +kernel) "M" (by decide +kernel) true,
    by decide +kernel, ?_, by decide +kernel⟩
  have hwritten := (hcompound "_" (by decide +kernel) "usdt" hquote rfl false).2 ⟨hsimple, by decide +kernel⟩
  rw [hleg] at hwritten
  exact hwritten

/-- It is the legs that count, not the quote as it is given: a blank in front of the quote stays in the middle
    of the pair that is written out, and an asset that holds the quote in another case is a whole symbol. -/
theorem written_out_apart :
    (IsAscii "BTC" ∧ IsAscii " USDT" ∧ strip " USDT" ≠ "" ∧ IsSimple (leg "BTC") " USDT" ∧
      join (leg "BTC" ++ "-" ++ " USDT") " USDT" "-" = "BTC- USDT" ∧ join "BTC" " USDT" "-" = "BTC-USDT") ∧
    IsAscii "BTCUSDT" ∧ IsAscii "usdt" ∧ strip "usdt" ≠ "" ∧ IsSimple (leg "BTCUSDT") "usdt" ∧
      join (leg "BTCUSDT" ++ "-" ++ "usdt") "usdt" "-" = "BTCUSDT-USDT" ∧
      join "BTCUSDT" "usdt" "-" = "BTCUSDT" := by
  have hspaced : IsSimple (leg "BTC") " USDT" := ⟨by decide +kernel, by decide +kernel, by decide +kernel⟩
  have hlower : IsSimple (leg "BTCUSDT") "usdt" := ⟨by decide +kernel, by decide +kernel, by decide +kernel⟩
  refine ⟨⟨?_, ?_, ?_, hspaced, ?_, ?_⟩, ?_, ?_, ?_, hlower, ?_, ?_⟩
  all_goals decide +kernel

end Candlestick.Symbol
