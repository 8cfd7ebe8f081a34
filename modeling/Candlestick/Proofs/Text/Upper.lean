import Candlestick.Text.Blank
import Candlestick.Text.Case

set_option autoImplicit false

/-! # Upper case is settled

What a character becomes in upper case stays as it is in upper case, and is not blank if the character
is not. The table of case pairs is checked run by run: the partners of a run are a run again, and a run
whose codes are not interleaved with it avoids it, by lying apart from it or by parity. -/

namespace Candlestick.Text

/-! ## Runs that avoid each other -/

namespace CaseRun

/-- The first partner of a run. -/
def image (run : CaseRun) : Nat := (run.first + run.offset).toNat

/-- All codes of a run are of one parity. -/
def hasParity (run : CaseRun) : Bool := run.step == 2 || run.first == run.last

/-- No partner of a run is a code of another. -/
def avoids (run other : CaseRun) : Bool :=
  -- Literals are compared at once by `Nat.blt`, and there are some hundred thousand pairs.
  Nat.blt (run.image + (run.last - run.first)) other.first || Nat.blt other.last run.image ||
    (run.hasParity && other.hasParity && run.image % 2 != other.first % 2)

/-- The partners of a run are code points. -/
def isSound (run : CaseRun) : Bool :=
  0 ≤ run.first + run.offset &&
    (run.image + (run.last - run.first) < 0xD800 ||
      (0xE000 ≤ run.image && run.image + (run.last - run.first) < 0x110000))

theorem partner?_eq_some {run : CaseRun} {n m : Nat} :
    run.partner? n = some m ↔
      (run.first ≤ n ∧ n ≤ run.last ∧ (n - run.first) % run.step = 0) ∧ (n + run.offset).toNat = m := by
  simp [partner?, and_assoc]

theorem eq_image {run : CaseRun} {n m : Nat} (hsound : run.isSound = true)
    (h : run.partner? n = some m) : m = run.image + (n - run.first) := by
  obtain ⟨⟨hge, -, -⟩, rfl⟩ := partner?_eq_some.1 h
  simp only [isSound, Bool.and_eq_true, decide_eq_true_eq] at hsound
  unfold image
  omega

theorem isValidChar {run : CaseRun} {n m : Nat} (hsound : run.isSound = true)
    (h : run.partner? n = some m) : m.isValidChar := by
  have heq := eq_image hsound h
  obtain ⟨⟨hge, hle, -⟩, -⟩ := partner?_eq_some.1 h
  simp only [isSound, Bool.and_eq_true, Bool.or_eq_true, decide_eq_true_eq] at hsound
  unfold Nat.isValidChar
  omega

theorem parity {run : CaseRun} {n m : Nat} (hparity : run.hasParity = true)
    (h : run.partner? n = some m) : (n - run.first) % 2 = 0 := by
  obtain ⟨⟨hge, hle, hstep⟩, -⟩ := partner?_eq_some.1 h
  simp only [hasParity, Bool.or_eq_true, beq_iff_eq] at hparity
  rcases hparity with htwo | hone
  · rwa [htwo] at hstep
  · omega

theorem partner?_of_avoids {run other : CaseRun} {n m : Nat} (hsound : run.isSound = true)
    (havoids : run.avoids other = true) (h : run.partner? n = some m) : other.partner? m = none := by
  refine Option.eq_none_iff_forall_not_mem.2 fun k hk => ?_
  have heq := eq_image hsound h
  obtain ⟨⟨hge, hle, -⟩, -⟩ := partner?_eq_some.1 h
  obtain ⟨⟨hge', hle', -⟩, -⟩ := partner?_eq_some.1 hk
  simp only [avoids, Bool.or_eq_true, Bool.and_eq_true, Nat.blt_eq, bne_iff_ne] at havoids
  rcases havoids with (hbefore | hafter) | ⟨⟨hparity, hparity'⟩, hodd⟩
  · omega
  · omega
  · have heven := parity hparity h
    have heven' := parity hparity' hk
    omega

end CaseRun

/-! ## The tables -/

/-- The codes that are blank or have another upper case. -/
def unsettledRuns : List CaseRun :=
  ⟨0x9, 0xD, 1, 0⟩ :: ⟨0x1C, 0x20, 1, 0⟩ :: upperRuns.toList ++
    (wideBlanks ++ longUppers.map (·.1)).map fun code => ⟨code, code, 1, 0⟩

theorem upperRuns_avoid :
    (upperRuns.toList.all fun run => run.isSound && unsettledRuns.all run.avoids) = true := by
  decide +kernel

/-- A character is its own upper case and not blank. -/
def IsSettled (c : Char) : Prop := upperChar c = [c] ∧ isBlank c = false

instance (c : Char) : Decidable (IsSettled c) := inferInstanceAs (Decidable (_ ∧ _))

theorem longUppers_settled :
    (longUppers.all fun entry => entry.2 ≠ [] && entry.2.all fun code => IsSettled (Char.ofNat code)) =
      true := by
  decide +kernel

/-- What holds of the first 128 code points holds of an ASCII character. -/
theorem of_ascii {P : Char → Prop} (h : ∀ n < 128, P (Char.ofNat n)) {c : Char}
    (hc : c.toNat < 128) : P c :=
  c.ofNat_toNat ▸ h c.toNat hc

theorem toUpper_eq_self {c : Char} (hc : c.toNat < 128) (hlower : c.toNat < 0x61 ∨ 0x7A < c.toNat) :
    c.toUpper = c :=
  of_ascii (P := fun c => c.toNat < 0x61 ∨ 0x7A < c.toNat → c.toUpper = c) (by decide) hc hlower

theorem upperChar_of_long {c : Char} {codes : List Nat} (hc : ¬ c.toNat < 0x80)
    (hlong : longUppers.lookup c.toNat = some codes) : upperChar c = codes.map Char.ofNat := by
  rw [upperChar, if_neg hc, hlong]

theorem upperChar_of_short {c : Char} (hc : ¬ c.toNat < 0x80) (hlong : longUppers.lookup c.toNat = none) :
    upperChar c = [(partner? upperRuns c).getD c] := by
  rw [upperChar, if_neg hc, hlong]

/-- A character that no run holds is settled. -/
theorem isSettled_of_free {c : Char} (hfree : ∀ run ∈ unsettledRuns, run.partner? c.toNat = none) :
    IsSettled c := by
  have hout : ∀ run ∈ unsettledRuns, run.step = 1 → c.toNat < run.first ∨ run.last < c.toNat := by
    intro run hrun hstep
    by_cases hin : run.first ≤ c.toNat ∧ c.toNat ≤ run.last
    · have hsome := CaseRun.partner?_eq_some.2 ⟨⟨hin.1, hin.2, by rw [hstep, Nat.mod_one]⟩, rfl⟩
      rw [hfree run hrun] at hsome
      exact absurd hsome (by simp)
    · omega
  have hcode : ∀ code ∈ wideBlanks ++ longUppers.map (·.1), c.toNat ≠ code := by
    rintro code hmem rfl
    have hapart : c.toNat < c.toNat ∨ c.toNat < c.toNat := hout ⟨c.toNat, c.toNat, 1, 0⟩
      (List.mem_append_right _ (List.mem_map.2 ⟨_, hmem, rfl⟩)) rfl
    omega
  constructor
  · by_cases hascii : c.toNat < 0x80
    · have hlower := hout ⟨0x61, 0x7A, 1, -0x20⟩ (.tail _ (.tail _ (.head _))) rfl
      rw [upperChar, if_pos hascii, toUpper_eq_self hascii hlower]
    · have hlong : longUppers.lookup c.toNat = none := by
        rw [List.lookup_eq_none_iff]
        intro entry hentry
        have := hcode entry.1 (List.mem_append_right _ (List.mem_map_of_mem hentry))
        simpa using this
      have hpartner : partner? upperRuns c = none := by
        rw [partner?, Option.map_eq_none_iff, Array.findSome?_eq_none_iff]
        intro run hrun
        exact hfree run (List.mem_append_left _ (by simp [hrun]))
      rw [upperChar_of_short hascii hlong, hpartner, Option.getD_none]
  · have hcontrol : c.toNat < 0x9 ∨ 0xD < c.toNat := hout ⟨0x9, 0xD, 1, 0⟩ (.head _) rfl
    have hspace : c.toNat < 0x1C ∨ 0x20 < c.toNat := hout ⟨0x1C, 0x20, 1, 0⟩ (.tail _ (.head _)) rfl
    refine Bool.eq_false_iff.2 fun hblank => ?_
    simp only [isBlank, isAsciiSpace, Bool.or_eq_true, Bool.and_eq_true, decide_eq_true_eq] at hblank
    rcases hblank with ((h | h) | h) | ⟨-, hwide⟩
    · omega
    · omega
    · omega
    · exact hcode c.toNat (List.mem_append_left _ (List.contains_iff_mem.1 hwide)) rfl

/-! ## Upper case is settled -/

theorem toNat_ofNat_of_valid {n : Nat} (h : n.isValidChar) : (Char.ofNat n).toNat = n := by
  rw [Char.ofNat, dif_pos h]
  rfl

/-- The partner of a character is settled. -/
theorem isSettled_partner {c d : Char} (h : partner? upperRuns c = some d) : IsSettled d := by
  obtain ⟨m, hm, rfl⟩ := Option.map_eq_some_iff.1 h
  obtain ⟨run, hrun, hpartner⟩ := Array.exists_of_findSome?_eq_some hm
  have hall := List.all_eq_true.1 upperRuns_avoid run (by simpa using hrun)
  obtain ⟨hsound, havoids⟩ := Bool.and_eq_true_iff.1 hall
  refine isSettled_of_free fun other hother => ?_
  rw [toNat_ofNat_of_valid (CaseRun.isValidChar hsound hpartner)]
  exact CaseRun.partner?_of_avoids hsound (List.all_eq_true.1 havoids other hother) hpartner

/-- An ASCII character in upper case stays, and is as blank as before. -/
theorem toUpper_spec {c : Char} (hc : c.toNat < 128) :
    upperChar c.toUpper = [c.toUpper] ∧ isBlank c.toUpper = isBlank c :=
  of_ascii (P := fun c => upperChar c.toUpper = [c.toUpper] ∧ isBlank c.toUpper = isBlank c)
    (by decide) hc

/-- A blank of ASCII has no other upper case. -/
theorem upperChar_of_isBlank {c : Char} (hc : c.toNat < 128) (hblank : isBlank c = true) :
    upperChar c = [c] :=
  of_ascii (P := fun c => isBlank c = true → upperChar c = [c]) (by decide) hc hblank

/-- The upper case of a character is a text of characters that are their own upper case and that are
    not blank if the character is not. -/
theorem upperChar_spec (c : Char) :
    upperChar c ≠ [] ∧
      ∀ d ∈ upperChar c, upperChar d = [d] ∧ (isBlank c = false → isBlank d = false) := by
  by_cases hascii : c.toNat < 0x80
  · obtain ⟨hsettled, hblank⟩ := toUpper_spec hascii
    rw [upperChar, if_pos hascii]
    refine ⟨by simp, fun d hd => ?_⟩
    obtain rfl := List.mem_singleton.1 hd
    exact ⟨hsettled, fun hc => hblank.trans hc⟩
  cases hlong : longUppers.lookup c.toNat with
  | some codes =>
    have hentry : (c.toNat, codes) ∈ longUppers := by
      obtain ⟨before, after, hsplit, -⟩ := List.lookup_eq_some_iff.1 hlong
      rw [hsplit]
      exact List.mem_append_right _ List.mem_cons_self
    obtain ⟨hne, hcodes⟩ := Bool.and_eq_true_iff.1 (List.all_eq_true.1 longUppers_settled _ hentry)
    rw [upperChar_of_long hascii hlong]
    refine ⟨by simpa using hne, fun d hd => ?_⟩
    obtain ⟨code, hcode, rfl⟩ := List.mem_map.1 hd
    obtain ⟨hfixed, hblank⟩ := of_decide_eq_true (List.all_eq_true.1 hcodes code hcode)
    exact ⟨hfixed, fun _ => hblank⟩
  | none =>
    have hupper := upperChar_of_short hascii hlong
    cases hpartner : partner? upperRuns c with
    | none =>
      rw [hpartner, Option.getD_none] at hupper
      refine ⟨by simp [hupper], fun d hd => ?_⟩
      rw [hupper] at hd
      obtain rfl := List.mem_singleton.1 hd
      exact ⟨hupper, id⟩
    | some d =>
      obtain ⟨hfixed, hblank⟩ := isSettled_partner hpartner
      rw [hpartner, Option.getD_some] at hupper
      refine ⟨by simp [hupper], fun e he => ?_⟩
      rw [hupper] at he
      obtain rfl := List.mem_singleton.1 he
      exact ⟨hfixed, fun _ => hblank⟩

theorem flatMap_upperChar {cs : List Char} (h : ∀ c ∈ cs, upperChar c = [c]) :
    cs.flatMap upperChar = cs := by
  induction cs with
  | nil => rfl
  | cons c rest ih =>
    rw [List.flatMap_cons, h c List.mem_cons_self, ih fun d hd => h d (List.mem_cons_of_mem c hd)]
    rfl

/-- The characters of a text in upper case are their own upper case. -/
theorem upperChar_of_mem {cs : List Char} {d : Char} (hd : d ∈ cs.flatMap upperChar) : upperChar d = [d] := by
  obtain ⟨c, -, hd⟩ := List.mem_flatMap.1 hd
  exact ((upperChar_spec c).2 d hd).1

theorem upper_upper (s : String) : upper (upper s) = upper s := by
  refine String.toList_injective ?_
  rw [upper, String.toList_ofList, upper, String.toList_ofList]
  exact flatMap_upperChar fun d hd => upperChar_of_mem hd

end Candlestick.Text
