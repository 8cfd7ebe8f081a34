import Candlestick.Config.Chart
import Candlestick.Proofs.Loader.Window
import Candlestick.Proofs.Network.Dialogue
import Candlestick.Proofs.Text.Leg

set_option autoImplicit false

/-! # What a configuration is when it is accepted

Each field is read by itself, and a value that is read from it has been refused or satisfies the field's
condition; a value that stands in for a missing field satisfies it from the start. So whatever document a
configuration comes from, its asset is a leg that is not empty, its range is not empty, and the settings of
its loader have a sense. -/

namespace Candlestick

/-! ## Checks -/

namespace Config

/-- Two checks together give a value if each of them does. -/
theorem Checked.ap_eq_ok {α β : Type} {f : Checked (α → β)} {x : Checked α} {b : β} :
    f.ap x = .ok b ↔ ∃ g a, f = .ok g ∧ x = .ok a ∧ g a = b := by
  cases f <;> cases x <;> simp [ap]

/-- What holds of all that is read from a field, and of what stands in for it, holds of the field's
    value. -/
theorem Checked.of_field {α : Type} {P : α → Prop} {place : List String}
    {members : List (Yaml.Value × Yaml.Value)} {name : String} {missing : Except Cause α}
    {read : Yaml.Value → Except Cause α} (hmissing : ∀ a, missing = .ok a → P a)
    (hread : ∀ value a, read value = .ok a → P a) {a : α}
    (h : Checked.field place members name missing read = .ok a) : P a := by
  have hfield := eq_ok_of_mapError h
  split at hfield
  · exact hread _ a hfield
  · exact hmissing a hfield

/-- A value that is not refused satisfies the condition. -/
theorem of_require {α : Type} {condition : α → Bool} {reason : String} {x : Except Cause α} {a : α}
    (h : require condition reason x = .ok a) : condition a = true := by
  unfold require at h
  split at h
  · split at h
    · rename_i hcondition
      rwa [Except.ok.inj h] at hcondition
    · exact absurd h (by simp)
  · exact absurd h (by simp)

end Config

open Config

/-! ## Settings -/

namespace LoaderSettings

/-- The settings of a map are accepted ones. -/
theorem accepted_of_ofMembers {place : List String} {members : List (Yaml.Value × Yaml.Value)}
    {settings : LoaderSettings} (h : ofMembers place members = .ok settings) : settings.Accepted := by
  -- The fields are peeled off from the last one on.
  obtain ⟨_, strict, hfour, -, rfl⟩ := Checked.ap_eq_ok.1 h
  obtain ⟨_, timeout, hthree, -, rfl⟩ := Checked.ap_eq_ok.1 hfour
  obtain ⟨_, quote, htwo, -, rfl⟩ := Checked.ap_eq_ok.1 hthree
  obtain ⟨_, days, hone, hdays, rfl⟩ := Checked.ap_eq_ok.1 htwo
  obtain ⟨_, buckets, hnone, hbuckets, rfl⟩ := Checked.ap_eq_ok.1 hone
  obtain rfl := Except.ok.inj hnone
  constructor
  · refine Checked.of_field (P := (0 ≤ ·)) (fun a ha => ?_) (fun value a ha => ?_) hbuckets
    · obtain rfl := Except.ok.inj ha
      exact accepted_default.prefetch
    · have hnonneg := of_require ha
      exact of_decide_eq_true hnonneg
  · refine Checked.of_field (P := (1 ≤ ·)) (fun a ha => ?_) (fun value a ha => ?_) hdays
    · obtain rfl := Except.ok.inj ha
      exact accepted_default.window
    · have hpos := of_require ha
      exact of_decide_eq_true hpos

/-- So are those of any value. -/
theorem accepted_of_check {place : List String} {value : Yaml.Value} {settings : LoaderSettings}
    (h : check place value = .ok settings) : settings.Accepted := by
  unfold check at h
  split at h
  · exact accepted_of_ofMembers h
  · obtain rfl := Except.ok.inj h
    exact accepted_default
  · exact absurd h (by simp)

/-- The environment leaves the window's settings alone. -/
theorem accepted_of_override {settings settings' : LoaderSettings} {env : Environment}
    (hset : settings.Accepted) (h : settings.override env = .ok settings') : settings'.Accepted := by
  obtain ⟨timeout, -, hdone⟩ := exists_of_bind_eq_ok h
  simp only at hdone
  split at hdone
  · obtain rfl := Except.ok.inj hdone
    exact ⟨hset.prefetch, hset.window⟩
  · exact absurd hdone (by simp [throw, throwThe, MonadExceptOf.throw])

end LoaderSettings

/-! ## Charts -/

/-- The configurations of charts that pass their checks. -/
structure ChartConfig.Accepted (config : ChartConfig) : Prop where
  asset : config.asset ≠ ""
  leg : Symbol.leg config.asset = config.asset
  lt : ∀ start ∈ config.start, ∀ stop ∈ config.stop, start.micros < stop.micros
  loader : config.loader.Accepted

namespace ChartConfig

/-- Each field by itself gives a leg for the asset and accepted settings. -/
theorem of_fields {members : List (Yaml.Value × Yaml.Value)} {config : ChartConfig}
    (h : fields members = .ok config) :
    Symbol.leg config.asset = config.asset ∧ config.loader.Accepted := by
  obtain ⟨_, loader, hseven, hloader, rfl⟩ := Checked.ap_eq_ok.1 h
  obtain ⟨_, stop, hsix, -, rfl⟩ := Checked.ap_eq_ok.1 hseven
  obtain ⟨_, start, hfive, -, rfl⟩ := Checked.ap_eq_ok.1 hsix
  obtain ⟨_, timeFrame, hfour, -, rfl⟩ := Checked.ap_eq_ok.1 hfive
  obtain ⟨_, quote, hthree, -, rfl⟩ := Checked.ap_eq_ok.1 hfour
  obtain ⟨_, asset, htwo, hasset, rfl⟩ := Checked.ap_eq_ok.1 hthree
  obtain ⟨_, market, hone, -, rfl⟩ := Checked.ap_eq_ok.1 htwo
  obtain ⟨_, exchange, hnone, -, rfl⟩ := Checked.ap_eq_ok.1 hone
  obtain rfl := Except.ok.inj hnone
  constructor
  · refine Checked.of_field (P := fun asset => Symbol.leg asset = asset) (fun a ha => ?_)
      (fun value a ha => ?_) hasset
    · exact absurd ha (by simp)
    · obtain ⟨text, -, rfl⟩ := exists_of_map_eq_ok ha
      exact Symbol.leg_leg text
  · unfold loaderOf at hloader
    split at hloader
    · obtain rfl := Except.ok.inj hloader
      exact LoaderSettings.accepted_default
    · exact LoaderSettings.accepted_of_check hloader

/-- A configuration that a document gives is an accepted one. -/
theorem accepted_of_ofValue {value : Yaml.Value} {config : ChartConfig} (h : ofValue value = .ok config) :
    config.Accepted := by
  unfold ofValue ofMembers at h
  split at h
  · split at h
    · split at h <;> exact absurd h (by simp)
    · rename_i members config' hfields
      split at h
      · exact absurd h (by simp)
      · rename_i hflaw
        obtain rfl := Except.ok.inj h
        obtain ⟨hleg, hloader⟩ := of_fields hfields
        unfold flaw? at hflaw
        split at hflaw
        · exact absurd hflaw (by simp)
        · rename_i hasset
          refine ⟨hasset, hleg, fun start hstart stop hstop => ?_, hloader⟩
          simp only [Option.mem_def.1 hstart, Option.mem_def.1 hstop] at hflaw
          split at hflaw
          · exact absurd hflaw (by simp)
          · omega
  · exact absurd h (by simp)

end ChartConfig

end Candlestick
