import Candlestick.Proofs.Provider.Layouts

set_option autoImplicit false

/-! # Bars written in every layout

Any bars can be written as an answer of any source, Coinbase futures apart (`Source.shows_written`). -/

namespace Candlestick

/-- Where the keys of an object are distinct, each of its members stands under its key. -/
theorem Json.member_of_mem {members : List (String × Json)} {key : String} {value : Json}
    (hkeys : (members.map Prod.fst).Nodup) (h : (key, value) ∈ members) :
    (Json.obj members).member key = value := by
  induction members with
  | nil => exact absurd h List.not_mem_nil
  | cons first others ih =>
    obtain ⟨hfirst, hothers⟩ := List.nodup_cons.1 hkeys
    rcases List.mem_cons.1 h with rfl | hmem
    · simp [member, member?]
    · have hne : key ≠ first.1 := fun heq => hfirst (heq ▸ List.mem_map_of_mem hmem)
      have hrest := ih hothers hmem
      simp only [member, member?] at hrest ⊢
      rwa [List.lookup_cons, beq_eq_false_iff_ne.2 hne]

/-! ## Rows -/

namespace Bar

variable (b : Bar)

/-- A bar as a list of milliseconds and values. -/
def list : Json :=
  .arr [.int b.start, .double b.opening, .double b.highest, .double b.lowest, .double b.closing,
    .double b.volume]

/-- A bar as a list with a close time and a count of trades. -/
def kline : Json :=
  .arr [.int b.start, .double b.opening, .double b.highest, .double b.lowest, .double b.closing,
    .double b.volume, .int (b.stop - 1), .null, .int 0]

/-- A bar as an object under the given keys. -/
def object (scale : Int) (time opening highest lowest closing volume : String) : Json :=
  .obj [(time, .int (b.start / scale)), (opening, .double b.opening), (highest, .double b.highest),
    (lowest, .double b.lowest), (closing, .double b.closing), (volume, .double b.volume)]

theorem asList_list : AsList 1 1 2 3 4 5 b.list b where
  opens := Or.inl (congrArg Json.int (Int.ediv_one b.start).symm)
  values := ⟨Or.inl rfl, Or.inl rfl, Or.inl rfl, Or.inl rfl, Or.inl rfl⟩

theorem barRow_kline : Klines.BarRow b.kline b where
  list := {
    opens := Or.inl (congrArg Json.int (Int.ediv_one b.start).symm)
    values := ⟨Or.inl rfl, Or.inl rfl, Or.inl rfl, Or.inl rfl, Or.inl rfl⟩ }
  closes := Or.inl rfl
  trades := Reading.number_zero

theorem asObject_object {scale : Int} {time opening highest lowest closing volume : String}
    (hkeys : [time, opening, highest, lowest, closing, volume].Nodup) :
    AsObject scale time opening highest lowest closing volume
      (b.object scale time opening highest lowest closing volume) b where
  isObject := rfl
  opens := Or.inl (Json.member_of_mem hkeys (by simp))
  values := ⟨Or.inl (Json.member_of_mem hkeys (by simp)), Or.inl (Json.member_of_mem hkeys (by simp)),
    Or.inl (Json.member_of_mem hkeys (by simp)), Or.inl (Json.member_of_mem hkeys (by simp)),
    Or.inl (Json.member_of_mem hkeys (by simp))⟩

end Bar

/-- The close comes before the high. -/
def Kucoin.written (b : Bar) : Json :=
  .arr [.int (b.start / 1000), .double b.opening, .double b.closing, .double b.highest, .double b.lowest,
    .double b.volume]

theorem Kucoin.asList_written (b : Bar) : Bar.AsList 1000 1 3 4 2 5 (written b) b :=
  ⟨Or.inl rfl, Or.inl rfl, Or.inl rfl, Or.inl rfl, Or.inl rfl, Or.inl rfl⟩

def Gateio.written (b : Bar) : Json :=
  .arr [.int (b.start / 1000), .double b.volume, .double b.closing, .double b.highest, .double b.lowest,
    .double b.opening]

theorem Gateio.asList_written (b : Bar) : Bar.AsList 1000 5 3 4 2 1 (written b) b :=
  ⟨Or.inl rfl, Or.inl rfl, Or.inl rfl, Or.inl rfl, Or.inl rfl, Or.inl rfl⟩

def Coinbase.written (b : Bar) : Json :=
  .arr [.int (b.start / 1000), .double b.lowest, .double b.highest, .double b.opening, .double b.closing,
    .double b.volume]

theorem Coinbase.asList_written (b : Bar) : Bar.AsList 1000 3 2 1 4 5 (written b) b :=
  ⟨Or.inl rfl, Or.inl rfl, Or.inl rfl, Or.inl rfl, Or.inl rfl, Or.inl rfl⟩

/-- A mean price comes before the volume, and the count of trades after it. -/
def Kraken.written (b : Bar) : Json :=
  .arr [.int (b.start / 1000), .double b.opening, .double b.highest, .double b.lowest, .double b.closing,
    .null, .double b.volume, .int 0]

theorem Kraken.asList_written (b : Bar) : Bar.AsList 1000 1 2 3 4 6 (written b) b :=
  ⟨Or.inl rfl, Or.inl rfl, Or.inl rfl, Or.inl rfl, Or.inl rfl, Or.inl rfl⟩

/-- A column of some bars. -/
def Mexc.column (f : Bar → Json) (bars : List Bar) : Json := .arr (bars.map f)

def Mexc.written (bars : List Bar) : Json :=
  .obj [("success", .bool true), ("data", .obj [
    ("time", column (fun b => .int (b.start / 1000)) bars), ("open", column (fun b => .double b.opening) bars),
    ("high", column (fun b => .double b.highest) bars), ("low", column (fun b => .double b.lowest) bars),
    ("close", column (fun b => .double b.closing) bars), ("vol", column (fun b => .double b.volume) bars)])]

/-! ## Answers -/

/-- An answer of a source with some bars in it. -/
def Source.written (source : Source) (bars : List Bar) : Json :=
  match source.exchange, source.market with
  | .binance, _ => .arr (bars.map Bar.kline)
  | .bybit, _ => .obj [("retCode", .int 0), ("result", .obj [("list", .arr (bars.map Bar.list))])]
  | .okx, _ => .obj [("code", .str "0"), ("data", .arr (bars.map Bar.list))]
  | .coinbase, _ => .obj [("candles", .arr (bars.map Coinbase.written))]
  | .kraken, .spot => Kraken.answerOf (bars.map Kraken.written) 0
  | .kraken, .futures =>
    .obj [("candles", .arr (bars.map (Bar.object · 1000 "time" "open" "high" "low" "close" "volume")))]
  | .kucoin, _ => Kucoin.answerOf (bars.map Kucoin.written)
  | .bitget, .spot => .obj [("code", .str "00000"),
    ("data", .arr (bars.map (Bar.object · 1 "ts" "open" "high" "low" "close" "baseVol")))]
  | .bitget, .futures => .arr (bars.map Bar.list)
  | .gateio, .spot => .arr (bars.map Gateio.written)
  | .gateio, .futures => .arr (bars.map (Bar.object · 1000 "t" "o" "h" "l" "c" "v"))
  | .htx, _ => .obj [("status", .str "ok"),
    ("data", .arr (bars.map (Bar.object · 1000 "id" "open" "high" "low" "close" "vol")))]
  | .mexc, .spot => .arr (bars.map Bar.kline)
  | .mexc, .futures => Mexc.written bars

theorem forall₂_written {layout : Json → Bar → Prop} {write : Bar → Json} (h : ∀ b, layout (write b) b)
    (bars : List Bar) : List.Forall₂ layout (bars.map write) bars :=
  List.forall₂_map_left_iff.2 (List.forall₂_same.2 fun b _ => h b)

theorem Klines.shows_written (bars : List Bar) : Klines.Shows bars (.arr (bars.map Bar.kline)) :=
  ⟨_, rfl, forall₂_written Bar.barRow_kline bars⟩

theorem Mexc.shows_written (bars : List Bar) : Mexc.ShowsColumns bars (Mexc.written bars) := by
  refine ⟨_, rfl, rfl, List.forall₂_iff_get.2 ⟨by simp, fun i hi hi' => ?_⟩⟩
  have hcell : ∀ f : Bar → Json, Reading.item (column f bars) i = f bars[i] := fun f => by
    simp only [column, Reading.item, List.getElem?_map, List.getElem?_eq_getElem hi', Option.map_some,
      Option.getD_some]
  rw [List.get_eq_getElem, List.get_eq_getElem, List.getElem_zipIdx, List.getElem_map, Nat.zero_add]
  exact {
    opens := Or.inl rfl
    values := ⟨Or.inl (hcell _), Or.inl (hcell _), Or.inl (hcell _), Or.inl (hcell _), Or.inl (hcell _)⟩ }

/-- Every source has an answer for any bars, but for the futures that Coinbase does not have. -/
theorem Source.shows_written (source : Source) (bars : List Bar)
    (hspot : source.exchange = .coinbase → source.market = .spot) :
    source.Shows bars (source.written bars) := by
  rcases source with ⟨exchange, market⟩
  cases exchange with
  | binance => exact Klines.shows_written bars
  | bybit => exact ⟨_, ⟨rfl, rfl⟩, forall₂_written Bar.asList_list bars⟩
  | okx => exact ⟨_, ⟨rfl, rfl⟩, forall₂_written Bar.asList_list bars⟩
  | coinbase =>
    obtain rfl : market = .spot := hspot rfl
    exact ⟨_, rfl, rfl, forall₂_written (fun b => Or.inl (Coinbase.asList_written b)) bars⟩
  | kraken =>
    cases market with
    | spot =>
      exact ⟨_, 0, Kraken.wraps_answerOf _ 0, by decide,
        forall₂_written (fun b => ⟨Kraken.asList_written b, Reading.number_zero⟩) bars⟩
    | futures =>
      exact ⟨_, Or.inr ⟨rfl, rfl⟩, forall₂_written (fun b => b.asObject_object (by decide)) bars⟩
  | kucoin =>
    exact ⟨_, rfl, Or.inl rfl, forall₂_written Kucoin.asList_written bars⟩
  | bitget =>
    cases market with
    | spot =>
      exact ⟨_, Or.inr ⟨rfl, rfl⟩, forall₂_written (fun b => Or.inr (b.asObject_object (by decide))) bars⟩
    | futures => exact ⟨_, Or.inl rfl, forall₂_written (fun b => Or.inl b.asList_list) bars⟩
  | gateio =>
    cases market with
    | spot =>
      exact ⟨_, rfl, forall₂_written (fun b => Or.inl (Gateio.asList_written b)) bars⟩
    | futures => exact ⟨_, rfl, forall₂_written (fun b => Or.inr (b.asObject_object (by decide))) bars⟩
  | htx =>
    exact ⟨_, rfl, rfl,
      forall₂_written (fun b => ⟨Or.inl (b.asObject_object (by decide)), _, rfl⟩) bars⟩
  | mexc =>
    cases market with
    | spot => exact Klines.shows_written bars
    | futures => exact Mexc.shows_written bars

end Candlestick
