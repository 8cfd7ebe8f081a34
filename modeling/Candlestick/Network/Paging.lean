import Candlestick.Market.Candle
import Candlestick.Network.Dialogue

set_option autoImplicit false

/-! # Reading page after page

A long range is read in pages. The cursor in the next question comes from the last page; it has to
move on, forward up to the end of the range or backward down to its start, and so the pages come to
an end whatever the provider answers. -/

namespace Candlestick

/-- What one page held. -/
structure Page where
  candles : List Candle
  notes : List Note := []
  /-- The cursor of the next page, if there is to be one. -/
  next : Option Int

/-- The page that ends the reading and holds nothing. -/
def Page.last : Page := { candles := [], next := none }

/-- A paged endpoint: the question at a cursor, and how its answer is read. -/
structure Pager where
  call : Int → Call
  read : Int → Json → Except Failure Page

namespace Pager

/-- Read pages from a cursor up to the end of the range, as long as the cursor grows. -/
def forward (pager : Pager) (stop cursor : Int) : Dialogue (List Candle) :=
  if cursor < stop then
    .check <| .ask (pager.call cursor) fun answer =>
      match pager.read cursor answer with
      | .error cause => .fail cause
      | .ok page => .notes page.notes <|
        match page.next with
        | none => .done page.candles
        | some next =>
          if cursor < next then (pager.forward stop next).map (page.candles ++ ·)
          else .done page.candles
  else .done []
termination_by (stop - cursor).toNat

/-- Read pages from a cursor down to the start of the range, as long as the cursor falls. -/
def backward (pager : Pager) (start cursor : Int) : Dialogue (List Candle) :=
  if start < cursor then
    .check <| .ask (pager.call cursor) fun answer =>
      match pager.read cursor answer with
      | .error cause => .fail cause
      | .ok page => .notes page.notes <|
        match page.next with
        | none => .done page.candles
        | some next =>
          if next < cursor then (pager.backward start next).map (page.candles ++ ·)
          else .done page.candles
  else .done []
termination_by (cursor - start).toNat

end Pager

end Candlestick
