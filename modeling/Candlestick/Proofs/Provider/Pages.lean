import Candlestick.Provider.Bybit
import Candlestick.Provider.Gateio
import Candlestick.Provider.Kraken
import Candlestick.Provider.Kucoin
import Candlestick.Provider.Okx

set_option autoImplicit false

/-! # What a page makes of its rows

A page looks at the head of an answer first, and then reads the value that stands for its rows. `finish`
is what it makes of their candles. -/

namespace Candlestick

/-- What a page makes of the value that stands for its rows, if it is a list of some. -/
def readPage (read : Json → Except Failure (Option Candle))
    (finish : List Candle → Nat → Except Failure Page) : Json → Except Failure Page
  | .arr (first :: others) => readRows read (first :: others) >>= (finish · (first :: others).length)
  | _ => .ok .last

section Pages

variable (r : FetchRequest) (cursor : Int)

namespace Bybit

def finish (r : FetchRequest) (cursor : Int) (cs : List Candle) (n : Nat) : Except Failure Page :=
  let earliest := cs.foldl (fun least c => min least c.start) cursor
  if cursor ≤ earliest then .ok { candles := cs, notes := [stalled r cursor], next := none }
  else if earliest ≤ r.start ∨ n < limit then .ok { candles := cs, next := none }
  else .ok { candles := cs, next := some (earliest - 1) }

theorem page_eq (answer : Json) : page r cursor answer =
    if !answer.isObject then .ok .last
    else if (answer.member "retCode").isPresent then
      .error (.provider name (answer.member "retCode") (answer.member "retMsg"))
    else rows answer >>= readPage (r.rowCandle 1 1 2 3 4 5) (finish r cursor) := rfl

theorem exists_finish (cs : List Candle) (n : Nat) : ∃ p, finish r cursor cs n = .ok p := by
  unfold finish
  extract_lets earliest
  split
  · exact ⟨_, rfl⟩
  · split
    · exact ⟨_, rfl⟩
    · exact ⟨_, rfl⟩

end Bybit

namespace Okx

def finish (cursor : Int) (cs : List Candle) (n : Nat) : Except Failure Page :=
  let earliest := cs.foldl (fun least c => min least c.start) cursor
  if cursor ≤ earliest ∨ n < limit then .ok { candles := cs, next := none }
  else .ok { candles := cs, next := some (earliest - 1) }

theorem page_eq (answer : Json) : page r cursor answer =
    if !answer.isObject then .ok .last
    else if !isSuccess (answer.member "code") then
      .error (.provider name (answer.member "code") (answer.member "msg"))
    else .ok (answer.member "data") >>= readPage (r.rowCandle 1 1 2 3 4 5) (finish cursor) := rfl

theorem exists_finish (cs : List Candle) (n : Nat) : ∃ p, finish cursor cs n = .ok p := by
  unfold finish
  extract_lets earliest
  split
  · exact ⟨_, rfl⟩
  · exact ⟨_, rfl⟩

end Okx

namespace Kucoin

def finish (cursor : Int) (cs : List Candle) (_ : Nat) : Except Failure Page :=
  let earliest := cs.foldl (fun least c => min least (c.start.fdiv 1000)) cursor
  .ok { candles := cs, next := if cursor ≤ earliest then none else some (earliest - 1) }

theorem page_eq (answer : Json) : page r cursor answer =
    if !answer.isObject then .ok .last
    else if !isSuccess (answer.member "code") then
      .error (.provider name (answer.member "code") (answer.member "msg"))
    else .ok (rows answer) >>= readPage (r.rowCandle 1000 1 3 4 2 5) (finish cursor) := rfl

end Kucoin

namespace Gateio

def finish (cursor : Int) (cs : List Candle) (n : Nat) : Except Failure Page :=
  let earliest := cs.foldl (fun least c => min least (c.start.fdiv 1000)) cursor
  if cursor ≤ earliest ∨ n < limit then .ok { candles := cs, next := none }
  else .ok { candles := cs, next := some (earliest - 1) }

theorem page_eq (answer : Json) : page r cursor answer =
    if (answer.member "label").isPresent then
      .error (.provider name (answer.member "label") (answer.member "message"))
    else .ok answer >>= readPage (row r) (finish cursor) := by
  cases answer with
  | arr rows => cases rows <;> rfl
  | _ => rfl

theorem exists_finish (cs : List Candle) (n : Nat) : ∃ p, finish cursor cs n = .ok p := by
  unfold finish
  extract_lets earliest
  split
  · exact ⟨_, rfl⟩
  · exact ⟨_, rfl⟩

end Gateio

namespace Kraken

/-- The next page starts where the answer says, which is read after the rows. -/
def finish (cursor : Int) (last : Except Failure (Option Int)) (cs : List Candle) (_ : Nat) :
    Except Failure Page :=
  last >>= fun last => .ok { candles := cs, next := last.filter (cursor < ·) }

theorem page_eq (answer : Json) : page r cursor answer =
    if !answer.isObject then .ok .last
    else errors answer >>= fun
      | some text => .error (.provider name .null (.str text))
      | none => rows (answer.member "result") >>=
          readPage (row r) (finish cursor (Reading.time ((answer.member "result").member "last"))) := rfl

end Kraken

end Pages

end Candlestick
