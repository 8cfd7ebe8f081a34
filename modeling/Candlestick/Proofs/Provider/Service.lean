import Candlestick.Network.Paging
import Candlestick.Proofs.Provider.Rows

set_option autoImplicit false

/-! # Endpoints that serve page by page

A `Service` is what a paged endpoint does with the times that it keeps: which of them a call is shown,
what the rows and the answer look like, and which pages lead a reader on to the rest. Some of the times
may be illegible: their rows are sent, but the time in them cannot be read. -/

namespace Candlestick

/-- How an endpoint that is read page after page speaks. -/
structure Service where
  /-- The milliseconds in a unit of its times. -/
  scale : Int
  /-- Where the time of a row stands. -/
  cell : Json → Json
  /-- What the row of a time looks like. -/
  row : Json → Int → Prop
  /-- Which of the kept times a call is shown. -/
  shown : Finset Int → Call → Option (List Int)
  /-- In which orders the rows of the shown times may be sent. -/
  arranged : List Int → List Int → Prop
  /-- What an answer that shows some times looks like, with their rows. -/
  wraps : List Int → List Json → Call → Json → Prop
  /-- Which pages lead on, at a cursor, where some times are illegible. -/
  leads : Finset Int → Int → List Int → Prop

namespace Service

/-- An endpoint serves the times that it keeps, and is never left waiting. The rows of the illegible
    ones stand on its pages, with times that cannot be read. -/
structure Serves {σ : Type} (service : Service) (kept illegible : Finset Int) (world : World σ) :
    Prop where
  patient : ∀ state, world.withdrawn state = false
  answers : ∀ state call shown, service.shown kept call = some shown → ∃ answer rows ks,
    (world.answer state call).1 = .ok answer ∧ service.wraps shown rows call answer ∧
    List.Forall₂ (LegibleExcept illegible service.cell service.scale service.row) rows ks ∧
    service.arranged ks shown

/-- Of the pages whose calls are made, each one leads on that leaves over some of the times sought
    beyond its cursor. -/
def LeadsOn (service : Service) (kept illegible sought : Finset Int) (onward : Int → Int → Prop)
    (pager : Pager) (made : Call → Prop) : Prop :=
  ∀ cursor shown, made (pager.call cursor) → service.shown kept (pager.call cursor) = some shown →
    (∃ k ∈ sought, onward cursor k ∧ k ∉ shown) → service.leads illegible cursor shown

end Service

end Candlestick
