import Candlestick.Failure

set_option autoImplicit false

/-! # Withdrawing a request

A caller may hold a signal with which it withdraws its request, once and for all. -/

namespace Candlestick

/-- The signal of a caller: whether its request stands withdrawn. -/
structure Withdrawal where
  raised : Bool := false

namespace Withdrawal

/-- Withdraw the request. -/
def raise (_ : Withdrawal) : Withdrawal := ⟨true⟩

/-- Fail if the request stands withdrawn. -/
def check (signal : Withdrawal) : Except Failure Unit :=
  if signal.raised then .error .aborted else .ok ()

/-- As `check`, for a caller that may have no signal. -/
def check? (signal : Option Withdrawal) : Except Failure Unit :=
  match signal with
  | some signal => signal.check
  | none => .ok ()

end Withdrawal

end Candlestick
