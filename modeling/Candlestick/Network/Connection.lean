set_option autoImplicit false

/-! # Keeping a connection

A client opens its session when it first needs one, keeps it for later requests, and opens another
when the one it keeps has been closed. -/

namespace Candlestick

/-- The sessions of a client, numbered in the order in which they were opened. -/
structure Connection where
  /-- How many sessions have been opened. -/
  opened : Nat := 0
  /-- The session that is kept. -/
  kept : Option Nat := none
  /-- The sessions that have been closed. -/
  closed : List Nat := []

namespace Connection

def isClosed (c : Connection) (session : Nat) : Bool := c.closed.contains session

/-- The session that is kept, or a new one, and the connection that keeps it. -/
def ensure (c : Connection) : Nat × Connection :=
  match c.kept.filter (!c.isClosed ·) with
  | some session => (session, c)
  | none => (c.opened, { c with opened := c.opened + 1, kept := some c.opened })

/-- Close one session from outside. -/
def drop (c : Connection) (session : Nat) : Connection := { c with closed := session :: c.closed }

/-- Close the session that is kept, and keep none. -/
def close (c : Connection) : Connection :=
  match c.kept with
  | some session => { c.drop session with kept := none }
  | none => c

end Connection

end Candlestick
