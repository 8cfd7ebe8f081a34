import Candlestick.Network.Http

set_option autoImplicit false

/-! # Answers that are given beforehand

A transcript is the bodies of successful replies, in the order in which they are given. A call after
the last of them meets a broken transport. -/

namespace Candlestick

/-- The bodies that are left. -/
abbrev Transcript := List String

/-- What is said of a call after the last body. -/
def Transcript.exhausted : Http.Reply := .broken "no reply"

/-- The world that answers from a transcript, and in which no request is withdrawn. -/
def Transcript.world : World Transcript where
  withdrawn _ := false
  answer bodies call :=
    match bodies with
    | [] => (Http.read call.provider exhausted, [])
    | body :: rest => (Http.read call.provider (.body 200 body), rest)

end Candlestick
