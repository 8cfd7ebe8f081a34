import Candlestick.Failure

set_option autoImplicit false

/-! # Talking to a provider

A `Dialogue` is a program that asks a provider questions and ends with a result or a failure. It is
a tree: each question has one branch for every possible answer, so a dialogue says what is asked in
all cases, against any provider whatever. Two further nodes mark where the program looks whether its
caller has withdrawn the request, and where it makes a remark for the log.

`Dialogue.run` walks the tree in a `World`, which gives the answers and may withdraw the request at
any point. -/

namespace Candlestick

/-- A question: an address with parameters, and the name of the provider that is asked. -/
structure Call where
  provider : String
  url : String
  params : List (String × Json)

/-- How grave a remark is. -/
inductive Level where
  | info | warning
  deriving DecidableEq

/-- A remark for the log. -/
structure Note where
  level : Level
  text : String
  deriving DecidableEq

/-- The line of a remark. -/
def Note.line (note : Note) : String :=
  (match note.level with
    | .info => "INFO"
    | .warning => "WARNING") ++ ": " ++ note.text

/-- A program that asks a provider. -/
inductive Dialogue (α : Type) where
  /-- The end, with a result. -/
  | done (result : α)
  /-- The end, with a failure. -/
  | fail (cause : Failure)
  /-- Stop here if the request has been withdrawn. -/
  | check (next : Dialogue α)
  /-- Make a remark. -/
  | note (remark : Note) (next : Dialogue α)
  /-- Ask, and go on with the answer. -/
  | ask (call : Call) (next : Json → Dialogue α)

namespace Dialogue

variable {α β : Type}

/-- The same dialogue with its result turned into another. -/
def map (f : α → β) : Dialogue α → Dialogue β
  | done result => done (f result)
  | fail cause => fail cause
  | check next => check (next.map f)
  | note remark next => note remark (next.map f)
  | ask call next => ask call fun answer => (next answer).map f

/-- One dialogue after another. -/
def bind (first : Dialogue α) (second : α → Dialogue β) : Dialogue β :=
  match first with
  | done result => second result
  | fail cause => fail cause
  | check next => check (next.bind second)
  | note remark next => note remark (next.bind second)
  | ask call next => ask call fun answer => (next answer).bind second

/-- The end with what has been computed. -/
def ofExcept : Except Failure α → Dialogue α
  | .ok result => done result
  | .error cause => fail cause

/-- Look whether the request has been withdrawn, ask, and read the answer. -/
def request (call : Call) (read : Json → Except Failure α) : Dialogue α :=
  check (ask call fun answer => ofExcept (read answer))

/-- Make several remarks. -/
def notes (remarks : List Note) (next : Dialogue α) : Dialogue α := remarks.foldr note next

theorem map_id (d : Dialogue α) : d.map id = d := by
  induction d with
  | done result => rfl
  | fail cause => rfl
  | check next ih => simp [map, ih]
  | note remark next ih => simp [map, ih]
  | ask call next ih => simp only [map, ih]

end Dialogue

/-- What answers: a state, whether the request stands withdrawn in it, and the answer to a call with
    the state after it. -/
structure World (σ : Type) where
  withdrawn : σ → Bool
  answer : σ → Call → Except Failure Json × σ

/-- What a run of a dialogue came to. -/
structure Run (σ α : Type) where
  outcome : Except Failure α
  /-- The calls that went out, in order. -/
  calls : List Call
  /-- The remarks made, in order. -/
  notes : List Note
  /-- The state of the world afterwards. -/
  state : σ

/-- Walk a dialogue in a world. No call goes out for a request that stands withdrawn. -/
def Dialogue.run {σ α : Type} (world : World σ) (state : σ) : Dialogue α → Run σ α
  | .done result => ⟨.ok result, [], [], state⟩
  | .fail cause => ⟨.error cause, [], [], state⟩
  | .check next =>
    if world.withdrawn state then ⟨.error .aborted, [], [], state⟩ else next.run world state
  | .note remark next =>
    let rest := next.run world state
    { rest with notes := remark :: rest.notes }
  | .ask call next =>
    if world.withdrawn state then ⟨.error .aborted, [], [], state⟩
    else
      match world.answer state call with
      | (.error cause, state) => ⟨.error cause, [call], [], state⟩
      | (.ok answer, state) =>
        let rest := (next answer).run world state
        { rest with calls := call :: rest.calls }

theorem Dialogue.run_map {σ α β : Type} (world : World σ) (f : α → β) (d : Dialogue α) (state : σ) :
    (d.map f).run world state =
      { d.run world state with outcome := (d.run world state).outcome.map f } := by
  induction d generalizing state with
  | done result => rfl
  | fail cause => rfl
  | check next ih =>
    simp only [map, run]
    split
    · rfl
    · exact ih state
  | note remark next ih => simp only [map, run, ih state]
  | ask call next ih =>
    simp only [map, run]
    split
    · rfl
    · split
      · rfl
      · simp only [ih]

end Candlestick
