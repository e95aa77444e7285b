import WordServer.Session

/-!
# Sessions on input that is still arriving

A session reads a stream as a whole; a server sees it arrive in parts. `advance` takes as many turns
as the input so far decides. The input that has not arrived is a failure of the stream behind the
last byte: a turn that meets it is not taken.
-/

namespace WordServer.Session

variable {σ : Type}

/-- The failure that stands for input that has not arrived. -/
def stalled : String := "no more input has arrived"

/-- Whether a turn waits for input that has not arrived. -/
def Turn.waits : Turn σ → Bool
  | .ended (.error (.stream reason)) _ => reason == stalled
  | _ => false

/-- The session with the events that it can read: behind them the stream ends or stalls. -/
def facing (session : Session σ) (complete : Bool) : Session σ :=
  if complete then session else { session with input := session.input ++ [.fault stalled] }

/-- The session without the mark of input that has not arrived. -/
def unfaced (session : Session σ) (complete : Bool) : Session σ :=
  if complete then session else { session with input := session.input.dropLast }

/-- Takes turns until the session ends or waits for input. Every turn reads an event, so `turns`,
which starts above the number of events, is never used up. -/
def advanceFor [Json.Wording] : (turns : Nat) → Session σ → Turn σ
  | 0, session => .goesOn session
  | turns + 1, session =>
    let next := session.turn
    if next.waits then .goesOn session
    else
      match next with
      | .goesOn session => advanceFor turns session
      | .ended result session => .ended result session

/-- Takes turns as far as the input so far decides; `complete` says whether more may come. -/
def advance [Json.Wording] (session : Session σ) (complete : Bool) : Turn σ :=
  match advanceFor (session.input.length + 1) (session.facing complete) with
  | .goesOn session => .goesOn (session.unfaced complete)
  | .ended result session => .ended result session

end WordServer.Session
