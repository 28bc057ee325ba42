import LoadReport.Drawing.Plan

/-! # Backends

What turns layouts into images. One backend only keeps the layouts; the other makes calls on the
drawing library. A call that raises ends the figure it belongs to. -/

namespace LoadReport.Drawing

/-- A way to draw layouts one after the other, with what is kept from one to the next. -/
structure Backend (σ : Type) where
  draw : σ → Figure.Layout → Except Failure Unit × σ

/-- Keeps the layouts in order, but refuses some outputs. -/
def recording (refused : List Path) : Backend (List Figure.Layout) where
  draw kept layout :=
    if layout.output ∈ refused then (.error (Failure.ofCause .drawingRefused), kept)
    else (.ok (), kept ++ [layout])

/-- Which calls raise, given the calls made before. -/
abbrev Fault := List Call → Call → Bool

namespace Fault

def none : Fault :=
  fun _ _ => false

/-- The call of a function raises that comes after a number of calls of the same function. -/
def nth (function : String) (count : Nat) : Fault :=
  fun made call =>
    call.function = function && (made.countP fun earlier => earlier.function = function) = count

end Fault

/-- The calls made so far and what they have brought about. -/
structure Session where
  made : List Call
  progress : Progress
deriving DecidableEq

namespace Session

def fresh : Session where
  made := []
  progress := Progress.fresh

/-- Makes calls in order, up to the first that raises; that one is made, but brings nothing
about. -/
def perform (fault : Fault) (session : Session) : List Call → Except Failure Unit × Session
  | [] => (.ok (), session)
  | call :: rest =>
    let made := session.made ++ [call]
    if fault session.made call then
      (.error (Failure.ofCause .drawingRaised), { session with made })
    else perform fault { made, progress := session.progress.after call } rest

def draw (fault : Fault) (session : Session) (layout : Figure.Layout) :
    Except Failure Unit × Session :=
  session.perform fault (session.progress.plan layout)

/-- Draws layouts one after the other, going on after a failure. -/
def drawAll (fault : Fault) (session : Session) :
    List Figure.Layout → List (Except Failure Unit) × Session
  | [] => ([], session)
  | layout :: rest =>
    let (outcome, next) := session.draw fault layout
    let (outcomes, last) := drawAll fault next rest
    (outcome :: outcomes, last)

end Session

/-- Draws by calls on the drawing library. What the files become that it saves images to is not part of
the session, but said by `Report.Saving`. -/
def calling (fault : Fault) : Backend Session where
  draw := Session.draw fault

end LoadReport.Drawing
