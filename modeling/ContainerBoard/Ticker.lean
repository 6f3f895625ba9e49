/-!
# Tickers

A ticker has its ticks at fixed distances.  Ticks that nobody waited for are
made up for at once when the clock is looked at again.  Times are
milliseconds.
-/

namespace ContainerBoard

/-- A row of ticks at fixed distances. -/
structure Ticker where
  /-- The milliseconds between two ticks. -/
  interval : Nat
  interval_pos : 0 < interval
  /-- The time of the next tick. -/
  next : Nat
  deriving DecidableEq, Repr

namespace Ticker

/-- The ticker that was started at a time, if its interval is not empty. -/
def start? (now interval : Nat) : Option Ticker :=
  if h : 0 < interval then some ⟨interval, h, now + interval⟩ else none

/-- The number of ticks that are due. -/
def due (ticker : Ticker) (now : Nat) : Nat :=
  if now < ticker.next then 0 else (now - ticker.next) / ticker.interval + 1

/-- The ticker after some ticks. -/
def skip (ticker : Ticker) (ticks : Nat) : Ticker :=
  { ticker with next := ticker.next + ticks * ticker.interval }

/-- The ticker after all ticks that are due. -/
def catchUp (ticker : Ticker) (now : Nat) : Ticker :=
  ticker.skip (ticker.due now)

end Ticker

end ContainerBoard
