import ContainerBoard.Cache
import ContainerBoard.LogLine
import ContainerBoard.Ticker

/-!
# The janitor

The janitor purges the cache at fixed intervals until the cache is gone or
the janitor is dismissed.  Purges that were missed are made up for by one.
-/

namespace ContainerBoard

/-- Purges a cache at fixed intervals. -/
inductive Janitor where
  | working (ticker : Ticker)
  | finished
  deriving DecidableEq, Repr

namespace Janitor

/-- A janitor that begins at a time.  One without an interval does not begin
at all. -/
def start (now interval : Nat) : Janitor :=
  match Ticker.start? now interval with
  | some ticker => .working ticker
  | none => .finished

def isFinished : Janitor → Bool
  | working _ => false
  | finished => true

def nextTick? : Janitor → Option Nat
  | working ticker => some ticker.next
  | finished => none

def isDue : Janitor → Nat → Bool
  | working ticker, now => ticker.next ≤ now
  | finished, _ => false

/-- What the log says about a purge. -/
def purgeLog (cache : Cache) (now : Nat) : List LogLine :=
  if cache.purgeable now = 0 then []
  else
    [.debug ("Result cache purged " ++ (cache.purgeable now).repr ++ " expired entries")]

/-- What is left after a turn of the janitor. -/
structure Turn where
  janitor : Janitor
  cache : Option Cache
  log : List LogLine

/-- Does the purge that is due; finds out then that the cache is gone. -/
def run (janitor : Janitor) (cache : Option Cache) (now : Nat) : Turn :=
  match janitor, cache with
  | finished, cache => ⟨finished, cache, []⟩
  | working ticker, some cache =>
    if ticker.next ≤ now then
      ⟨working (ticker.catchUp now), some (cache.purge now), purgeLog cache now⟩
    else ⟨working ticker, some cache, []⟩
  | working ticker, none =>
    if ticker.next ≤ now then ⟨finished, none, []⟩ else ⟨working ticker, none, []⟩

end Janitor

end ContainerBoard
