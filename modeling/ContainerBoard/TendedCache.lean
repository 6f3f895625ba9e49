import ContainerBoard.Janitor

/-!
# A cache with its janitors

A result cache together with the clock and the janitors that purge it.  The
clock either jumps, and the janitors make up for what they missed, or it
passes from one purge to the next.
-/

namespace ContainerBoard

/-- A cache with its janitors and the clock. -/
structure TendedCache where
  /-- The cache, until it is dropped. -/
  cache : Option Cache := some {}
  /-- The janitors, last one first. -/
  janitors : List Janitor := []
  /-- The time in milliseconds. -/
  clock : Nat := 0
  journal : Journal := []
  deriving Inhabited

namespace TendedCache

/-- Keeps a value for some time. -/
def put (t : TendedCache) (value : CachedValue) (ttl : Nat) :
    Except ClockOverflow Unit × TendedCache :=
  match t.cache with
  | none => (.ok (), t)
  | some cache =>
    match cache.put value ttl t.clock with
    | .ok cache => (.ok (), { t with cache := some cache })
    | .error overflow => (.error overflow, t)

/-- The value under a key, unless it has expired. -/
def get (t : TendedCache) (key : CacheKey) : Option CachedValue :=
  t.cache.bind fun cache => cache.get key t.clock

/-- The last report of a prune, unless it has expired. -/
def pruneReport (t : TendedCache) : Option PruneReport :=
  t.cache.bind fun cache => cache.pruneReport t.clock

/-- Takes the value under a key out of the cache. -/
def remove (t : TendedCache) (key : CacheKey) : Option CachedValue × TendedCache :=
  match t.cache with
  | none => (none, t)
  | some cache =>
    let (value, cache) := cache.remove key
    (value, { t with cache := some cache })

/-- Drops the entries that have expired; tells how many. -/
def purge (t : TendedCache) : Nat × TendedCache :=
  match t.cache with
  | none => (0, t)
  | some cache => (cache.purgeable t.clock, { t with cache := some (cache.purge t.clock) })

/-- A janitor begins. -/
def hire (t : TendedCache) (interval : Nat) : TendedCache :=
  { t with janitors := .start t.clock interval :: t.janitors }

/-- The last janitor is dismissed; says whether there was one. -/
def dismiss (t : TendedCache) : Bool × TendedCache :=
  match t.janitors with
  | [] => (false, t)
  | _ :: rest => (true, { t with janitors := .finished :: rest })

/-- The cache goes away; says whether it was there. -/
def drop (t : TendedCache) : Bool × TendedCache :=
  (t.cache.isSome, { t with cache := none })

/-- Gives janitors their turns one after the other. -/
def runJanitors (clock : Nat) :
    List Janitor → Option Cache → List Janitor × Option Cache × List LogLine
  | [], cache => ([], cache, [])
  | janitor :: rest, cache =>
    let turn := janitor.run cache clock
    let (rest, cache, log) := runJanitors clock rest turn.cache
    (turn.janitor :: rest, cache, turn.log ++ log)

def settle (t : TendedCache) : TendedCache :=
  let (janitors, cache, log) := runJanitors t.clock t.janitors t.cache
  { t with janitors, cache, journal := log.reverse ++ t.journal }

/-- The time of the next purge. -/
def nextTick? (t : TendedCache) : Option Nat :=
  (t.janitors.filterMap Janitor.nextTick?).min?

/-- The clock jumps. -/
def advance (t : TendedCache) (time : Nat) : TendedCache :=
  { t with clock := t.clock + time }.settle

/-- The clock passes from purge to purge up to a time.  Purges are at least a
millisecond apart, which bounds their number. -/
def passTo (target : Nat) : (fuel : Nat) → TendedCache → TendedCache
  | 0, t => { t with clock := target }.settle
  | fuel + 1, t =>
    match t.nextTick? with
    | none => { t with clock := target }.settle
    | some tick =>
      if tick ≤ target then passTo target fuel { t with clock := tick }.settle
      else { t with clock := target }.settle

/-- The clock passes. -/
def pass (t : TendedCache) (time : Nat) : TendedCache :=
  passTo (t.clock + time) (time + 1) t

end TendedCache

end ContainerBoard
