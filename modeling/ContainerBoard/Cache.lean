import ContainerBoard.KeyTable
import ContainerBoard.Record.Host

/-!
# The result cache

The cache keeps results of slow operations for some time.  An entry that has
expired reads as absent, and it is dropped by the next purge.  Times are
milliseconds.
-/

namespace ContainerBoard

/-- What a cached result is the result of. -/
inductive CacheKey where
  | pruneReport
  deriving DecidableEq, Repr

/-- A cached result. -/
inductive CachedValue where
  | pruneReport (report : PruneReport)
  deriving DecidableEq

def CachedValue.key : CachedValue → CacheKey
  | .pruneReport _ => .pruneReport

/-- A value with the time at which it expires. -/
structure CacheEntry where
  value : CachedValue
  expiry : Nat
  deriving DecidableEq

def CacheEntry.isExpired (entry : CacheEntry) (now : Nat) : Bool :=
  entry.expiry ≤ now

/-- The clock cannot tell the time at which an entry would expire. -/
structure ClockOverflow where
  deriving DecidableEq, Repr

/-- How the program tells that its clock overflows. -/
def ClockOverflow.message (_ : ClockOverflow) : String :=
  "overflow when adding duration to instant"

/-- Results of slow operations. -/
structure Cache where
  entries : KeyTable CacheKey CacheEntry := .empty
  deriving DecidableEq, Inhabited

namespace Cache

/-- The first time that the clock cannot tell: its seconds are a signed 64
bit number. -/
def horizon : Nat := 500 * UInt64.size

/-- Keeps a value for some time, instead of the value that was under its
key. -/
def put (cache : Cache) (value : CachedValue) (ttl now : Nat) :
    Except ClockOverflow Cache :=
  if now + ttl < horizon then
    .ok ⟨cache.entries.insert value.key ⟨value, now + ttl⟩⟩
  else .error ⟨⟩

/-- The value under a key, unless it has expired. -/
def get (cache : Cache) (key : CacheKey) (now : Nat) : Option CachedValue :=
  match cache.entries.get? key with
  | some entry => if entry.isExpired now then none else some entry.value
  | none => none

/-- The last report of a prune, unless it has expired. -/
def pruneReport (cache : Cache) (now : Nat) : Option PruneReport :=
  match cache.get .pruneReport now with
  | some (.pruneReport report) => some report
  | none => none

def remove (cache : Cache) (key : CacheKey) : Option CachedValue × Cache :=
  ((cache.entries.get? key).map CacheEntry.value, ⟨cache.entries.erase key⟩)

/-- Drops the entries that have expired. -/
def purge (cache : Cache) (now : Nat) : Cache :=
  ⟨cache.entries.filter fun _ entry => !entry.isExpired now⟩

/-- The number of entries, expired ones included. -/
def size (cache : Cache) : Nat :=
  cache.entries.size

/-- The number of entries that a purge drops. -/
def purgeable (cache : Cache) (now : Nat) : Nat :=
  cache.size - (cache.purge now).size

end Cache

end ContainerBoard
