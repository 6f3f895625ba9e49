import ContainerBoard.Proofs.Cache.Entries

/-!
# Reading a cache

What is read under a key, now or at any later time.  Putting and removing a value
change that; purges do not, since they drop only what has expired by then.
-/

namespace ContainerBoard

theorem Cache.get_eq (cache : Cache) (key : CacheKey) (now : Nat) :
    cache.get key now =
      ((cache.entries.get? key).filter fun entry => now < entry.expiry).map
        CacheEntry.value := by
  unfold get CacheEntry.isExpired
  cases cache.entries.get? key with
  | none => rfl
  | some entry =>
      by_cases hnow : now < entry.expiry
      · simp [Option.filter, hnow, Nat.not_le_of_lt hnow]
      · simp [Option.filter, hnow, Nat.le_of_not_lt hnow]

namespace TendedCache

/-- The value under a key as it would be read at a time, if nothing else
happened until then. -/
def readAt (t : TendedCache) (key : CacheKey) (now : Nat) : Option CachedValue :=
  t.cache.bind fun cache => cache.get key now

theorem get_eq_readAt (t : TendedCache) (key : CacheKey) :
    t.get key = t.readAt key t.clock := rfl

/-- An entry is read as long as its time is not over. -/
theorem readAt_eq_stored? (t : TendedCache) (key : CacheKey) (now : Nat) :
    t.readAt key now =
      ((t.stored? key).filter fun entry => now < entry.expiry).map CacheEntry.value := by
  rw [readAt, stored?]
  cases t.cache with
  | none => rfl
  | some cache => exact cache.get_eq key now

theorem pruneReport_eq_some_iff (t : TendedCache) (report : PruneReport) :
    t.pruneReport = some report ↔ t.get .pruneReport = some (.pruneReport report) := by
  unfold pruneReport get
  cases t.cache with
  | none => simp
  | some cache =>
      change cache.pruneReport t.clock = some report ↔
        cache.get .pruneReport t.clock = some (.pruneReport report)
      unfold Cache.pruneReport
      rcases cache.get .pruneReport t.clock with _ | found
      · simp
      · cases found
        simp

/-! ## Writing -/

/-- A value is read until its time is over, unless the clock overflows. -/
theorem readAt_put
    (t : TendedCache) (value : CachedValue) (ttl : Nat) (key : CacheKey) (now : Nat) :
    (t.put value ttl).2.readAt key now =
      if t.cache.isSome ∧ t.clock + ttl < Cache.horizon ∧ value.key = key then
        if now < t.clock + ttl then some value else none
      else t.readAt key now := by
  rw [readAt_eq_stored?, readAt_eq_stored?, stored?_put]
  split
  · by_cases hnow : now < t.clock + ttl <;> simp [Option.filter, hnow]
  · rfl

theorem readAt_remove (t : TendedCache) (removed key : CacheKey) (now : Nat) :
    (t.remove removed).2.readAt key now =
      if key = removed then none else t.readAt key now := by
  rw [readAt_eq_stored?, readAt_eq_stored?, stored?_remove]
  split <;> rfl

/-! ## Tending -/

/-- From a time on, everything is read as before. -/
structure KeepsReads (since : Nat) (t t' : TendedCache) : Prop where
  isSome : t'.cache.isSome = t.cache.isSome
  readAt : ∀ key now, since ≤ now → t'.readAt key now = t.readAt key now

theorem KeepsReads.trans
    {since : Nat} {t t' t'' : TendedCache}
    (h : KeepsReads since t t') (h' : KeepsReads since t' t'') : KeepsReads since t t'' :=
  ⟨h'.isSome.trans h.isSome,
    fun key now hnow => (h'.readAt key now hnow).trans (h.readAt key now hnow)⟩

/-- What only expired entries are dropped from is read as before. -/
theorem Sheds.keepsReads {clock : Nat} {t t' : TendedCache} (h : Sheds clock t t') :
    KeepsReads clock t t' where
  isSome := h.isSome
  readAt key now hnow := by
    rw [readAt_eq_stored?, readAt_eq_stored?, h.filter_stored? hnow]

/-- Only what is in the cache is read. -/
theorem keepsReads_of_cache
    {t t' : TendedCache} (since : Nat) (h : t'.cache = t.cache) : KeepsReads since t t' :=
  (sheds_of_cache since h).keepsReads

end TendedCache

end ContainerBoard
