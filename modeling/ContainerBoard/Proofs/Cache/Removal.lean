import ContainerBoard.Proofs.Cache.LastWrite

/-!
# What a removal gives

A removal takes the stored entry out of the cache and gives its value, whether or not the
value could still be read.  So it gives what a look into the cache gives, unless the entry
has expired and no purge has come by since.  Only in that case can the time of the purges
be told from what is removed.
-/

namespace ContainerBoard.TendedCache

theorem get_eq_stored? (t : TendedCache) (key : CacheKey) :
    t.get key =
      ((t.stored? key).filter fun entry => t.clock < entry.expiry).map CacheEntry.value :=
  t.readAt_eq_stored? key t.clock

/-- A removal and a look tell the same apart from an entry that has expired. -/
theorem remove_eq_get_iff (t : TendedCache) (key : CacheKey) :
    (t.remove key).1 = t.get key ↔
      ∀ entry, t.stored? key = some entry → t.clock < entry.expiry := by
  rw [remove_eq_stored?, get_eq_stored?]
  rcases t.stored? key with _ | entry
  · simp
  · by_cases hlive : t.clock < entry.expiry <;> simp [Option.filter, hlive]

/-- What can be read is what would be removed. -/
theorem remove_of_get {t : TendedCache} {key : CacheKey} {value : CachedValue}
    (h : t.get key = some value) : (t.remove key).1 = some value := by
  rw [get_eq_stored?, Option.map_eq_some_iff] at h
  obtain ⟨entry, hentry, rfl⟩ := h
  rw [remove_eq_stored?, (Option.filter_eq_some_iff.mp hentry).1]
  rfl

theorem remove_purge (t : TendedCache) (key : CacheKey) :
    (t.purge.2.remove key).1 = t.get key := by
  rw [remove_eq_stored?, stored?_purge, get_eq_stored?]

namespace Run

/-- Under a key stands nothing but what the last write put there. -/
def StoresLastPut (key : CacheKey) (moves : List Move) (r : Run) : Prop :=
  ∀ entry, r.cache.stored? key = some entry → LastPut key entry.value entry.expiry moves

variable {key : CacheKey} {moves : List Move} {r : Run}

theorem storesLastPut_put
    (h : StoresLastPut key moves r) (hclock : r.cache.clock = time moves)
    (hsome : r.cache.cache.isSome = true) {value : CachedValue} {ttl : Nat}
    (hfits : time moves + ttl < Cache.horizon) :
    StoresLastPut key (moves ++ [.put value ttl]) (r.step (.put value ttl)) := by
  intro entry hentry
  change (r.cache.put value ttl).2.stored? key = some entry at hentry
  rw [stored?_put, hclock] at hentry
  rw [lastPut_append_singleton]
  by_cases hkey : value.key = key
  · rw [if_pos ⟨hsome, hfits, hkey⟩] at hentry
    obtain rfl : ⟨value, time moves + ttl⟩ = entry := Option.some.inj hentry
    exact .inl ⟨ttl, rfl, hkey, rfl⟩
  · rw [if_neg fun hall => hkey hall.2.2] at hentry
    exact .inr ⟨decide_eq_false hkey, h entry hentry⟩

theorem storesLastPut_remove (h : StoresLastPut key moves r) (removed : CacheKey) :
    StoresLastPut key (moves ++ [.remove removed]) (r.step (.remove removed)) := by
  intro entry hentry
  change (r.cache.remove removed).2.stored? key = some entry at hentry
  rw [stored?_remove] at hentry
  rw [lastPut_append_singleton]
  by_cases hkey : key = removed
  · rw [if_pos hkey] at hentry
    cases hentry
  · rw [if_neg hkey] at hentry
    exact .inr ⟨decide_eq_false (Ne.symm hkey), h entry hentry⟩

/-- No move but a put stores an entry. -/
theorem storesLastPut_of_not_writes
    (h : StoresLastPut key moves r) {move : Move} (hput : ∀ value ttl, move ≠ .put value ttl)
    (hremove : ∀ key, move ≠ .remove key) (hwrites : move.writes key = false) :
    StoresLastPut key (moves ++ [move]) (r.step move) := by
  intro entry hentry
  rw [lastPut_append_singleton]
  exact .inr ⟨hwrites, h entry ((r.sheds_step hput hremove).stored key entry hentry)⟩

theorem storesLastPut_ofMoves
    (key : CacheKey) {moves : List Move} (hfits : fitFrom 0 moves = true) :
    StoresLastPut key moves (ofMoves moves) := by
  induction moves using List.reverseRecOn with
  | nil =>
      intro entry hentry
      cases hentry
  | append_singleton moves move ih =>
      rw [fitFrom_append, Nat.zero_add, Bool.and_eq_true] at hfits
      obtain ⟨hmoves, hmove⟩ := hfits
      rw [ofMoves_append_singleton]
      cases move with
      | put value ttl =>
          have hroom : time moves + ttl < Cache.horizon := by
            simpa [fitFrom, Move.fits] using hmove
          exact storesLastPut_put (ih hmoves) (clock_ofMoves moves) (isSome_ofMoves moves) hroom
      | remove removed => exact storesLastPut_remove (ih hmoves) removed
      | _ => exact storesLastPut_of_not_writes (ih hmoves) (by simp) (by simp) rfl

/-! ## The main result -/

/-- A removal gives the value that was put last, if it is still stored.  That is what a look
would have given at that instant exactly if the entry has not expired; else the look gives
nothing.  Right after a purge the two always agree, and a value that can be read is removed
alike in all histories that differ only in how the cache was tended. -/
theorem removal_gives_what_is_stored
    (moves : List Move) (hfits : fitFrom 0 moves = true) (key : CacheKey) :
    let r := ofMoves moves
    let removed := (r.cache.remove key).1
    (removed = r.cache.get key ↔
      ∀ entry, r.cache.stored? key = some entry → time moves < entry.expiry) ∧
    (removed = none → r.cache.get key = none) ∧
    (∀ value, removed = some value →
      ∃ expiry, LastPut key value expiry moves ∧
        r.cache.get key = if time moves < expiry then some value else none) ∧
    (r.cache.purge.2.remove key).1 = r.cache.get key ∧
    (∀ value, r.cache.get key = some value →
      ∀ moves', (moves'.filter fun move => !move.isTending) =
          (moves.filter fun move => !move.isTending) →
        ((ofMoves moves').cache.remove key).1 = some value) := by
  intro r removed
  have hclock : r.cache.clock = time moves := clock_ofMoves moves
  have hremoved : removed = (r.cache.stored? key).map CacheEntry.value :=
    r.cache.remove_eq_stored? key
  have hget := r.cache.get_eq_stored? key
  rw [hclock] at hget
  refine ⟨?_, ?_, ?_, r.cache.remove_purge key, ?_⟩
  · rw [← hclock]
    exact r.cache.remove_eq_get_iff key
  · intro hnone
    rw [hnone, eq_comm, Option.map_eq_none_iff] at hremoved
    rw [hget, hremoved]
    rfl
  · intro value hvalue
    rw [hvalue, eq_comm, Option.map_eq_some_iff] at hremoved
    obtain ⟨entry, hentry, rfl⟩ := hremoved
    refine ⟨entry.expiry, storesLastPut_ofMoves key hfits entry hentry, ?_⟩
    rw [hget, hentry]
    by_cases hlive : time moves < entry.expiry <;> simp [Option.filter, hlive]
  · intro value hvalue moves' hsame
    have halike := (alike_of_filter_eq hsame).2 key
    exact remove_of_get (halike.trans hvalue)

/-- At the very instant at which a value expires it is removed but not read, until a purge
comes by. -/
theorem removal_at_the_expiry :
    let report : CachedValue := .pruneReport { reclaimed := 2 }
    let moves : List Move := [.hire 4000, .put report 5000, .advance 4000, .elapse 1000]
    let cache := (ofMoves moves).cache
    fitFrom 0 moves = true ∧
      (cache.remove .pruneReport).1 ≠ cache.get .pruneReport ∧
      (cache.purge.2.remove .pruneReport).1 = cache.get .pruneReport := by
  intro report moves cache
  have hfits : fitFrom 0 moves = true := by decide
  obtain ⟨hagree, -, -, hpurged, -⟩ := removal_gives_what_is_stored moves hfits .pruneReport
  refine ⟨hfits, fun heq => ?_, hpurged⟩
  have hlive := hagree.mp heq ⟨report, 5000⟩ (by decide)
  exact absurd hlive (by decide)

/-- An expired value that is removed although nobody can read it.  Had the cache been purged
before, nothing would have been removed. -/
theorem expired_value_removed :
    let report : CachedValue := .pruneReport { reclaimed := 1 }
    let moves : List Move := [.put report 5000, .advance 5000]
    (ofMoves moves).cache.get .pruneReport = none ∧
      ((ofMoves moves).cache.remove .pruneReport).1 = some report ∧
      ((ofMoves (moves ++ [.purge])).cache.remove .pruneReport).1 = none := by
  decide

end Run

end ContainerBoard.TendedCache
