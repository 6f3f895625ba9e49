import ContainerBoard.Proofs.KeyTable
import ContainerBoard.TendedCache

/-!
# What a cache stores

An entry stays stored when its time is over, and is dropped by the next purge or by a write
to its key.  Tending the cache drops nothing else, so no entry is lost while its value can
still be read.
-/

namespace ContainerBoard.TendedCache

/-- The entry that is stored under a key, whether or not its time is over. -/
def stored? (t : TendedCache) (key : CacheKey) : Option CacheEntry :=
  t.cache.bind fun cache => cache.entries.get? key

theorem stored?_congr {t t' : TendedCache} (h : t'.cache = t.cache) (key : CacheKey) :
    t'.stored? key = t.stored? key := by
  rw [stored?, stored?, h]

/-- A removal does not look at the time. -/
theorem remove_eq_stored? (t : TendedCache) (key : CacheKey) :
    (t.remove key).1 = (t.stored? key).map CacheEntry.value := by
  rw [remove, stored?]
  cases t.cache with
  | none => rfl
  | some cache => rfl

/-! ## Writing -/

theorem stored?_put
    (t : TendedCache) (value : CachedValue) (ttl : Nat) (key : CacheKey) :
    (t.put value ttl).2.stored? key =
      if t.cache.isSome ∧ t.clock + ttl < Cache.horizon ∧ value.key = key then
        some ⟨value, t.clock + ttl⟩
      else t.stored? key := by
  rw [put, stored?, stored?]
  cases hcache : t.cache with
  | none => simp [hcache]
  | some cache =>
      by_cases hfits : t.clock + ttl < Cache.horizon
      · simp [Cache.put, hfits, KeyTable.get?_insert]
      · simp [Cache.put, hfits, hcache]

theorem clock_put (t : TendedCache) (value : CachedValue) (ttl : Nat) :
    (t.put value ttl).2.clock = t.clock := by
  rw [put]
  split
  · rfl
  · split <;> rfl

theorem isSome_put (t : TendedCache) (value : CachedValue) (ttl : Nat) :
    (t.put value ttl).2.cache.isSome = t.cache.isSome := by
  rw [put]
  split
  · rfl
  · rename_i cache hcache
    split <;> simp [hcache]

theorem janitors_put (t : TendedCache) (value : CachedValue) (ttl : Nat) :
    (t.put value ttl).2.janitors = t.janitors := by
  rw [put]
  split
  · rfl
  · split <;> rfl

theorem put_of_none {t : TendedCache} (h : t.cache = none) (value : CachedValue) (ttl : Nat) :
    (t.put value ttl).2 = t := by
  rw [put, h]

theorem stored?_remove (t : TendedCache) (removed key : CacheKey) :
    (t.remove removed).2.stored? key = if key = removed then none else t.stored? key := by
  rw [remove, stored?, stored?]
  cases hcache : t.cache with
  | none => simp [hcache]
  | some cache => exact cache.entries.get?_erase removed key

theorem clock_remove (t : TendedCache) (key : CacheKey) :
    (t.remove key).2.clock = t.clock := by
  rw [remove]
  split <;> rfl

theorem isSome_remove (t : TendedCache) (key : CacheKey) :
    (t.remove key).2.cache.isSome = t.cache.isSome := by
  rw [remove]
  split
  · rfl
  · rename_i cache hcache
    simp [hcache]

theorem janitors_remove (t : TendedCache) (key : CacheKey) :
    (t.remove key).2.janitors = t.janitors := by
  rw [remove]
  split <;> rfl

theorem remove_of_none {t : TendedCache} (h : t.cache = none) (key : CacheKey) :
    (t.remove key).2 = t := by
  rw [remove, h]

/-! ## Purging -/

/-- Entries were only dropped, and only such whose time was over. -/
structure Sheds (clock : Nat) (t t' : TendedCache) : Prop where
  isSome : t'.cache.isSome = t.cache.isSome
  stored : ∀ key entry, t'.stored? key = some entry → t.stored? key = some entry
  spared : ∀ key entry,
    t.stored? key = some entry → clock < entry.expiry → t'.stored? key = some entry

/-- No entry is stored whose time is over. -/
def IsSwept (clock : Nat) (t : TendedCache) : Prop :=
  ∀ key entry, t.stored? key = some entry → clock < entry.expiry

section

variable {clock later : Nat} {t t' t'' : TendedCache}

theorem sheds_of_cache (clock : Nat) (h : t'.cache = t.cache) : Sheds clock t t' where
  isSome := congrArg Option.isSome h
  stored key _ hentry := stored?_congr h key ▸ hentry
  spared key _ hentry _ := (stored?_congr h key).trans hentry

theorem Sheds.trans (h : Sheds clock t t') (h' : Sheds clock t' t'') : Sheds clock t t'' where
  isSome := h'.isSome.trans h.isSome
  stored key entry hentry := h.stored key entry (h'.stored key entry hentry)
  spared key entry hentry hlive :=
    h'.spared key entry (h.spared key entry hentry hlive) hlive

theorem Sheds.mono (h : Sheds clock t t') (hlater : clock ≤ later) : Sheds later t t' where
  isSome := h.isSome
  stored := h.stored
  spared key entry hentry hlive := h.spared key entry hentry (Nat.lt_of_le_of_lt hlater hlive)

/-- What can be read is neither lost nor made up. -/
theorem Sheds.filter_stored? (h : Sheds clock t t') (hlater : clock ≤ later) (key : CacheKey) :
    ((t'.stored? key).filter fun entry => later < entry.expiry) =
      (t.stored? key).filter fun entry => later < entry.expiry := by
  ext entry
  rw [Option.filter_eq_some_iff, Option.filter_eq_some_iff, decide_eq_true_eq]
  constructor
  · rintro ⟨hentry, hlive⟩
    exact ⟨h.stored key entry hentry, hlive⟩
  · rintro ⟨hentry, hlive⟩
    exact ⟨(h.mono hlater).spared key entry hentry hlive, hlive⟩

theorem IsSwept.of_sheds (hswept : IsSwept clock t) (h : Sheds clock t t') :
    IsSwept clock t' :=
  fun key entry hentry => hswept key entry (h.stored key entry hentry)

end

theorem clock_purge (t : TendedCache) : t.purge.2.clock = t.clock := by
  rw [purge]
  split <;> rfl

theorem isSome_purge (t : TendedCache) : t.purge.2.cache.isSome = t.cache.isSome := by
  rw [purge]
  split
  · rfl
  · rename_i cache hcache
    simp [hcache]

theorem janitors_purge (t : TendedCache) : t.purge.2.janitors = t.janitors := by
  rw [purge]
  split <;> rfl

theorem purge_of_none {t : TendedCache} (h : t.cache = none) : t.purge.2 = t := by
  rw [purge, h]

/-- A purge drops what has expired, at the very instant at which it expires. -/
theorem stored?_purge (t : TendedCache) (key : CacheKey) :
    t.purge.2.stored? key = (t.stored? key).filter fun entry => t.clock < entry.expiry := by
  rw [purge, stored?, stored?]
  cases hcache : t.cache with
  | none => simp [hcache]
  | some cache =>
      change (cache.entries.filter _).get? key = (cache.entries.get? key).filter _
      rw [KeyTable.get?_filter]
      congr 1
      funext entry
      simp only [CacheEntry.isExpired, ← decide_not, Nat.not_le]

theorem sheds_purge (t : TendedCache) : Sheds t.clock t t.purge.2 where
  isSome := t.isSome_purge
  stored key entry hentry := by
    rw [stored?_purge] at hentry
    exact (Option.filter_eq_some_iff.mp hentry).1
  spared key entry hentry hlive := by
    rw [stored?_purge, hentry]
    exact Option.filter_eq_some_iff.mpr ⟨rfl, decide_eq_true hlive⟩

theorem isSwept_purge (t : TendedCache) : IsSwept t.clock t.purge.2 := by
  intro key entry hentry
  rw [stored?_purge] at hentry
  exact of_decide_eq_true (Option.filter_eq_some_iff.mp hentry).2

/-! ## Tending -/

/-- The turn of a janitor is a purge if its tick is due, and otherwise does nothing. -/
theorem cache_janitor_run (janitor : Janitor) (t : TendedCache) (clock : Nat) :
    (janitor.run t.cache clock).cache =
      if janitor.isDue clock then { t with clock }.purge.2.cache else t.cache := by
  rw [purge]
  cases janitor with
  | finished => rfl
  | working ticker =>
      by_cases hdue : ticker.next ≤ clock
      · cases hcache : t.cache <;> simp [Janitor.run, Janitor.isDue, hdue]
      · cases hcache : t.cache <;> simp [Janitor.run, Janitor.isDue, hdue]

theorem sheds_janitor_run (janitor : Janitor) (t : TendedCache) (clock : Nat) :
    Sheds clock t { t with cache := (janitor.run t.cache clock).cache } := by
  have hcache := cache_janitor_run janitor t clock
  by_cases hdue : janitor.isDue clock = true
  · rw [if_pos hdue] at hcache
    have hsame : Sheds clock t { t with clock } := sheds_of_cache clock rfl
    have hpurge := sheds_purge { t with clock }
    exact (hsame.trans hpurge).trans (sheds_of_cache clock hcache)
  · rw [if_neg hdue] at hcache
    exact sheds_of_cache clock hcache

theorem isSwept_janitor_run
    {janitor : Janitor} {clock : Nat} (t : TendedCache) (hdue : janitor.isDue clock = true) :
    IsSwept clock { t with cache := (janitor.run t.cache clock).cache } := by
  have hcache := cache_janitor_run janitor t clock
  rw [if_pos hdue] at hcache
  exact (isSwept_purge { t with clock }).of_sheds (sheds_of_cache clock hcache)

theorem sheds_runJanitors (clock : Nat) (janitors : List Janitor) (t : TendedCache) :
    Sheds clock t { t with cache := (runJanitors clock janitors t.cache).2.1 } := by
  induction janitors generalizing t with
  | nil => exact sheds_of_cache clock rfl
  | cons janitor rest ih =>
      exact (sheds_janitor_run janitor t clock).trans
        (ih { t with cache := (janitor.run t.cache clock).cache })

/-- One tick that is due is enough for all that has expired to be dropped. -/
theorem isSwept_runJanitors
    {clock : Nat} {janitors : List Janitor} {janitor : Janitor} (t : TendedCache)
    (hmem : janitor ∈ janitors) (hdue : janitor.isDue clock = true) :
    IsSwept clock { t with cache := (runJanitors clock janitors t.cache).2.1 } := by
  induction janitors generalizing t with
  | nil => cases hmem
  | cons first rest ih =>
      let afterFirst := { t with cache := (first.run t.cache clock).cache }
      rcases List.mem_cons.mp hmem with rfl | hrest
      · exact (isSwept_janitor_run t hdue).of_sheds (sheds_runJanitors clock rest afterFirst)
      · exact ih afterFirst hrest

/-- The janitors have their turns at a time. -/
theorem sheds_settle (t : TendedCache) (clock : Nat) :
    Sheds clock t { t with clock }.settle :=
  (sheds_runJanitors clock t.janitors t).trans (sheds_of_cache clock rfl)

/-- What the turns of the janitors keep up to a time is kept while the clock passes. -/
theorem passTo_induction
    {P : TendedCache → Prop} {target : Nat}
    (hturn : ∀ t clock, clock ≤ target → P t → P { t with clock }.settle)
    (fuel : Nat) {t : TendedCache} (h : P t) : P (passTo target fuel t) := by
  induction fuel generalizing t with
  | zero => exact hturn t target (Nat.le_refl target) h
  | succ fuel ih =>
      rw [passTo]
      split
      · exact hturn t target (Nat.le_refl target) h
      · rename_i tick _
        split
        · rename_i hle
          exact ih (hturn t tick hle h)
        · exact hturn t target (Nat.le_refl target) h

/-- All purges on the way to a time are made by then. -/
theorem sheds_passTo (target fuel : Nat) (t : TendedCache) :
    Sheds target t (passTo target fuel t) := by
  refine passTo_induction ?_ fuel (sheds_of_cache target rfl)
  intro t' clock hclock h
  exact h.trans ((t'.sheds_settle clock).mono hclock)

theorem clock_passTo (target fuel : Nat) (t : TendedCache) :
    (passTo target fuel t).clock = target := by
  induction fuel generalizing t with
  | zero => rfl
  | succ fuel ih =>
      rw [passTo]
      split
      · rfl
      · split
        · exact ih _
        · rfl

end ContainerBoard.TendedCache
