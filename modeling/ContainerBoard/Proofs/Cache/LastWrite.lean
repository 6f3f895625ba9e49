import ContainerBoard.Proofs.Cache.History

/-!
# The last write decides

What a cache gives is said by its history alone: the value that was put last, if
it was not removed since and its time is not over.  So nobody can tell when the
cache was purged, or whether it was at all.
-/

namespace ContainerBoard.TendedCache

/-- The last write to a key put a value under it that expires at a time. -/
def LastPut (key : CacheKey) (value : CachedValue) (expiry : Nat) (moves : List Move) :
    Prop :=
  ∃ before ttl later,
    moves = before ++ .put value ttl :: later ∧ value.key = key ∧
      (∀ move ∈ later, move.writes key = false) ∧ expiry = time before + ttl

theorem not_lastPut_nil (key : CacheKey) (value : CachedValue) (expiry : Nat) :
    ¬ LastPut key value expiry [] := by
  rintro ⟨before, ttl, later, hmoves, -⟩
  simp at hmoves

theorem lastPut_append_singleton
    (key : CacheKey) (value : CachedValue) (expiry : Nat) (moves : List Move) (move : Move) :
    LastPut key value expiry (moves ++ [move]) ↔
      (∃ ttl, move = .put value ttl ∧ value.key = key ∧ expiry = time moves + ttl) ∨
        (move.writes key = false ∧ LastPut key value expiry moves) := by
  constructor
  · rintro ⟨before, ttl, later, hmoves, hkey, hlater, hexpiry⟩
    -- the put is the new move itself, or the new move comes after it
    rcases List.eq_nil_or_concat later with rfl | ⟨front, last, rfl⟩
    · obtain ⟨rfl, hmove⟩ := List.append_inj' hmoves rfl
      exact .inl ⟨ttl, by simpa using hmove, hkey, hexpiry⟩
    · have hsplit : moves ++ [move] = (before ++ .put value ttl :: front) ++ [last] := by
        simpa using hmoves
      obtain ⟨rfl, hlast⟩ := List.append_inj' hsplit rfl
      obtain rfl : move = last := by simpa using hlast
      exact .inr ⟨hlater move (by simp),
        before, ttl, front, rfl, hkey, fun m hm => hlater m (by simp [hm]), hexpiry⟩
  · rintro (⟨ttl, rfl, hkey, hexpiry⟩ | ⟨hmove, before, ttl, later, rfl, hkey, hlater, hexpiry⟩)
    · exact ⟨moves, ttl, [], rfl, hkey, by simp, hexpiry⟩
    · refine ⟨before, ttl, later ++ [move], by simp, hkey, ?_, hexpiry⟩
      intro m hm
      rcases List.mem_append.mp hm with hm | hm
      · exact hlater m hm
      · rwa [List.mem_singleton.mp hm]

namespace Run

/-- Under a key, what can be read is what the last write put there, until its time
is over. -/
def ReadsLastPut (key : CacheKey) (moves : List Move) (r : Run) : Prop :=
  ∀ value now, time moves ≤ now →
    (r.cache.readAt key now = some value ↔
      ∃ expiry, LastPut key value expiry moves ∧ now < expiry)

theorem readsLastPut_nil (key : CacheKey) : ReadsLastPut key [] {} := by
  intro value now _
  constructor
  · intro h
    cases h
  · rintro ⟨expiry, hlast, -⟩
    exact absurd hlast (not_lastPut_nil key value expiry)

variable {key : CacheKey} {moves : List Move} {r : Run}

theorem readsLastPut_of_not_writes
    (h : ReadsLastPut key moves r) (hclock : r.cache.clock = time moves) {move : Move}
    (hwrites : move.writes key = false) :
    ReadsLastPut key (moves ++ [move]) (r.step move) := by
  intro value now hnow
  have hstep : (r.step move).cache.clock ≤ now := by
    rw [clock_step, hclock]
    simpa [time_append, time] using hnow
  have hbefore : time moves ≤ now := by
    rw [time_append] at hnow
    omega
  rw [readAt_step_of_not_writes r hwrites hstep, h value now hbefore]
  have hlast (expiry : Nat) := lastPut_append_singleton key value expiry moves move
  constructor
  · rintro ⟨expiry, hold, hlive⟩
    exact ⟨expiry, (hlast expiry).mpr (.inr ⟨hwrites, hold⟩), hlive⟩
  · rintro ⟨expiry, hnew, hlive⟩
    rcases (hlast expiry).mp hnew with ⟨ttl, rfl, hkey, -⟩ | ⟨-, hold⟩
    · exact absurd hkey (of_decide_eq_false hwrites)
    · exact ⟨expiry, hold, hlive⟩

theorem readsLastPut_put
    (hclock : r.cache.clock = time moves) (hsome : r.cache.cache.isSome = true)
    {value : CachedValue} {ttl : Nat} (hkey : value.key = key)
    (hfits : time moves + ttl < Cache.horizon) :
    ReadsLastPut key (moves ++ [.put value ttl]) (r.step (.put value ttl)) := by
  intro found now _
  have hlast (expiry : Nat) :=
    lastPut_append_singleton key found expiry moves (.put value ttl)
  change (r.cache.put value ttl).2.readAt key now = some found ↔ _
  rw [readAt_put, hclock, if_pos ⟨hsome, hfits, hkey⟩]
  constructor
  · intro h
    split at h
    · rename_i hlive
      obtain rfl : value = found := by simpa using h
      exact ⟨_, (hlast _).mpr (.inl ⟨ttl, rfl, hkey, rfl⟩), hlive⟩
    · cases h
  · rintro ⟨expiry, hnew, hlive⟩
    rcases (hlast expiry).mp hnew with ⟨ttl', hput, -, rfl⟩ | ⟨hwrites, -⟩
    · cases hput
      rw [if_pos hlive]
    · exact absurd hkey (of_decide_eq_false hwrites)

theorem readsLastPut_remove {removed : CacheKey} (hkey : removed = key) :
    ReadsLastPut key (moves ++ [.remove removed]) (r.step (.remove removed)) := by
  intro found now _
  have hlast (expiry : Nat) :=
    lastPut_append_singleton key found expiry moves (.remove removed)
  change (r.cache.remove removed).2.readAt key now = some found ↔ _
  rw [readAt_remove, if_pos hkey.symm]
  constructor
  · intro h
    cases h
  · rintro ⟨expiry, hnew, -⟩
    rcases (hlast expiry).mp hnew with ⟨ttl, hput, -⟩ | ⟨hwrites, -⟩
    · cases hput
    · exact absurd hkey (of_decide_eq_false hwrites)

/-- In every history that the clock can tell, the last write decides. -/
theorem readsLastPut_ofMoves
    (key : CacheKey) {moves : List Move} (hfits : fitFrom 0 moves = true) :
    ReadsLastPut key moves (ofMoves moves) := by
  induction moves using List.reverseRecOn with
  | nil => exact readsLastPut_nil key
  | append_singleton moves move ih =>
      rw [fitFrom_append, Nat.zero_add, Bool.and_eq_true] at hfits
      obtain ⟨hmoves, hmove⟩ := hfits
      rw [ofMoves_append_singleton]
      cases hwrites : move.writes key with
      | false => exact readsLastPut_of_not_writes (ih hmoves) (clock_ofMoves moves) hwrites
      | true =>
          cases move with
          | put value ttl =>
              have hroom : time moves + ttl < Cache.horizon := by
                simpa [fitFrom, Move.fits] using hmove
              exact readsLastPut_put (clock_ofMoves moves) (isSome_ofMoves moves)
                (of_decide_eq_true hwrites) hroom
          | remove removed => exact readsLastPut_remove (of_decide_eq_true hwrites)
          | _ => cases hwrites

/-! ## Purges are not noticed -/

/-- Two runs of which nobody can tell which one is which. -/
structure Alike (r r' : Run) : Prop where
  clock : r'.cache.clock = r.cache.clock
  reads : KeepsReads r.cache.clock r.cache r'.cache
  answers : r'.answers = r.answers

theorem alike_refl (r : Run) : Alike r r :=
  ⟨rfl, keepsReads_of_cache _ rfl, rfl⟩

theorem Alike.trans {r r' r'' : Run} (h : Alike r r') (h' : Alike r' r'') : Alike r r'' :=
  ⟨h'.clock.trans h.clock, h.reads.trans (h.clock ▸ h'.reads), h'.answers.trans h.answers⟩

theorem Alike.get {r r' : Run} (h : Alike r r') (key : CacheKey) :
    r'.cache.get key = r.cache.get key := by
  rw [get_eq_readAt, get_eq_readAt, h.clock, h.reads.readAt key _ (Nat.le_refl _)]

theorem Alike.step {r r' : Run} (h : Alike r r') (move : Move) :
    Alike (r.step move) (r'.step move) where
  clock := by rw [clock_step, clock_step, h.clock]
  reads := by
    refine ⟨by rw [isSome_step, isSome_step, h.reads.isSome], fun key now hnow => ?_⟩
    have hclock : r.cache.clock ≤ now := by
      rw [clock_step] at hnow
      omega
    have hread := h.reads.readAt key now hclock
    have hnow' : (r'.step move).cache.clock ≤ now := by
      rwa [clock_step, h.clock, ← clock_step]
    -- a write is read in both, and nothing else changes what was read alike
    cases move with
    | put value ttl =>
        change (r'.cache.put value ttl).2.readAt key now =
          (r.cache.put value ttl).2.readAt key now
        rw [readAt_put, readAt_put, h.clock, h.reads.isSome, hread]
    | remove removed =>
        change (r'.cache.remove removed).2.readAt key now =
          (r.cache.remove removed).2.readAt key now
        rw [readAt_remove, readAt_remove, hread]
    | _ =>
        rw [readAt_step_of_not_writes r' rfl hnow', readAt_step_of_not_writes r rfl hnow,
          hread]
  answers := by
    cases move with
    | get key =>
        change r'.answers ++ [r'.cache.get key] = r.answers ++ [r.cache.get key]
        rw [h.answers, h.get key]
    | _ => exact h.answers

/-- Tending the cache is not noticed. -/
theorem alike_step_of_isTending (r : Run) {move : Move} (h : move.isTending = true) :
    Alike r (r.step move) where
  clock := by
    rw [clock_step, Move.time_of_isTending h]
    rfl
  reads := by
    have hput : ∀ value ttl, move ≠ .put value ttl := by
      rintro value ttl rfl
      cases h
    have hremove : ∀ key, move ≠ .remove key := by
      rintro key rfl
      cases h
    have hreads := r.keepsReads_step hput hremove
    rwa [clock_step, Move.time_of_isTending h] at hreads
  answers := by
    cases move with
    | get key => cases h
    | _ => rfl

theorem alike_ofMoves_filter (moves : List Move) :
    Alike (ofMoves (moves.filter fun move => !move.isTending)) (ofMoves moves) := by
  induction moves using List.reverseRecOn with
  | nil => exact alike_refl _
  | append_singleton moves move ih =>
      rw [ofMoves_append_singleton, List.filter_append]
      cases htending : move.isTending with
      | true =>
          simpa [htending] using ih.trans (alike_step_of_isTending _ htending)
      | false =>
          simpa [htending, ofMoves_append_singleton] using ih.step move

theorem alike_of_filter_eq
    {moves moves' : List Move}
    (h : (moves'.filter fun move => !move.isTending) =
      moves.filter fun move => !move.isTending) :
    (ofMoves moves').answers = (ofMoves moves).answers ∧
      ∀ key, (ofMoves moves').cache.get key = (ofMoves moves).cache.get key := by
  have hmoves := alike_ofMoves_filter moves
  have hmoves' := alike_ofMoves_filter moves'
  rw [h] at hmoves'
  exact ⟨hmoves'.answers.trans hmoves.answers.symm,
    fun key => (hmoves'.get key).trans (hmoves.get key).symm⟩

/-! ## The main result -/

/-- What a cache gives is decided by the last write to the key and the clock: the
value that it put, if it put one whose time is not over.  The report of the last
prune is read in the same way.  Two histories that differ only in how the cache
was tended give the same answers.  A value that is put replaces the one before
until its own time is over, however long the other had left. -/
theorem get_eq_some_iff_lastPut
    (moves : List Move) (hfits : fitFrom 0 moves = true) :
    let r := ofMoves moves
    (∀ key value,
      r.cache.get key = some value ↔
        ∃ before ttl later,
          moves = before ++ .put value ttl :: later ∧ value.key = key ∧
            (∀ move ∈ later, move.writes key = false) ∧
            time moves < time before + ttl) ∧
    (∀ report,
      r.cache.pruneReport = some report ↔
        r.cache.get .pruneReport = some (.pruneReport report)) ∧
    (∀ moves',
      (moves'.filter fun move => !move.isTending) =
          (moves.filter fun move => !move.isTending) →
        (ofMoves moves').answers = r.answers ∧
          ∀ key, (ofMoves moves').cache.get key = r.cache.get key) ∧
    (∀ value ttl later,
      time moves + ttl < Cache.horizon →
        (∀ move ∈ later, move.writes value.key = false) →
        (ofMoves (moves ++ .put value ttl :: later)).cache.get value.key =
          if time later < ttl then some value else none) := by
  intro r
  refine ⟨?_, r.cache.pruneReport_eq_some_iff, fun moves' h => alike_of_filter_eq h, ?_⟩
  · intro key value
    rw [get_eq_readAt, clock_ofMoves,
      readsLastPut_ofMoves key hfits value (time moves) (Nat.le_refl _)]
    constructor
    · rintro ⟨expiry, ⟨before, ttl, later, hmoves, hkey, hlater, rfl⟩, hlive⟩
      exact ⟨before, ttl, later, hmoves, hkey, hlater, hlive⟩
    · rintro ⟨before, ttl, later, hmoves, hkey, hlater, hlive⟩
      exact ⟨_, ⟨before, ttl, later, hmoves, hkey, hlater, rfl⟩, hlive⟩
  · intro value ttl later hroom hlater
    have hclock : (r.step (.put value ttl)).cache.clock = time moves :=
      (clock_step r _).trans (clock_ofMoves moves)
    have hrun : ofMoves (moves ++ .put value ttl :: later) =
        later.foldl step (r.step (.put value ttl)) :=
      List.foldl_append
    have hnow : time (moves ++ .put value ttl :: later) = time moves + time later := by
      rw [time_append, time]
      exact congrArg (time moves + ·) (Nat.zero_add _)
    rw [get_eq_readAt, clock_ofMoves, hrun,
      readAt_foldl_of_not_writes _ hlater (Nat.le_of_eq (by rw [hclock, hnow]))]
    change (r.cache.put value ttl).2.readAt value.key _ = _
    rw [readAt_put, clock_ofMoves, if_pos ⟨isSome_ofMoves moves, hroom, rfl⟩, hnow]
    simp only [Nat.add_lt_add_iff_left]

/-- A report is replaced by one with less time left, which is read until its own
time is over and not longer. -/
theorem replaced_report_read_until_its_own_expiry :
    let first : CachedValue := .pruneReport { reclaimed := 1 }
    let second : CachedValue := .pruneReport { reclaimed := 2 }
    let early : List Move := [.hire 100, .put first 5000, .elapse 2000]
    fitFrom 0 early = true ∧
      (ofMoves early).cache.get .pruneReport = some first ∧
      (ofMoves (early ++ .put second 1000 :: [.purge, .pass 999])).cache.get .pruneReport =
        some second ∧
      (ofMoves (early ++ .put second 1000 :: [.purge, .pass 999, .elapse 1])).cache.get
        .pruneReport = none := by
  intro first second early
  have hfits : fitFrom 0 early = true := by decide
  obtain ⟨hget, -, -, hput⟩ := get_eq_some_iff_lastPut early hfits
  refine ⟨hfits, ?_, ?_, ?_⟩
  · exact (hget _ _).mpr
      ⟨[.hire 100], 5000, [.elapse 2000], rfl, rfl, by decide, by decide⟩
  · exact hput second 1000 [.purge, .pass 999] (by decide) (by decide)
  · exact hput second 1000 [.purge, .pass 999, .elapse 1] (by decide) (by decide)

end Run

end ContainerBoard.TendedCache
