import ContainerBoard.Proofs.Cache.History
import ContainerBoard.Proofs.Cache.Ticks

/-!
# How long expired entries stay

A janitor has its ticks at fixed distances from when it began, and a jump of the clock over
many of them is made up for at once.  An entry that expires is therefore dropped within one
interval, while no tick drops an entry before its time.  A janitor whose cache is gone finds
out at its next tick.
-/

namespace ContainerBoard.TendedCache

/-- Whether the move is about who tends the cache. -/
def Move.isStaffing : Move → Bool
  | hire _ => true
  | dismiss => true
  | _ => false

/-! ## A janitor on duty -/

/-- The janitor that began with the cache as it was at the start is at work.  Its next tick
is at most one interval after a time, which is the present one between moves.  What expired
since the start is stored for less than one interval. -/
structure OnDuty (start : TendedCache) (ticker : Ticker) (present : Nat) (t : TendedCache) :
    Prop where
  isSome : t.cache.isSome = true
  atWork : t.janitors.head? = some (.working ticker)
  onSchedule : ∃ ticks, ticker.next = start.clock + ticks * ticker.interval
  soon : ticker.next ≤ present + ticker.interval
  recent : ∀ key entry, t.stored? key = some entry →
    (start.stored? key = some entry ∧ entry.expiry < start.clock) ∨
      ticker.next ≤ entry.expiry + ticker.interval

variable {start t t' : TendedCache} {ticker : Ticker} {present clock : Nat}

theorem onDuty_hire
    {interval : Nat} (hinterval : 0 < interval) (hsome : start.cache.isSome = true) :
    OnDuty start ⟨interval, hinterval, start.clock + interval⟩ start.clock
      (start.hire interval) where
  isSome := hsome
  atWork := by
    rw [hire, List.head?_cons, Janitor.start, Ticker.start?, dif_pos hinterval]
  onSchedule := ⟨1, by rw [Nat.one_mul]⟩
  soon := Nat.le_refl _
  recent key entry hentry := by
    rcases Nat.lt_or_ge entry.expiry start.clock with hlt | hge
    · exact .inl ⟨hentry, hlt⟩
    · exact .inr (Nat.add_le_add_right hge interval)

theorem OnDuty.mono (h : OnDuty start ticker present t) {later : Nat} (hlater : present ≤ later) :
    OnDuty start ticker later t :=
  { h with soon := Nat.le_trans h.soon (Nat.add_le_add_right hlater _) }

/-- Only turns of the janitors concern their ticks. -/
theorem OnDuty.of_stored
    (h : OnDuty start ticker present t) (hjanitors : t'.janitors = t.janitors)
    (hsome : t'.cache.isSome = t.cache.isSome)
    (hstored : ∀ key entry, t'.stored? key = some entry →
      t.stored? key = some entry ∨ ticker.next ≤ entry.expiry + ticker.interval) :
    OnDuty start ticker present t' where
  isSome := hsome.trans h.isSome
  atWork := hjanitors ▸ h.atWork
  onSchedule := h.onSchedule
  soon := h.soon
  recent key entry hentry := by
    rcases hstored key entry hentry with hold | hnew
    · exact h.recent key entry hold
    · exact .inr hnew

theorem OnDuty.of_sheds
    (h : OnDuty start ticker present t) (hjanitors : t'.janitors = t.janitors)
    (hsheds : Sheds clock t t') : OnDuty start ticker present t' :=
  h.of_stored hjanitors hsheds.isSome fun key entry hentry =>
    .inl (hsheds.stored key entry hentry)

/-- A value that is put expires at the present time or later. -/
theorem OnDuty.put (h : OnDuty start ticker t.clock t) (value : CachedValue) (ttl : Nat) :
    OnDuty start ticker t.clock (t.put value ttl).2 := by
  apply h.of_stored (t.janitors_put value ttl) (t.isSome_put value ttl)
  intro key entry hentry
  rw [stored?_put] at hentry
  split at hentry
  · obtain rfl : ⟨value, t.clock + ttl⟩ = entry := Option.some.inj hentry
    have hsoon := h.soon
    refine .inr ?_
    change ticker.next ≤ t.clock + ttl + ticker.interval
    omega
  · exact .inl hentry

theorem OnDuty.remove (h : OnDuty start ticker present t) (key : CacheKey) :
    OnDuty start ticker present (t.remove key).2 := by
  apply h.of_stored (t.janitors_remove key) (t.isSome_remove key)
  intro other entry hentry
  rw [stored?_remove] at hentry
  split at hentry
  · cases hentry
  · exact .inl hentry

/-- A tick drops all that has expired, and what is left expires after it. -/
theorem OnDuty.settle (h : OnDuty start ticker present t) (hclock : clock ≤ present) :
    OnDuty start (ticker.catchUp clock) present { t with clock }.settle := by
  have hsheds := t.sheds_settle clock
  refine ⟨hsheds.isSome.trans h.isSome, ?_, ?_, Ticker.next_catchUp_le h.soon hclock, ?_⟩
  · obtain ⟨cache, hcache⟩ := Option.isSome_iff_exists.mp h.isSome
    rw [head?_janitors_settle, h.atWork, hcache, Option.map_some, Janitor.run_some]
  · obtain ⟨ticks, hticks⟩ := h.onSchedule
    refine ⟨ticks + ticker.due clock, ?_⟩
    change ticker.next + ticker.due clock * ticker.interval = _
    rw [hticks, Nat.add_mul, Nat.add_assoc]
    rfl
  · intro key entry hentry
    refine (h.recent key entry (hsheds.stored key entry hentry)).imp_right fun hnext => ?_
    rcases Nat.lt_or_ge clock ticker.next with hlt | hdue
    · rwa [Ticker.catchUp_of_lt hlt]
    · have hswept : IsSwept clock { t with clock }.settle :=
        (isSwept_runJanitors t (List.mem_of_mem_head? h.atWork)
          (decide_eq_true hdue)).of_sheds (sheds_of_cache clock rfl)
      exact Ticker.next_catchUp_le hnext (Nat.le_of_lt (hswept key entry hentry))

/-- A janitor with an interval that began with the cache as it was at the start is on duty. -/
def Attended (start : TendedCache) (interval present : Nat) (t : TendedCache) : Prop :=
  ∃ ticker : Ticker, ticker.interval = interval ∧ OnDuty start ticker present t

variable {interval : Nat}

theorem Attended.settle (h : Attended start interval present t) (hclock : clock ≤ present) :
    Attended start interval present { t with clock }.settle := by
  obtain ⟨ticker, rfl, hduty⟩ := h
  exact ⟨ticker.catchUp clock, rfl, hduty.settle hclock⟩

theorem Attended.passTo (h : Attended start interval present t) (fuel : Nat) :
    Attended start interval present (passTo present fuel t) :=
  passTo_induction (fun _ _ hclock h => h.settle hclock) fuel h

/-! ## A janitor whose cache is gone -/

/-- The cache is gone, and the janitor with a ticker finished when its tick was due at the
latest at a time. -/
structure Leaving (ticker : Ticker) (present : Nat) (t : TendedCache) : Prop where
  isNone : t.cache = none
  leaves : t.janitors.head? = some (.working ticker) ∨
    t.janitors.head? = some .finished ∧ ticker.next ≤ present

theorem OnDuty.drop (h : OnDuty start ticker present t) : Leaving ticker present t.drop.2 :=
  ⟨rfl, .inl h.atWork⟩

theorem Leaving.mono (h : Leaving ticker present t) {later : Nat} (hlater : present ≤ later) :
    Leaving ticker later t :=
  ⟨h.isNone, h.leaves.imp_right fun ⟨hhead, hnext⟩ => ⟨hhead, Nat.le_trans hnext hlater⟩⟩

theorem Leaving.settle (h : Leaving ticker present t) (hclock : clock ≤ present) :
    Leaving ticker present { t with clock }.settle where
  isNone := by simpa [h.isNone] using (t.sheds_settle clock).isSome
  leaves := by
    rw [head?_janitors_settle, h.isNone]
    rcases h.leaves with hworking | ⟨hfinished, hnext⟩
    · rw [hworking, Option.map_some, Janitor.run_none]
      split
      · rename_i hdue
        exact .inr ⟨rfl, Nat.le_trans hdue hclock⟩
      · exact .inl rfl
    · rw [hfinished]
      exact .inr ⟨rfl, hnext⟩

theorem Leaving.passTo (h : Leaving ticker present t) (fuel : Nat) :
    Leaving ticker present (passTo present fuel t) :=
  passTo_induction (fun _ _ hclock h => h.settle hclock) fuel h

/-- A janitor without a cache ends with the first turn that is not before its tick. -/
theorem Leaving.isFinished_iff (h : Leaving ticker t.clock t) :
    t.settle.janitors.head? = some .finished ↔ ticker.next ≤ t.clock := by
  have hhead : t.settle.janitors.head? =
      t.janitors.head?.map fun janitor => (janitor.run t.cache t.clock).janitor :=
    t.head?_janitors_settle t.clock
  rw [h.isNone] at hhead
  rcases h.leaves with hworking | ⟨hfinished, hnext⟩
  · rw [hworking, Option.map_some, Janitor.run_none] at hhead
    rw [hhead, Option.some.injEq]
    split <;> simp_all
  · rw [hfinished] at hhead
    exact iff_of_true hhead hnext

/-! ## Runs -/

namespace Run

variable {r : Run} {moves : List Move}

theorem attended_step
    (h : Attended start interval r.cache.clock r.cache) {move : Move}
    (hmove : move.isStaffing = false) :
    Attended start interval (r.step move).cache.clock (r.step move).cache := by
  obtain ⟨ticker, rfl, hduty⟩ := h
  have hpresent := hduty.mono (Nat.le_add_right r.cache.clock move.time)
  rw [clock_step]
  cases move with
  | hire | dismiss => cases hmove
  | put value ttl => exact ⟨ticker, rfl, hduty.put value ttl⟩
  | remove key => exact ⟨ticker, rfl, hduty.remove key⟩
  | get key => exact ⟨ticker, rfl, hduty⟩
  | purge => exact ⟨ticker, rfl, hduty.of_sheds r.cache.janitors_purge r.cache.sheds_purge⟩
  | settle => exact Attended.settle ⟨ticker, rfl, hduty⟩ (Nat.le_refl _)
  | elapse time => exact ⟨ticker, rfl, hpresent.of_sheds rfl (sheds_of_cache 0 rfl)⟩
  | advance time => exact Attended.settle ⟨ticker, rfl, hpresent⟩ (Nat.le_refl _)
  | pass time => exact Attended.passTo ⟨ticker, rfl, hpresent⟩ _

theorem attended_foldl
    (h : Attended start interval r.cache.clock r.cache)
    (hmoves : ∀ move ∈ moves, move.isStaffing = false) :
    Attended start interval (moves.foldl step r).cache.clock (moves.foldl step r).cache := by
  apply List.foldlRecOn
    (motive := fun r => Attended start interval r.cache.clock r.cache) moves step h
  intro r hkept move hmem
  exact attended_step hkept (hmoves move hmem)

theorem leaving_step
    (h : Leaving ticker r.cache.clock r.cache) {move : Move}
    (hmove : move.isStaffing = false) :
    Leaving ticker (r.step move).cache.clock (r.step move).cache := by
  have hpresent := h.mono (Nat.le_add_right r.cache.clock move.time)
  have hsame {cache : TendedCache} (hcache : cache = r.cache) :
      Leaving ticker (r.cache.clock + 0) cache := hcache ▸ h
  rw [clock_step]
  cases move with
  | hire | dismiss => cases hmove
  | put value ttl => exact hsame (put_of_none h.isNone value ttl)
  | remove key => exact hsame (remove_of_none h.isNone key)
  | get key => exact h
  | purge => exact hsame (purge_of_none h.isNone)
  | settle => exact h.settle (Nat.le_refl _)
  | elapse time => exact ⟨h.isNone, hpresent.leaves⟩
  | advance time => exact hpresent.settle (Nat.le_refl _)
  | pass time => exact hpresent.passTo _

theorem leaving_foldl
    (h : Leaving ticker r.cache.clock r.cache)
    (hmoves : ∀ move ∈ moves, move.isStaffing = false) :
    Leaving ticker (moves.foldl step r).cache.clock (moves.foldl step r).cache := by
  apply List.foldlRecOn
    (motive := fun r => Leaving ticker r.cache.clock r.cache) moves step h
  intro r hkept move hmem
  exact leaving_step hkept (hmoves move hmem)

/-! ## The main result -/

/-- What a janitor does for a cache, whatever is done with the cache since it began.  When the
janitors had their turns and nothing is left for them to do, what is stored expired before the
janitor began, or it is less than one interval past its time; so what was put since then is
gone one interval after its time, that very instant included.  No turn drops an entry whose
time is not over, and where the clock passes gradually the turns are those after a row of
jumps.  The next tick is on schedule and at most one interval away, and if the cache goes
away, the janitor is finished from that tick on and not before. -/
theorem janitor_bounds_staleness
    (before moves : List Move) {interval : Nat} (hinterval : 0 < interval)
    (hmoves : ∀ move ∈ moves, move.isStaffing = false) :
    let began := (ofMoves before).cache
    let r := ofMoves (before ++ .hire interval :: moves)
    let now := r.cache.clock
    let idle := r.cache.settle
    idle.settle = idle ∧
    (∀ key entry, idle.stored? key = some entry →
      (began.stored? key = some entry ∧ entry.expiry < began.clock) ∨
        now < entry.expiry + interval) ∧
    (∀ earlier value ttl later, moves = earlier ++ .put value ttl :: later →
      let expiry := began.clock + time earlier + ttl
      expiry + interval ≤ now → idle.stored? value.key ≠ some ⟨value, expiry⟩) ∧
    (∀ key entry, r.cache.stored? key = some entry → now < entry.expiry →
      idle.stored? key = some entry) ∧
    (∀ time, Jumps idle (idle.pass time) time) ∧
    ∃ ticks,
      let tick := began.clock + ticks * interval
      r.cache.janitors.head?.bind Janitor.nextTick? = some tick ∧ tick ≤ now + interval ∧
        ∀ later : List Move, (∀ move ∈ later, move.isStaffing = false) →
          let gone := (later.foldl step { r with cache := r.cache.drop.2 }).cache
          gone.settle.janitors.head? = some .finished ↔ tick ≤ gone.clock := by
  intro began r now idle
  have hr : r = moves.foldl step ((ofMoves before).step (.hire interval)) := List.foldl_append
  have hbegan := onDuty_hire hinterval (isSome_ofMoves before)
  have hattended : Attended began interval now r.cache := by
    have hstart : Attended began interval ((ofMoves before).step (.hire interval)).cache.clock
        ((ofMoves before).step (.hire interval)).cache := ⟨_, rfl, hbegan⟩
    have hrun := attended_foldl hstart hmoves
    rwa [← hr] at hrun
  have hbounded : ∀ key entry, idle.stored? key = some entry →
      (began.stored? key = some entry ∧ entry.expiry < began.clock) ∨
        now < entry.expiry + interval := by
    obtain ⟨ticker, rfl, hduty⟩ := hattended
    intro key entry hentry
    have hnext := (hduty.settle (Nat.le_refl now)).recent key entry hentry
    exact hnext.imp_right fun hle => Nat.lt_of_lt_of_le (ticker.lt_next_catchUp now) hle
  refine ⟨r.cache.settle_settle, hbounded, ?_, ?_, ?_, ?_⟩
  · intro earlier value ttl later _ expiry hlate hentry
    rcases hbounded _ _ hentry with ⟨-, hold⟩ | hfresh
    · change began.clock + time earlier + ttl < began.clock at hold
      omega
    · exact absurd hlate (Nat.not_le.mpr hfresh)
  · exact (r.cache.sheds_settle now).spared
  · intro time
    have hpass := jumps_passTo (idle.clock + time) (time + 1)
      (fun _ => lt_of_mem_nextTick?_settle) (Nat.le_add_right idle.clock time)
    rwa [Nat.add_sub_cancel_left] at hpass
  · obtain ⟨ticker, rfl, hduty⟩ := hattended
    obtain ⟨ticks, hticks⟩ := hduty.onSchedule
    refine ⟨ticks, ?_, hticks ▸ hduty.soon, ?_⟩
    · rw [hduty.atWork, ← hticks]
      rfl
    · intro later hlater gone
      have hgone : Leaving ticker gone.clock gone := leaving_foldl hduty.drop hlater
      rw [← hticks]
      exact hgone.isFinished_iff

/-- An entry that expires right after a tick stays until the next one, nearly one interval
later, and not a whole interval. -/
theorem expired_report_dropped_in_time :
    let report (n : UInt64) : CachedValue := .pruneReport { reclaimed := n }
    let before : List Move := [.put (report 1) 1000, .elapse 1500]
    let moves (time : Nat) : List Move := [.elapse 1, .put (report 2) 400, .pass time]
    let idle (time : Nat) := (ofMoves (before ++ .hire 400 :: moves time)).cache.settle
    0 < 400 ∧ (∀ move ∈ moves 800, move.isStaffing = false) ∧
      (idle 798).stored? .pruneReport = some ⟨report 2, 1901⟩ ∧
      (idle 800).stored? .pruneReport ≠ some ⟨report 2, 1901⟩ := by
  intro report before moves idle
  have hinterval : 0 < 400 := by decide
  have hmoves : ∀ move ∈ moves 800, move.isStaffing = false := by decide
  obtain ⟨-, -, hput, -⟩ := janitor_bounds_staleness before (moves 800) hinterval hmoves
  refine ⟨hinterval, hmoves, by decide, ?_⟩
  exact hput [.elapse 1] (report 2) 400 [.pass 800] rfl (by decide)

end Run

end ContainerBoard.TendedCache
