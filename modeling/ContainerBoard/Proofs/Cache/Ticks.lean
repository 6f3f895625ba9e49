import ContainerBoard.TendedCache

/-!
# Ticks

A ticker that was made up to date has its next tick ahead, at most one interval away.  So
have the janitors after their turns, and a clock that passes stops at each of their ticks.
-/

namespace ContainerBoard

namespace Ticker

variable {ticker : Ticker} {now bound : Nat}

theorem catchUp_of_lt (h : now < ticker.next) : ticker.catchUp now = ticker := by
  rw [catchUp, due, if_pos h, skip, Nat.zero_mul, Nat.add_zero]

theorem next_catchUp_of_le (h : ticker.next ≤ now) :
    (ticker.catchUp now).next =
      ticker.next + ((now - ticker.next) / ticker.interval + 1) * ticker.interval := by
  rw [catchUp, due, if_neg (Nat.not_lt.mpr h), skip]

/-- No tick is due when all that were due are made up for. -/
theorem lt_next_catchUp (ticker : Ticker) (now : Nat) : now < (ticker.catchUp now).next := by
  rcases Nat.lt_or_ge now ticker.next with hlt | hge
  · rwa [catchUp_of_lt hlt]
  · have hround := Nat.lt_mul_div_succ (now - ticker.next) ticker.interval_pos
    rw [Nat.mul_comm] at hround
    rw [next_catchUp_of_le hge]
    omega

/-- The next tick is at most one interval away. -/
theorem next_catchUp_le (hnext : ticker.next ≤ bound + ticker.interval) (hnow : now ≤ bound) :
    (ticker.catchUp now).next ≤ bound + ticker.interval := by
  rcases Nat.lt_or_ge now ticker.next with hlt | hge
  · rwa [catchUp_of_lt hlt]
  · have hround := Nat.div_mul_le_self (now - ticker.next) ticker.interval
    rw [next_catchUp_of_le hge, Nat.add_mul, Nat.one_mul]
    omega

end Ticker

namespace Janitor

theorem run_some (ticker : Ticker) (cache : Cache) (now : Nat) :
    ((working ticker).run (some cache) now).janitor = working (ticker.catchUp now) := by
  rcases Nat.lt_or_ge now ticker.next with hlt | hge
  · simp [run, Nat.not_le.mpr hlt, Ticker.catchUp_of_lt hlt]
  · simp [run, hge]

theorem run_none (ticker : Ticker) (now : Nat) :
    ((working ticker).run none now).janitor =
      if ticker.next ≤ now then finished else working ticker := by
  rw [run]
  split <;> rfl

/-- After its turn a janitor has no tick that is due. -/
theorem lt_of_mem_nextTick?_run
    {janitor : Janitor} {cache : Option Cache} {now tick : Nat}
    (h : tick ∈ (janitor.run cache now).janitor.nextTick?) : now < tick := by
  cases janitor with
  | finished => cases h
  | working ticker =>
      cases cache with
      | some cache =>
          rw [run_some] at h
          obtain rfl : (ticker.catchUp now).next = tick := Option.some.inj h
          exact ticker.lt_next_catchUp now
      | none =>
          rw [run_none] at h
          split at h
          · cases h
          · rename_i hlater
            obtain rfl : ticker.next = tick := Option.some.inj h
            exact Nat.not_le.mp hlater

theorem run_of_idle
    {janitor : Janitor} {now : Nat} (hidle : ∀ tick ∈ janitor.nextTick?, now < tick)
    (cache : Option Cache) : janitor.run cache now = ⟨janitor, cache, []⟩ := by
  cases janitor with
  | finished => rfl
  | working ticker =>
      have hlater : ¬ ticker.next ≤ now := Nat.not_le.mpr (hidle _ rfl)
      cases cache <;> simp [run, hlater]

end Janitor

namespace TendedCache

/-! ## Turns of the janitors -/

theorem head?_janitors_settle (t : TendedCache) (clock : Nat) :
    { t with clock }.settle.janitors.head? =
      t.janitors.head?.map fun janitor => (janitor.run t.cache clock).janitor := by
  cases t.janitors with
  | nil => rfl
  | cons janitor rest => rfl

theorem lt_of_mem_runJanitors
    {clock : Nat} {janitors : List Janitor} {cache : Option Cache} {janitor : Janitor}
    (hmem : janitor ∈ (runJanitors clock janitors cache).1) {tick : Nat}
    (htick : tick ∈ janitor.nextTick?) : clock < tick := by
  induction janitors generalizing cache with
  | nil => cases hmem
  | cons first rest ih =>
      rcases List.mem_cons.mp hmem with rfl | hrest
      · exact Janitor.lt_of_mem_nextTick?_run htick
      · exact ih hrest

/-- When the janitors had their turns, nothing is left to do before the clock goes on. -/
theorem lt_of_mem_nextTick?_settle
    {t : TendedCache} {tick : Nat} (h : tick ∈ t.settle.nextTick?) : t.clock < tick := by
  have hmem := List.min?_mem h
  obtain ⟨janitor, hjanitor, htick⟩ := List.mem_filterMap.mp hmem
  exact lt_of_mem_runJanitors hjanitor htick

theorem lt_of_mem_nextTick?_advance
    {t : TendedCache} {time tick : Nat} (h : tick ∈ (t.advance time).nextTick?) :
    (t.advance time).clock < tick := by
  rw [advance] at h
  have hlt := lt_of_mem_nextTick?_settle h
  exact hlt

theorem runJanitors_of_idle
    {clock : Nat} {janitors : List Janitor} {cache : Option Cache}
    (hidle : ∀ janitor ∈ janitors, ∀ tick ∈ janitor.nextTick?, clock < tick) :
    runJanitors clock janitors cache = (janitors, cache, []) := by
  induction janitors with
  | nil => rfl
  | cons janitor rest ih =>
      have hrun := Janitor.run_of_idle (hidle janitor List.mem_cons_self) cache
      have hrest := ih fun other hother => hidle other (List.mem_cons_of_mem _ hother)
      rw [runJanitors, hrun, hrest]
      rfl

/-- The janitors have their turns only once. -/
theorem settle_settle (t : TendedCache) : t.settle.settle = t.settle := by
  have hidle : runJanitors t.settle.clock t.settle.janitors t.settle.cache =
      (t.settle.janitors, t.settle.cache, []) :=
    runJanitors_of_idle fun janitor hmem tick htick => lt_of_mem_runJanitors hmem htick
  rw [settle, hidle]
  rfl

/-! ## Passing time -/

theorem settle_eq_advance {t : TendedCache} {clock : Nat} (h : t.clock ≤ clock) :
    { t with clock }.settle = t.advance (clock - t.clock) := by
  rw [advance, Nat.add_sub_of_le h]

/-- The clock goes on by one jump or by several, and the janitors have their turns after each
of them. -/
inductive Jumps : TendedCache → TendedCache → Nat → Prop where
  | last (t : TendedCache) (time : Nat) : Jumps t (t.advance time) time
  | next {t t' : TendedCache} {first time : Nat} :
      Jumps (t.advance first) t' time → Jumps t t' (first + time)

/-- When nothing is left to do, the clock passes in jumps from each tick to the next one. -/
theorem jumps_passTo
    (target fuel : Nat) {t : TendedCache} (hidle : ∀ tick ∈ t.nextTick?, t.clock < tick)
    (htarget : t.clock ≤ target) : Jumps t (passTo target fuel t) (target - t.clock) := by
  induction fuel generalizing t with
  | zero =>
      rw [passTo, settle_eq_advance htarget]
      exact .last t _
  | succ fuel ih =>
      rw [passTo, settle_eq_advance htarget]
      split
      · exact .last t _
      · rename_i tick htick
        split
        · rename_i hle
          have hlt : t.clock < tick := hidle tick htick
          have hsplit : target - t.clock = (tick - t.clock) + (target - tick) := by omega
          have hclock : (t.advance (tick - t.clock)).clock = tick :=
            Nat.add_sub_of_le (Nat.le_of_lt hlt)
          have hrest := ih (fun _ => lt_of_mem_nextTick?_advance) (hclock.symm ▸ hle)
          rw [hclock] at hrest
          rw [hsplit, settle_eq_advance (Nat.le_of_lt hlt)]
          exact hrest.next
        · exact .last t _

end TendedCache

end ContainerBoard
