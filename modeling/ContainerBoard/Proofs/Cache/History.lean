import ContainerBoard.Proofs.Cache.Reads
import Mathlib.Data.List.Induction

/-!
# Histories of a cache

A history is any sequence of what is done with one cache, its janitors and the
clock.  Next to the cache its run remembers what each look into the cache found.
What can be read changes only when a key is written.
-/

namespace ContainerBoard.TendedCache

/-- What is done with a cache.  The clock may go on before any janitor has its
turn, or with the janitors in step. -/
inductive Move where
  | put (value : CachedValue) (ttl : Nat)
  | remove (key : CacheKey)
  | get (key : CacheKey)
  | purge
  | hire (interval : Nat)
  | dismiss
  | settle
  | elapse (time : Nat)
  | advance (time : Nat)
  | pass (time : Nat)
  deriving DecidableEq

namespace Move

/-- How far the clock goes on. -/
def time : Move → Nat
  | elapse time => time
  | advance time => time
  | pass time => time
  | _ => 0

/-- Whether the move writes to a key. -/
def writes : Move → CacheKey → Bool
  | put value _, key => value.key = key
  | remove removed, key => removed = key
  | _, _ => false

/-- Whether the move only tends the cache: it is a purge, or about janitors. -/
def isTending : Move → Bool
  | purge => true
  | hire _ => true
  | dismiss => true
  | settle => true
  | _ => false

theorem time_of_isTending {move : Move} (h : move.isTending = true) : move.time = 0 := by
  cases move with
  | elapse | advance | pass => cases h
  | _ => rfl

/-- Whether the clock can tell when a value expires that is put at a time. -/
def fits (now : Nat) : Move → Bool
  | put _ ttl => now + ttl < Cache.horizon
  | _ => true

end Move

/-- How far the clock goes on in a history. -/
def time : List Move → Nat
  | [] => 0
  | move :: moves => move.time + time moves

/-- Whether the clock can tell when each value of a history expires. -/
def fitFrom (now : Nat) : List Move → Bool
  | [] => true
  | move :: moves => move.fits now && fitFrom (now + move.time) moves

theorem time_append (moves later : List Move) :
    time (moves ++ later) = time moves + time later := by
  induction moves with
  | nil => simp [time]
  | cons move moves ih => rw [List.cons_append, time, time, ih, Nat.add_assoc]

theorem fitFrom_append (now : Nat) (moves later : List Move) :
    fitFrom now (moves ++ later) =
      (fitFrom now moves && fitFrom (now + time moves) later) := by
  induction moves generalizing now with
  | nil => simp [fitFrom, time]
  | cons move moves ih =>
      rw [List.cons_append, fitFrom, fitFrom, ih, time, Bool.and_assoc, Nat.add_assoc]

/-! ## Runs -/

/-- A cache with what the looks into it found so far, oldest first. -/
structure Run where
  cache : TendedCache := {}
  answers : List (Option CachedValue) := []

namespace Run

def step (r : Run) : Move → Run
  | .put value ttl => { r with cache := (r.cache.put value ttl).2 }
  | .remove key => { r with cache := (r.cache.remove key).2 }
  | .get key => { r with answers := r.answers ++ [r.cache.get key] }
  | .purge => { r with cache := r.cache.purge.2 }
  | .hire interval => { r with cache := r.cache.hire interval }
  | .dismiss => { r with cache := r.cache.dismiss.2 }
  | .settle => { r with cache := r.cache.settle }
  | .elapse time => { r with cache := { r.cache with clock := r.cache.clock + time } }
  | .advance time => { r with cache := r.cache.advance time }
  | .pass time => { r with cache := r.cache.pass time }

def ofMoves (moves : List Move) : Run :=
  moves.foldl step {}

theorem ofMoves_append_singleton (moves : List Move) (move : Move) :
    ofMoves (moves ++ [move]) = (ofMoves moves).step move := by
  simp [ofMoves]

theorem clock_step (r : Run) (move : Move) :
    (r.step move).cache.clock = r.cache.clock + move.time := by
  cases move with
  | put value ttl => exact r.cache.clock_put value ttl
  | remove key => exact r.cache.clock_remove key
  | purge => exact r.cache.clock_purge
  | dismiss =>
      change r.cache.dismiss.2.clock = r.cache.clock
      unfold dismiss
      split <;> rfl
  | pass time => exact clock_passTo _ _ _
  | _ => rfl

/-- A move that writes nothing drops nothing but what has expired by then. -/
theorem sheds_step
    (r : Run) {move : Move} (hput : ∀ value ttl, move ≠ .put value ttl)
    (hremove : ∀ key, move ≠ .remove key) :
    Sheds (r.step move).cache.clock r.cache (r.step move).cache := by
  cases move with
  | put value ttl => exact absurd rfl (hput value ttl)
  | remove key => exact absurd rfl (hremove key)
  | purge =>
      rw [clock_step]
      exact r.cache.sheds_purge
  | dismiss =>
      apply sheds_of_cache
      change r.cache.dismiss.2.cache = r.cache.cache
      unfold dismiss
      split <;> rfl
  | settle => exact r.cache.sheds_settle r.cache.clock
  | advance time => exact r.cache.sheds_settle _
  | pass time =>
      rw [clock_step]
      exact sheds_passTo _ _ _
  | _ => exact sheds_of_cache _ rfl

/-- A move that writes nothing keeps what is read from then on. -/
theorem keepsReads_step
    (r : Run) {move : Move} (hput : ∀ value ttl, move ≠ .put value ttl)
    (hremove : ∀ key, move ≠ .remove key) :
    KeepsReads (r.step move).cache.clock r.cache (r.step move).cache :=
  (r.sheds_step hput hremove).keepsReads

theorem isSome_step (r : Run) (move : Move) :
    (r.step move).cache.cache.isSome = r.cache.cache.isSome := by
  cases move with
  | put value ttl => exact r.cache.isSome_put value ttl
  | remove key => exact r.cache.isSome_remove key
  | _ => exact (r.keepsReads_step (by simp) (by simp)).isSome

theorem readAt_step_of_not_writes
    (r : Run) {move : Move} {key : CacheKey} {now : Nat}
    (hwrites : move.writes key = false) (hnow : (r.step move).cache.clock ≤ now) :
    (r.step move).cache.readAt key now = r.cache.readAt key now := by
  cases move with
  | put value ttl =>
      have hkey : value.key ≠ key := of_decide_eq_false hwrites
      rw [show (r.step (.put value ttl)).cache = (r.cache.put value ttl).2 from rfl,
        readAt_put, if_neg fun h => hkey h.2.2]
  | remove removed =>
      have hkey : removed ≠ key := of_decide_eq_false hwrites
      rw [show (r.step (.remove removed)).cache = (r.cache.remove removed).2 from rfl,
        readAt_remove, if_neg hkey.symm]
  | _ => exact (r.keepsReads_step (by simp) (by simp)).readAt key now hnow

theorem clock_ofMoves (moves : List Move) : (ofMoves moves).cache.clock = time moves := by
  induction moves using List.reverseRecOn with
  | nil => rfl
  | append_singleton moves move ih =>
      rw [ofMoves_append_singleton, clock_step, ih, time_append]
      simp [time]

theorem isSome_ofMoves (moves : List Move) : (ofMoves moves).cache.cache.isSome = true := by
  induction moves using List.reverseRecOn with
  | nil => rfl
  | append_singleton moves move ih => rw [ofMoves_append_singleton, isSome_step, ih]

/-- What is read under a key stays the same until it is written. -/
theorem readAt_foldl_of_not_writes
    (r : Run) {moves : List Move} {key : CacheKey} {now : Nat}
    (hwrites : ∀ move ∈ moves, move.writes key = false)
    (hnow : r.cache.clock + time moves ≤ now) :
    (moves.foldl step r).cache.readAt key now = r.cache.readAt key now := by
  induction moves generalizing r with
  | nil => rfl
  | cons move moves ih =>
      rw [time, ← Nat.add_assoc, ← clock_step] at hnow
      have hstep : (r.step move).cache.clock ≤ now := by omega
      rw [List.foldl_cons, ih _ (fun m hm => hwrites m (List.mem_cons_of_mem _ hm)) hnow,
        readAt_step_of_not_writes r (hwrites move List.mem_cons_self) hstep]

end Run

end ContainerBoard.TendedCache
