import ContainerBoard.Daemon.Sample
import ContainerBoard.Proofs.Dashboard.Ending

/-!
# Closing a dashboard

What the end of a dashboard guarantees, in whatever order and however often it is
closed, waited for and dropped.  Its subscription is released once.  After the first
closing no event is handled and no message is accepted, and who then waits for the
pipeline for the first time is told how many events it handled.
-/

namespace ContainerBoard.Dashboard.Life

variable {ρ : Type}

/-! ## Nothing after the end -/

/-- Once the daemon noticed the end, it counts the only subscription as released and
accepts no event. -/
theorem Sound.released {l : Life ρ} (h : l.Sound) (hreleased : l.isReleased = true) :
    l.board.daemon.releases = 1 ∧
      ∀ event, l.board.daemon.inject event = (false, l.board.daemon) := by
  obtain ⟨s, hs, hnoticed⟩ := h.holds
  have hgone : s.isReleased = true := hnoticed.trans hreleased
  constructor
  · rw [hs.releases, if_pos hgone]
  · exact hs.inject_of_released hgone

variable [Refresh ρ]

theorem Sound.isClosed_foldl
    {l : Life ρ} (h : l.Sound) (hclosed : l.board.isClosed = true) (moves : List Move) :
    (moves.foldl step l).board.isClosed = true := by
  change (moves.foldl step l).ending.isClosed = true
  rw [ending_foldl, Ending.isClosed_foldl h.dropped]
  exact .inl hclosed

/-- The pipeline stops for good exactly after a closing. -/
theorem Sound.isStopped_settle {l : Life ρ} (h : l.Sound) :
    l.board.settle.pipeline.isStopped = l.board.isClosed := by
  obtain ⟨s, hs, -⟩ := h.holds
  rw [hs.isStopped_settle]
  cases hclosed : l.board.isClosed with
  | true => exact Bool.or_true _
  | false =>
      have hgoes : l.board.pipeline.isStopped = false :=
        Bool.eq_false_iff.mpr fun hstopped => by simp [h.stopped hstopped] at hclosed
      have hheard : l.board.pipeline.isAborted = false :=
        Bool.eq_false_iff.mpr fun haborted => by
          simp [h.dropped (h.aborted haborted)] at hclosed
      rw [hgoes, hheard]
      rfl

/-- What the first to wait for the pipeline is told. -/
theorem Sound.join {l : Life ρ} (h : l.Sound) :
    l.board.join.1 =
      if l.board.isJoined then .already
      else if l.board.isClosed then .handled l.handled.length
      else .timeout := by
  obtain ⟨s, hs, -⟩ := h.holds
  rw [join_eq, h.isStopped_settle]
  by_cases hjoined : l.board.isJoined = true
  · rw [if_pos hjoined, if_pos hjoined]
  · rw [if_neg hjoined, if_neg hjoined]
    by_cases hclosed : l.board.isClosed = true
    · rw [if_pos hclosed, if_pos hclosed, handled_settle, hs.newEvents_of_isClosed hclosed,
        h.count, List.length_nil, Nat.add_zero]
    · rw [if_neg hclosed, if_neg hclosed]

end ContainerBoard.Dashboard.Life
