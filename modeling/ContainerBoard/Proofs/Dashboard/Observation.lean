import ContainerBoard.Dashboard.Basic
import ContainerBoard.Proofs.Outbox.Offers

/-!
# What is observed of an operation

What an operation of the dashboard does is seen on the screen, by the consumer
of the outbox and by whoever is asked for redraws.  `SameView` says that the
screen shows the same as before.  `Offers` says which messages are offered to
the consumer: exactly these, in this order, whatever becomes of them.
-/

namespace ContainerBoard

/-- Whether a message on the status line reports a failure. -/
def IsFailure (message : String) : Prop :=
  "Error".toList <+: message.toList

theorem isFailure_userMessage (error : BoardError) (action : String) :
    IsFailure (error.userMessage action) := by
  simp [IsFailure, BoardError.userMessage, String.toList_append]

/-- A message that starts with another letter reports no failure. -/
theorem not_isFailure_append
    (start rest : String) (hstart : ∃ letter ∈ start.toList.head?, letter ≠ 'E') :
    ¬ IsFailure (start ++ rest) := by
  obtain ⟨letter, hletter, hne⟩ := hstart
  intro hfailure
  cases hlist : start.toList with
  | nil => simp [hlist] at hletter
  | cons first others =>
      have hfirst : letter = first := by simpa [hlist] using hletter.symm
      rw [IsFailure, String.toList_append, hlist] at hfailure
      have herror : 'E' = first := (List.cons_prefix_cons.mp hfailure).1
      exact hne (hfirst.trans herror.symm)

namespace Dashboard

variable {ρ : Type}

/-- The screen, the screen to go back to, the order of networks and the data
behind all screens are as before. -/
structure SameView (b b' : Dashboard ρ) : Prop where
  view : b'.navigation.view = b.navigation.view
  main : b'.navigation.main = b.navigation.main
  sort : b'.navigation.sort = b.navigation.sort
  snapshots : b'.snapshots = b.snapshots

/-- The cached report is as before as well, and no redraw was asked for. -/
structure Unmoved (b b' : Dashboard ρ) : Prop extends SameView b b' where
  cache : b'.cache = b.cache
  report : b'.pruneReport = b.pruneReport
  redraws : b'.redraws = b.redraws

/-- What happens at the daemon alone is not seen. -/
theorem unmoved_daemon (b : Dashboard ρ) (d : Daemon) :
    Unmoved b { b with daemon := d } where
  toSameView := ⟨rfl, rfl, rfl, rfl⟩
  cache := rfl
  report := rfl
  redraws := rfl

/-- What was logged before is not seen either. -/
theorem Unmoved.of_log
    {b b' : Dashboard ρ} {lines : List LogLine} (h : Unmoved (b.log lines) b') :
    Unmoved b b' where
  toSameView := ⟨h.view, h.main, h.sort, h.snapshots⟩
  cache := h.cache
  report := h.report
  redraws := h.redraws

/-- A failure report changes nothing but the outbox and the log. -/
theorem unmoved_reportFailure
    (b : Dashboard ρ) (d : Daemon) (action : String) (error : BoardError) :
    Unmoved b ({ b with daemon := d }.reportFailure action error) where
  toSameView := ⟨rfl, rfl, rfl, rfl⟩
  cache := rfl
  report := rfl
  redraws := rfl

/-- An operation offers exactly some messages in this order: whatever outbox
the dashboard has, it is left as if they had been offered to it. -/
def Offers
    (operation : Dashboard ρ → Dashboard ρ) (b : Dashboard ρ)
    (messages : List String) : Prop :=
  ∀ box : Outbox,
    (operation { b with outbox := box }).outbox = box.offerAll messages

/-- There is only one list of messages that an operation offers. -/
theorem Offers.unique
    {operation : Dashboard ρ → Dashboard ρ} {b : Dashboard ρ}
    {messages messages' : List String}
    (h : Offers operation b messages) (h' : Offers operation b messages') :
    messages = messages' :=
  Outbox.eq_of_offerAll_eq fun box => (h box).symm.trans (h' box)

end Dashboard

end ContainerBoard
