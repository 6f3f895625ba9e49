import ContainerBoard.Proofs.Outbox.Delivery
import ContainerBoard.Proofs.Outbox.Offers

/-!
# The end of the consumer's stream

A receive stays pending only while the outbox is open and nothing accepted is left to
receive.  Closing an outbox takes nothing away: whatever producers and the consumer do
afterwards, the receives return what is left, in order, and then nothing, for ever.
-/

namespace ContainerBoard.Outbox

/-- What is left for the consumer: the message handed over, then the backlog. -/
def left (box : Outbox) : List String :=
  box.held ++ box.backlog

theorem emit_of_isClosed {box : Outbox} (hclosed : box.isClosed = true) (message : String) :
    box.emit message = (.dropped, box) := by
  simp [emit, hclosed]

theorem close_of_isClosed
    {box : Outbox} (hclosed : box.isClosed = true) (hwaiter : box.hasWaiter = false) :
    box.close = box := by
  rw [close, ← hclosed, ← hwaiter]

/-- A poll stays pending only if there is nothing to take and something may come. -/
theorem poll_eq_pending_iff
    {box : Outbox} (hwaiter : box.hasWaiter = true → WaiterSound box) :
    box.poll.1 = .pending ↔ box.isClosed = false ∧ box.left = [] := by
  rcases poll_cases box with ⟨message, hr, hp⟩ | ⟨-, hw, hp⟩ | ⟨hheld, hp⟩
  · rw [hp]
    simp [left, held, hr]
  · have hs := hwaiter hw
    rw [hp]
    simp [left, hs.held, hs.backlog, hs.isClosed]
  · rw [hp, left, hheld]
    rcases startReceive_cases box with
      ⟨message, rest, hb, hs⟩ | ⟨-, hclosed, hs⟩ | ⟨hb, hopen, hs⟩
    · rw [hs, hb]
      simp
    · rw [hs, hclosed]
      simp
    · rw [hs, hb, hopen]
      simp

/-- A poll of a closed outbox takes the first message that is left. -/
theorem poll_of_isClosed
    {box : Outbox} (hclosed : box.isClosed = true) (hwaiter : box.hasWaiter = false) :
    box.poll.1 = .ready box.left.head? ∧ box.poll.2.left = box.left.tail := by
  rcases poll_cases box with ⟨message, hr, hp⟩ | ⟨-, hw, -⟩ | ⟨hheld, hp⟩
  · rw [hp]
    simp [left, held, hr]
  · simp [hwaiter] at hw
  · rw [hp, left, hheld]
    rcases startReceive_cases box with ⟨message, rest, hb, hs⟩ | ⟨hb, -, hs⟩ | ⟨-, hopen, -⟩
    · rw [hs, hb]
      simp [left, held]
    · rw [hs]
      simp [left, held, hb]
    · simp [hclosed] at hopen

/-- So does a look into the backlog while no receive is pending. -/
theorem tryReceive_of_receive_eq_none {box : Outbox} (hreceive : box.receive = none) :
    box.tryReceive.1 = box.left.head? ∧ box.tryReceive.2.left = box.left.tail := by
  have hheld : box.held = [] := by simp [held, hreceive]
  rw [left, hheld]
  cases hb : box.backlog with
  | nil => simp [tryReceive, hb, left, hheld]
  | cons message rest => simp [tryReceive, hb, left, held, hreceive]

namespace Run

/-! ## What receives return -/

/-- What a move returns to the consumer, if it is a receive: a poll, or a look into the
backlog while no receive is pending. -/
def answer? (r : Run) : Move → Option Poll
  | .poll => if r.box.hasReceiver then some r.box.poll.1 else none
  | .tryReceive =>
    if r.box.hasReceiver && r.box.receive.isNone then some (.ready r.box.tryReceive.1)
    else none
  | _ => none

/-- What the receives among some moves return, in order. -/
def answers (r : Run) : List Move → List Poll
  | [] => []
  | move :: moves => (r.answer? move).toList ++ (r.step move).answers moves

theorem hasReceiver_step_of_ne
    {r : Run} {move : Move} (hreceiver : r.box.hasReceiver = true)
    (hmove : move ≠ .dropReceiver) : (r.step move).box.hasReceiver = true := by
  rw [hasReceiver_step, hreceiver]
  simpa using hmove

/-- Every poll returns something, as long as the consumer is there. -/
theorem count_poll_le_length_answers
    {r : Run} {moves : List Move} (hreceiver : r.box.hasReceiver = true)
    (hstays : .dropReceiver ∉ moves) : moves.count .poll ≤ (r.answers moves).length := by
  induction moves generalizing r with
  | nil => exact Nat.zero_le _
  | cons move moves ih =>
      obtain ⟨hmove, hrest⟩ := List.ne_and_not_mem_of_not_mem_cons hstays
      have hlater := ih (hasReceiver_step_of_ne hreceiver hmove.symm) hrest
      rw [answers, List.length_append]
      by_cases hpoll : move = .poll
      · subst hpoll
        have hanswer : (r.answer? .poll).toList.length = 1 := by simp [answer?, hreceiver]
        rw [List.count_cons_self, hanswer]
        omega
      · rw [List.count_cons_of_ne hpoll]
        omega

/-! ## Closed outboxes -/

/-- Once an outbox is closed it stays so. -/
theorem isClosed_step (r : Run) (move : Move) :
    (r.step move).box.isClosed = (r.box.isClosed || move = .close) := by
  cases move with
  | emit message => simp [step, isClosed_emit]
  | close => simp [step, close]
  | poll =>
      cases hr : r.box.hasReceiver with
      | true => simp [step, hr, receive, isClosed_poll]
      | false => simp [step, hr]
  | abandon => simp [step, isClosed_abandon]
  | tryReceive =>
      by_cases hready : (r.box.hasReceiver && r.box.receive.isNone) = true
      · simp [step, hready, receive, isClosed_tryReceive]
      · simp [step, hready]
  | dropReceiver => simp [step, dropReceiver_eq]

theorem isClosed_foldl (r : Run) (moves : List Move) :
    (moves.foldl step r).box.isClosed = true ↔ r.box.isClosed = true ∨ .close ∈ moves := by
  induction moves generalizing r with
  | nil => simp
  | cons move moves ih =>
      simp only [List.foldl_cons, ih, isClosed_step, List.mem_cons, Bool.or_eq_true,
        decide_eq_true_eq, or_assoc, @eq_comm Move .close]

theorem isClosed_ofMoves (capacity : Nat) (moves : List Move) :
    (ofMoves capacity moves).box.isClosed = true ↔ .close ∈ moves := by
  rw [ofMoves, isClosed_foldl]
  simp [ofCapacity]

variable {capacity : Nat} {r : Run}

/-- Nobody is registered with a closed outbox. -/
theorem Sound.hasWaiter_of_isClosed (h : Sound capacity r) (hclosed : r.box.isClosed = true) :
    r.box.hasWaiter = false := by
  refine Bool.eq_false_iff.mpr fun hwaiter => ?_
  have hopen := (h.waiter hwaiter).isClosed
  simp [hclosed] at hopen

/-- After the end, a receive takes the first message that is left, and all other moves
leave the messages alone. -/
theorem answer?_of_isClosed
    (h : Sound capacity r) (hclosed : r.box.isClosed = true)
    (hreceiver : r.box.hasReceiver = true) {move : Move} (hmove : move ≠ .dropReceiver) :
    (r.answer? move = none ∧ (r.step move).box.left = r.box.left) ∨
      (r.answer? move = some (.ready r.box.left.head?) ∧
        (r.step move).box.left = r.box.left.tail) := by
  have hwaiter := h.hasWaiter_of_isClosed hclosed
  cases move with
  | emit message => exact .inl ⟨rfl, by simp [step, emit_of_isClosed hclosed]⟩
  | close => exact .inl ⟨rfl, by simp [step, close_of_isClosed hclosed hwaiter]⟩
  | poll =>
      obtain ⟨hanswer, hleft⟩ := poll_of_isClosed hclosed hwaiter
      exact .inr ⟨by simp [answer?, hreceiver, hanswer], by simp [step, hreceiver, receive, hleft]⟩
  | abandon =>
      refine .inl ⟨rfl, ?_⟩
      simp [step, abandon_eq h.waiter, left, held]
  | tryReceive =>
      cases hr : r.box.receive with
      | none =>
          obtain ⟨hanswer, hleft⟩ := tryReceive_of_receive_eq_none hr
          exact .inr ⟨by simp [answer?, hreceiver, hr, hanswer],
            by simp [step, hreceiver, hr, receive, hleft]⟩
      | some pending => exact .inl ⟨by simp [answer?, hr], by simp [step, hr]⟩
  | dropReceiver => exact absurd rfl hmove

/-- After the end, receives return what is left, in order, and then nothing. -/
theorem getElem?_answers_of_isClosed
    (h : Sound capacity r) (hclosed : r.box.isClosed = true)
    (hreceiver : r.box.hasReceiver = true) {moves : List Move}
    (hstays : .dropReceiver ∉ moves) {place : Nat}
    (hplace : place < (r.answers moves).length) :
    (r.answers moves)[place]? = some (.ready r.box.left[place]?) := by
  induction moves generalizing r place with
  | nil => exact absurd hplace (Nat.not_lt_zero _)
  | cons move moves ih =>
      obtain ⟨hmove, hrest⟩ := List.ne_and_not_mem_of_not_mem_cons hstays
      have hreceiver' := hasReceiver_step_of_ne hreceiver hmove.symm
      have hclosed' : (r.step move).box.isClosed = true := by
        rw [isClosed_step, hclosed, Bool.true_or]
      rcases answer?_of_isClosed h hclosed hreceiver hmove.symm with
        ⟨hanswer, hleft⟩ | ⟨hanswer, hleft⟩
      · simp only [answers, hanswer, Option.toList_none, List.nil_append] at hplace ⊢
        rw [ih (sound_step h move) hclosed' hreceiver' hrest hplace, hleft]
      · simp only [answers, hanswer, Option.toList_some, List.singleton_append,
          List.length_cons] at hplace ⊢
        cases place with
        | zero => rw [List.getElem?_cons_zero, List.head?_eq_getElem?]
        | succ place =>
            rw [List.getElem?_cons_succ, ih (sound_step h move) hclosed' hreceiver' hrest
              (Nat.lt_of_succ_lt_succ hplace), hleft, List.getElem?_tail]

/-! ## Receives that wait -/

/-- Nothing is left for a receive that waits, and it stays registered as long as the
outbox is open. -/
structure Waits (box : Outbox) : Prop where
  backlog : box.backlog = []
  isRegistered : box.isClosed = false → box.hasWaiter = true

theorem waits_step
    (h : Sound capacity r) (hwaits : r.box.receive = some .waiting → Waits r.box)
    (move : Move) : (r.step move).box.receive = some .waiting → Waits (r.step move).box := by
  cases move with
  | emit message =>
      rcases emit_cases h.waiter message with ⟨-, he⟩ | ⟨hw, hroom, he⟩ | ⟨-, he⟩
      · rw [step_emit he]
        intro hholding
        cases hholding
      · rw [step_emit he]
        intro hreceive
        -- nothing is queued past a receive that waits: it is registered, or the end has come
        cases hclosed : r.box.isClosed with
        | true =>
            rw [emit_of_isClosed hclosed] at he
            cases congrArg Prod.fst he
        | false =>
            have hregistered := (hwaits hreceive).isRegistered hclosed
            simp [hw] at hregistered
      · rw [step_emit he]
        exact hwaits
  | close =>
      intro hreceive
      exact ⟨(hwaits hreceive).backlog, fun hopen => by simp [step, close] at hopen⟩
  | poll =>
      cases hr : r.box.hasReceiver with
      | false => simpa [step, hr] using hwaits
      | true =>
          simp only [step, hr, if_true, receive]
          rcases poll_cases r.box with ⟨message, -, hp⟩ | ⟨-, -, hp⟩ | ⟨-, hp⟩
          · rw [hp]
            intro hnone
            cases hnone
          · rw [hp]
            exact hwaits
          · rw [hp]
            rcases startReceive_cases r.box with ⟨_, _, -, hs⟩ | ⟨-, -, hs⟩ | ⟨hb, -, hs⟩
            · simp [hs]
            · simp [hs]
            · rw [hs]
              exact fun _ => ⟨hb, fun _ => rfl⟩
  | abandon => simp [step, abandon_eq h.waiter]
  | tryReceive =>
      by_cases hready : (r.box.hasReceiver && r.box.receive.isNone) = true
      · simp only [step, hready, if_true, receive]
        rw [Bool.and_eq_true, Option.isNone_iff_eq_none] at hready
        rcases tryReceive_cases h.waiter hready.2 with ⟨_, _, -, ht⟩ | ⟨-, ht⟩
        · simp [ht]
        · simp [ht, hready.2]
      · simpa [step, hready] using hwaits
  | dropReceiver => simp [step, dropReceiver_eq]

theorem waits_foldl
    (h : Sound capacity r) (hwaits : r.box.receive = some .waiting → Waits r.box)
    (moves : List Move) :
    (moves.foldl step r).box.receive = some .waiting → Waits (moves.foldl step r).box := by
  induction moves generalizing r with
  | nil => exact hwaits
  | cons move moves ih => exact ih (sound_step h move) (waits_step h hwaits move)

theorem left_of_waiting
    {moves : List Move} (hreceive : (ofMoves capacity moves).box.receive = some .waiting) :
    (ofMoves capacity moves).box.left = [] := by
  have hwaits := waits_foldl (sound_start capacity) (fun h => by cases h) moves hreceive
  have hheld : (ofMoves capacity moves).box.held = [] := by simp [held, hreceive]
  rw [left, hheld]
  exact hwaits.backlog

/-! ## The stream -/

/-- While the consumer is there, a poll stays pending exactly if the outbox is open and
every accepted message was received.  Once it is closed, all that is offered is dropped,
closing it again changes nothing, and whatever is done next, the receives return the
messages that are left, each at its place, and beyond them nothing; every poll returns.
A receive that waits when the outbox is closed returns nothing. -/
theorem stream_ends_once_drained
    (capacity : Nat) (moves : List Move) (hreceiver : .dropReceiver ∉ moves) :
    let r := ofMoves capacity moves
    (r.box.poll.1 = .pending ↔ .close ∉ moves ∧ r.received = r.accepted) ∧
    (.close ∈ moves →
      (∀ message, r.box.emit message = (.dropped, r.box)) ∧ r.box.close = r.box ∧
        ∃ left, r.received ++ left = r.accepted ∧
          ∀ later, .dropReceiver ∉ later →
            later.count .poll ≤ (r.answers later).length ∧
              ∀ place < (r.answers later).length,
                (r.answers later)[place]? = some (.ready left[place]?)) ∧
    (r.box.receive = some .waiting →
      ∀ later, .dropReceiver ∉ later →
        ∀ answer ∈ (r.step .close).answers later, answer = .ready none) := by
  intro r
  have hsound : Sound capacity r := sound_ofMoves capacity moves
  have hreceiver' : r.box.hasReceiver = true :=
    (hasReceiver_ofMoves capacity moves).mpr hreceiver
  have haccounted : r.received ++ r.box.left = r.accepted := by
    rw [left, ← List.append_assoc]
    exact hsound.accounted hreceiver'
  have hclosed_iff : r.box.isClosed = true ↔ .close ∈ moves := isClosed_ofMoves capacity moves
  refine ⟨?_, ?_, ?_⟩
  · have hopen : r.box.isClosed = false ↔ .close ∉ moves := by
      rw [← hclosed_iff, Bool.not_eq_true]
    have hleft : r.box.left = [] ↔ r.received = r.accepted := by
      rw [← haccounted, List.self_eq_append_right]
    rw [poll_eq_pending_iff hsound.waiter, hopen, hleft]
  · intro hclose
    have hclosed : r.box.isClosed = true := hclosed_iff.mpr hclose
    refine ⟨emit_of_isClosed hclosed,
      close_of_isClosed hclosed (hsound.hasWaiter_of_isClosed hclosed), r.box.left, haccounted,
      ?_⟩
    intro later hstays
    constructor
    · exact count_poll_le_length_answers hreceiver' hstays
    · intro place hplace
      exact getElem?_answers_of_isClosed hsound hclosed hreceiver' hstays hplace
  · intro hwaiting later hstays answer hanswer
    have hclosed : (r.step .close).box.isClosed = true := rfl
    have hleft : (r.step .close).box.left = [] := left_of_waiting hwaiting
    obtain ⟨place, hplace, hget⟩ := List.getElem_of_mem hanswer
    have hread := getElem?_answers_of_isClosed (sound_close hsound) hclosed hreceiver' hstays hplace
    rw [hleft, List.getElem?_eq_getElem hplace, hget] at hread
    exact Option.some.inj hread

/-- A message that was put back comes before the one that was queued, and after them the
stream has ended. -/
theorem stream_ends_after_put_back :
    let moves : List Move := [.poll, .emit "one", .emit "two", .abandon, .close]
    let later : List Move := [.emit "three", .poll, .tryReceive, .close, .poll, .poll]
    let r := ofMoves 1 moves
    .dropReceiver ∉ moves ∧ .close ∈ moves ∧ .dropReceiver ∉ later ∧
      r.box.emit "three" = (.dropped, r.box) ∧ (r.answers later).length = 4 ∧
      ∀ place < 4, (r.answers later)[place]? = some (.ready ["one", "two"][place]?) := by
  intro moves later r
  have hreceiver : .dropReceiver ∉ moves := by decide
  have hclose : .close ∈ moves := by decide
  have hstays : .dropReceiver ∉ later := by decide
  obtain ⟨hdropped, -, left, hleft, hanswers⟩ :=
    (stream_ends_once_drained 1 moves hreceiver).2.1 hclose
  have htwo : left = ["one", "two"] := hleft
  have hreturned := (hanswers later hstays).2
  rw [htwo] at hreturned
  exact ⟨hreceiver, hclose, hstays, hdropped "three", rfl, hreturned⟩

end Run

end ContainerBoard.Outbox
