import ContainerBoard.Daemon.Subscriptions
import ContainerBoard.Proofs.Daemon.Survival
import Mathlib.Logic.Function.Iterate

/-!
# Streams side by side

Whoever subscribes gets a stream and a handle of their own, but the daemon has one sender.
The newest subscription takes it over.  When the daemon finds any handle gone, it lets go
of its sender, whoever is sent to at the moment.

So the newest stream gets every event that it has room for, until a handle is found gone,
be it its own or an older one.
-/

namespace ContainerBoard.Daemon

/-! ## Runs -/

/-- What happens to a daemon and to the streams that it gave out. -/
inductive StreamMove : Type 1 where
  | move (m : Move)
  | inject (event : DaemonEvent)
  /-- The daemon notices which handles are gone. -/
  | observe
  /-- A handle is used. -/
  | cancel (place : Nat)
  /-- A handle is dropped. -/
  | abandon (place : Nat)
  /-- A listener looks into its stream. -/
  | receive (place : Nat)
  /-- A listener goes away. -/
  | hangUp (place : Nat)

def streamMove (d : Daemon) : StreamMove → Daemon
  | .move m => d.move m
  | .inject event => (d.inject event).2
  | .observe => d.observe
  | .cancel place => (d.cancel place).2
  | .abandon place => (d.abandon place).2
  | .receive place => (d.receive place).2
  | .hangUp place => (d.hangUp place).2

def afterStreams (d : Daemon) (moves : List StreamMove) : Daemon :=
  moves.foldl streamMove d

/-- Whether a move passes a test somewhere in a run. -/
def somewhere (test : Daemon → StreamMove → Bool) (d : Daemon) : List StreamMove → Bool
  | [] => false
  | move :: later => test d move || somewhere test (d.streamMove move) later

/-- Whether a move opens a subscription. -/
def opens (d : Daemon) : StreamMove → Bool
  | .move (.call request) =>
    decide (request.operation = .subscribe) && (d.failures.get? .subscribe).isNone
  | _ => false

/-- Whether the daemon finds a handle gone. -/
def findsGone (d : Daemon) : StreamMove → Bool
  | .observe => d.subscriptions.any isUnnoticed
  | _ => false

/-- Whether a move is about a handle. -/
def StreamMove.isRelease : StreamMove → Bool
  | cancel _ => true
  | abandon _ => true
  | _ => false

/-! ## Single moves -/

variable {α : Type} {d d' : Daemon}

theorem subscriptions_atSubscription
    {place : Nat} {s : Subscription} {change : Subscription → Subscription}
    (hs : d.subscriptions[place]? = some s) :
    (d.atSubscription place change).subscriptions = d.subscriptions.set place (change s) := by
  rw [atSubscription, List.modify_eq_set_getElem?, hs]
  rfl

theorem subscriptions_call_of_not_opens
    {request : Request α} (hopens : d.opens (.move (.call request)) = false) :
    (d.call request).2.sender = d.sender ∧
      (d.call request).2.subscriptions = d.subscriptions := by
  by_cases hkind : request.operation = .subscribe
  · cases hfailure : d.failures.get? .subscribe with
    | none => simp [opens, hkind, hfailure] at hopens
    | some error =>
        rw [← hkind] at hfailure
        rw [call_of_failure hfailure]
        exact ⟨rfl, rfl⟩
  · exact ⟨sender_call hkind, subscriptions_call hkind⟩

/-- What a move makes of a subscription.  Only its holder changes a handle. -/
structure Turns (move : StreamMove) (s s' : Subscription) : Prop where
  capacity : s'.stream.capacity = s.stream.capacity
  isReleased : s'.isReleased = s.isReleased
  signal : move.isRelease = false → s'.signal = s.signal

/-- A move leaves the sender alone, and changes one subscription at most. -/
structure Touches (move : StreamMove) (d d' : Daemon) : Prop where
  sender : d'.sender = d.sender
  subscriptions : d'.subscriptions = d.subscriptions ∨
    ∃ place s s', d.subscriptions[place]? = some s ∧ Turns move s s' ∧
      d'.subscriptions = d.subscriptions.set place s'

theorem Touches.refl (move : StreamMove) (d : Daemon) : Touches move d d :=
  ⟨rfl, .inl rfl⟩

theorem touches_atSubscription
    {move : StreamMove} {place : Nat} {s : Subscription}
    (hs : d.subscriptions[place]? = some s) (change : Subscription → Subscription)
    (hturns : Turns move s (change s)) : Touches move d (d.atSubscription place change) :=
  ⟨rfl, .inr ⟨place, s, change s, hs, hturns, subscriptions_atSubscription hs⟩⟩

theorem touches_inject (d : Daemon) (event : DaemonEvent) :
    Touches (.inject event) d (d.inject event).2 := by
  unfold inject
  cases d.sender with
  | none => exact Touches.refl _ d
  | some place =>
      dsimp only
      cases hs : d.subscriptions[place]? with
      | none => exact Touches.refl _ d
      | some s =>
          have hcapacity : (s.stream.send event).2.capacity = s.stream.capacity := by
            unfold EventStream.send
            split <;> rfl
          exact touches_atSubscription hs _ ⟨hcapacity, rfl, fun _ => rfl⟩

theorem touches_cancel (d : Daemon) (place : Nat) :
    Touches (.cancel place) d (d.cancel place).2 := by
  unfold cancel
  cases hs : d.subscriptions[place]? with
  | none => exact Touches.refl _ d
  | some s => exact touches_atSubscription hs _ ⟨rfl, rfl, nofun⟩

theorem touches_abandon (d : Daemon) (place : Nat) :
    Touches (.abandon place) d (d.abandon place).2 := by
  unfold abandon
  cases hs : d.subscriptions[place]? with
  | none => exact Touches.refl _ d
  | some s => exact touches_atSubscription hs _ ⟨rfl, rfl, nofun⟩

theorem touches_receive (d : Daemon) (place : Nat) :
    Touches (.receive place) d (d.receive place).2 := by
  unfold receive
  cases hs : d.subscriptions[place]? with
  | none => exact Touches.refl _ d
  | some s =>
      have hcapacity : s.stream.receive.2.capacity = s.stream.capacity := by
        unfold EventStream.receive
        split <;> rfl
      dsimp only
      split
      · exact Touches.refl _ d
      · rcases hreceive : s.stream.receive with ⟨none | event, stream⟩
        · exact Touches.refl _ d
        · rw [hreceive] at hcapacity
          exact touches_atSubscription hs _ ⟨hcapacity, rfl, fun _ => rfl⟩

theorem touches_hangUp (d : Daemon) (place : Nat) :
    Touches (.hangUp place) d (d.hangUp place).2 := by
  unfold hangUp
  cases hs : d.subscriptions[place]? with
  | none => exact Touches.refl _ d
  | some s => exact touches_atSubscription hs _ ⟨rfl, rfl, fun _ => rfl⟩

theorem touches_streamMove
    {move : StreamMove} (hopens : d.opens move = false) (hmove : move ≠ .observe) :
    Touches move d (d.streamMove move) := by
  cases move with
  | observe => exact absurd rfl hmove
  | move m =>
      cases m with
      | call request =>
          obtain ⟨hsender, hsubscriptions⟩ := subscriptions_call_of_not_opens hopens
          exact ⟨hsender, .inl hsubscriptions⟩
      | _ => exact ⟨rfl, .inl rfl⟩
  | inject event => exact d.touches_inject event
  | cancel place => exact d.touches_cancel place
  | abandon place => exact d.touches_abandon place
  | receive place => exact d.touches_receive place
  | hangUp place => exact d.touches_hangUp place

/-! ## The newest subscription -/

/-- A subscription is the newest one, and is sent to unless a handle was found gone. -/
structure Newest (d : Daemon) (place : Nat) (gone : Bool) : Prop where
  count : d.subscriptions.length = place + 1
  sender : d.sender = if gone then none else some place
  capacity : ∀ s, d.subscriptions[place]? = some s → s.stream.capacity = streamCapacity

variable {place : Nat} {gone : Bool}

theorem newest_of_subscribe (h : d.call .subscribe = (.ok place, d')) :
    d'.Newest place false := by
  cases call_subscribe h
  refine ⟨by simp [record], rfl, ?_⟩
  intro s hs
  have hopened : s = { stream := { capacity := streamCapacity } } := by
    simpa [record, eq_comm] using hs
  rw [hopened]

theorem Newest.of_touches
    {move : StreamMove} (h : d.Newest place gone) (htouches : Touches move d d') :
    d'.Newest place gone := by
  have hsender : d'.sender = if gone then none else some place :=
    htouches.sender.trans h.sender
  rcases htouches.subscriptions with hsame | ⟨p, s, s', hs, hturns, hset⟩
  · refine ⟨?_, hsender, ?_⟩
    · rw [hsame]
      exact h.count
    · rw [hsame]
      exact h.capacity
  · refine ⟨?_, hsender, ?_⟩
    · rw [hset, List.length_set]
      exact h.count
    · intro found hfound
      rw [hset, List.getElem?_set] at hfound
      split at hfound
      · rename_i hplace
        subst hplace
        have hfound : s' = found := by
          simpa [(List.getElem?_eq_some_iff.mp hs).1] using hfound
        rw [← hfound, hturns.capacity]
        exact h.capacity s hs
      · exact h.capacity found hfound

/-- The sender is lost as soon as any handle is found gone. -/
theorem Newest.observe (h : d.Newest place gone) :
    d.observe.Newest place (gone || d.subscriptions.any isUnnoticed) := by
  unfold Daemon.observe
  cases d.subscriptions.any isUnnoticed with
  | false =>
      rw [Bool.or_false]
      exact h
  | true =>
      refine ⟨?_, by simp, ?_⟩
      · simpa using h.count
      · intro s hs
        simp only [if_true, List.getElem?_map, Option.map_eq_some_iff] at hs
        obtain ⟨s₀, hs₀, rfl⟩ := hs
        exact h.capacity s₀ hs₀

theorem Newest.streamMove
    {move : StreamMove} (h : d.Newest place gone) (hopens : d.opens move = false) :
    (d.streamMove move).Newest place (gone || d.findsGone move) := by
  by_cases hmove : move = .observe
  · subst hmove
    exact h.observe
  · have hfinds : d.findsGone move = false := by
      cases move with
      | observe => exact absurd rfl hmove
      | _ => rfl
    rw [hfinds, Bool.or_false]
    exact h.of_touches (touches_streamMove hopens hmove)

theorem Newest.afterStreams
    {moves : List StreamMove} (h : d.Newest place gone)
    (hnewest : d.somewhere opens moves = false) :
    (d.afterStreams moves).Newest place (gone || d.somewhere findsGone moves) := by
  induction moves generalizing d gone with
  | nil =>
      rw [somewhere, Bool.or_false]
      exact h
  | cons move moves ih =>
      obtain ⟨hmove, hmoves⟩ := Bool.or_eq_false_iff.mp hnewest
      have hlater := ih (h.streamMove hmove) hmoves
      rw [Bool.or_assoc] at hlater
      exact hlater

/-! ## Events on their way -/

theorem hasEnded_eq_false_iff {p : Nat} (h : d.Newest place gone) :
    d.hasEnded p = false ↔ p = place ∧ gone = false := by
  rw [hasEnded, h.sender]
  cases gone <;> simp [@eq_comm _ place p]

/-- An event is accepted if it goes to a listener with room for it, and then it stands last
in the stream. -/
theorem Newest.inject
    (h : d.Newest place gone) {s : Subscription} (hs : d.subscriptions[place]? = some s)
    (event : DaemonEvent) :
    ((d.inject event).1 = true ↔
      gone = false ∧ s.stream.isListening = true ∧ s.stream.queue.length < streamCapacity) ∧
      ((d.inject event).1 = true →
        (d.inject event).2.subscriptions[place]? =
          some { s with stream := { s.stream with queue := s.stream.queue ++ [event] } }) := by
  have hcapacity : s.stream.capacity = streamCapacity := h.capacity s hs
  have hsender := h.sender
  cases gone with
  | true => simp [Daemon.inject, hsender]
  | false =>
      have hplace : place < d.subscriptions.length := (List.getElem?_eq_some_iff.mp hs).1
      have hinject : d.inject event =
          ((s.stream.send event).1, d.atSubscription place fun s₀ =>
            { s₀ with stream := (s.stream.send event).2 }) := by
        simp [Daemon.inject, hsender, hs]
      rw [hinject, subscriptions_atSubscription hs, List.getElem?_set_self hplace]
      unfold EventStream.send
      split
      · rename_i hroom
        rw [hcapacity] at hroom
        simpa using hroom
      · rename_i hroom
        rw [hcapacity] at hroom
        simpa using hroom

theorem receive_of_queue
    {s : Subscription} {first : DaemonEvent} {rest : List DaemonEvent}
    (hs : d.subscriptions[place]? = some s) (hlistening : s.stream.isListening = true)
    (hqueue : s.stream.queue = first :: rest) :
    (d.receive place).1 = .event first ∧
      (d.receive place).2.subscriptions[place]? =
        some { s with stream := { s.stream with queue := rest } } := by
  have hplace : place < d.subscriptions.length := (List.getElem?_eq_some_iff.mp hs).1
  have hreceive : d.receive place =
      (.event first, d.atSubscription place fun s₀ =>
        { s₀ with stream := { s.stream with queue := rest } }) := by
    simp [receive, hs, hlistening, EventStream.receive, hqueue]
  rw [hreceive, subscriptions_atSubscription hs, List.getElem?_set_self hplace]
  exact ⟨rfl, rfl⟩

/-- A listener gets an event after those that stand in front of it. -/
theorem receive_iterate
    {s : Subscription} {earlier rest : List DaemonEvent} {event : DaemonEvent}
    (hs : d.subscriptions[place]? = some s) (hlistening : s.stream.isListening = true)
    (hqueue : s.stream.queue = earlier ++ event :: rest) :
    (((fun d => (receive d place).2)^[earlier.length] d).receive place).1 =
      .event event := by
  induction earlier generalizing d s with
  | nil => exact (receive_of_queue hs hlistening hqueue).1
  | cons first earlier ih =>
      obtain ⟨-, hs'⟩ := receive_of_queue hs hlistening hqueue
      rw [List.length_cons, Function.iterate_succ_apply]
      exact ih hs' hlistening rfl

/-! ## Handles that are kept -/

theorem any_isUnnoticed_of_touches
    {move : StreamMove} (hnone : d.subscriptions.any isUnnoticed = false)
    (hkept : move.isRelease = false) (htouches : Touches move d d') :
    d'.subscriptions.any isUnnoticed = false := by
  rcases htouches.subscriptions with hsame | ⟨place, s, s', hs, hturns, hset⟩
  · rw [hsame]
    exact hnone
  · have hbefore := List.any_eq_false.mp hnone
    have hs' : isUnnoticed s' = isUnnoticed s := by
      rw [isUnnoticed, isUnnoticed, hturns.signal hkept, hturns.isReleased]
    rw [hset, List.any_eq_false]
    intro found hfound
    rcases List.mem_or_eq_of_mem_set hfound with hold | rfl
    · exact hbefore found hold
    · rw [hs']
      exact hbefore s (List.mem_of_getElem? hs)

theorem observe_of_noticed (hnone : d.subscriptions.any isUnnoticed = false) :
    d.observe = d := by
  unfold Daemon.observe
  rw [hnone]
  rfl

/-- Where no handle is released, none is found gone. -/
theorem not_findsGone_of_kept
    {moves : List StreamMove} (hnone : d.subscriptions.any isUnnoticed = false)
    (hkept : moves.any StreamMove.isRelease = false)
    (hnewest : d.somewhere opens moves = false) : d.somewhere findsGone moves = false := by
  induction moves generalizing d with
  | nil => rfl
  | cons move moves ih =>
      obtain ⟨hopens, hlater⟩ := Bool.or_eq_false_iff.mp hnewest
      obtain ⟨hmove, hmoves⟩ := Bool.or_eq_false_iff.mp hkept
      by_cases hobserve : move = .observe
      · subst hobserve
        have hsame : d.streamMove .observe = d := observe_of_noticed hnone
        rw [hsame] at hlater
        rw [somewhere, hsame, ih hnone hmoves hlater, Bool.or_false]
        exact hnone
      · have hfinds : d.findsGone move = false := by
          cases move with
          | observe => exact absurd rfl hobserve
          | _ => rfl
        have hnone' := any_isUnnoticed_of_touches hnone hmove (touches_streamMove hopens hobserve)
        rw [somewhere, hfinds, ih hnone' hmoves hlater]
        rfl

/-- All streams are as they were, and the same one is sent to. -/
structure SameStreams (d d' : Daemon) : Prop where
  sender : d'.sender = d.sender
  streams : d'.subscriptions.map Subscription.stream = d.subscriptions.map Subscription.stream

theorem sameStreams_atSubscription
    (d : Daemon) (place : Nat) (signal : CancelSignal) :
    SameStreams d (d.atSubscription place fun s => { s with signal }) := by
  refine ⟨rfl, ?_⟩
  apply List.ext_getElem?
  intro i
  rw [List.getElem?_map, List.getElem?_map, atSubscription, List.getElem?_modify]
  cases d.subscriptions[i]? with
  | none => rfl
  | some s =>
      change some (Subscription.stream (if place = i then _ else _)) = _
      split <;> rfl

theorem sameStreams_cancel (d : Daemon) (place : Nat) : SameStreams d (d.cancel place).2 := by
  unfold cancel
  cases d.subscriptions[place]? with
  | none => exact ⟨rfl, rfl⟩
  | some s => exact d.sameStreams_atSubscription place _

theorem sameStreams_abandon (d : Daemon) (place : Nat) :
    SameStreams d (d.abandon place).2 := by
  unfold abandon
  cases d.subscriptions[place]? with
  | none => exact ⟨rfl, rfl⟩
  | some s => exact d.sameStreams_atSubscription place _

/-- Only the newest stream goes on, and only until the daemon finds a handle gone, whoever
held it.  Until then the newest subscription gets every event that it listens to and has
room for, after those that wait in front of it.

To release a handle ends no stream yet.  Where none is released, and all that were before
had been noticed, the newest stream goes on. -/
theorem newest_stream_goes_on
    {d₀ d : Daemon} {place : Nat} (hopen : d₀.call .subscribe = (.ok place, d))
    {moves : List StreamMove} (hnewest : d.somewhere opens moves = false) :
    let d' := d.afterStreams moves
    let gone := d.somewhere findsGone moves
    (∀ p, d'.hasEnded p = false ↔ p = place ∧ gone = false) ∧
      (∃ s, d'.subscriptions[place]? = some s ∧
        ∀ event,
          ((d'.inject event).1 = true ↔
            gone = false ∧ s.stream.isListening = true ∧
              s.stream.queue.length < streamCapacity) ∧
          ((d'.inject event).1 = true →
            (((fun d => (receive d place).2)^[s.stream.queue.length]
              (d'.inject event).2).receive place).1 = .event event)) ∧
      (∀ p, SameStreams d' (d'.cancel p).2 ∧ SameStreams d' (d'.abandon p).2) ∧
      (d₀.subscriptions.any isUnnoticed = false →
        moves.any StreamMove.isRelease = false → gone = false) := by
  intro d' gone
  have hlater : d'.Newest place gone := (newest_of_subscribe hopen).afterStreams hnewest
  have hplace : place < d'.subscriptions.length := by
    rw [hlater.count]
    exact Nat.lt_succ_self place
  refine ⟨fun p => hasEnded_eq_false_iff hlater, ?_, ?_, ?_⟩
  · have hs : d'.subscriptions[place]? = some d'.subscriptions[place] :=
      List.getElem?_eq_getElem hplace
    refine ⟨_, hs, ?_⟩
    intro event
    obtain ⟨haccepted, hqueued⟩ := hlater.inject hs event
    refine ⟨haccepted, ?_⟩
    intro hsent
    exact receive_iterate (hqueued hsent) (haccepted.mp hsent).2.1 rfl
  · intro p
    exact ⟨d'.sameStreams_cancel p, d'.sameStreams_abandon p⟩
  · intro hnone hkept
    have hopened : d.subscriptions.any isUnnoticed = false := by
      cases call_subscribe hopen
      simpa [record, subscribe, isUnnoticed, CancelSignal.isRaised] using hnone
    exact not_findsGone_of_kept hopened hkept hnewest

/-- The handle of the first stream was found gone before the second one was opened, so the
second one gets what is sent. -/
theorem second_stream_is_served :
    let event : DaemonEvent :=
      { kind := "container", action := "start", actor := "web", time := .epoch }
    let d₀ := ({} : Daemon).afterStreams [.move (.call .subscribe), .cancel 0, .observe]
    ∃ d, d₀.call .subscribe = (.ok 1, d) ∧ d.somewhere opens [.observe] = false ∧
      (d.afterStreams [.observe]).hasEnded 1 = false ∧
      ((d.afterStreams [.observe]).inject event).1 = true ∧
      (((d.afterStreams [.observe]).inject event).2.receive 1).1 = .event event := by
  intro event d₀
  obtain ⟨d, hopen, hnewest, hstream⟩ :
      ∃ d, d₀.call .subscribe = (.ok 1, d) ∧ d.somewhere opens [.observe] = false ∧
        (d.afterStreams [.observe]).subscriptions[1]? =
          some { stream := { capacity := streamCapacity } } :=
    ⟨_, rfl, rfl, rfl⟩
  obtain ⟨hended, ⟨s, hs, hevents⟩, -, hkept⟩ := newest_stream_goes_on hopen hnewest
  obtain rfl : { stream := { capacity := streamCapacity } } = s :=
    Option.some.inj (hstream.symm.trans hs)
  obtain ⟨haccepted, hreceived⟩ := hevents event
  have hgone : d.somewhere findsGone [.observe] = false := hkept rfl rfl
  have hsent : ((d.afterStreams [.observe]).inject event).1 = true :=
    haccepted.mpr ⟨hgone, rfl, by decide⟩
  exact ⟨d, hopen, hnewest, (hended 1).mpr ⟨rfl, hgone⟩, hsent, hreceived hsent⟩

/-- The first of two handles is used.  Once the daemon has found that out, the second
stream has ended, though its own handle is held and its listener waits. -/
theorem second_stream_ends_with_first_handle :
    let d := ({} : Daemon).afterStreams
      [.move (.call .subscribe), .move (.call .subscribe), .cancel 0, .observe]
    d.subscriptions[1]? = some { stream := { capacity := streamCapacity }, signal := .live } ∧
      d.subscriptions.length = 2 ∧ (d.receive 1).1 = .ended ∧
      ∀ event, (d.inject event).1 = false :=
  ⟨rfl, rfl, rfl, fun _ => rfl⟩

end ContainerBoard.Daemon
