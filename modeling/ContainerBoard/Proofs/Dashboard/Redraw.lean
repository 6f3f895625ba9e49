import ContainerBoard.Daemon.Sample
import ContainerBoard.Proofs.Dashboard.Lifespan
import ContainerBoard.Proofs.Dashboard.Orderly

/-!
# No redraw is lost

Redraws are signalled on a channel with room for one signal.  Whoever draws takes the
signal at any moment, also halfway through an operation.  Events reach the pipeline at
any moment as well.

Operations and the pipeline are watched step by step.  Once one of them has changed what
a redraw shows, there is a signal, or it still has a request for a redraw ahead.  So
there is a signal as soon as both are at rest.
-/

namespace ContainerBoard

namespace RedrawSignal

/-- What becomes of a channel with room for one signal that another one is sent on: a
signal without room is dropped. -/
def trySend (queued : Nat) : Nat :=
  if queued < 1 then queued + 1 else queued

/-- The signal of a channel with listener. -/
def ofQueue (queued : Nat) : RedrawSignal :=
  { isPending := decide (0 < queued) }

theorem trySend_eq_one {queued : Nat} (h : queued ≤ 1) : trySend queued = 1 := by
  unfold trySend
  split <;> omega

theorem refresh_ofQueue (queued : Nat) :
    Refresh.refresh (ofQueue queued) = ofQueue (trySend queued) := by
  have hpending : 0 < trySend queued := by
    unfold trySend
    split <;> omega
  simp [Refresh.refresh, ofQueue, hpending]

theorem take_ofQueue {queued : Nat} (h : queued ≤ 1) :
    (ofQueue queued).take = (some (decide (0 < queued)), ofQueue (queued - 1)) := by
  have hnone : queued - 1 = 0 := by omega
  simp [take, ofQueue, hnone]

end RedrawSignal

namespace Dashboard

variable {ρ : Type}

/-! ## What is done with a dashboard -/

/-- Something that is done with a dashboard, by its user or in the background. -/
inductive Deed where
  | act (action : Action)
  /-- All background work is done. -/
  | settle
  | close
  | join
  deriving DecidableEq

namespace Deed

def script (b : Dashboard ρ) : Deed → List Step
  | act action => actionScript b action
  | settle => settleScript b
  | close => [.close]
  | join => joinScript b

def result [Refresh ρ] (b : Dashboard ρ) : Deed → Dashboard ρ
  | act action => b.act action
  | settle => b.settle
  | close => b.close
  | join => b.join.2

/-- A deed that asks for redraws: it does not activate a screen without one, and if it
prunes, the clock can tell how long the report is kept. -/
structure Draws (b : Dashboard ρ) (deed : Deed) : Prop where
  view : ∀ view, deed ≠ .act (.setView view)
  clock : ∀ action, deed = .act action → action.Prunes →
    b.clock + b.config.reportTtl < Cache.horizon

end Deed

/-- Something that happens to a dashboard from outside. -/
inductive Happening where
  | consume (consumption : Consumption)
  | inject (event : DaemonEvent)
  | fail (operation : Operation) (error : DaemonError)
  | clearFailure (operation : Operation)
  /-- Time passes, and the janitor has its turn. -/
  | elapse (time : Nat)
  deriving DecidableEq

def undergo (b : Dashboard ρ) : Happening → Dashboard ρ
  | .consume consumption => { b with outbox := b.outbox.consume consumption }
  | .inject event => { b with daemon := (b.daemon.inject event).2 }
  | .fail operation error => { b with daemon := b.daemon.fail operation error }
  | .clearFailure operation => { b with daemon := b.daemon.clearFailure operation }
  | .elapse time => { b with clock := b.clock + time }.runJanitor

theorem redraws_undergo (b : Dashboard ρ) (happening : Happening) :
    (b.undergo happening).redraws = b.redraws := by
  cases happening <;> rfl

/-! ## Steps and what they leave alone -/

variable [Refresh ρ]

theorem follow_script (b : Dashboard ρ) (deed : Deed) :
    b.follow (deed.script b) = deed.result b := by
  cases deed with
  | act action => exact b.follow_actionScript action
  | settle => exact b.follow_settleScript
  | close => rfl
  | join => exact b.follow_joinScript

/-- The script of every deed that asks for redraws is orderly. -/
theorem orderly_script {b : Dashboard ρ} {deed : Deed} (hdraws : deed.Draws b) :
    Orderly (deed.script b) b := by
  cases deed with
  | act action =>
      apply b.orderly_actionScript action
      · rintro view rfl
        exact hdraws.view view rfl
      · exact hdraws.clock action rfl
  | settle => exact b.orderly_settleScript
  | close => exact .cons_of_silent (fun _ _ => sight_close _) trivial
  | join => exact b.orderly_joinScript

theorem redraws_run_of_ne
    (b : Dashboard ρ) {step : Step} (hstep : step ≠ .refresh) :
    (step.run b).redraws = b.redraws := by
  cases step with
  | refresh => exact absurd rfl hstep
  | close =>
      change b.close.redraws = b.redraws
      unfold close
      split <;> rfl
  | _ => rfl

/-- Steps look neither at the event log nor at the redraws. -/
theorem run_apart (b : Dashboard ρ) (step : Step) (events : EventLog) (redraws : ρ) :
    ∃ later left,
      Step.run { b with events, redraws } step =
        { Step.run b step with events := later, redraws := left } := by
  cases step with
  | refresh => exact ⟨events, Refresh.refresh redraws, rfl⟩
  | push event => exact ⟨events.push event, redraws, rfl⟩
  | close =>
      refine ⟨events, redraws, ?_⟩
      change close { b with events, redraws } = { b.close with events, redraws }
      unfold close
      split <;> rfl
  | _ => exact ⟨events, redraws, rfl⟩

/-- An orderly script stays so while events are handled and redraws are asked for
elsewhere. -/
theorem Orderly.apart
    {b : Dashboard ρ} {script : List Step} (h : Orderly script b) (events : EventLog)
    (redraws : ρ) : Orderly script { b with events, redraws } := by
  induction script generalizing b events redraws with
  | nil => trivial
  | cons step rest ih =>
      obtain ⟨hstep, hrest⟩ := h
      obtain ⟨later, left, hrun⟩ := b.run_apart step events redraws
      refine ⟨?_, ?_⟩
      · exact hstep
      · rw [hrun]
        exact ih hrest later left

/-! ## Watching a dashboard -/

/-- A dashboard whose operations and whose pipeline are watched step by step. -/
structure Watch : Type 1 where
  board : Dashboard RedrawSignal
  /-- The steps that the operation under way has ahead. -/
  ahead : List Step := []
  /-- The steps that the pipeline has ahead with the event that reached it. -/
  handling : List Step := []
  /-- The number of signals on the channel. -/
  queued : Nat := 0
  /-- Whether what a redraw shows has changed since the last signal was taken. -/
  isStale : Bool := false

/-- What happens next. -/
inductive Moment where
  /-- A deed begins, once the one before is over. -/
  | begin (deed : Deed)
  /-- The operation under way makes a step. -/
  | proceed
  /-- An event reaches the pipeline, once the one before is handled. -/
  | arrive (event : DaemonEvent)
  /-- The pipeline makes a step. -/
  | handle
  /-- Whoever draws takes the signal, if there is one. -/
  | drain
  /-- Someone else with a clone of the sender asks for a redraw. -/
  | nudge
  /-- Something happens from outside between operations. -/
  | outside (happening : Happening)
  deriving DecidableEq

namespace Watch

/-- Only a request for a redraw puts a signal on the channel. -/
def make (w : Watch) (step : Step) : Watch :=
  let board := step.run w.board
  { w with
    board
    queued :=
      match step with
      | .refresh => RedrawSignal.trySend w.queued
      | _ => w.queued
    isStale := w.isStale || decide (board.sight ≠ w.board.sight) }

def step (w : Watch) : Moment → Watch
  | .begin deed =>
    match w.ahead with
    | [] => { w with ahead := deed.script w.board }
    | _ => w
  | .proceed =>
    match w.ahead with
    | [] => w
    | step :: rest => { w.make step with ahead := rest }
  | .arrive event =>
    match w.handling with
    | [] => { w with handling := eventScript event }
    | _ => w
  | .handle =>
    match w.handling with
    | [] => w
    | step :: rest => { w.make step with handling := rest }
  | .drain =>
    { w with
      board := { w.board with redraws := w.board.redraws.take.2 }
      queued := w.queued - 1
      isStale := w.isStale && w.queued == 0 }
  | .nudge =>
    { w with board := w.board.refresh, queued := RedrawSignal.trySend w.queued }
  | .outside happening =>
    match w.ahead with
    | [] => { w with board := w.board.undergo happening }
    | _ => w

def after (w : Watch) (moments : List Moment) : Watch :=
  moments.foldl step w

/-- The channel holds at most one signal, and the dashboard's end of it says so. -/
structure HasRoom (w : Watch) : Prop where
  queued : w.queued ≤ 1
  redraws : w.board.redraws = .ofQueue w.queued

/-- No redraw is lost so far. -/
structure Sound (w : Watch) : Prop extends HasRoom w where
  covered : w.isStale = true → w.queued = 1 ∨ .refresh ∈ w.ahead ∨ .refresh ∈ w.handling
  orderly : Orderly w.ahead w.board
  handling :
    w.handling = [] ∨ w.handling = [.refresh] ∨ ∃ event, w.handling = eventScript event

variable {w : Watch}

/-! ### Single steps -/

theorem queued_make_of_ne (w : Watch) {step : Step} (hstep : step ≠ .refresh) :
    (w.make step).queued = w.queued := by
  cases step with
  | refresh => exact absurd rfl hstep
  | _ => rfl

theorem isStale_make_of_silent {step : Step} (hsilent : Silent step w.board) :
    (w.make step).isStale = w.isStale := by
  simp [make, hsilent.sight_run]

theorem hasRoom_make (h : w.HasRoom) (step : Step) : (w.make step).HasRoom := by
  by_cases hrefresh : step = .refresh
  · subst hrefresh
    have hone : RedrawSignal.trySend w.queued = 1 := RedrawSignal.trySend_eq_one h.queued
    refine ⟨Nat.le_of_eq hone, ?_⟩
    change Refresh.refresh w.board.redraws = _
    rw [h.redraws]
    exact RedrawSignal.refresh_ofQueue w.queued
  · have hsame : (w.make step).queued = w.queued := w.queued_make_of_ne hrefresh
    refine ⟨Nat.le_trans (Nat.le_of_eq hsame) h.queued, ?_⟩
    rw [hsame, ← h.redraws]
    exact redraws_run_of_ne w.board hrefresh

/-- After a step there is a signal, the one who makes it still has a request for a redraw
ahead, or the step has changed nothing and left the channel alone. -/
theorem make_cases
    (h : w.HasRoom) {step : Step} {rest : List Step}
    (hstep : Silent step w.board ∨ .refresh ∈ rest) :
    (w.make step).queued = 1 ∨ .refresh ∈ rest ∨
      step ≠ .refresh ∧ (w.make step).queued = w.queued ∧
        (w.make step).isStale = w.isStale := by
  by_cases hrefresh : step = .refresh
  · subst hrefresh
    exact .inl (RedrawSignal.trySend_eq_one h.queued)
  · rcases hstep with hsilent | hlater
    · exact .inr (.inr
        ⟨hrefresh, w.queued_make_of_ne hrefresh, isStale_make_of_silent hsilent⟩)
    · exact .inr (.inl hlater)

/-! ### Moments -/

theorem sound_begin (h : w.Sound) {deed : Deed} (hdraws : deed.Draws w.board) :
    (w.step (.begin deed)).Sound := by
  obtain ⟨board, ahead, handling, queued, isStale⟩ := w
  cases ahead with
  | cons next rest => exact h
  | nil =>
      refine ⟨⟨h.queued, h.redraws⟩, ?_, orderly_script hdraws, h.handling⟩
      intro hstale
      rcases h.covered hstale with hqueued | hahead | hhandling
      · exact .inl hqueued
      · cases hahead
      · exact .inr (.inr hhandling)

theorem sound_proceed (h : w.Sound) : (w.step .proceed).Sound := by
  obtain ⟨board, ahead, handling, queued, isStale⟩ := w
  cases ahead with
  | nil => exact h
  | cons next rest =>
      let w : Watch := ⟨board, next :: rest, handling, queued, isStale⟩
      have hroom : (w.make next).HasRoom := hasRoom_make h.toHasRoom next
      obtain ⟨hnext, hrest⟩ := h.orderly
      refine ⟨⟨hroom.queued, hroom.redraws⟩, ?_, hrest, h.handling⟩
      intro hstale
      rcases make_cases h.toHasRoom hnext with hone | hlater | ⟨hne, hqueued, hsame⟩
      · exact .inl hone
      · exact .inr (.inl hlater)
      · -- nothing has changed, so what covered the state before still does
        rcases h.covered (hsame ▸ hstale) with hone | hahead | hhandling
        · exact .inl (hqueued.trans hone)
        · exact .inr (.inl ((List.mem_cons.mp hahead).resolve_left (Ne.symm hne)))
        · exact .inr (.inr hhandling)

theorem sound_arrive (h : w.Sound) (event : DaemonEvent) :
    (w.step (.arrive event)).Sound := by
  obtain ⟨board, ahead, handling, queued, isStale⟩ := w
  cases handling with
  | cons next rest => exact h
  | nil =>
      refine ⟨⟨h.queued, h.redraws⟩, ?_, h.orderly, .inr (.inr ⟨event, rfl⟩)⟩
      intro hstale
      rcases h.covered hstale with hqueued | hahead | hhandling
      · exact .inl hqueued
      · exact .inr (.inl hahead)
      · cases hhandling

/-- The pipeline asks for a redraw right after it has logged an event, and the operation
under way notices neither. -/
theorem sound_handle (h : w.Sound) : (w.step .handle).Sound := by
  obtain ⟨board, ahead, handling, queued, isStale⟩ := w
  let w : Watch := ⟨board, ahead, handling, queued, isStale⟩
  have hahead : Orderly ahead board := h.orderly
  rcases h.handling with rfl | rfl | ⟨event, rfl⟩
  · exact h
  · have hroom : (w.make .refresh).HasRoom := hasRoom_make h.toHasRoom .refresh
    refine ⟨⟨hroom.queued, hroom.redraws⟩, ?_, hahead.apart _ _, .inl rfl⟩
    intro _
    exact .inl (RedrawSignal.trySend_eq_one h.queued)
  · have hroom : (w.make (.push event)).HasRoom := hasRoom_make h.toHasRoom (.push event)
    refine ⟨⟨hroom.queued, hroom.redraws⟩, ?_, hahead.apart _ _, .inr (.inl rfl)⟩
    intro _
    exact .inr (.inr List.mem_cons_self)

theorem sound_drain (h : w.Sound) : (w.step .drain).Sound := by
  refine ⟨⟨?_, ?_⟩, ?_, h.orderly.apart _ _, h.handling⟩
  · exact Nat.le_trans (Nat.sub_le w.queued 1) h.queued
  · change w.board.redraws.take.2 = .ofQueue (w.queued - 1)
    rw [h.redraws, RedrawSignal.take_ofQueue h.queued]
  · intro hstale
    obtain ⟨hbefore, hnone⟩ : w.isStale = true ∧ w.queued = 0 := by
      simpa [step] using hstale
    rcases h.covered hbefore with hone | hlater
    · omega
    · exact .inr hlater

theorem sound_nudge (h : w.Sound) : (w.step .nudge).Sound := by
  have hroom : (w.make .refresh).HasRoom := hasRoom_make h.toHasRoom .refresh
  refine ⟨⟨hroom.queued, hroom.redraws⟩, ?_, h.orderly.apart _ _, h.handling⟩
  intro _
  exact .inl (RedrawSignal.trySend_eq_one h.queued)

theorem sound_outside (h : w.Sound) (happening : Happening) :
    (w.step (.outside happening)).Sound := by
  obtain ⟨board, ahead, handling, queued, isStale⟩ := w
  cases ahead with
  | cons next rest => exact h
  | nil =>
      have hredraws : (board.undergo happening).redraws = .ofQueue queued :=
        (redraws_undergo board happening).trans h.redraws
      exact ⟨⟨h.queued, hredraws⟩, h.covered, trivial, h.handling⟩

theorem sound_step
    (h : w.Sound) {moment : Moment}
    (hdraws : ∀ deed, moment = .begin deed → deed.Draws w.board) :
    (w.step moment).Sound := by
  cases moment with
  | begin deed => exact sound_begin h (hdraws deed rfl)
  | proceed => exact sound_proceed h
  | arrive event => exact sound_arrive h event
  | handle => exact sound_handle h
  | drain => exact sound_drain h
  | nudge => exact sound_nudge h
  | outside happening => exact sound_outside h happening

theorem sound_after
    {moments : List Moment} (h : w.Sound)
    (hdraws : ∀ earlier deed later, moments = earlier ++ .begin deed :: later →
      deed.Draws (w.after earlier).board) :
    (w.after moments).Sound := by
  induction moments generalizing w with
  | nil => exact h
  | cons moment moments ih =>
      have hstep : (w.step moment).Sound := by
        apply sound_step h
        rintro deed rfl
        exact hdraws [] deed moments rfl
      apply ih hstep
      rintro earlier deed later rfl
      exact hdraws (moment :: earlier) deed later rfl

theorem sound_start
    {daemon : Daemon} {config : Config} {b : Dashboard RedrawSignal}
    (hstart : start daemon ({} : RedrawSignal) config = .ok b) : Sound { board := b } := by
  unfold start at hstart
  rcases hcall : daemon.call .subscribe with ⟨error | place, d⟩
  · rw [hcall] at hstart
    cases hstart
  · rw [hcall] at hstart
    cases hstart
    exact ⟨⟨Nat.zero_le _, rfl⟩, nofun, trivial, .inl rfl⟩

/-- What is promised of a deed: its script comes to what it does, the last redraw that it
asks for shows what it leaves, and it asks for one if it changes anything. -/
structure Redraws (b : Dashboard RedrawSignal) (deed : Deed) : Prop where
  follows : b.follow (deed.script b) = deed.result b
  last : ∀ earlier later, deed.script b = earlier ++ .refresh :: later → .refresh ∉ later →
    (b.follow earlier).sight = (deed.result b).sight
  asks : (deed.result b).sight ≠ b.sight → .refresh ∈ deed.script b

theorem redraws_of_orderly
    {b : Dashboard RedrawSignal} {deed : Deed} (h : Orderly (deed.script b) b) :
    Redraws b deed where
  follows := b.follow_script deed
  last := by
    intro earlier later hscript hlast
    have horderly : Orderly (earlier ++ .refresh :: later) b := hscript ▸ h
    rw [← follow_script, hscript]
    exact (horderly.sight_last hlast).symm
  asks := by
    intro hchanged
    by_contra hsilent
    apply hchanged
    rw [← follow_script]
    exact h.sight_follow hsilent

/-- No redraw is lost.  From the start on there is at most one signal on the channel.
Once an operation or an event has changed what a redraw shows, there is a signal until it
is taken, or the operation under way or the pipeline still has a request for a redraw
ahead; once both are at rest there is a signal.  Whatever is done next asks for its last
redraw after its last change. -/
theorem no_redraw_is_lost
    {daemon : Daemon} {config : Config} {b : Dashboard RedrawSignal}
    (hstart : start daemon ({} : RedrawSignal) config = .ok b) (moments : List Moment)
    (hdraws : ∀ earlier deed later, moments = earlier ++ .begin deed :: later →
      deed.Draws (after { board := b } earlier).board) :
    let w := after { board := b } moments
    w.queued ≤ 1 ∧
      w.board.redraws = .ofQueue w.queued ∧
      (w.isStale = true → w.queued = 1 ∨ .refresh ∈ w.ahead ∨ .refresh ∈ w.handling) ∧
      (w.ahead = [] → w.handling = [] → w.isStale = true → w.queued = 1) ∧
      ∀ deed, deed.Draws w.board → Redraws w.board deed := by
  intro w
  have hsound : w.Sound := sound_after (sound_start hstart) hdraws
  refine ⟨hsound.queued, hsound.redraws, hsound.covered, ?_, ?_⟩
  · intro hover hhandled hstale
    rcases hsound.covered hstale with hone | hahead | hhandling
    · exact hone
    · rw [hover] at hahead
      cases hahead
    · rw [hhandled] at hhandling
      cases hhandling
  · intro deed hdeed
    exact redraws_of_orderly (orderly_script hdeed)

/-- An event is logged and the signal of the first screen is taken, both halfway through
showing the second screen.  There is a signal for what came later, and a prune would get
one of its own. -/
theorem second_screen_is_drawn :
    let event : DaemonEvent :=
      { kind := "container", action := "start", actor := "web", time := .epoch }
    let moments : List Moment :=
      [.begin (.act (.showView .images)), .proceed, .proceed, .proceed,
        .begin (.act (.showView .help)), .arrive event, .proceed, .handle, .drain, .proceed,
        .handle, .proceed]
    ∃ b : Dashboard RedrawSignal,
      start Sample.daemon ({} : RedrawSignal) default = .ok b ∧
        (∀ earlier deed later, moments = earlier ++ .begin deed :: later →
          deed.Draws (after { board := b } earlier).board) ∧
        let w := after { board := b } moments
        w.board.navigation.view = .help ∧ w.board.events.recent = [event] ∧ w.queued = 1 ∧
          Redraws w.board (.act (.change (.direct .prune))) := by
  intro event moments
  obtain ⟨b, hstart, hhelp, hevents, hover, hhandled, hstale, hroom⟩ :
      ∃ b : Dashboard RedrawSignal,
        start Sample.daemon ({} : RedrawSignal) default = .ok b ∧
          (after { board := b } moments).board.navigation.view = .help ∧
          (after { board := b } moments).board.events.recent = [event] ∧
          (after { board := b } moments).ahead = [] ∧
          (after { board := b } moments).handling = [] ∧
          (after { board := b } moments).isStale = true ∧
          (after { board := b } moments).board.clock +
            (after { board := b } moments).board.config.reportTtl < Cache.horizon := by
    refine ⟨_, rfl, rfl, rfl, rfl, rfl, by decide, by decide⟩
  have hdraws : ∀ earlier deed later, moments = earlier ++ .begin deed :: later →
      deed.Draws (after { board := b } earlier).board := by
    intro earlier deed later hmoments
    have hmem : .begin deed ∈ moments := by
      rw [hmoments]
      simp
    have hdeed : deed = .act (.showView .images) ∨ deed = .act (.showView .help) := by
      simpa [moments] using hmem
    rcases hdeed with rfl | rfl
    · exact ⟨nofun, by rintro action ⟨⟩ ⟨⟩⟩
    · exact ⟨nofun, by rintro action ⟨⟩ ⟨⟩⟩
  obtain ⟨-, -, -, hqueued, hdeeds⟩ := no_redraw_is_lost hstart moments hdraws
  refine ⟨b, hstart, hdraws, hhelp, hevents, hqueued hover hhandled hstale, hdeeds _ ⟨nofun, ?_⟩⟩
  intro action _ _
  exact hroom

end Watch

end Dashboard

end ContainerBoard
