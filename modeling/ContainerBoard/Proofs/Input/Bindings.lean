import ContainerBoard.Input.Bindings
import ContainerBoard.Proofs.KeyTable
import Mathlib.Data.List.Induction

/-!
# Edited bindings

The default bindings are edited any number of times: the key of an event is bound to a
command on one screen or on all, or its binding there is taken away.  What an event then
stands for is read off the edits.  The last edit for its key decides, first on the active
screen and, if nothing is bound there, on all screens.
-/

namespace ContainerBoard

namespace KeyCombo

/-- Whether two events with the same key differ in what is held down together with it.
The shift key does not count for a character. -/
def TellsApart (event other : KeyEvent) : Prop :=
  event.modifiers.control ≠ other.modifiers.control ∨
    event.modifiers.alt ≠ other.modifiers.alt ∨
    event.modifiers.super ≠ other.modifiers.super ∨
    (∀ c, event.code ≠ .char c) ∧ event.modifiers.shift ≠ other.modifiers.shift

theorem ofEvent_shift_of_char
    {event : KeyEvent} {c : Char} (hchar : event.code = .char c) (shift : Bool) :
    ofEvent { event with modifiers := { event.modifiers with shift } } = ofEvent event := by
  rw [ofEvent, ofEvent, hchar]

theorem modifiers_ofEvent (event : KeyEvent) :
    (ofEvent event).modifiers.control = event.modifiers.control ∧
      (ofEvent event).modifiers.alt = event.modifiers.alt ∧
      (ofEvent event).modifiers.super = event.modifiers.super := by
  rw [ofEvent]
  cases event.code <;> exact ⟨rfl, rfl, rfl⟩

theorem shift_ofEvent
    {event : KeyEvent} (h : ∀ c, event.code ≠ .char c) :
    (ofEvent event).modifiers.shift = event.modifiers.shift := by
  rw [ofEvent]
  cases hcode : event.code with
  | char c => exact absurd hcode (h c)
  | _ => rfl

theorem ofEvent_ne_of_tellsApart
    {event other : KeyEvent} (hcode : other.code = event.code) (h : TellsApart event other) :
    ofEvent other ≠ ofEvent event := by
  intro heq
  obtain ⟨hcontrol, halt, hsuper⟩ := modifiers_ofEvent event
  obtain ⟨hcontrol', halt', hsuper'⟩ := modifiers_ofEvent other
  rw [heq] at hcontrol' halt' hsuper'
  rcases h with h | h | h | ⟨hchar, h⟩
  · exact h (hcontrol.symm.trans hcontrol')
  · exact h (halt.symm.trans halt')
  · exact h (hsuper.symm.trans hsuper')
  · have hshift := shift_ofEvent hchar
    have hshift' : (ofEvent other).modifiers.shift = other.modifiers.shift :=
      shift_ofEvent fun c => hcode ▸ hchar c
    rw [heq] at hshift'
    exact h (hshift.symm.trans hshift')

end KeyCombo

namespace Bindings

/-- An edit: the key of an event is bound to a command, or its binding is taken away. -/
structure Edit where
  scope : BindingScope
  event : KeyEvent
  command : Option Command
  deriving DecidableEq

/-- Where the binding stands that is edited. -/
def Edit.place (e : Edit) : BindingScope × KeyCombo :=
  (e.scope, .ofEvent e.event)

/-- The default bindings after some edits. -/
def edited (edits : List Edit) : Bindings :=
  edits.foldl (fun b e => b.edit e.scope e.event e.command) defaults

/-- The last of the edits of one binding. -/
def lastEdit? (edits : List Edit) (place : BindingScope × KeyCombo) : Option Edit :=
  (edits.filter fun e => e.place = place).getLast?

/-- A command is bound by default. -/
def IsDefault : BindingScope → KeyCombo → Command → Prop
  | none, combo, command => (combo, command) ∈ globalDefaults
  | some view, combo, command =>
    ∃ bindings, (view, bindings) ∈ screenDefaults ∧ (combo, command) ∈ bindings

/-- A command is bound after some edits: the last edit of the binding set it, or the binding
was never edited and is one of the defaults. -/
def IsBound (edits : List Edit) (scope : BindingScope) (combo : KeyCombo)
    (command : Command) : Prop :=
  match lastEdit? edits (scope, combo) with
  | some e => e.command = some command
  | none => IsDefault scope combo command

/-- The edits that are about a key on a screen or on all screens. -/
def editsFor (view : View) (combo : KeyCombo) (edits : List Edit) : List Edit :=
  edits.filter fun e => e.place = (some view, combo) || e.place = (none, combo)

/-! ## The defaults -/

theorem entries_defaults :
    defaults.table.entries =
      globalDefaults.map (fun (combo, command) => ((none, combo), command)) ++
        screenDefaults.flatMap fun (view, bindings) =>
          bindings.map fun (combo, command) => ((some view, combo), command) := by
  refine KeyTable.foldl_insert KeyTable.empty ?_
  decide +kernel

theorem get?_defaults {scope : BindingScope} {combo : KeyCombo} {command : Command} :
    defaults.table.get? (scope, combo) = some command ↔ IsDefault scope combo command := by
  rw [KeyTable.get?_eq_some_iff, entries_defaults]
  cases scope <;> simp [IsDefault]

/-! ## Edits -/

theorem get?_edit (b : Bindings) (e : Edit) (place : BindingScope × KeyCombo) :
    (b.edit e.scope e.event e.command).table.get? place =
      if e.place = place then e.command else b.table.get? place := by
  rw [Edit.place]
  cases e.command with
  | some command => exact KeyTable.get?_insert _ _ _ _
  | none => exact (KeyTable.get?_erase _ _ _).trans (if_congr eq_comm rfl rfl)

theorem edited_append_singleton (edits : List Edit) (e : Edit) :
    edited (edits ++ [e]) = (edited edits).edit e.scope e.event e.command := by
  simp [edited]

theorem lastEdit?_append_singleton
    (edits : List Edit) (e : Edit) (place : BindingScope × KeyCombo) :
    lastEdit? (edits ++ [e]) place =
      if e.place = place then some e else lastEdit? edits place := by
  rw [lastEdit?, List.filter_append]
  by_cases hplace : e.place = place <;> simp [hplace, lastEdit?]

/-- What is found in the table is what the edits say. -/
theorem get?_edited
    {edits : List Edit} {scope : BindingScope} {combo : KeyCombo} {command : Command} :
    (edited edits).table.get? (scope, combo) = some command ↔
      IsBound edits scope combo command := by
  induction edits using List.reverseRecOn with
  | nil => exact get?_defaults
  | append_singleton edits e ih =>
      rw [edited_append_singleton, get?_edit, IsBound, lastEdit?_append_singleton]
      by_cases hplace : e.place = (scope, combo)
      · rw [if_pos hplace, if_pos hplace]
      · rw [if_neg hplace, if_neg hplace]
        exact ih

theorem lastEdit?_editsFor
    {view : View} {combo : KeyCombo} (edits : List Edit) {scope : BindingScope}
    (hscope : scope = some view ∨ scope = none) :
    lastEdit? (editsFor view combo edits) (scope, combo) = lastEdit? edits (scope, combo) := by
  rw [lastEdit?, lastEdit?, editsFor, List.filter_filter]
  congr 2
  funext e
  by_cases hplace : e.place = (scope, combo)
  · rcases hscope with rfl | rfl <;> simp [hplace]
  · simp [hplace]

/-- Only the edits about a key on a screen or on all screens decide what is found for it
there. -/
theorem get?_edited_congr
    {view : View} {combo : KeyCombo} {edits edits' : List Edit}
    (h : editsFor view combo edits' = editsFor view combo edits) {scope : BindingScope}
    (hscope : scope = some view ∨ scope = none) :
    (edited edits').table.get? (scope, combo) = (edited edits).table.get? (scope, combo) := by
  apply Option.ext
  intro command
  have hlast : lastEdit? edits' (scope, combo) = lastEdit? edits (scope, combo) := by
    rw [← lastEdit?_editsFor edits' hscope, h, lastEdit?_editsFor edits hscope]
  rw [get?_edited, get?_edited, IsBound, IsBound, hlast]

/-! ## Looking up a key -/

theorem commandFor_of_ne_release
    {event : KeyEvent} (hkind : event.kind ≠ .release) (b : Bindings) (view : View) :
    b.commandFor event view =
      (b.table.get? (some view, .ofEvent event)).or (b.table.get? (none, .ofEvent event)) :=
  if_neg hkind

/-- An event is looked up under its combination alone. -/
theorem commandFor_congr
    {b b' : Bindings} {event event' : KeyEvent} {view : View}
    (hkind : event'.kind = event.kind)
    (hview : b'.table.get? (some view, .ofEvent event') =
      b.table.get? (some view, .ofEvent event))
    (hall : b'.table.get? (none, .ofEvent event') = b.table.get? (none, .ofEvent event)) :
    b'.commandFor event' view = b.commandFor event view := by
  rw [commandFor, commandFor, hkind, hview, hall]

theorem commandFor_edited_eq_some_iff
    {event : KeyEvent} (hkind : event.kind ≠ .release) {edits : List Edit} {view : View}
    {command : Command} :
    (edited edits).commandFor event view = some command ↔
      IsBound edits (some view) (.ofEvent event) command ∨
        (∀ other, ¬ IsBound edits (some view) (.ofEvent event) other) ∧
          IsBound edits none (.ofEvent event) command := by
  rw [commandFor_of_ne_release hkind, Option.or_eq_some_iff,
    Option.eq_none_iff_forall_ne_some]
  simp only [ne_eq, get?_edited]

theorem commandFor_edit_self
    {event : KeyEvent} (hkind : event.kind ≠ .release) (edits : List Edit) (view : View)
    (command : Command) :
    (edited (edits ++ [⟨some view, event, some command⟩])).commandFor event view =
      some command := by
  have hplace : Edit.place ⟨some view, event, some command⟩ = (some view, .ofEvent event) := rfl
  rw [commandFor_of_ne_release hkind, edited_append_singleton, get?_edit, if_pos hplace,
    Option.some_or]

theorem commandFor_edit_of_ne
    {event other : KeyEvent} (h : KeyCombo.ofEvent other ≠ KeyCombo.ofEvent event)
    (edits : List Edit) (scope : BindingScope) (command : Option Command) (view : View) :
    (edited (edits ++ [⟨scope, event, command⟩])).commandFor other view =
      (edited edits).commandFor other view := by
  have hplace (searched : BindingScope) :
      Edit.place ⟨scope, event, command⟩ ≠ (searched, .ofEvent other) :=
    fun heq => h (congrArg Prod.snd heq).symm
  refine commandFor_congr rfl ?_ ?_
  · rw [edited_append_singleton, get?_edit, if_neg (hplace (some view))]
  · rw [edited_append_singleton, get?_edit, if_neg (hplace none)]

/-- Where a binding of the screen is taken away, the one for all screens is found. -/
theorem commandFor_edit_removed
    {event removed : KeyEvent} (hkind : event.kind ≠ .release)
    (hcombo : KeyCombo.ofEvent removed = KeyCombo.ofEvent event) (edits : List Edit)
    (view : View) :
    (edited (edits ++ [⟨some view, removed, none⟩])).commandFor event view =
      (edited edits).table.get? (none, .ofEvent event) := by
  have hplace : Edit.place ⟨some view, removed, none⟩ = (some view, .ofEvent event) :=
    congrArg (some view, ·) hcombo
  have hother : Edit.place ⟨some view, removed, none⟩ ≠ (none, .ofEvent event) :=
    fun heq => nomatch congrArg Prod.fst heq
  rw [commandFor_of_ne_release hkind, edited_append_singleton, get?_edit, get?_edit,
    if_pos hplace, if_neg hother, Option.none_or]

/-- What an event stands for on a screen after any edits of the default bindings.

* Letting a key go stands for nothing.
* Otherwise an event stands for what its key is bound to on the screen, and if it is bound
  to nothing there, for what it is bound to on all screens.
* So the binding for all screens is uncovered where that of the screen is taken away, and
  edits for other screens or other keys do not matter.
* The shift key makes no difference to a character.  For all other keys it does, and the
  other keys held down always do: a binding for an event with one of them says nothing about
  the event without it. -/
theorem key_lookup_after_edits (edits : List Edit) (view : View) (event : KeyEvent) :
    let b := edited edits
    let combo := KeyCombo.ofEvent event
    (event.kind = .release → b.commandFor event view = none) ∧
      (event.kind ≠ .release → ∀ command,
        b.commandFor event view = some command ↔
          IsBound edits (some view) combo command ∨
            (∀ other, ¬ IsBound edits (some view) combo other) ∧
              IsBound edits none combo command) ∧
      (event.kind ≠ .release → ∀ removed, KeyCombo.ofEvent removed = combo → ∀ command,
        (edited (edits ++ [⟨some view, removed, none⟩])).commandFor event view =
            some command ↔
          IsBound edits none combo command) ∧
      (∀ edits', editsFor view combo edits' = editsFor view combo edits →
        (edited edits').commandFor event view = b.commandFor event view) ∧
      (∀ c, event.code = .char c → ∀ shift,
        b.commandFor { event with modifiers := { event.modifiers with shift } } view =
          b.commandFor event view) ∧
      ∀ other, other.code = event.code → KeyCombo.TellsApart event other →
        event.kind ≠ .release → ∀ command,
          let b' := edited (edits ++ [⟨some view, event, some command⟩])
          b'.commandFor event view = some command ∧
            b'.commandFor other view = b.commandFor other view := by
  intro b combo
  refine ⟨?_, ?_, ?_, ?_, ?_, ?_⟩
  · intro hrelease
    exact if_pos hrelease
  · intro hkind command
    exact commandFor_edited_eq_some_iff hkind
  · intro hkind removed hcombo command
    rw [commandFor_edit_removed hkind hcombo]
    exact get?_edited
  · intro edits' hedits
    exact commandFor_congr rfl (get?_edited_congr hedits (.inl rfl))
      (get?_edited_congr hedits (.inr rfl))
  · intro c hchar shift
    have hcombo := KeyCombo.ofEvent_shift_of_char hchar shift
    exact commandFor_congr rfl (by rw [hcombo]) (by rw [hcombo])
  · intro other hcode hapart hkind command b'
    have hne := KeyCombo.ofEvent_ne_of_tellsApart hcode hapart
    exact ⟨commandFor_edit_self hkind edits view command,
      commandFor_edit_of_ne hne edits (some view) (some command) view⟩

/-- The key to remove things is bound to a prune everywhere and taken away from the images:
there it prunes, with the shift key as without it, and among the networks it still removes
one. -/
example :
    let edits : List Edit :=
      [⟨none, { code := .char 'r', modifiers := { shift := true } }, some .prune⟩,
       ⟨some .images, { code := .char 'r' }, none⟩]
    let event : KeyEvent := { code := .char 'r', modifiers := { shift := true } }
    (edited edits).commandFor event .images = some .prune ∧
      (edited edits).commandFor { code := .char 'r' } .images = some .prune ∧
      (edited edits).commandFor event .networks = some .remove := by
  decide +kernel

end Bindings

end ContainerBoard
