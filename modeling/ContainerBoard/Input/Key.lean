/-!
# Keys
-/

namespace ContainerBoard

/-- The keys of a media player. -/
inductive MediaKey where
  | play
  | pause
  | playPause
  | reverse
  | stop
  | fastForward
  | rewind
  | nextTrack
  | previousTrack
  | record
  | lowerVolume
  | raiseVolume
  | mute
  deriving DecidableEq, Repr

/-- The keys that are held down together with others, by themselves. -/
inductive ModifierKey where
  | leftShift
  | leftControl
  | leftAlt
  | leftSuper
  | leftHyper
  | leftMeta
  | rightShift
  | rightControl
  | rightAlt
  | rightSuper
  | rightHyper
  | rightMeta
  | thirdLevelShift
  | fifthLevelShift
  deriving DecidableEq, Repr

/-- What is on a key. -/
inductive KeyCode where
  | char (c : Char)
  | enter
  | esc
  | up
  | down
  | left
  | right
  | tab
  | backTab
  | backspace
  | home
  | last
  | pageUp
  | pageDown
  | delete
  | insert
  | function (n : Nat)
  /-- The character with code zero. -/
  | null
  | capsLock
  | scrollLock
  | numLock
  | printScreen
  | pause
  | menu
  | keypadBegin
  | media (key : MediaKey)
  | modifier (key : ModifierKey)
  deriving DecidableEq, Repr

/-- The keys held down together with another one. -/
structure Modifiers where
  shift : Bool := false
  control : Bool := false
  alt : Bool := false
  super : Bool := false
  hyper : Bool := false
  metaKey : Bool := false
  deriving DecidableEq, Repr

/-- What happens to a key. -/
inductive KeyKind where
  | press
  | hold
  | release
  deriving DecidableEq, Repr

/-- Something that happens to a key. -/
structure KeyEvent where
  code : KeyCode
  modifiers : Modifiers := {}
  kind : KeyKind := .press
  deriving DecidableEq, Repr

/-- A key with the keys held down together with it. -/
structure KeyCombo where
  code : KeyCode
  modifiers : Modifiers := {}
  deriving DecidableEq, Repr

namespace KeyCombo

def ofChar (c : Char) : KeyCombo :=
  { code := .char c }

/-- The combination of an event.  The shift key is part of a character. -/
def ofEvent (event : KeyEvent) : KeyCombo where
  code := event.code
  modifiers :=
    match event.code with
    | .char _ => { event.modifiers with shift := false }
    | _ => event.modifiers

end KeyCombo

end ContainerBoard
