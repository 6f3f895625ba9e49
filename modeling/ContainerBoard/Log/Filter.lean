import ContainerBoard.LogLine
import ContainerBoard.Number.Unsigned
import ContainerBoard.Text.Blank
import ContainerBoard.Text.Hidden
import ContainerBoard.Text.Pictographs

/-!
# Log filters

A filter says which lines go to the log: directives between commas, each
with a level, and perhaps the target or the span of the program that it
holds for.  The most specific directive comes first when a filter is shown.
A filter that is no list of directives stands for lines of level `info`.
-/

namespace ContainerBoard.LogFilter

/-- The least important lines that a directive lets through. -/
inductive Threshold where
  | off
  | error
  | warn
  | info
  | debug
  | trace
  deriving DecidableEq, Repr

namespace Threshold

def label : Threshold → String
  | off => "off"
  | error => "error"
  | warn => "warn"
  | info => "info"
  | debug => "debug"
  | trace => "trace"

/-- The threshold that lets lines of a level through, and nothing less
important. -/
def ofLevel : Level → Threshold
  | .trace => trace
  | .debug => debug
  | .info => info
  | .warn => warn
  | .error => error

/-- All levels; the place of a level is its number. -/
def all : List Threshold :=
  [off, error, warn, info, debug, trace]

/-- The level with a name in small or large letters. -/
def ofName? (name : List Char) : Option Threshold :=
  all.find? fun level => level.label.toList = name.map Char.toLower

/-- The level of a name or number of any length. -/
def ofText? (text : List Char) : Option Threshold :=
  match unsigned64? text with
  | some n => all[n]?
  | none => ofName? text

end Threshold

/-- A field of a span, perhaps with the value that it must have. -/
structure FieldTest where
  name : String
  value : Option String := none
  deriving DecidableEq, Repr

def FieldTest.text (field : FieldTest) : String :=
  match field.value with
  | some value => field.name ++ "=" ++ value
  | none => field.name

/-- A part of a filter. -/
structure Directive where
  target : Option String := none
  span : Option String := none
  fields : List FieldTest := []
  level : Threshold
  deriving DecidableEq, Repr

namespace Directive

/-- The text of the part between brackets, if there is any. -/
def spanText (d : Directive) : String :=
  if d.span.isNone && d.fields.isEmpty then ""
  else
    let fields :=
      if d.fields.isEmpty then ""
      else "\x7b" ++ String.intercalate "," (d.fields.map FieldTest.text) ++ "\x7d"
    "[" ++ d.span.getD "" ++ fields ++ "]"

def text (d : Directive) : String :=
  let scope := d.target.getD "" ++ d.spanText
  if d.target.isNone && d.spanText.isEmpty then d.level.label
  else scope ++ "=" ++ d.level.label

/-- Whether the directive depends on where the program is. -/
def isDynamic (d : Directive) : Bool :=
  d.span.isSome || !d.fields.isEmpty

/-- Whether the directive can be decided without knowing where the program
is. -/
def isStatic (d : Directive) : Bool :=
  d.span.isNone && d.fields.all fun field => field.value.isNone

/-- How the absence of a text compares: before every text. -/
def compareOption (a b : Option String) : Ordering :=
  match a, b with
  | none, none => .eq
  | none, some _ => .lt
  | some _, none => .gt
  | some a, some b => compare a b

/-- The length of a text that may be absent; absence is shorter than any. -/
def measure (s : Option String) : Nat :=
  match s with
  | none => 0
  | some s => s.utf8ByteSize + 1

/-- How specific a directive is, compared with another: by the length of its
target, by its span, by the number of its fields, and then by their texts. -/
def specificity (a b : Directive) : Ordering :=
  (compare (measure a.target) (measure b.target)).then <|
  (compare a.span.isSome.toNat b.span.isSome.toNat).then <|
  (compare a.fields.length b.fields.length).then <|
  (compareOption a.target b.target).then <|
  (compareOption a.span b.span).then <|
  compare (String.intercalate "," (a.fields.map FieldTest.text))
    (String.intercalate "," (b.fields.map FieldTest.text))

end Directive

/-- Adds a directive before the less specific ones, instead of an equally
specific one. -/
def insert (d : Directive) : List Directive → List Directive
  | [] => [d]
  | e :: rest =>
    match d.specificity e with
    | .gt => d :: e :: rest
    | .eq => d :: rest
    | .lt => e :: insert d rest

/-- Directives with the most specific one first. -/
def arrange (ds : List Directive) : List Directive :=
  ds.foldl (fun table d => insert d table) []

/-- Whether a directive may begin with the character, if it begins with a
target or a level. -/
def isTargetStart (c : Char) : Bool :=
  c.isAlphanum || c == '_' || c == ':' || c == '-' ||
  (0xaa ≤ c.toNat && c.toNat != 0xd7 && c.toNat != 0xf7 && !Text.isBlank c &&
    !Text.isHidden c && !Text.isPictograph c &&
    !(0x2010 ≤ c.toNat && c.toNat ≤ 0x2bff) && !(0x3000 ≤ c.toNat && c.toNat ≤ 0x3020))

/-- The characters from one place up to another. -/
def slice (s : List Char) (start stop : Nat) : List Char :=
  (s.drop start).take (stop - start)

/-- Reads the test of a field: its name, and a value after an equals sign. -/
def readField? (s : List Char) : Option FieldTest :=
  if s.isEmpty then none
  else
    let name := s.takeWhile (· != '=')
    match s.drop name.length with
    | _ :: rest =>
      let value := rest.takeWhile (· != '=')
      some { name := String.ofList name, value := some (String.ofList value) }
    | [] => some { name := String.ofList name }

/-- The part of a directive that is being read, with the place where it
began. -/
inductive Progress where
  | beginning
  /-- A level by itself, or a target. -/
  | word (start : Nat)
  | span (start : Nat)
  | field (start : Nat)
  | fieldEnd
  | spanEnd
  | level (start : Nat)
  deriving DecidableEq, Repr

/-- Reads one more character.  `s` is the whole text of the directive. -/
def advance (s : List Char) (d : Directive) (progress : Progress) (place : Nat) (c : Char) :
    Option (Directive × Progress) :=
  match progress with
  | .beginning =>
    if c == '[' then some (d, .span (place + 1))
    else if isTargetStart c then some (d, .word place)
    else none
  | .word start =>
    let target := some (String.ofList (slice s start place))
    if c == '=' then some ({ d with target }, .level (place + 1))
    else if c == '[' then some ({ d with target }, .span (place + 1))
    else some (d, .word start)
  | .span start =>
    let name := String.ofList (slice s start place)
    if c == ']' then some ({ d with span := some name }, .spanEnd)
    else if c == '\x7b' then
      some ({ d with span := if name.isEmpty then none else some name }, .field (place + 1))
    else some (d, .span start)
  | .field start =>
    if c == '\x7d' then
      (readField? (slice s start place)).map fun field =>
        ({ d with fields := d.fields ++ [field] }, .fieldEnd)
    else some (d, .field start)
  | .fieldEnd => if c == ']' then some (d, .spanEnd) else none
  | .spanEnd => if c == '=' then some (d, .level (place + 1)) else none
  | .level start => some (d, .level start)

def advanceAll (s : List Char) (d : Directive) (progress : Progress) (place : Nat) :
    List Char → Option (Directive × Progress)
  | [] => some (d, progress)
  | c :: rest =>
    (advance s d progress place c).bind fun (d, progress) =>
      advanceAll s d progress (place + 1) rest

/-- Completes a directive at the end of its text.  Without a level every line
goes through. -/
def complete (s : List Char) (d : Directive) : Progress → Option Directive
  | .word start =>
    match Threshold.ofText? (s.drop start) with
    | some level => some { d with level }
    | none => some { d with target := some (String.ofList (s.drop start)) }
  | .level start =>
    if (s.drop start).isEmpty then some d
    else (Threshold.ofText? (s.drop start)).map fun level => { d with level }
  | .spanEnd => some d
  | _ => none

/-- Reads a directive.  Its parts are found without the blanks around the
text, but they are cut out of the whole text. -/
def read? (s : List Char) : Option Directive :=
  (advanceAll s { level := .trace } .beginning 0 (Text.trim s)).bind fun (d, progress) =>
    complete s d progress

/-- The pieces of a text between commas. -/
def pieces (s : String) : List String :=
  s.splitOn ","

/-- The directives of a filter. -/
def directives? (filter : String) : Option (List Directive) :=
  if filter.isEmpty then some [] else (pieces filter).mapM fun piece => read? piece.toList

/-- The directives that hold everywhere in the program, the most specific one
first. -/
def static (ds : List Directive) : List Directive :=
  arrange
    (ds.filter (fun d => !d.isDynamic) ++ ds.filter fun d => d.isDynamic && d.isStatic)

/-- The directives that depend on where the program is, the most specific one
first. -/
def dynamic (ds : List Directive) : List Directive :=
  arrange (ds.filter Directive.isDynamic)

/-- The directives in the order in which they are shown; without any, errors
are let through. -/
def inOrder (ds : List Directive) : List Directive :=
  match static ds ++ dynamic ds with
  | [] => [{ level := .error }]
  | all => all

/-- The directives that a text stands for. -/
def read (filter : String) : List Directive :=
  inOrder ((directives? filter).getD [{ level := .info }])

/-- The text of the filter that a text stands for. -/
def normalize (filter : String) : String :=
  String.intercalate "," ((read filter).map Directive.text)

/-- The target of the program's own lines. -/
def ownTarget : String := "dockdeck"

/-- Whether a directive holds for all lines of the program. -/
def Directive.isOwn (d : Directive) : Bool :=
  !d.isDynamic && (d.target.getD "").toList.isPrefixOf ownTarget.toList

/-- Whether lines of a level go to the log; the most specific directive
decides. -/
def admits (filter : String) (level : Level) : Bool :=
  match (read filter).find? Directive.isOwn with
  | some d =>
    Threshold.all.idxOf (.ofLevel level) ≤ Threshold.all.idxOf d.level
  | none => false

end ContainerBoard.LogFilter
