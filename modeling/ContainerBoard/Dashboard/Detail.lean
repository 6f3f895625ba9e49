import ContainerBoard.Dashboard.Navigate
import ContainerBoard.ObjectId

/-!
# Detail screens

A detail screen is shown with data that is fetched first.  The data becomes
the snapshot behind the screen.  When a request fails, the screen and the
snapshots stay as they are.
-/

namespace ContainerBoard

/-- Something to be fetched and shown. -/
inductive Detail where
  | history (id : String)
  | image (id : String)
  | network (id : String)
  | networks
  | host
  deriving DecidableEq, Repr

/-- A detail of the object in a row. -/
inductive RowDetail where
  | history (position : Nat)
  | image (position : Nat)
  | network (position : Nat)
  deriving DecidableEq, Repr

namespace Detail

abbrev Data : Detail → Type
  | history _ => List ImageLayer
  | image _ => ImageDetails
  | network _ => Network
  | networks => List Network
  | host => Host

def request : (detail : Detail) → Request detail.Data
  | history id => .history id
  | image id => .inspectImage id
  | network id => .inspectNetwork id
  | networks => .networks
  | host => .info

def view : Detail → View
  | history _ => .imageHistory
  | image _ => .inspectImage
  | network _ => .inspectNetwork
  | networks => .networks
  | host => .info

/-- Keeps it as the snapshot behind its screen. -/
def store : (detail : Detail) → detail.Data → Snapshots → Snapshots
  | history _, layers, s => { s with imageHistory := some layers }
  | image _, details, s => { s with inspectedImage := some details }
  | network _, n, s => { s with inspectedNetwork := some n }
  | networks, ns, s => { s with networks := some ns }
  | host, h, s => { s with host := some h }

/-- What a failure report says was tried. -/
def action : Detail → String
  | history id => "getting history of image " ++ ObjectId.short id
  | image id => "inspecting image " ++ ObjectId.short id
  | network id => "inspecting network " ++ ObjectId.short id
  | networks => "retrieving network list"
  | host => ""

end Detail

namespace Dashboard

variable {ρ : Type} [Refresh ρ]

/-- Fetches a detail and shows it; gives back the error of a request that
fails. -/
def load (b : Dashboard ρ) (detail : Detail) : Except BoardError Unit × Dashboard ρ :=
  match b.fetch detail.request with
  | (.ok data, b) =>
    (.ok (), { b with snapshots := detail.store data b.snapshots }.showView detail.view)
  | (.error error, b) => (.error error, b)

/-- Fetches a detail and shows it; reports a failure on the status line. -/
def openDetail (b : Dashboard ρ) (detail : Detail) : Dashboard ρ :=
  match b.load detail with
  | (.ok (), b) => b
  | (.error error, b) => b.reportFailure detail.action error

/-- Goes on with the id of the object in a row, or reports that there is
none. -/
def withRow (answer : Except BoardError String × Dashboard ρ) (action : String)
    (next : String → Dashboard ρ → Dashboard ρ) : Dashboard ρ :=
  match answer with
  | (.ok id, b) => next id b
  | (.error error, b) => b.reportFailure action error

def containerIdAt (b : Dashboard ρ) (position : Nat) :
    Except BoardError String × Dashboard ρ :=
  let (answer, b) := b.containerAt position
  (answer.map Container.id, b)

def imageIdAt (b : Dashboard ρ) (position : Nat) :
    Except BoardError String × Dashboard ρ :=
  let (answer, b) := b.imageAt position
  (answer.map Image.id, b)

def networkIdAt (b : Dashboard ρ) (position : Nat) :
    Except BoardError String × Dashboard ρ :=
  let (answer, b) := b.networkAt position
  (answer.map Network.id, b)

/-- Shows a detail of the object in a row. -/
def openRow (b : Dashboard ρ) : RowDetail → Dashboard ρ
  | .history position =>
    withRow (b.imageIdAt position) "getting image history" fun id b =>
      b.openDetail (.history id)
  | .image position =>
    withRow (b.imageIdAt position) "inspecting image" fun id b => b.openDetail (.image id)
  | .network position =>
    withRow (b.networkIdAt position) "inspecting network" fun id b =>
      b.openDetail (.network id)

end Dashboard

end ContainerBoard
