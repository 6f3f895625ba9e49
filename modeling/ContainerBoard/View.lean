/-!
# Screens of the dashboard
-/

namespace ContainerBoard

/-- A screen of the dashboard. -/
inductive View where
  | containers
  | images
  | networks
  | inspectImage
  | inspectNetwork
  | imageHistory
  | diskUsage
  | events
  | help
  | info
  | monitor
  | nodes
  | services
  | serviceTasks
  | nodeTasks
  deriving DecidableEq, Repr

namespace View

/-- The screen that a dashboard opens with. -/
instance : Inhabited View := ⟨containers⟩

/-- Whether going back leads to the screen. -/
def isMain : View → Bool
  | containers => true
  | images => true
  | networks => true
  | _ => false

def title : View → String
  | containers => "Containers"
  | images => "Images"
  | networks => "Networks"
  | inspectImage => "Image"
  | inspectNetwork => "Network"
  | imageHistory => "Image history"
  | diskUsage => "Disk usage"
  | events => "Events"
  | help => "Help"
  | info => "Info"
  | monitor => "Monitor"
  | nodes => "Nodes"
  | services => "Services"
  | serviceTasks => "Service tasks"
  | nodeTasks => "Node tasks"

/-- The screen's name in debugging output. -/
def debugName : View → String
  | containers => "Main"
  | images => "Images"
  | networks => "Networks"
  | inspectImage => "InspectImage"
  | inspectNetwork => "InspectNetwork"
  | imageHistory => "ImageHistory"
  | diskUsage => "DiskUsage"
  | events => "Events"
  | help => "Help"
  | info => "Info"
  | monitor => "Monitor"
  | nodes => "Nodes"
  | services => "Services"
  | serviceTasks => "ServiceTasks"
  | nodeTasks => "Tasks"

def all : List View :=
  [containers, images, networks, inspectImage, inspectNetwork, imageHistory, diskUsage,
   events, help, info, monitor, nodes, services, serviceTasks, nodeTasks]

end View

end ContainerBoard
