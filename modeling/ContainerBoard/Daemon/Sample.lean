import ContainerBoard.Daemon.Basic

/-!
# A sample daemon

A small set of objects as they are found on a developer's machine.
-/

namespace ContainerBoard.Sample

def nginxImageId : String :=
  "sha256:8dfafdbc3a40f7a1b2c3d4e5f60718293a4b5c6d7e8f90a1b2c3d4e5f6071829"

def webContainerId : String :=
  "4c01db0b339c7e5c8a2b1f4d9e3a6b0c5d8e7f1a2b3c4d5e6f708192a3b4c5d6"

/-- A container that runs, or one that has ended. -/
def container (id name image : String) (running : Bool) : Container where
  id := id
  names := ["/" ++ name]
  image := image
  created := 1700000000
  state := if running then "running" else "exited"
  status := if running then "Up 2 hours" else "Exited (0) 3 hours ago"

def containers : List Container :=
  [container webContainerId "web" "nginx:1.25" true,
   container "9f8e7d6c5b4a39281706f5e4d3c2b1a09f8e7d6c5b4a39281706f5e4d3c2b1a0"
     "db" "postgres:16" true,
   container "1a2b3c4d5e6f708192a3b4c5d6e7f8091a2b3c4d5e6f708192a3b4c5d6e7f809"
     "migrate" "app:latest" false,
   container "0f1e2d3c4b5a69788796a5b4c3d2e1f00f1e2d3c4b5a69788796a5b4c3d2e1f0"
     "nightly-report" "alpine:3.19" false]

/-- An image of some size. -/
def image (id : String) (tags : List String) (size : Int64) : Image where
  id := id
  tags := tags
  created := 1699000000
  size := size

def images : List Image :=
  [image nginxImageId ["nginx:1.25"] 187000000,
   image "sha256:26380e1ca356a1b2c3d4e5f60718293a4b5c6d7e8f90a1b2c3d4e5f607182930"
     ["postgres:16"] 432000000,
   image "sha256:541a0f4efc6fa1b2c3d4e5f60718293a4b5c6d7e8f90a1b2c3d4e5f607182931"
     [] 64000000,
   image "sha256:a3d6e836e86aa1b2c3d4e5f60718293a4b5c6d7e8f90a1b2c3d4e5f607182932"
     ["alpine:3.19"] 7400000,
   image "sha256:03b4557ad7b9a1b2c3d4e5f60718293a4b5c6d7e8f90a1b2c3d4e5f607182933"
     ["app:latest"] 121000000]

/-- A local network with its attached containers. -/
def network (id name driver : String) (attached : List (String × Attachment)) :
    Network where
  id := id
  name := name
  driver := driver
  scope := "local"
  attached := .ofList attached

def networks : List Network :=
  [network "f3a9c1e5b7d2" "bridge" "bridge" [],
   network "7b2e4d6f8a1c" "host" "host" [],
   network "2c8e0a4b6d9f" "none" "null" [],
   network "d41f2b8c9e07" "frontend" "bridge"
     [(webContainerId, { name := "web", address := "172.18.0.2/16" })],
   network "a6c2e8b4d0f1" "scratch" "overlay" []]

def layers : List ImageLayer :=
  [{ id := nginxImageId, created := 1699000000,
     createdBy := "/bin/sh -c #(nop)  CMD [\"nginx\" \"-g\" \"daemon off;\"]" },
   { id := "<missing>", created := 1698990000,
     createdBy := "/bin/sh -c apt-get update && apt-get install -y nginx",
     size := 112000000 },
   { id := "<missing>", created := 1698980000,
     createdBy := "/bin/sh -c #(nop) ADD file:rootfs.tar.xz in /",
     size := 75000000 }]

def host : Host where
  id := "Q3ZK:7H2L:PX4M"
  name := "devbox"
  serverVersion := "25.0.3"
  operatingSystem := "Debian GNU/Linux 12 (bookworm)"
  processors := 8
  memory := 16663000000

def services : List Service :=
  [{ id := "svc1q2w3e4r5t", name := "api", image := "app:latest", replicas := 2 },
   { id := "svc6y7u8i9o0p", name := "worker", image := "app:latest", replicas := 1 }]

def nodes : List Node :=
  [{ id := "node1a2b3c4d", hostname := "manager-1", role := "manager", state := "ready" },
   { id := "node5e6f7g8h", hostname := "worker-1", role := "worker", state := "ready" }]

def tasks : List Task :=
  [{ id := "task01", serviceId := "svc1q2w3e4r5t", nodeId := "node1a2b3c4d",
     state := "running" },
   { id := "task02", serviceId := "svc1q2w3e4r5t", nodeId := "node5e6f7g8h",
     state := "running" },
   { id := "task03", serviceId := "svc6y7u8i9o0p", nodeId := "node5e6f7g8h",
     state := "running" }]

def logs : List (String × List String) :=
  [(webContainerId,
    ["172.18.0.1 - - \"GET / HTTP/1.1\" 200 615",
     "172.18.0.1 - - \"GET /favicon.ico HTTP/1.1\" 404 153"]),
   ("svc1q2w3e4r5t", ["api listening on :8080"])]

/-- A daemon with the sample objects. -/
def daemon : Daemon where
  containers := containers
  images := images
  networks := networks
  layers := .ofList [(nginxImageId, layers)]
  host := host
  services := services
  nodes := nodes
  tasks := tasks
  logs := .ofList logs

end ContainerBoard.Sample
