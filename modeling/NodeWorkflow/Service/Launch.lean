import NodeWorkflow.Service.Settings

/-!
# Launching the service

What the server and its log are started with.
-/

namespace NodeWorkflow.Service

structure Launch where
  logFormat : String
  logThreshold : Nat
  app : String
  host : String
  port : Int
  /-- Whether the server starts anew when a file changes. -/
  reload : Bool

namespace Launch

/-- The launch that settings ask for. -/
def ofSettings (s : Settings) : Launch where
  logFormat := "%(asctime)s - %(name)s - %(levelname)s - %(message)s"
  logThreshold := s.logLevel.threshold
  app := "graphsmith.api.main:app"
  host := s.serverHost
  port := s.serverPort
  reload := false

/-- What the log is started with, and what the server is. -/
def toJson (l : Launch) : Json :=
  .arr [.obj [("format", .str l.logFormat), ("level", .int l.logThreshold)],
    .obj [("app", .str l.app), ("host", .str l.host), ("port", .int l.port),
      ("reload", .bool l.reload)]]

end Launch

end NodeWorkflow.Service
