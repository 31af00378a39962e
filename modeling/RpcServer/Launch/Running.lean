import RpcServer.Launch.Startup
import RpcServer.Shutdown

/-! What a server logs from the moment that it listens until it has stopped. -/

namespace RpcServer.Launch

def address (s : Start) : String × Log.Field := ("address", .shown s.config.server.bindAddress)

def openingEvents (s : Start) : List Log.Event :=
  [event .info "Listening for connections" [address s],
    ⟨.info, Log.Target.server, "HTTP server starting",
      [address s, ("endpoint", .shown s.config.server.reportedEndpoint)], none⟩]

def signalEvent (signal : String) : Log.Event :=
  ⟨.info, Log.Target.signals, "Signal received", [("signal", .literal signal)], none⟩

def closingEvents (signal : String) : List Log.Event :=
  signalEvent signal :: Shutdown.new.subscribe.trigger.2 ++
    [⟨.info, Log.Target.server, "Shutdown signal received, draining connections", [], none⟩,
      ⟨.info, Log.Target.server, "HTTP server stopped", [], none⟩,
      event .info "Shutdown complete" []]

end RpcServer.Launch
