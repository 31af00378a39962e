import RpcServer.Config.Loader
import RpcServer.Http.Service
import RpcServer.Launch.Options
import RpcServer.Log.Output
import RpcServer.Text.Digits

/-! From the command line to a service that is ready to listen, with everything that can stop it on
the way. -/

namespace RpcServer.Launch

structure Machine where
  file : String → Option (List UInt8)
  logFilter : Option String
  canListen : String → Bool

def isLocalAddress (address : String) : Bool :=
  let s := address.toList
  match Net.SocketAddress.parse? s with
  | some a => a.host.isLocal
  | none =>
    let port := Text.afterLast ':' s
    s = "localhost:".toList ++ port && (Text.natural? port).any (· < Nat.pow 2 16)

def version : String := "0.1.0"

def event (level : Log.Level) (message : String) (fields : List (String × Log.Field)) : Log.Event :=
  ⟨level, Log.Target.launch, message, fields, none⟩

def starting : Log.Event := event .info ("rpc-pipeline v" ++ version ++ " starting") []

def echo : Handler := fun _ v => .reply (.document v)

def echoOperation : String := "/demo.Echo/Echo"

def registrations : List Http.Registration :=
  ["POST", "GET"].map fun method => ⟨method, "/echo", ⟨echoOperation, .any, echo⟩⟩

def exporterAddress? (o : Config.Observability) : Option String :=
  if o.metricsEnabled ∧ Config.isSocketAddress o.metricsAddress then some o.metricsAddress else none

def exporterEvents (m : Machine) (o : Config.Observability) : List Log.Event :=
  if !o.metricsEnabled then []
  else
    match exporterAddress? o with
    | none =>
      [event .error "Failed to parse metrics address"
        [("metrics_address", .shown o.metricsAddress),
          ("error", .shown "invalid socket address syntax")]]
    | some address =>
      let fields := [("address", Log.Field.shown address)]
      if m.canListen address then
        [⟨.info, Log.Target.metrics, "Metrics exporter listening", fields, none⟩]
      else
        [⟨.error, Log.Target.metrics, "Failed to install metrics exporter",
          fields ++ [("error", .shown "failed to create HTTP listener")], none⟩]

def builder (c : Config) : Http.Builder :=
  let b := { Http.Builder.new c with measures := (exporterAddress? c.observability).isSome }
  registrations.foldl Http.Builder.route b

def settings (m : Machine) (o : Options) : Except Config.LoadError Config :=
  let c := match o.config with
    | some path => Config.load (m.file path)
    | none => .ok {}
  c.map fun c =>
    match o.bind with
    | some address => { c with server := { c.server with bindAddress := address } }
    | none => c

structure Start where
  config : Config
  output : Log.Output
  events : List Log.Event

inductive Outcome where
  | help
  | misuse
  | unconfigured (e : Config.LoadError)
  | unrouted (s : Start) (e : Http.RouteError)
  | unbound (s : Start)
  | ready (s : Start) (service : Http.Service)

namespace Outcome

def exitCode? : Outcome → Option Nat
  | .help => some 0
  | .misuse => some 2
  | .unconfigured _ => some 1
  | .unrouted .. => some 1
  | .unbound _ => some 1
  | .ready .. => none

def start? : Outcome → Option Start
  | .unrouted s _ => some s
  | .unbound s => some s
  | .ready s _ => some s
  | _ => none

end Outcome

def start (m : Machine) (c : Config) : Outcome :=
  let o := c.observability
  let b := builder c
  let s : Start := ⟨c, .ofSettings m.logFilter o, starting :: exporterEvents m o ++ b.events⟩
  match b.build with
  | .error e => .unrouted s e
  | .ok service => if m.canListen c.server.bindAddress then .ready s service else .unbound s

def launch (m : Machine) (arguments : List String) : Outcome :=
  match Options.ofArguments arguments with
  | .help => .help
  | .misuse => .misuse
  | .run o =>
    match settings m o with
    | .error e => .unconfigured e
    | .ok c => start m c

end RpcServer.Launch
