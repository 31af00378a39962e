import RpcServer.Http.Dispatcher
import RpcServer.Http.Fallback
import RpcServer.Http.Pattern
import RpcServer.Text.Split

/-! Routes under methods and path patterns, and the service that answers requests by them. -/

namespace RpcServer.Http

inductive PathFault where
  | notAbsolute
  | markedSegment
deriving DecidableEq

def PathFault.message : PathFault → String
  | .notAbsolute => "must start with '/'"
  | .markedSegment => "segments must not start with ':' or '*', use \x7bparam\x7d"

inductive RouteError where
  | invalidPath (path : String) (fault : PathFault)
  | rejected (path : String) (refusal : Pattern.Refusal)
  | unsupportedMethod (method path : String)
deriving DecidableEq

namespace RouteError

def message : RouteError → String
  | .invalidPath path fault => "invalid route path " ++ path ++ ": " ++ fault.message
  | .rejected path _ => "route path " ++ path ++ " rejected"
  | .unsupportedMethod method path => "unsupported method " ++ method ++ " for " ++ path

end RouteError

def supportedMethods : List String :=
  ["CONNECT", "DELETE", "GET", "HEAD", "OPTIONS", "PATCH", "POST", "PUT", "TRACE"]

structure Registration where
  method : String
  path : String
  route : Route

structure Binding where
  path : String
  pattern : Pattern
  methods : List (String × Route)

namespace Binding

def route? (b : Binding) (method : String) : Option Route :=
  let own := (b.methods.find? fun m => m.1 = method).map (·.2)
  if method = "HEAD" then own.or ((b.methods.find? fun m => m.1 = "GET").map (·.2)) else own

def answers (method : String) : List String := if method = "GET" then ["GET", "HEAD"] else [method]

def allowed (b : Binding) : List String :=
  (b.methods.flatMap fun m => answers m.1).foldl
    (fun done m => if m ∈ done then done else done ++ [m]) []

end Binding

def pathFault? (path : String) : Option PathFault :=
  let s := path.toList
  if s.head? ≠ some '/' then some .notAbsolute
  else if (Text.pieces '/' s).any fun p => p.head? = some ':' || p.head? = some '*' then
    some .markedSegment
  else none

def bind (bs : List Binding) (r : Registration) : Except RouteError (List Binding) :=
  if r.method ∉ supportedMethods then .error (.unsupportedMethod r.method r.path)
  else if bs.any fun b => b.path = r.path then
    .ok (bs.map fun b =>
      if b.path = r.path then { b with methods := b.methods ++ [(r.method, r.route)] } else b)
  else
    match pathFault? r.path with
    | some fault => .error (.invalidPath r.path fault)
    | none =>
      match Pattern.accept (bs.map (·.pattern)) r.path with
      | .error e => .error (.rejected r.path e)
      | .ok p => .ok (bs ++ [⟨r.path, p, [(r.method, r.route)]⟩])

def registering (r : Registration) : Log.Event :=
  ⟨.debug, Log.Target.server, "Registering route",
    [("method", .shown r.method), ("path", .shown r.path),
      ("operation", .shown r.route.operation)], none⟩

def boundOf (bs : List Binding) : List Registration → List Registration
  | [] => []
  | r :: rs =>
    match bind bs r with
    | .ok bs => r :: boundOf bs rs
    | .error _ => []

def bindAll (bs : List Binding) : List Registration → Except RouteError (List Binding)
  | [] => .ok bs
  | r :: rs =>
    match bind bs r with
    | .ok bs => bindAll bs rs
    | .error e => .error e

structure Service where
  dispatcher : Dispatcher
  fallback : Fallback
  bindings : List Binding

structure Builder where
  config : Config
  measures : Bool
  mapper : Option (ServiceError → Except Panic Int32)
  codecs : Reply.Codecs
  registrations : List Registration

namespace Builder

def new (c : Config) : Builder := ⟨c, false, none, .new, []⟩

def route (b : Builder) (r : Registration) : Builder :=
  { b with
    registrations :=
      b.registrations.filter (fun s => !(s.method = r.method && s.path = r.path)) ++ [r] }

def encoder (b : Builder) : Reply.Encoder :=
  { Reply.Encoder.ofConfig b.config.responses with
    codecs := b.codecs
    resolver := ⟨b.mapper, b.config.responses.fallbackErrorCode⟩ }

def tracer (b : Builder) : Tracer :=
  ⟨b.config.observability.maxLogBodyBytes, b.config.observability.redactedHeaders, b.measures⟩

def dispatcher (b : Builder) : Dispatcher where
  encoder := b.encoder
  tracer := b.tracer
  endpoint := b.config.server.reportedEndpoint
  timeoutSecs := b.config.server.requestTimeoutSecs
  maxBodyBytes := b.config.server.maxBodyBytes

def build (b : Builder) : Except RouteError Service :=
  (bindAll [] b.registrations).map fun bindings =>
    ⟨b.dispatcher, .ofConfig b.config.responses b.measures, bindings⟩

def events (b : Builder) : List Log.Event := (boundOf [] b.registrations).map registering

end Builder

inductive Destination where
  | route (r : Route)
  | wrongMethod (allowed : List String)
  | nowhere

namespace Service

def routes (s : Service) : Routes Binding := s.bindings.map fun b => (b.pattern, b)

def destination (s : Service) (method path : String) : Destination :=
  match s.routes.find? path.toList with
  | none => .nowhere
  | some b =>
    match b.route? method with
    | some r => .route r
    | none => .wrongMethod b.allowed

def panicEvent (p : Panic) : Log.Event :=
  ⟨.error, Log.Target.server, "Handler panicked", [("panic", .shown p.message)], none⟩

def recover (o : Outcome) (w : World) : Option Response × World :=
  match o with
  | .answered r => (some r, w)
  | .panicked p => (some (.ofEncoded .fallback), w.log (panicEvent p))
  | .abandoned => (none, w)

def answer (s : Service) (limit : Instant) (r : Request) (w : World) : Option Response × World :=
  match s.destination r.method r.uri.path with
  | .route route =>
    let (o, w) := s.dispatcher.dispatch limit route r w
    recover o w
  | .wrongMethod allowed =>
    let (response, w) := s.fallback.methodNotAllowed r.method r.uri.path w
    (some (response.default .allow (String.intercalate "," allowed)), w)
  | .nowhere =>
    let (response, w) := s.fallback.notFound r.method r.uri.path w
    (some response, w)

def respond (s : Service) (limit : Instant) (r : Request) (w : World) : Option Response × World :=
  let (response, w) := s.answer limit r w
  (response.map (·.framed r.method), w)

end Service

end RpcServer.Http
