import RpcServer.Http.Wire
import RpcServer.Json.Printer
import RpcServer.Launch.Running

/-! The program. It answers the requests of one connection, which is its standard input and output,
and writes its log to the standard error output. -/

namespace RpcServer.Main

def usage : String :=
  "RPC server with request observability and envelope encoding\n\n" ++
  "Usage: rpc-pipeline [OPTIONS]\n\nOptions:\n" ++
  "  -c, --config <CONFIG>  Path to a TOML config file. Defaults are used when omitted\n" ++
  "  -b, --bind <BIND>      Override the bind address of the config file\n" ++
  "  -h, --help             Print help\n"

def lineText : Log.Line → String
  | .object v => v.toText
  | .text s => String.ofList s

def log (o : Log.Output) (es : List Log.Event) : IO Unit := do
  let err ← IO.getStderr
  for l in o.lines es do
    err.putStrLn (lineText l)
  err.flush

def file? (path : String) : IO (Option (List UInt8)) := do
  try
    return some (← IO.FS.readBinFile path).toList
  catch _ => return none

def machine (arguments : List String) : IO Launch.Machine := do
  let filter ← IO.getEnv "RUST_LOG"
  let contents ← match Launch.Options.ofArguments arguments with
    | .run { config := some path, .. } => file? path
    | _ => pure none
  return ⟨fun _ => contents, filter, Launch.isLocalAddress⟩

partial def line? (input : IO.FS.Stream) (done : List Char) : IO (Option (List Char)) := do
  let chunk ← input.read 1
  match chunk.toList with
  | [] => return none
  | b :: _ =>
    if b = 0x0a then return some (done.dropWhile (· = '\r')).reverse
    else line? input (Char.ofNat b.toNat :: done)

partial def headLines (input : IO.FS.Stream) (done : List (List Char)) :
    IO (Option (List (List Char))) := do
  match ← line? input [] with
  | none => return none
  | some [] => return some done.reverse
  | some l => headLines input (l :: done)

partial def bytes (input : IO.FS.Stream) (count : Nat) (done : ByteArray) : IO ByteArray := do
  if count = 0 then return done
  let chunk ← input.read (USize.ofNat count)
  if chunk.isEmpty then return done
  bytes input (count - chunk.size) (done ++ chunk)

def request? (input : IO.FS.Stream) : IO (Option Http.Request) := do
  let some lines ← headLines input [] | return none
  let some r := Http.Wire.head? lines | return none
  let some n := Http.Wire.bodyLength? r.headers | return none
  let body ← bytes input n .empty
  return some { r with body := body.toList }

def patience : Nat := 86400000

partial def serve (service : Http.Service) (output : Log.Output) (w : World) : IO Unit := do
  let some r ← request? (← IO.getStdin) | return
  let w := { w.moveTo (← IO.monoMsNow) with trace := [] }
  let (response, w) := service.respond (w.now + patience) r w
  log output (w.trace.filterMap Effect.event?)
  let some response := response | return
  let out ← IO.getStdout
  out.write ⟨(Http.Wire.response response).toArray⟩
  out.flush
  serve service output w

def run (s : Launch.Start) (service : Http.Service) : IO Unit := do
  log s.output (s.events ++ Launch.openingEvents s)
  serve service s.output (World.start 0 .discard)
  log s.output (Launch.closingEvents "SIGTERM")

def fail (text : String) : IO Unit := do (← IO.getStderr).putStrLn ("Error: " ++ text)

end RpcServer.Main

open RpcServer RpcServer.Main in
def main (arguments : List String) : IO UInt32 := do
  let outcome := Launch.launch (← machine arguments) arguments
  match outcome with
  | .help => (← IO.getStdout).putStr usage
  | .misuse => (← IO.getStderr).putStr usage
  | .unconfigured e => fail (String.ofList e.inspection.render)
  | .unrouted s e => do
    log s.output s.events
    fail e.message
  | .unbound s => do
    log s.output s.events
    fail ("cannot listen on " ++ s.config.server.bindAddress)
  | .ready s service => run s service
  return UInt32.ofNat (outcome.exitCode?.getD 0)
