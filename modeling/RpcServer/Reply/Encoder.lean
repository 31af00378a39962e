import RpcServer.Config.Schema
import RpcServer.Log.Event
import RpcServer.Reply.Codec
import RpcServer.Reply.Envelope
import RpcServer.Reply.Resolver

/-! From the outcome of a call to the body of its response. The status is 200 in every case, and
what cannot be encoded becomes a fixed body. -/

namespace RpcServer.Reply

structure Encoded where
  status : Nat
  contentType : Header.Value
  body : List UInt8
deriving DecidableEq

namespace Encoded

def fallbackBody : List Char := (Envelope.codeOnly 500).render

def fallback : Encoded := ⟨200, .json, Text.Utf8.encode fallbackBody⟩

def ofCodec (contentType : String) (body : List UInt8) : Except Panic Encoded :=
  match Header.Value.ofVisible? contentType.toList with
  | some v => .ok ⟨200, v, body⟩
  | none => .error .illegalHeaderValue

end Encoded

structure Encoder where
  codecs : Codecs
  resolver : Resolver
  successCode : Int32
  successMessage : String

namespace Encoder

def ofConfig (c : Config.Responses) : Encoder :=
  ⟨.new, ⟨none, c.fallbackErrorCode⟩, c.successCode, c.successMessage⟩

def dataEvent (f : Data.Failure) : Log.Event :=
  ⟨.error, Log.Target.envelope, "Failed to marshal reply data", [("error", .shown f.message)], none⟩

def envelopeEvent (c : Codec) (e : CodecError) : Log.Event :=
  ⟨.error, Log.Target.envelope, "Failed to encode response envelope",
    [("codec", .literal c.name), ("error", .shown e.display)], none⟩

def encode (r : Encoder) (h : Headers) (v : Envelope) : Except Panic (Encoded × List Log.Event) :=
  let codec := r.codecs.forRequest h
  match codec.marshal v.toJson with
  | .error p => .error p
  | .ok (.error e) => .ok (.fallback, [envelopeEvent codec e])
  | .ok (.ok body) => (Encoded.ofCodec codec.contentType body).map fun e => (e, [])

def successEnvelope (r : Encoder) (reply : Payload) : Except Data.Failure Envelope :=
  match reply.value? with
  | none => .ok (.success r.successCode r.successMessage none)
  | some v => v.map fun v => .success r.successCode r.successMessage (some v)

def encodeSuccess (r : Encoder) (h : Headers) (reply : Payload) :
    Except Panic (Encoded × List Log.Event) :=
  match r.successEnvelope reply with
  | .ok v => r.encode h v
  | .error f => .ok (.fallback, [dataEvent f])

def encodeError (r : Encoder) (h : Headers) (e : ServiceError) :
    Except Panic (Encoded × List Log.Event) :=
  match r.resolver.resolve (some e) with
  | .ok code => r.encode h (.codeOnly code)
  | .error p => .error p

theorem encodeSuccess_of_error {r : Encoder} {reply : Payload} {f : Data.Failure}
    (h : r.successEnvelope reply = .error f) (hs : Headers) :
    r.encodeSuccess hs reply = .ok (.fallback, [dataEvent f]) := by
  simp [encodeSuccess, h]

end Encoder

end RpcServer.Reply
