import RpcServer.Headers
import RpcServer.Http.Uri
import RpcServer.Reply.Encoder

/-! Requests and responses of HTTP, and what every response is given on its way out. -/

namespace RpcServer.Http

structure Request where
  method : String
  uri : Uri
  headers : Headers
  body : List UInt8
deriving DecidableEq

structure Response where
  status : Nat
  headers : Headers
  body : List UInt8
deriving DecidableEq

namespace Response

def ofEncoded (e : Reply.Encoded) : Response :=
  ⟨e.status, Headers.empty.insert .contentType e.contentType, e.body⟩

def withReply (e : Reply.Encoded) (reply : Headers) : Response :=
  let r := ofEncoded e
  { r with headers := (r.headers.extend reply).insert .contentType e.contentType }

def isSuccess (r : Response) : Bool := 200 ≤ r.status && r.status < 300

def default (n : Header.Name) (s : String) (r : Response) : Response :=
  if r.headers.contains n then r
  else { r with headers := r.headers.insert n ⟨Text.Utf8.encode s.toList⟩ }

def withoutBody (r : Response) : Response := { r with body := [] }

def framed (method : String) (r : Response) : Response :=
  if method = "CONNECT" ∧ r.isSuccess then r.withoutBody
  else
    let r := r.default .contentLength (toString r.body.length)
    if method = "HEAD" then r.withoutBody else r

theorem framed_status (method : String) (r : Response) : (r.framed method).status = r.status := by
  unfold framed
  split
  · rfl
  · simp only [default]
    split <;> split <;> rfl

end Response

end RpcServer.Http
