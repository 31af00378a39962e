/-! Header names: tokens without upper-case letters. -/

namespace RpcServer.Header

def isTokenChar (c : Char) : Bool :=
  ('0' ≤ c && c ≤ '9') || ('a' ≤ c && c ≤ 'z') || ('A' ≤ c && c ≤ 'Z') ||
    c ∈ ['!', '#', '$', '%', '&', '\x27', '*', '+', '-', '.', '^', '_', '\x60', '|', '~']

structure Name where
  text : String
deriving DecidableEq

namespace Name

def maxLength : Nat := 65535

def parse? (s : String) : Option Name :=
  let cs := s.toList
  if cs ≠ [] ∧ cs.length ≤ maxLength ∧ cs.all isTokenChar then
    some ⟨String.ofList (cs.map Char.toLower)⟩
  else none

def accept : Name := ⟨"accept"⟩
def allow : Name := ⟨"allow"⟩
def baggage : Name := ⟨"baggage"⟩
def contentLength : Name := ⟨"content-length"⟩
def contentType : Name := ⟨"content-type"⟩
def spanId : Name := ⟨"span-id"⟩
def traceId : Name := ⟨"trace-id"⟩
def traceparent : Name := ⟨"traceparent"⟩
def tracestate : Name := ⟨"tracestate"⟩
def forwardedFor : Name := ⟨"x-forwarded-for"⟩
def realIp : Name := ⟨"x-real-ip"⟩

end Name

end RpcServer.Header
