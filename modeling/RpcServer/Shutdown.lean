import RpcServer.Log.Event

/-! Shutdown: one signal, broadcast once to all who have subscribed by then. -/

namespace RpcServer

inductive Receipt where
  | ok
  | empty
  | lagged
  | closed
  | gone
deriving DecidableEq

/-- A channel that keeps the last message only. A subscriber has a cursor, the number of messages
that it has passed; one that has left has none. -/
structure Channel where
  sent : Nat
  isOpen : Bool
  cursors : List (Option Nat)
deriving DecidableEq

namespace Channel

def new : Channel := ⟨0, true, []⟩

def receivers (c : Channel) : Nat := (c.cursors.filter Option.isSome).length

def subscribe (c : Channel) : Channel := { c with cursors := c.cursors ++ [some c.sent] }

def leave (c : Channel) (k : Nat) : Channel := { c with cursors := c.cursors.set k none }

def send (c : Channel) : Channel := if c.receivers = 0 then c else { c with sent := c.sent + 1 }

def close (c : Channel) : Channel := { c with isOpen := false }

def receive (c : Channel) (k : Nat) : Receipt × Channel :=
  match c.cursors[k]? with
  | some (some passed) =>
    if passed = c.sent then (if c.isOpen then .empty else .closed, c)
    else if passed + 1 = c.sent then (.ok, { c with cursors := c.cursors.set k (some c.sent) })
    else (.lagged, { c with cursors := c.cursors.set k (some (c.sent - 1)) })
  | _ => (.gone, c)

end Channel

structure Shutdown where
  channel : Channel
  triggered : Bool
deriving DecidableEq

namespace Shutdown

def new : Shutdown := ⟨.new, false⟩

def subscribe (s : Shutdown) : Shutdown := { s with channel := s.channel.subscribe }

def leave (s : Shutdown) (k : Nat) : Shutdown := { s with channel := s.channel.leave k }

def receivers (s : Shutdown) : Nat := s.channel.receivers

def triggeredEvent (receivers : Nat) : Log.Event :=
  ⟨.info, Log.Target.shutdown, "Shutdown triggered", [("receivers", .number receivers)], none⟩

def trigger (s : Shutdown) : Shutdown × List Log.Event :=
  if s.triggered then (s, [])
  else (⟨s.channel.send, true⟩, [triggeredEvent s.receivers])

def receive (s : Shutdown) (k : Nat) : Receipt × Shutdown :=
  let (r, c) := s.channel.receive k
  (r, { s with channel := c })

theorem trigger_triggered {s : Shutdown} (h : s.triggered = true) : s.trigger = (s, []) := by
  simp [trigger, h]

end Shutdown

end RpcServer
