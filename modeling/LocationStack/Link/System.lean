import LocationStack.Client.Calls
import LocationStack.Daemon.Messages

/-! # One client and the daemon

The client object and the daemon's entry for it, with the two channels between them.
A channel delivers in order.  Work of the client's message loop, the processing of a
message on either side, a callback of `LocationAPI` and a restart of the daemon are
the events, in any order.

A message is lost only where its sender says so: every event that sends has a flag for
the result of the send.  A daemon that restarts knows no client, finds nothing in its
socket and tells the client that it is ready.
-/
namespace LocationStack.Link

open Ipc Client EventRun

/-! ## The system -/

/-- The two sides and what is on its way between them, the oldest message first. -/
structure Sys where
  client : LocationClientApiImpl
  toDaemon : List ReqMsg
  daemon : Daemon.State
  toClient : List IndMsg
  deriving DecidableEq

/-- A client that was just made, and a daemon that does not know it. -/
def Sys.init (mClientId : { id : UInt32 // id ≠ 0 }) : Sys :=
  { client := .new mClientId, toDaemon := [], daemon := .init, toClient := [] }

inductive Event
  /-- The client's message loop does the work of a call. -/
  | call (a : Call) (sent : Bool)
  /-- The daemon processes the oldest message of the client. -/
  | processClientMsg (ret : Daemon.HalReturns) (mIpcSender rc : Bool)
  /-- `LocationAPI` calls the handler of the client back. -/
  | callback (e : Daemon.Event)
  /-- The client processes the oldest message of the daemon. -/
  | onReceive (sent : Bool)
  /-- The daemon restarts. -/
  | restart
  deriving DecidableEq

namespace Sys

/-- The system after the client did some work. -/
def clientWork (s : Sys) (r : Client.Result) (sent : Bool) : Sys :=
  { s with
    client := r.1
    toDaemon := s.toDaemon ++ if sent then sentReqs r.2 else [] }

/-- The system after an event of the daemon. -/
def daemonWork (mPositionMode : GnssSuplMode) (s : Sys) (e : Daemon.Event) : Sys :=
  { s with
    daemon := (Daemon.stepActs mPositionMode s.daemon e).1
    toClient := s.toClient ++ Daemon.sentMsgs (Daemon.stepActs mPositionMode s.daemon e).2 }

end Sys

def step (mPositionMode : GnssSuplMode) (s : Sys) : Event → Sys
  | .call a sent => s.clientWork (a.work s.client) sent
  | .processClientMsg ret mIpcSender rc =>
    match s.toDaemon with
    | [] => s
    | msg :: rest =>
      if s.daemon.hal.MayAnswer ret msg then
        { s with toDaemon := rest }.daemonWork mPositionMode (.request msg ret mIpcSender rc)
      else s
  | .callback e => if Daemon.isCallback e then s.daemonWork mPositionMode e else s
  | .onReceive sent =>
    match s.toClient with
    | [] => s
    | msg :: rest => { s with toClient := rest }.clientWork (s.client.onReceive msg) sent
  | .restart =>
    { s with toDaemon := [], daemon := .init, toClient := s.toClient ++ [.halReady] }

/-- **What a step can do.**  Nothing, where its event is not enabled, or the work of the
event on one of the two sides. -/
theorem step_induction {mPositionMode : GnssSuplMode} {I : Sys → Prop} {s : Sys} (e : Event)
    (hs : I s)
    (call : ∀ a sent, e = .call a sent → I (s.clientWork (a.work s.client) sent))
    (processClientMsg : ∀ ret mIpcSender rc, e = .processClientMsg ret mIpcSender rc →
      ∀ msg rest, s.toDaemon = msg :: rest → s.daemon.hal.MayAnswer ret msg →
        I ({ s with toDaemon := rest }.daemonWork mPositionMode
          (.request msg ret mIpcSender rc)))
    (callback : ∀ d, e = .callback d → Daemon.isCallback d → I (s.daemonWork mPositionMode d))
    (onReceive : ∀ sent, e = .onReceive sent → ∀ msg rest, s.toClient = msg :: rest →
      I ({ s with toClient := rest }.clientWork (s.client.onReceive msg) sent))
    (restart : e = .restart →
      I { s with
        toDaemon := [], daemon := .init, toClient := s.toClient ++ [.halReady] }) :
    I (step mPositionMode s e) := by
  cases e with
  | call a sent => exact call a sent rfl
  | processClientMsg ret mIpcSender rc =>
    rw [step]
    cases hq : s.toDaemon with
    | nil => exact hs
    | cons msg rest =>
      dsimp only
      split
      · exact processClientMsg ret mIpcSender rc rfl msg rest hq ‹_›
      · exact hs
  | callback d =>
    rw [step]
    split
    · exact callback d rfl ‹_›
    · exact hs
  | onReceive sent =>
    rw [step]
    cases hq : s.toClient with
    | nil => exact hs
    | cons msg rest => exact onReceive sent rfl msg rest hq
  | restart => exact restart rfl

/-! ## Channels that lose nothing -/

/-- Nothing that the event sends is lost, and the daemon does not restart. -/
def lossless : Event → Bool
  | .call _ sent => sent
  | .processClientMsg _ _ rc => rc
  | .callback e => Daemon.callbackSent e
  | .onReceive sent => sent
  | .restart => false

end LocationStack.Link
