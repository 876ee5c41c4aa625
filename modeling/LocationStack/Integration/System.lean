import LocationStack.Integration.Impl
import LocationStack.Lib.EventRun

/-! # The client object and the daemon

The client object with the messages on their way to the daemon and back.  The daemon answers in
order each message that has a response.  When it restarts, what it did not answer is lost, and it
tells the client that it is ready; a client on another processor is told so at other times too.

`issued` has the requests that were accepted, and `fates` what became of those that are over:
the message was not sent, it was answered, or it was lost and the client is registered again.
`history` has the requests that reached a daemon and were not refused.
-/
namespace LocationStack.Integration

open PbConv EventRun

variable {h : Header}

/-- What the client receives; a response is marked with the request it is for. -/
inductive FromDaemon (h : Header)
  | response (msgId : ELocMsgID) (err : Ipc.LocationError) (ticket : Option (Ticket h))
  | halReady

def FromDaemon.ticket : FromDaemon h → Option (Ticket h)
  | response _ _ ticket => ticket
  | halReady => none

/-- What became of a request; a request was lost while `resent` was sent again. -/
inductive Fate (h : Header)
  | notSent
  | answered (err : Ipc.LocationError)
  | lost (resent : List (Payload h))

structure Sys (h : Header) where
  impl : LocationIntegrationApiImpl h
  toDaemon : List (Message h)
  toClient : List (FromDaemon h)
  /-- The requests that the daemon did not answer before it restarted. -/
  lost : List (Ticket h)
  issued : List (Ticket h)
  fates : List (Ticket h × Fate h)
  callbacks : List ConfigCb
  history : List (Ticket h)

inductive Event (h : Header)
  /-- The message loop does the work of a call. -/
  | call (request : Request h) (sends : Nat → Bool)
  /-- The client can receive from now on. -/
  | listenerReady (sends : Nat → Bool)
  /-- The daemon answers the oldest message. -/
  | answer (err : Ipc.LocationError)
  /-- The daemon restarts. -/
  | restart
  /-- The client is told that the daemon is there. -/
  | serviceUp
  /-- The client processes the oldest message of the daemon. -/
  | onReceive (sends : Nat → Bool)

namespace Sys

/-- A client that was just made. -/
def init (mIntegrationCbs : LocIntegrationCbs) (sXtraTestEnabled : UInt32) : Sys h where
  impl := .new mIntegrationCbs sXtraTestEnabled
  toDaemon := []
  toClient := []
  lost := []
  issued := []
  fates := []
  callbacks := []
  history := []

/-- A message was sent, or not. -/
def attempt (s : Sys h) : Message h × Bool → Sys h
  | (m, true) =>
    { s with
      toDaemon := s.toDaemon ++ if hasResponse m.payload then [m] else []
      history := s.history ++ m.ticket.toList }
  | (m, false) => { s with fates := s.fates ++ m.ticket.toList.map fun t => (t, .notSent) }

/-- The system after a task has come so far. -/
def after (s : Sys h) (t : Task h) : Sys h :=
  { t.attempts.foldl attempt s with
    impl := t.impl
    callbacks := s.callbacks ++ t.callbacks }

/-- The message of a new request. -/
def messageOf (s : Sys h) (request : Request h) : Message h :=
  if hzero : request.configType = .zero then
    .unmarked (request.payload s.impl.sXtraTestEnabled)
  else .ofTicket ⟨s.issued.length, request, s.impl.sXtraTestEnabled, hzero⟩

/-- The work of a call that was accepted. -/
def accept (s : Sys h) (request : Request h) (sends : Nat → Bool) : Sys h :=
  let m := s.messageOf request
  let s' : Sys h := { s with issued := s.issued ++ m.ticket.toList }
  if request.hasTask then s'.after ((Task.start s.impl).proc sends request m) else s'

/-- The client is registered again; the requests that were lost are over. -/
def settleLost (s : Sys h) (resent : List (Payload h)) : Sys h :=
  { s with
    lost := []
    fates := s.fates ++ s.lost.map fun t => (t, .lost resent) }

end Sys

/-- The payloads that a task sent. -/
def Task.sentPayloads (t : Task h) : List (Payload h) :=
  (t.attempts.filter Prod.snd).map fun a => a.1.payload

def step (s : Sys h) : Event h → Sys h
  | .call request sends =>
    if request.accepted s.impl.mIntegrationCbs then s.accept request sends else s
  | .listenerReady sends => s.after ((Task.start s.impl).onListenerReady sends)
  | .answer err =>
    match s.toDaemon with
    | [] => s
    | m :: rest =>
      { s with
        toDaemon := rest
        toClient := s.toClient ++ [.response m.payload.msgId err m.ticket]
        history :=
          if err = .success then s.history
          else s.history.filter fun t => decide (some t.id ≠ m.ticket.map Ticket.id) }
  | .restart =>
    { s with
      toDaemon := []
      toClient := s.toClient ++ [.halReady]
      lost := s.lost ++ s.toDaemon.filterMap Message.ticket }
  | .serviceUp => { s with toClient := s.toClient ++ [.halReady] }
  | .onReceive sends =>
    match s.toClient with
    | [] => s
    | .response msgId err ticket :: rest =>
      let s' : Sys h :=
        { s with
          toClient := rest
          fates := s.fates ++ ticket.toList.map fun t => (t, .answered err) }
      s'.after ((Task.start s.impl).onResponse msgId err)
    | .halReady :: rest =>
      let t := (Task.start s.impl).processHalReadyMsg sends
      let s' : Sys h := ({ s with toClient := rest } : Sys h).after t
      if sends 0 then s'.settleLost t.sentPayloads else s'

end LocationStack.Integration
