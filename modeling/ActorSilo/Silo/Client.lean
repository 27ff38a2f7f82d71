import ActorSilo.Silo.Send

/-! # The silo's client

Requests made from the silo, by the application or by grain code, go through its
client. The client stamps itself as the sender unless the request names one, gives the
request the response timeout as its time to live unless it has an expiry, keeps a
callback for it in its table of outstanding requests, starts the callback's timer, and
sends it. The caller then waits for the reply the callback hands over.

The client's identity is the client pseudo-grain `silo-<silo>`. A response reaches the
callback of its correlation id, if one is still outstanding; a duplicate-request
rejection is ignored.
-/

namespace ActorSilo

namespace World

variable {γ : Type}

def clientId (w : World γ) : GrainId := GrainId.client ("silo-" ++ w.localSilo.render)

/-- A message stamped with the client as its sender, where it names none. -/
def stamp (w : World γ) (m : Message) : Message :=
  { m with
    sendingGrain := m.sendingGrain <|> some w.clientId
    sendingSilo := m.sendingSilo <|> some w.localSilo }

end World

namespace SiloM

variable {γ : Type}

/-- How callbacks live in a silo: in the client's table, resent through the silo, with
replies handed over by correlation id. -/
def callbackSite : CallbackSite (World γ) Event Proc where
  find id w := w.callback? id
  store cb w := w.putCallback cb
  resend id := do
    let some cb := (← Async.get).callback? id | pure false
    match ← tryResend cb.message with
    | some m =>
      Async.modify fun w => match w.callback? id with
        | some cb => w.putCallback { cb with message := m }
        | none => w
      pure true
    | none => pure false
  unregister id := Async.modify fun w => { w with callbacks := w.callbacks.filter (·.id != id) }
  deliver id m := do
    Async.modify fun w => { w with replies := w.replies ++ [(id, m)] }
    Async.notify (.reply id)
  tick := Proc.callbackTick

def takeReply (id : Nat) : SiloM γ (Option Message) :=
  Async.update fun _ w =>
    match w.replies.find? (·.1 == id) with
    | some (_, m) => ({ w with replies := w.replies.filter (·.1 != id) }, some m)
    | none => (w, none)

def sendRequest (m : Message) : SiloM γ (Except RequestError (List UInt8)) := do
  let w ← Async.get
  let now ← Async.now
  let m := w.stamp { m with direction := .request }
  let m ← match m.expiresAt with
    | some _ => pure m
    | none => match now.after w.config.messaging.responseTimeout with
      | .ok e => pure { m with expiresAt := some e }
      | .error _ => Async.panic ClockOverflow.message
  let cb := Callback.make m (CallbackConfig.ofMessaging w.config.messaging) now
  Async.modify fun w => { w with callbacks := w.callbacks ++ [cb] }
  callbackSite.startTimer m.id
  sendMessage m
  Async.waitToTake (.reply m.id) fun w => w.replies.any (·.1 == m.id)
  match ← takeReply m.id with
  | some reply => pure (Response.toResult reply.response)
  | none => pure (.error .abandoned)

def sendOneWay (m : Message) : SiloM γ Unit := do
  let w ← Async.get
  sendMessage (w.stamp { m with direction := .oneWay })

def receiveResponse (m : Message) : SiloM γ Unit := do
  if m.rejectionKind == some .duplicateRequest then return
  let some _ := (← Async.get).callback? m.id | pure ()
  callbackSite.respond m.id m

end SiloM

end ActorSilo
