import RecordSql.Clock
import RecordSql.Server.Behaviour

namespace RecordSql.Server

structure Exchange where
  message : Message
  reply : Reply

structure Task where
  exchange : Exchange
  due : Nat

-- One connection as the server sees it. Messages are handled one after the other, in the order
-- in which they were sent.
structure Link where
  answered : List Exchange := []
  current : Option Task := none
  waiting : List Message := []
  -- A severed link takes up nothing that waits.
  severed : Bool := false

namespace Link

def sent (l : Link) : List Message :=
  l.answered.map (·.message) ++ l.current.toList.map (·.exchange.message) ++ l.waiting

def isQuiet (l : Link) : Bool := l.current.isNone && l.waiting.isEmpty

def send (l : Link) (message : Message) : Link :=
  { l with waiting := l.waiting ++ [message] }

def reply? (l : Link) (number : Nat) : Option Reply :=
  l.answered[number]?.map (·.reply)

def sever (l : Link) : Link := { l with severed := true }

def finish (tick : Nat) (l : Link) : Link :=
  match l.current with
  | none => l
  | some task =>
    if task.due ≤ tick then { l with answered := l.answered ++ [task.exchange], current := none }
    else l

-- Takes up messages until one of them takes time, and tells which were taken up. What takes no
-- time is answered at once.
def takeUp (server : Behaviour) (now : Moment) (answered : List Exchange) :
    List Message → Link × List Content
  | [] => (⟨answered, none, [], false⟩, [])
  | message :: rest =>
    let exchange := ⟨message, server.reply answered.length message⟩
    let delay := server.delay answered.length message
    if delay.nanos = 0 then
      let (l, taken) := takeUp server now (answered ++ [exchange]) rest
      (l, message.content :: taken)
    else
      (⟨answered, some ⟨exchange, (now.add delay).nextTick⟩, rest, false⟩, [message.content])

def serve (server : Behaviour) (now : Moment) (l : Link) : Link × List Content :=
  let l := l.finish now.lastTick
  if l.severed || l.current.isSome then (l, [])
  else takeUp server now l.answered l.waiting

theorem sent_send (l : Link) (message : Message) :
    (l.send message).sent = l.sent ++ [message] := by
  simp [sent, send]

theorem sent_finish (tick : Nat) (l : Link) : (l.finish tick).sent = l.sent := by
  unfold finish
  split
  · rfl
  · rename_i task h
    split
    · simp [sent, h]
    · rfl

theorem sent_takeUp (server : Behaviour) (now : Moment) (answered : List Exchange)
    (waiting : List Message) :
    (takeUp server now answered waiting).1.sent = answered.map (·.message) ++ waiting := by
  induction waiting generalizing answered with
  | nil => simp [takeUp, sent]
  | cons message rest ih =>
    simp only [takeUp]
    split
    · simp [ih]
    · simp [sent]

theorem sent_serve (server : Behaviour) (now : Moment) (l : Link) :
    (l.serve server now).1.sent = l.sent := by
  rw [← sent_finish now.lastTick l]
  unfold serve
  simp only
  split
  · rfl
  · rename_i h
    have hc : (l.finish now.lastTick).current = none := by
      cases hc : (l.finish now.lastTick).current with
      | none => rfl
      | some task => simp [hc] at h
    rw [sent_takeUp]
    simp [sent, hc]

end Link

end RecordSql.Server
