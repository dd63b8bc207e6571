import Mathlib.Data.List.Basic
import RecordSql.Server.Link

namespace RecordSql.Server.Link

-- What was sent and has not been answered: what the server works on, and what waits behind it.
def backlog (l : Link) : List Message := l.current.toList.map (·.exchange.message) ++ l.waiting

theorem sent_eq (l : Link) : l.sent = l.answered.map (·.message) ++ l.backlog :=
  List.append_assoc ..

theorem isQuiet_iff (l : Link) : l.isQuiet = true ↔ l.backlog = [] := by
  cases h : l.current <;> simp [isQuiet, backlog, h]

variable (server : Behaviour) (now : Moment) (l : Link)

theorem answered_finish (tick : Nat) : l.answered <+: (l.finish tick).answered := by
  unfold finish
  split
  · exact List.prefix_rfl
  · split
    · exact List.prefix_append _ _
    · exact List.prefix_rfl

theorem answered_takeUp (answered : List Exchange) (waiting : List Message) :
    answered <+: (takeUp server now answered waiting).1.answered := by
  induction waiting generalizing answered with
  | nil => exact List.prefix_rfl
  | cons message rest ih =>
    simp only [takeUp]
    split
    · exact (List.prefix_append _ _).trans (ih _)
    · exact List.prefix_rfl

-- What has been answered stays answered.
theorem answered_serve : l.answered <+: (l.serve server now).1.answered := by
  unfold serve
  dsimp only
  split
  · exact answered_finish l _
  · exact (answered_finish l _).trans (answered_takeUp server now _ _)

-- Answers come in the order in which the messages were sent.
theorem sent_of_answered (i : Nat) (exchange : Exchange) (h : l.answered[i]? = some exchange) :
    l.sent[i]? = some exchange.message := by
  have hi : i < (l.answered.map (·.message)).length := by
    simpa using (List.getElem?_eq_some_iff.mp h).1
  rw [sent, List.append_assoc, List.getElem?_append_left hi, List.getElem?_map, h]
  rfl

-- The number of messages that have not been answered.
theorem length_sent : l.sent.length = l.answered.length + l.backlog.length := by
  rw [sent_eq, List.length_append, List.length_map]

theorem length_backlog_serve : (l.serve server now).1.backlog.length ≤ l.backlog.length := by
  have hs := congrArg List.length (sent_serve server now l)
  have ha := (answered_serve server now l).length_le
  rw [length_sent, length_sent] at hs
  omega

-- A message that is due is answered.
theorem length_backlog_serve_lt {task : Task} (hc : l.current = some task)
    (hd : task.due ≤ now.lastTick) :
    (l.serve server now).1.backlog.length < l.backlog.length := by
  have hs := congrArg List.length (sent_serve server now l)
  have hf : (l.finish now.lastTick).answered = l.answered ++ [task.exchange] := by
    simp [finish, hc, hd]
  have ha : (l.finish now.lastTick).answered <+: (l.serve server now).1.answered := by
    unfold serve
    dsimp only
    split
    · exact List.prefix_rfl
    · exact answered_takeUp server now _ _
  have hl := ha.length_le
  rw [hf, List.length_append, List.length_singleton] at hl
  rw [length_sent, length_sent] at hs
  omega

theorem severed_finish (tick : Nat) : (l.finish tick).severed = l.severed := by
  unfold finish
  split
  · rfl
  · split <;> rfl

theorem severed_takeUp (answered : List Exchange) (waiting : List Message) :
    (takeUp server now answered waiting).1.severed = false := by
  induction waiting generalizing answered with
  | nil => rfl
  | cons message rest ih =>
    simp only [takeUp]
    split
    · exact ih _
    · rfl

-- To serve a link does not sever it.
theorem severed_of_serve (h : (l.serve server now).1.severed = true) : l.severed = true := by
  unfold serve at h
  dsimp only at h
  split at h
  · rwa [severed_finish] at h
  · rw [severed_takeUp] at h
    exact absurd h (by simp)

-- The server works on something, unless nothing waits or nothing is taken up.
def Served : Prop := l.severed = false → l.current = none → l.waiting = []

theorem served_takeUp (answered : List Exchange) (waiting : List Message) :
    (takeUp server now answered waiting).1.Served := by
  induction waiting generalizing answered with
  | nil => exact fun _ _ => rfl
  | cons message rest ih =>
    simp only [takeUp]
    split
    · exact ih _
    · intro _ hc
      simp at hc

theorem served_serve : (l.serve server now).1.Served := by
  unfold serve
  dsimp only
  split
  · rename_i h
    intro hs hc
    dsimp only at hs hc
    simp [hs, hc] at h
  · exact served_takeUp server now _ _

theorem served_sever : l.sever.Served := by
  intro hs
  simp [Link.sever] at hs

end RecordSql.Server.Link
