import RecordSql.Proofs.Store.Messages

namespace RecordSql.Store

open Server

-- What was sent over a connection and has not been answered.
def World.backlog (w : World) (connection : Nat) : List Message :=
  ((w.link? connection).map (·.backlog)).getD []

variable {w after : World} {added : Nat → List Message} {c : Nat}

theorem World.backlog_of_link? {l : Link} (h : w.link? c = some l) : w.backlog c = l.backlog := by
  rw [World.backlog, h]
  rfl

theorem World.sentOver_eq (w : World) (c : Nat) :
    w.sentOver c = (w.answeredOver c).map (·.message) ++ w.backlog c := by
  unfold World.sentOver World.answeredOver World.backlog
  cases w.link? c with
  | none => rfl
  | some l => exact l.sent_eq

-- Answers come in order, so that what is left is an end of what was left before and of what was
-- sent since.
theorem Follows.backlog (h : Follows added w after) (c : Nat) :
    after.backlog c <:+ w.backlog c ++ added c := by
  obtain ⟨more, hm⟩ := h.answered c
  have hs := h.sent c
  rw [after.sentOver_eq, w.sentOver_eq, ← hm, List.map_append, List.append_assoc,
    List.append_assoc] at hs
  exact ⟨more.map (·.message), List.append_cancel_left hs⟩

theorem Follows.mem_backlog (h : Follows added w after) {message : Message}
    (hm : message ∈ after.backlog c) : message ∈ w.backlog c ∨ message ∈ added c :=
  List.mem_append.mp ((h.backlog c).subset hm)

-- When the last message has been answered, all have been.
theorem backlog_of_reply? {n : Nat} {reply : Reply} (hr : w.reply? c n = some reply)
    (hn : (w.sentOver c).length ≤ n + 1) : w.backlog c = [] := by
  obtain ⟨exchange, he, -⟩ := w.reply?_eq_some _ _ _ hr
  have hlt := (List.getElem?_eq_some_iff.mp he).1
  have hl := congrArg List.length (w.sentOver_eq c)
  rw [List.length_append, List.length_map] at hl
  exact List.eq_nil_of_length_eq_zero (by omega)

end RecordSql.Store
