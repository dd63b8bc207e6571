import RecordSql.Proofs.Store.Run

namespace RecordSql.Store

open Server

-- First a transaction is opened, then its statements come in their order, and then its end.
def Orderly (uses : List Use) (sent : List Content) (outcome : Option Ending) : Prop :=
  ∃ (statements : List (String × Bool)) (parts : List (List Content)) (last : List Content),
    uses = statements.map (fun s => .statement s.1 s.2) ++ outcome.toList.map .ending ∧
    sent = .batch beginSql :: (parts.flatten ++ last) ∧
    List.Forall₂ (fun s contents => Piece s.2 s.1 contents) statements parts ∧
    Closing outcome last

namespace Story

variable {uses : List Use} {sent : List Content} {outcome : Option Ending}

theorem orderly (h : Story uses sent outcome) : Orderly uses sent outcome := by
  induction h with
  | opened => exact ⟨[], [], [], rfl, rfl, .nil, rfl⟩
  | @statement uses sent contents sql late _ hp ih =>
    obtain ⟨statements, parts, last, rfl, rfl, hparts, rfl⟩ := ih
    exact ⟨statements ++ [(sql, late)], parts ++ [contents], [], by simp, by simp,
      List.rel_append hparts (.cons hp .nil), rfl⟩
  | @ended uses sent last how _ hl ih =>
    obtain ⟨statements, parts, none, rfl, rfl, hparts, rfl⟩ := ih
    exact ⟨statements, parts, last, by simp, by simp, hparts, hl⟩

-- Only who commits sends a commit.
theorem commit_mem (h : Story uses sent outcome) (hm : .batch commitSql ∈ sent) :
    .ending .commit ∈ uses := by
  induction h with
  | opened => exact absurd hm (by decide)
  | statement _ hp ih =>
    rcases List.mem_append.mp hm with hm | hm
    · exact List.mem_append_left _ (ih hm)
    · cases hp <;> simp at hm
  | @ended uses sent last how _ hl ih =>
    rcases List.mem_append.mp hm with hm | hm
    · exact List.mem_append_left _ (ih hm)
    · cases how with
      | commit => simp
      | rollback => exact absurd (hl.subset hm) (by decide)
      | drop =>
        obtain rfl : last = _ := hl
        exact absurd hm (by decide)

end Story

-- Where nothing can be sent any more the open transactions are let go in silence.
theorem follows_abandonOffline (entries : List (String × Transaction)) (w : World) :
    Follows silence w ((entries.forM fun entry => abandonOffline entry.2).after w) := by
  induction entries generalizing w with
  | nil => exact .refl w
  | cons entry rest ih =>
    have hlog : Follows silence w (w.log .droppedOpen) := .of_eq rfl (Nat.le_refl _) rfl
    have hfirst := hlog.silent_trans (follows_discard _ entry.2.lease)
    rw [List.forM_eq_forM, List.forM_cons, Action.after_bind]
    exact hfirst.silent_trans (ih _)

theorem messages_finish (w : World) (lease : Lease) :
    (finish.after w).messages lease = w.messages lease := by
  have hf := follows_abandonOffline w.transactions { w with transactions := [] }
  rw [finish, Action.after_get_bind, Action.after_bind, Action.after_set]
  exact hf.messages_of_ne lease (by simp [silence])

-- The messages of a transaction are its opening, those of its statements in the order of the
-- calls, and those of its end, which is there unless the transaction is still open. To let go of
-- one that is open is to send one rollback, as long as anything can be sent at all.
theorem transaction_messages (config : StoreConfig) (server : Behaviour) (welcomes : List Welcome)
    (races : List Bool) (steps : List Step) (t : Transaction)
    (h : .opened t ∈ history steps (World.start config server welcomes races)) :
    let w := (performAll steps).after (World.start config server welcomes races)
    let uses := usesOf t.lease (history steps (World.start config server welcomes races))
    ∃ outcome, Orderly uses (w.messages t.lease) outcome ∧
      (outcome = none → t ∈ w.transactions.map (·.2)) ∧
      (.batch commitSql ∈ w.messages t.lease → .ending .commit ∈ uses) ∧
      (finish.after w).messages t.lease = w.messages t.lease := by
  intro w uses
  have hrecord : Record (fun _ => False) [] _ w :=
    performAll_keeps id id steps [] _ (fun _ _ => ⟨id, fun _ => id⟩)
      (record_start config server welcomes races)
  have hstory : ∃ outcome, Story uses (w.messages t.lease) outcome ∧
      (outcome = none → t ∈ w.transactions.map (·.2)) := by
    rcases hrecord.finished t h with hlive | ⟨how, hs⟩
    · exact ⟨none, (hrecord.going t hlive).2, fun _ => hlive⟩
    · exact ⟨some how, hs, by simp⟩
  obtain ⟨outcome, hs, hopen⟩ := hstory
  exact ⟨outcome, hs.orderly, hopen, hs.commit_mem, messages_finish w t.lease⟩

-- A commit that fails.
def failingCommit : Script := ⟨[{ sql := commitSql, fails := true }]⟩

def updateThenCommit : List Step :=
  [.begin "a", .execIn "a" "UPDATE t SET n = 1" [], .commit "a"]

theorem transaction_messages_failingCommit :
    ∃ t, Event.opened t ∈ history updateThenCommit (World.start {} failingCommit [] []) ∧
      ∃ outcome, Orderly [.statement "UPDATE t SET n = 1" false, .ending .commit]
        [.batch beginSql, .prepare "UPDATE t SET n = 1", .execute "UPDATE t SET n = 1" [],
          .batch commitSql, .batch rollbackSql] outcome := by
  have hany : (history updateThenCommit (World.start {} failingCommit [] [])).any
      (fun
        | .opened t => decide (t.lease = ⟨0, 0, true⟩)
        | _ => false) = true := by
    decide +kernel
  have huses : usesOf ⟨0, 0, true⟩ (history updateThenCommit (World.start {} failingCommit [] [])) =
      [.statement "UPDATE t SET n = 1" false, .ending .commit] := by
    decide +kernel
  have hsent : ((performAll updateThenCommit).after (World.start {} failingCommit [] [])).messages
      ⟨0, 0, true⟩ = [.batch beginSql, .prepare "UPDATE t SET n = 1",
        .execute "UPDATE t SET n = 1" [], .batch commitSql, .batch rollbackSql] := by
    decide +kernel
  obtain ⟨event, hm, he⟩ := List.any_eq_true.mp hany
  cases event with
  | opened t =>
    obtain ⟨outcome, ho, -⟩ := transaction_messages {} failingCommit [] [] updateThenCommit t hm
    rw [of_decide_eq_true he, huses, hsent] at ho
    exact ⟨t, hm, outcome, ho⟩
  | handed lease there => simp at he
  | used lease use => simp at he

-- What is open when nothing can be sent any more is given up without a rollback.
theorem no_rollback_offline :
    let w := (performAll [.begin "a"]).after (World.start {} (Script.mk []) [] [])
    w.transactions.map (fun entry => (entry.1, entry.2.lease)) = [("a", ⟨0, 0, true⟩)] ∧
      (finish.after w).transactions.length = 0 ∧
      (finish.after w).messages ⟨0, 0, true⟩ = [.batch beginSql] := by
  decide +kernel

end RecordSql.Store
