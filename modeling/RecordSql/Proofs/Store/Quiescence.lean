import RecordSql.Proofs.Store.Reachable

namespace RecordSql.Store

open Server

variable {stale : Lease → Prop} {origin : Scene} {lease : Lease} {there : World}

theorem Fresh.opened (h : Fresh stale origin lease there) :
    lease.connection < there.links.length :=
  h.arrives.custody.holdings.opened _ (List.mem_append_right _
    (List.mem_map_of_mem (List.mem_append_left _ (List.mem_append_left _ List.mem_cons_self))))

-- Nothing was sent under a new lease, and nobody else has its connection, so that only stale leases
-- are left to account for what has not been answered.
theorem Fresh.left_by (h : Fresh stale origin lease there) {message : Message}
    (hm : message ∈ there.backlog lease.connection) :
    ∃ other, stale other ∧ other.connection = lease.connection ∧ other.number = message.lease ∧
      other.number < lease.number := by
  obtain ⟨⟨gone, -, hs⟩, hunused⟩ := h
  have hout : lease ∈ Scene.out ⟨[lease], gone, there⟩ :=
    List.mem_append_left _ (List.mem_append_left _ List.mem_cons_self)
  have hsent : message ∈ there.sentOver lease.connection := by
    rw [there.sentOver_eq]
    exact List.mem_append_right _ hm
  have hlt := hunused message hsent
  rcases hs.awaited _ message hm with hgone | ⟨other, hother, hc, hn⟩
  · exact absurd (List.mem_map_of_mem hout) (hs.notMem_out hgone)
  · rcases hother with hother | hother
    · obtain rfl := hs.custody.holdings.eq_of_connection hother hout hc
      omega
    · exact ⟨other, hother, hc, hn, hn ▸ hlt⟩

-- What has not been answered when a connection of the pool is handed out was left there by
-- operations outside of any transaction that ran out of time. Transactions leave nothing, and
-- neither do operations that end otherwise.
theorem handed_backlog (config : StoreConfig) (server : Behaviour) (welcomes : List Welcome)
    (races : List Bool) (steps : List Step) (lease : Lease) (there : World)
    (h : .handed lease there ∈ history steps (World.start config server welcomes races)) :
    (∀ message ∈ there.backlog lease.connection,
      ∃ other ∈ timedOut steps (World.start config server welcomes races),
        other.connection = lease.connection ∧ other.number = message.lease ∧
          other.number < lease.number) ∧
      ∃ l, there.link? lease.connection = some l ∧
        ((∀ other ∈ timedOut steps (World.start config server welcomes races),
          other.connection ≠ lease.connection) → l.isQuiet = true) := by
  have hstart : Arrives (· ∈ timedOut steps (World.start config server welcomes races))
      (Scene.start config server welcomes races) [] (World.start config server welcomes races) :=
    start_arrives config server welcomes races
  have hleads := performAll_leads steps _ (fun _ hm => hm) hstart
  have hfresh := hleads.handed lease there h
  obtain ⟨l, hlink⟩ : ∃ l, there.link? lease.connection = some l :=
    ⟨_, List.getElem?_eq_getElem hfresh.opened⟩
  refine ⟨fun message => hfresh.left_by, l, hlink, fun hnone => ?_⟩
  rw [Link.isQuiet_iff, ← World.backlog_of_link? hlink]
  refine List.eq_nil_iff_forall_not_mem.mpr fun message hm => ?_
  obtain ⟨other, hother, hc, -⟩ := hfresh.left_by hm
  exact hnone other hother hc

-- A statement takes longer than it may, and another one is run after it with a deadline of its own.
def slowThenExec : List Step := [.exec "SLOW" [], .context none, .exec "U" []]

def slowScript : Script := ⟨[{ sql := "SLOW", delay := Duration.ofSeconds 5 }]⟩

def oneSecond : StoreConfig := { timeout := Duration.ofSeconds 1 }

theorem handed_backlog_slowThenExec :
    timedOut slowThenExec (World.start oneSecond slowScript [] []) = [⟨0, 0, true⟩, ⟨1, 0, true⟩] ∧
      ∃ there, Event.handed ⟨1, 0, true⟩ there ∈
          history slowThenExec (World.start oneSecond slowScript [] []) ∧
        there.backlog 0 = [⟨0, .execute "SLOW" []⟩] ∧
        ∃ other ∈ timedOut slowThenExec (World.start oneSecond slowScript [] []),
          other.connection = 0 ∧ other.number = 0 ∧ other.number < 1 := by
  have htimed : timedOut slowThenExec (World.start oneSecond slowScript [] []) =
      [⟨0, 0, true⟩, ⟨1, 0, true⟩] := by
    decide +kernel
  have hany : (history slowThenExec (World.start oneSecond slowScript [] [])).any
      (fun
        | .handed lease there => decide (lease = ⟨1, 0, true⟩ ∧
            there.backlog 0 = [⟨0, .execute "SLOW" []⟩])
        | _ => false) = true := by
    decide +kernel
  obtain ⟨event, hm, he⟩ := List.any_eq_true.mp hany
  cases event with
  | handed lease there =>
    obtain ⟨rfl, hbacklog⟩ := of_decide_eq_true he
    obtain ⟨hleft, -⟩ := handed_backlog oneSecond slowScript [] [] slowThenExec ⟨1, 0, true⟩ there hm
    have hmessage : ⟨0, .execute "SLOW" []⟩ ∈ there.backlog 0 := hbacklog ▸ List.mem_cons_self
    obtain ⟨other, hother, hc, hn, hlt⟩ := hleft _ hmessage
    exact ⟨htimed, there, hm, hbacklog, other, hother, hc, hn, hlt⟩
  | opened t => simp at he
  | used lease use => simp at he

-- Whether a statement that is no query ran out of time.
def Answer.isTimeout : Answer → Bool
  | .affected (.error e) => e.isTimeout
  | _ => false

-- The connection that the second statement gets is still busy with the first one, and so the
-- second one runs out of time as well. Alone it takes no time.
theorem not_quiet_slowThenExec :
    (¬∀ lease there, .handed lease there ∈
        history slowThenExec (World.start oneSecond slowScript [] []) →
      ∃ l, there.link? lease.connection = some l ∧ l.isQuiet = true) ∧
    ((performAll slowThenExec).answer (World.start oneSecond slowScript [] [])).map
        Answer.isTimeout = [true, false, true] ∧
    ((performAll [.exec "U" []]).answer (World.start oneSecond slowScript [] [])).map
        Answer.isTimeout = [false] := by
  refine ⟨fun hquiet => ?_, by decide +kernel, by decide +kernel⟩
  have hany : (history slowThenExec (World.start oneSecond slowScript [] [])).any
      (fun
        | .handed lease there =>
          decide ((there.link? lease.connection).map (·.isQuiet) = some false)
        | _ => false) = true := by
    decide +kernel
  obtain ⟨event, hm, he⟩ := List.any_eq_true.mp hany
  cases event with
  | handed lease there =>
    obtain ⟨l, hl, hq⟩ := hquiet lease there hm
    have hbusy := of_decide_eq_true he
    rw [hl, Option.map_some, hq] at hbusy
    exact absurd hbusy (by decide)
  | opened t => simp at he
  | used lease use => simp at he

end RecordSql.Store
