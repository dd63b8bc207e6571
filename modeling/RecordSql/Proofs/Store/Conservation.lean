import RecordSql.Proofs.Store.Reachable

namespace RecordSql.Store

open Server

-- Everybody may give a connection back, whatever was sent over it.
def anyLease : Lease → Prop := fun _ => True

-- Where the connections of a store are. Those that are counted from zero up to the number of
-- links are all that were ever opened.
structure Scene.Conserved (config : StoreConfig) (s : Scene) : Prop where
  -- Each of them is idle, or with one operation, one transaction or one rollback, or gone.
  placed : (s.world.pool.idle ++ s.held.map (·.connection) ++
    s.world.transactions.map (·.2.lease.connection) ++
    s.world.rollbacks.map (·.lease.connection) ++ s.gone).Perm (List.range s.world.links.length)
  counted : s.world.pool.lent = s.out.countP (·.pooled)
  bounded : s.world.pool.idle.length + s.out.countP (·.pooled) ≤ max config.maxConnections 1
  -- When nobody has a connection all are idle that are not gone, and none is counted as lent.
  atRest : s.held = [] → s.world.transactions = [] → s.world.rollbacks = [] →
    s.world.pool.lent = 0 ∧
      (s.world.pool.idle ++ s.gone).Perm (List.range s.world.links.length)
  -- What was sent over the connection of a transaction since it was handed out was sent by the
  -- transaction, for no two leases have one number.
  exclusive : ∀ entry ∈ s.world.transactions, ∃ earlier own,
    s.world.sentOver entry.2.lease.connection = earlier ++ own ∧
      (∀ message ∈ earlier, message.lease < entry.2.lease.number) ∧
      ∀ message ∈ own, message.lease = entry.2.lease.number
  distinct : (s.out.map (·.number)).Nodup

-- Messages in the order of their leases, up to the last lease.
theorem split_at_lease (n : Nat) (messages : List Message)
    (ho : messages.Pairwise (·.lease ≤ ·.lease)) (hn : ∀ message ∈ messages, message.lease ≤ n) :
    ∃ earlier own, messages = earlier ++ own ∧ (∀ message ∈ earlier, message.lease < n) ∧
      ∀ message ∈ own, message.lease = n := by
  induction messages with
  | nil => exact ⟨[], [], rfl, by simp, by simp⟩
  | cons message rest ih =>
    obtain ⟨hfirst, hrest⟩ := List.pairwise_cons.mp ho
    obtain ⟨hle, hles⟩ := List.forall_mem_cons.mp hn
    by_cases hlt : message.lease < n
    · obtain ⟨earlier, own, rfl, hearlier, hown⟩ := ih hrest hles
      exact ⟨message :: earlier, own, rfl, List.forall_mem_cons.mpr ⟨hlt, hearlier⟩, hown⟩
    · refine ⟨[], message :: rest, rfl, by simp, List.forall_mem_cons.mpr ⟨by omega, ?_⟩⟩
      intro other hm
      have hfrom := hfirst other hm
      have hto := hles other hm
      omega

theorem Scene.Sound.conserved {stale : Lease → Prop} {s : Scene} (h : s.Sound stale) :
    s.Conserved s.world.config where
  placed := by
    have hp := h.placed
    simpa [Scene.out, World.leasesOut, Function.comp_def] using hp
  counted := h.custody.holdings.lent
  bounded := by
    have hl : s.world.pool.lent = s.out.countP (·.pooled) := h.custody.holdings.lent
    rw [← hl]
    exact h.bounded
  atRest hh ht hr := by
    have hout : s.out = [] := by simp [Scene.out, World.leasesOut, hh, ht, hr]
    have hl : s.world.pool.lent = s.out.countP (·.pooled) := h.custody.holdings.lent
    have hp := h.placed
    rw [hout] at hl hp
    exact ⟨hl, by simpa using hp⟩
  exclusive entry hm := by
    have hout : entry.2.lease ∈ s.out := List.mem_append_left _ (List.mem_append_right _
      (List.mem_map_of_mem (f := (·.2.lease)) hm))
    exact split_at_lease _ _ (h.ordered _) (h.newest _ hout)
  distinct := h.distinct

-- At every moment, with any number of operations under way, every connection is in one place. What
-- is gone stays gone, and nothing is sent over it any more. This is so for every run of a program,
-- at its end, after what is still open has been let go, and whenever it gets a connection, for all
-- of them are reached by such moves.
theorem connections_conserved (config : StoreConfig) (server : Behaviour) (welcomes : List Welcome)
    (races : List Bool) :
    (∀ s, Moves anyLease (Scene.start config server welcomes races) s →
      s.Conserved config ∧ ∀ next, Moves anyLease s next → ∀ c ∈ s.gone,
        c ∈ next.gone ∧ c ∉ next.world.pool.idle ∧ c ∉ next.out.map (·.connection) ∧
          next.world.sentOver c = s.world.sentOver c) ∧
    ∀ steps : List Step,
      let start := World.start config server welcomes races
      let reached := fun held w => ∃ gone,
        Moves anyLease (Scene.start config server welcomes races) ⟨held, gone, w⟩
      reached [] ((performAll steps).after start) ∧
        reached [] (finish.after ((performAll steps).after start)) ∧
        ∀ lease there, .handed lease there ∈ history steps start → reached [lease] there := by
  refine ⟨fun s hs => ?_, fun steps => ?_⟩
  · have hsound := hs.sound (sound_start config server welcomes races)
    refine ⟨?_, fun next hn c hc => ?_⟩
    · have hconserved := hsound.conserved
      rw [hs.config] at hconserved
      exact hconserved
    · have hnext := hn.sound hsound
      have hgone := hn.gone_subset hc
      exact ⟨hgone, hnext.notMem_idle hgone, hnext.notMem_out hgone, hn.sentOver_of_gone hsound hc⟩
  · have hstart : Arrives anyLease (Scene.start config server welcomes races) []
        (World.start config server welcomes races) := start_arrives config server welcomes races
    have hleads := performAll_leads steps _ (fun _ _ => trivial) hstart
    have hreached : ∀ held w, Arrives anyLease (Scene.start config server welcomes races) held w →
        ∃ gone, Moves anyLease (Scene.start config server welcomes races) ⟨held, gone, w⟩ :=
      fun held w ⟨gone, hm, _⟩ => ⟨gone, hm⟩
    exact ⟨hreached _ _ hleads.arrives, hreached _ _ (finish_arrives hleads.arrives),
      fun lease there hm => hreached _ _ (hleads.handed lease there hm).arrives⟩

-- A transaction that is open on one of two connections, while the other is idle again.
def beginThenExec : List Step := [.begin "a", .exec "DELETE FROM t" []]

theorem connections_conserved_beginThenExec :
    let w := (performAll beginThenExec).after (World.start { maxConnections := 2 } (Script.mk []) [] [])
    w.pool.idle = [1] ∧
      w.transactions.map (fun entry => (entry.1, entry.2.lease)) = [("a", ⟨0, 0, true⟩)] ∧
      ∃ gone, Scene.Conserved { maxConnections := 2 } ⟨[], gone, w⟩ := by
  have hidle : ((performAll beginThenExec).after
      (World.start { maxConnections := 2 } (Script.mk []) [] [])).pool.idle = [1] := by decide +kernel
  have hopen : ((performAll beginThenExec).after
      (World.start { maxConnections := 2 } (Script.mk []) [] [])).transactions.map
        (fun entry => (entry.1, entry.2.lease)) = [("a", ⟨0, 0, true⟩)] := by decide +kernel
  obtain ⟨hall, hruns⟩ := connections_conserved { maxConnections := 2 } (Script.mk []) [] []
  obtain ⟨gone, hm⟩ := (hruns beginThenExec).1
  exact ⟨hidle, hopen, gone, (hall _ hm).1⟩

end RecordSql.Store
