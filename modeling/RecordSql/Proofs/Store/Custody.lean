import Mathlib.Data.List.Nodup
import Mathlib.Data.List.Perm.Basic
import RecordSql.Proofs.Store.Messages
import RecordSql.Store.Transaction

namespace RecordSql.Store

open Server

-- Who has which connection: the idle ones, and the leases that are out. No connection is in two
-- places, and of the connections that are out those of the pool are counted.
structure Holdings (idle : List Nat) (out : List Lease) (links leases lent : Nat) : Prop where
  apart : (idle ++ out.map (·.connection)).Nodup
  opened : ∀ c ∈ idle ++ out.map (·.connection), c < links
  numbered : ∀ lease ∈ out, lease.number < leases
  lent : lent = out.countP (·.pooled)

namespace Holdings

variable {idle : List Nat} {out other : List Lease} {lease : Lease} {links leases lent : Nat}

theorem perm (h : Holdings idle out links leases lent) (hp : out.Perm other) :
    Holdings idle other links leases lent := by
  have hc := (hp.map (·.connection)).append_left idle
  exact ⟨hc.nodup_iff.mp h.apart, fun c hm => h.opened c (hc.mem_iff.mpr hm),
    fun lease hm => h.numbered lease (hp.mem_iff.mpr hm), h.lent.trans (hp.countP_eq _)⟩

theorem mono (h : Holdings idle out links leases lent) {links' leases' : Nat} (hl : links ≤ links')
    (hn : leases ≤ leases') : Holdings idle out links' leases' lent :=
  ⟨h.apart, fun c hm => Nat.lt_of_lt_of_le (h.opened c hm) hl,
    fun lease hm => Nat.lt_of_lt_of_le (h.numbered lease hm) hn, h.lent⟩

theorem take {connection : Nat} (h : Holdings (connection :: idle) out links leases lent) :
    Holdings idle (⟨leases, connection, true⟩ :: out) links (leases + 1) (lent + 1) := by
  have hp : (connection :: idle ++ out.map (·.connection)).Perm
      (idle ++ connection :: out.map (·.connection)) := List.perm_middle.symm
  refine ⟨hp.nodup_iff.mp h.apart, fun c hm => h.opened c (hp.mem_iff.mpr hm), ?_, ?_⟩
  · intro lease hm
    rcases List.mem_cons.mp hm with rfl | hm
    · exact Nat.lt_succ_self _
    · exact Nat.lt_succ_of_lt (h.numbered lease hm)
  · simp [h.lent]

-- A connection that is opened now is nobody's yet.
theorem fresh (h : Holdings idle out links leases lent) (pooled : Bool) :
    Holdings idle (⟨leases, links, pooled⟩ :: out) (links + 1) (leases + 1)
      (lent + if pooled then 1 else 0) := by
  have hp : (links :: (idle ++ out.map (·.connection))).Perm
      (idle ++ links :: out.map (·.connection)) := List.perm_middle.symm
  have hn : links ∉ idle ++ out.map (·.connection) := fun hm => Nat.lt_irrefl _ (h.opened _ hm)
  refine ⟨hp.nodup_iff.mp (List.nodup_cons.mpr ⟨hn, h.apart⟩), ?_, ?_, ?_⟩
  · intro c hm
    rcases List.mem_cons.mp (hp.mem_iff.mpr hm) with rfl | hm
    · exact Nat.lt_succ_self _
    · exact Nat.lt_succ_of_lt (h.opened c hm)
  · intro lease hm
    rcases List.mem_cons.mp hm with rfl | hm
    · exact Nat.lt_succ_self _
    · exact Nat.lt_succ_of_lt (h.numbered lease hm)
  · cases pooled <;> simp [h.lent]

theorem drop (h : Holdings idle (lease :: out) links leases lent) :
    Holdings idle out links leases (lent - if lease.pooled then 1 else 0) := by
  have hs : (idle ++ out.map (·.connection)).Sublist
      (idle ++ (lease :: out).map (·.connection)) :=
    (List.Sublist.refl idle).append (List.sublist_cons_self _ _)
  refine ⟨h.apart.sublist hs, fun c hm => h.opened c (hs.subset hm),
    fun lease hm => h.numbered lease (List.mem_cons_of_mem _ hm), ?_⟩
  have hl := h.lent
  cases hp : lease.pooled <;> simp [hp] at hl ⊢ <;> omega

theorem giveBack (h : Holdings idle (lease :: out) links leases lent) (hp : lease.pooled = true) :
    Holdings (idle ++ [lease.connection]) out links leases (lent - 1) := by
  have he : idle ++ [lease.connection] ++ out.map (·.connection) =
      idle ++ (lease :: out).map (·.connection) := by simp
  have hd := h.drop
  rw [hp, if_pos rfl] at hd
  exact ⟨he ▸ h.apart, he ▸ h.opened, hd.numbered, hd.lent⟩

theorem close (h : Holdings idle out links leases lent) : Holdings [] out links leases lent :=
  ⟨(List.nodup_append.mp h.apart).2.1, fun c hm => h.opened c (List.mem_append_right _ hm),
    h.numbered, h.lent⟩

-- The connection of a lease is not idle, and no other lease has it.
theorem notMem_idle (h : Holdings idle out links leases lent) (hm : lease ∈ out) :
    lease.connection ∉ idle := fun hi =>
  (List.nodup_append.mp h.apart).2.2 _ hi _ (List.mem_map_of_mem hm) rfl

theorem ne_of_append {first second : List Lease}
    (h : Holdings idle (first ++ second) links leases lent) (hm : lease ∈ first)
    {next : Lease} (hn : next ∈ second) : next.connection ≠ lease.connection := by
  have hd := (List.nodup_append.mp h.apart).2.1
  rw [List.map_append] at hd
  exact ((List.nodup_append.mp hd).2.2 _ (List.mem_map_of_mem hm) _ (List.mem_map_of_mem hn)).symm

end Holdings

-- An answer that ended a transaction.
def Ends (exchange : Exchange) : Prop :=
  (exchange.message.content = .batch commitSql ∨ exchange.message.content = .batch rollbackSql) ∧
    exchange.reply ≠ .refused

namespace World

variable (opens : Content → Prop)

-- Every transaction that was opened over a connection has been ended over it since.
def Ended (w : World) (connection : Nat) : Prop :=
  ∀ (i : Nat) (message : Message), (w.sentOver connection)[i]? = some message →
    opens message.content → ∃ (j : Nat) (exchange : Exchange), i < j ∧
      (w.answeredOver connection)[j]? = some exchange ∧ Ends exchange

-- The message of a rollback is the one that the rollback waits for, and no transaction was
-- opened after it.
def RollsBack (w : World) (rollback : Rollback) : Prop :=
  (w.sentOver rollback.lease.connection)[rollback.message]? =
      some ⟨rollback.lease.number, .batch rollbackSql⟩ ∧
    ∀ (i : Nat) (message : Message), (w.sentOver rollback.lease.connection)[i]? = some message →
      opens message.content → i < rollback.message

-- The leases that are out: those of operations under way, of open transactions, and of rollbacks
-- that nobody waits for.
def leasesOut (held : List Lease) (w : World) : List Lease :=
  held ++ w.transactions.map (·.2.lease) ++ w.rollbacks.map (·.lease)

-- A lease under which messages may be sent.
def Uses (held : List Lease) (w : World) (lease : Lease) : Prop :=
  lease ∈ held ++ w.transactions.map (·.2.lease)

end World

-- What holds of a store at every moment, with the leases that operations under way have.
structure Custody (opens : Content → Prop) (held : List Lease) (w : World) : Prop where
  holdings : Holdings w.pool.idle (w.leasesOut held) w.links.length w.leases w.pool.lent
  named : (w.transactions.map (·.1)).Nodup
  dated : ∀ c, ∀ message ∈ w.sentOver c, message.lease < w.leases
  ended : ∀ c ∈ w.pool.idle, w.Ended opens c
  rollingBack : ∀ rollback ∈ w.rollbacks, w.RollsBack opens rollback

section Follows

variable {opens : Content → Prop} {w after : World} {added : Nat → List Message}

theorem Follows.still_answered (h : Follows added w after) {c j : Nat} {exchange : Exchange}
    (ha : (w.answeredOver c)[j]? = some exchange) :
    (after.answeredOver c)[j]? = some exchange := by
  obtain ⟨rest, hr⟩ := h.answered c
  rw [← hr, List.getElem?_append_left (List.getElem?_eq_some_iff.mp ha).1, ha]

theorem Follows.ended (h : Follows added w after) {c : Nat} (he : w.Ended opens c)
    (hn : ∀ message ∈ added c, ¬opens message.content) : after.Ended opens c := by
  intro i message hm ho
  rw [h.sent, List.getElem?_append] at hm
  split at hm
  · obtain ⟨j, exchange, hj, ha, hx⟩ := he i message hm ho
    exact ⟨j, exchange, hj, h.still_answered ha, hx⟩
  · exact absurd ho (hn message (List.mem_of_getElem? hm))

theorem Follows.rollsBack (h : Follows added w after) {rollback : Rollback}
    (hr : w.RollsBack opens rollback) (hn : added rollback.lease.connection = []) :
    after.RollsBack opens rollback := by
  unfold World.RollsBack
  rw [h.sent, hn, List.append_nil]
  exact hr

-- An answer that ends a transaction, with no transaction opened since its message.
theorem ended_of_answer {c j : Nat} {exchange : Exchange}
    (ha : (w.answeredOver c)[j]? = some exchange) (he : Ends exchange)
    (hl : ∀ (i : Nat) (message : Message), (w.sentOver c)[i]? = some message →
      opens message.content → i < j) : w.Ended opens c :=
  fun i message hm ho => ⟨j, exchange, hl i message hm ho, ha, he⟩

end Follows

namespace Custody

variable {opens : Content → Prop} {held next : List Lease} {w after : World} {lease : Lease}
  {added : Nat → List Message}

-- Most changes send nothing over idle connections and over those that roll back.
theorem move (h : Custody opens held w) (hf : Follows added w after)
    (hh : Holdings after.pool.idle (after.leasesOut next) after.links.length after.leases
      after.pool.lent)
    (hd : ∀ c, ∀ message ∈ added c, message.lease < after.leases)
    (hi : ∀ c ∈ after.pool.idle, w.Ended opens c ∧ added c = [])
    (hr : ∀ rollback ∈ after.rollbacks,
      w.RollsBack opens rollback ∧ added rollback.lease.connection = []) :
    Custody opens next after where
  holdings := hh
  named := hf.transactions ▸ h.named
  dated c message hm := by
    rw [hf.sent] at hm
    rcases List.mem_append.mp hm with hm | hm
    · exact Nat.lt_of_lt_of_le (h.dated c message hm) hf.leases
    · exact hd c message hm
  ended c hc := hf.ended (hi c hc).1 (by simp [(hi c hc).2])
  rollingBack rollback hm := hf.rollsBack (hr rollback hm).1 (hr rollback hm).2

theorem silent (h : Custody opens held w) (hf : Follows silence w after)
    (hp : after.pool = w.pool) (hr : after.rollbacks.Perm w.rollbacks) :
    Custody opens held after := by
  have ho : (w.leasesOut held).Perm (after.leasesOut held) := by
    rw [World.leasesOut, World.leasesOut, hf.transactions]
    exact ((hr.map _).symm).append_left _
  refine h.move hf ?_ (by simp [silence]) ?_ ?_
  · rw [hp]
    exact (h.holdings.perm ho).mono hf.opened hf.leases
  · intro c hc
    exact ⟨h.ended c (hp ▸ hc), rfl⟩
  · intro rollback hm
    exact ⟨h.rollingBack rollback (hr.mem_iff.mp hm), rfl⟩

-- The moment is left open, for else it would be computed to see that nothing else changes.
theorem atMoment (h : Custody opens held w) (now : Moment) :
    Custody opens held { w with now } ∧ Follows silence w { w with now } := by
  have hf : Follows silence w { w with now } := .of_eq rfl (Nat.le_refl _) rfl
  exact ⟨h.silent hf rfl (.refl _), hf⟩

theorem mem_out (hu : w.Uses held lease) : lease ∈ w.leasesOut held :=
  List.mem_append_left _ hu

-- The connection of a lease that is in use has been opened.
theorem send_follows (h : Custody opens held w) (hu : w.Uses held lease) (content : Content) :
    Follows (lease.speech [content]) w (w.send lease content) :=
  follows_send w lease content
    (h.holdings.opened _ (List.mem_append_right _ (List.mem_map_of_mem (mem_out hu))))

theorem send (h : Custody opens held w) (hu : w.Uses held lease) (content : Content) :
    Custody opens held (w.send lease content) := by
  have hf := h.send_follows hu content
  have hl : (w.send lease content).links.length = w.links.length := by
    simp [World.send, World.updateLink]
  refine h.move hf (hl ▸ h.holdings) ?_ ?_ ?_
  · intro c message hm
    rw [Lease.lease_of_mem_speech hm]
    exact h.holdings.numbered lease (mem_out hu)
  · intro c hc
    have hn : c ≠ lease.connection := by
      rintro rfl
      exact h.holdings.notMem_idle (mem_out hu) hc
    exact ⟨h.ended c hc, Lease.speech_of_ne hn _⟩
  · intro rollback hm
    have hn := h.holdings.ne_of_append hu (List.mem_map_of_mem (f := (·.lease)) hm)
    exact ⟨h.rollingBack rollback hm, Lease.speech_of_ne hn _⟩

-- The same for a change that sends nothing at all.
theorem moveSilently (h : Custody opens held w) (hf : Follows silence w after)
    (hh : Holdings after.pool.idle (after.leasesOut next) after.links.length after.leases
      after.pool.lent)
    (hi : ∀ c ∈ after.pool.idle, w.Ended opens c)
    (hr : ∀ rollback ∈ after.rollbacks, w.RollsBack opens rollback) : Custody opens next after :=
  h.move hf hh (by simp [silence]) (fun c hc => ⟨hi c hc, rfl⟩) fun rollback hm =>
    ⟨hr rollback hm, rfl⟩

-- Open transactions may change hands with the operations under way.
theorem rename (h : Custody opens held w) {transactions : List (String × Transaction)}
    (hn : (transactions.map (·.1)).Nodup)
    (hp : (held ++ w.transactions.map (·.2.lease)).Perm
      (next ++ transactions.map (·.2.lease))) : Custody opens next { w with transactions } :=
  ⟨h.holdings.perm (hp.append_right _), hn, h.dated, h.ended, h.rollingBack⟩

section Return

-- A connection that is given up is out of everybody's hands.
theorem discard (h : Custody opens (lease :: held) w) : Custody opens held (w.discard lease) := by
  have hf := follows_discard w lease
  have hd : Holdings w.pool.idle (w.leasesOut held) w.links.length w.leases
      (w.pool.lent - if lease.pooled then 1 else 0) := h.holdings.drop
  unfold World.discard at hf ⊢
  cases hp : lease.pooled with
  | false =>
    simp only [hp, Bool.not_false, if_true, Bool.false_eq_true, if_false, Nat.sub_zero] at hf hd ⊢
    exact h.moveSilently hf hd h.ended h.rollingBack
  | true =>
    simp only [hp, Bool.not_true, Bool.false_eq_true, if_true, if_false] at hf hd ⊢
    refine h.moveSilently hf ?_ h.ended h.rollingBack
    simpa [World.updateLink, World.leasesOut] using hd

theorem giveBack_eq_discard (hk : ¬(lease.pooled = true ∧ w.pool.size ≤ w.pool.limit)) :
    w.giveBack lease = w.discard lease := by
  unfold World.giveBack World.discard
  cases hp : lease.pooled with
  | false => rfl
  | true =>
    have hs : ¬w.pool.size ≤ w.pool.limit := fun hs => hk ⟨hp, hs⟩
    simp [hs]

-- A connection may be given back when its transactions have ended.
theorem giveBack (h : Custody opens (lease :: held) w) (he : w.Ended opens lease.connection) :
    Custody opens held (w.giveBack lease) := by
  by_cases hk : lease.pooled = true ∧ w.pool.size ≤ w.pool.limit
  · obtain ⟨hp, hs⟩ := hk
    have hf := follows_giveBack w lease
    simp only [World.giveBack, hp, hs, Bool.not_true, Bool.false_eq_true, if_true, if_false] at hf ⊢
    refine h.moveSilently hf (h.holdings.giveBack hp) ?_ h.rollingBack
    intro c hc
    rcases List.mem_append.mp hc with hc | hc
    · exact h.ended c hc
    · exact List.mem_singleton.mp hc ▸ he
  · rw [giveBack_eq_discard hk]
    exact h.discard

theorem sever (h : Custody opens held w) (connection : Nat) :
    Custody opens held (w.updateLink connection Link.sever) :=
  h.silent (follows_sever w connection) rfl (.refl _)

theorem severAll (connections : List Nat) (h : Custody opens held w) :
    Custody opens held (connections.foldl (fun w c => w.updateLink c Link.sever) w) ∧
      Follows silence w (connections.foldl (fun w c => w.updateLink c Link.sever) w) ∧
      (connections.foldl (fun w c => w.updateLink c Link.sever) w).pool = w.pool := by
  induction connections generalizing w with
  | nil => exact ⟨h, .refl w, rfl⟩
  | cons c rest ih =>
    obtain ⟨hc, hf, hp⟩ := ih (h.sever c)
    exact ⟨hc, (follows_sever w c).silent_trans hf, hp⟩

theorem close (h : Custody opens held w) :
    Custody opens held w.close ∧ Follows silence w w.close := by
  obtain ⟨hc, hf, hp⟩ := h.severAll w.pool.idle
  have hclose : Follows silence _ w.close :=
    .of_eq (w := w.pool.idle.foldl (fun w c => w.updateLink c Link.sever) w) rfl
      (Nat.le_refl _) rfl
  have hh := hc.holdings.close
  rw [hp] at hh
  exact ⟨hc.moveSilently hclose hh (by simp [World.close]) hc.rollingBack,
    hf.silent_trans hclose⟩

end Return

section Settle

theorem serve (h : Custody opens held w) : Custody opens held w.serve :=
  h.silent (follows_serve w) rfl (List.mergeSort_perm _ _)

-- A rollback that nobody waits for keeps its lease.
theorem leave {rollback : Rollback} (h : Custody opens (rollback.lease :: held) w)
    (hr : w.RollsBack opens rollback) :
    Custody opens held { w with rollbacks := w.rollbacks ++ [rollback] } := by
  have hf : Follows silence w { w with rollbacks := w.rollbacks ++ [rollback] } :=
    .of_eq rfl (Nat.le_refl _) rfl
  have ho : (w.leasesOut (rollback.lease :: held)).Perm
      (World.leasesOut held { w with rollbacks := w.rollbacks ++ [rollback] }) := by
    simp only [World.leasesOut, List.map_append, List.map_cons, List.map_nil, List.cons_append,
      ← List.append_assoc]
    exact (List.perm_append_singleton _ _).symm
  refine h.moveSilently hf (h.holdings.perm ho) h.ended ?_
  intro other hm
  rcases List.mem_append.mp hm with hm | hm
  · exact h.rollingBack other hm
  · exact List.mem_singleton.mp hm ▸ hr

theorem finishRollback {rollback : Rollback} (h : Custody opens (rollback.lease :: held) w)
    (hr : w.RollsBack opens rollback) : Custody opens held (w.finishRollback rollback) := by
  unfold World.finishRollback
  split
  · exact h.leave hr
  · have hf : Follows silence w
        (w.log (.failed "background rollback failed" (.query "db error"))) :=
      .of_eq rfl (Nat.le_refl _) rfl
    exact (h.silent hf rfl (.refl _)).discard
  · rename_i reply hn ha
    obtain ⟨exchange, he, rfl⟩ := w.reply?_eq_some _ _ _ ha
    have hm := hr.1.symm.trans (w.sent_of_answeredOver _ _ _ he)
    refine h.giveBack (ended_of_answer he ⟨.inr ?_, fun hx => hn hx⟩ hr.2)
    rw [← Option.some.inj hm]

theorem follows_finishRollback (w : World) (rollback : Rollback) :
    Follows silence w (w.finishRollback rollback) := by
  unfold World.finishRollback
  split
  · exact .of_eq rfl (Nat.le_refl _) rfl
  · refine Follows.silent_trans ?_ (follows_discard _ _)
    exact .of_eq rfl (Nat.le_refl _) rfl
  · exact follows_giveBack _ _

-- The rollbacks that are still to be looked at keep their leases.
theorem finishRollbacks (rollbacks : List Rollback) (w : World)
    (h : Custody opens (rollbacks.map (·.lease) ++ held) w)
    (hr : ∀ rollback ∈ rollbacks, w.RollsBack opens rollback) :
    Custody opens held (rollbacks.foldl World.finishRollback w) ∧
      Follows silence w (rollbacks.foldl World.finishRollback w) := by
  induction rollbacks generalizing w with
  | nil => exact ⟨h, .refl w⟩
  | cons rollback rest ih =>
    obtain ⟨hr, hrest⟩ := List.forall_mem_cons.mp hr
    have hf := follows_finishRollback w rollback
    obtain ⟨hc, hs⟩ := ih _ (h.finishRollback hr) fun other hm => hf.rollsBack (hrest other hm) rfl
    exact ⟨hc, hf.silent_trans hs⟩

theorem settle (h : Custody opens held w) :
    Custody opens held w.settle ∧ Follows silence w w.settle := by
  have hs := h.serve
  have hf : Follows silence w.serve { w.serve with rollbacks := [] } :=
    .of_eq rfl (Nat.le_refl _) rfl
  have hc : Custody opens (w.serve.rollbacks.map (·.lease) ++ held)
      { w.serve with rollbacks := [] } := by
    refine hs.moveSilently hf (hs.holdings.perm ?_) hs.ended (by simp)
    simp only [World.leasesOut, List.map_nil, List.append_nil]
    exact List.perm_append_comm.trans (.of_eq (List.append_assoc ..).symm)
  obtain ⟨hc, hfinish⟩ := finishRollbacks _ _ hc hs.rollingBack
  exact ⟨hc, (follows_serve w).silent_trans (hf.silent_trans hfinish)⟩

end Settle

end Custody

end RecordSql.Store
