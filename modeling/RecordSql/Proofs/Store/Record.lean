import RecordSql.Proofs.Store.History

namespace RecordSql.Store

open Server

-- The last messages of a transaction, by how it came to its end. One that is open has none.
def Closing : Option Ending → List Content → Prop
  | none, last => last = []
  | some .commit, last => last.Sublist [.batch commitSql, .batch rollbackSql]
  | some .rollback, last => last.Sublist [.batch rollbackSql]
  | some .drop, last => last = [.batch rollbackSql]

-- The messages of a transaction as they come from what is done with it. Nothing is done with it
-- once it has ended.
inductive Story : List Use → List Content → Option Ending → Prop
  | opened : Story [] [.batch beginSql] none
  | statement {uses : List Use} {sent contents : List Content} {sql : String} {late : Bool}
      (h : Story uses sent none) (hp : Piece late sql contents) :
      Story (uses ++ [.statement sql late]) (sent ++ contents) none
  | ended {uses : List Use} {sent last : List Content} {how : Ending}
      (h : Story uses sent none) (hl : Closing (some how) last) :
      Story (uses ++ [.ending how]) (sent ++ last) (some how)

section Uses

variable (lease : Lease)

theorem usesOf_append (events more : List Event) :
    usesOf lease (events ++ more) = usesOf lease events ++ usesOf lease more :=
  List.filterMap_append

theorem usesOf_handed (other : Lease) (w : World) : usesOf lease [.handed other w] = [] := rfl

theorem usesOf_opened (t : Transaction) : usesOf lease [.opened t] = [] := rfl

theorem usesOf_used (use : Use) : usesOf lease [.used lease use] = [use] := by
  simp [usesOf]

theorem usesOf_used_of_ne {other : Lease} (h : other ≠ lease) (use : Use) :
    usesOf lease [.used other use] = [] := by
  simp [usesOf, h]

theorem usesOf_eq_nil {events : List Event} (h : ∀ use, Event.used lease use ∉ events) :
    usesOf lease events = [] := by
  refine List.filterMap_eq_nil_iff.mpr fun event hm => ?_
  cases event with
  | handed other w => rfl
  | opened t => rfl
  | used other use =>
    by_cases ho : other = lease
    · exact absurd (ho ▸ hm) (h use)
    · simp [ho]

end Uses

-- The transactions that have not ended: those that were opened just now, and those with a name.
def World.live (w : World) (begun : List Transaction) : List Transaction :=
  begun ++ w.transactions.map (·.2)

-- What holds of a store and all that happened to it.
structure Record (opens : Content → Prop) (begun : List Transaction) (past : List Event)
    (w : World) : Prop where
  custody : Custody opens (begun.map (·.lease)) w
  handed : ∀ lease there, .handed lease there ∈ past →
    lease.connection < there.links.length ∧ there.Ended opens lease.connection
  going : ∀ t ∈ w.live begun,
    .opened t ∈ past ∧ Story (usesOf t.lease past) (w.messages t.lease) none
  finished : ∀ t, .opened t ∈ past → t ∈ w.live begun ∨
    ∃ how, Story (usesOf t.lease past) (w.messages t.lease) (some how)
  numbered : ∀ t, .opened t ∈ past → t.lease.number < w.leases
  used : ∀ lease use, .used lease use ∈ past → ∃ t, .opened t ∈ past ∧ t.lease = lease
  distinct : ∀ t other, .opened t ∈ past → .opened other ∈ past →
    t.lease.number = other.lease.number → t = other

namespace Record

variable {opens : Content → Prop} {begun next : List Transaction} {past : List Event}
  {w after : World} {t : Transaction} {name : String}

section Changes

-- What goes on aside of the transactions says nothing under their leases.
theorem messages_of_aside (h : Record opens begun past w) (ha : Aside w after)
    (ht : .opened t ∈ past) : after.messages t.lease = w.messages t.lease := by
  obtain ⟨added, hf, hn⟩ := ha
  refine hf.messages_of_ne t.lease fun message hm => ?_
  exact Nat.ne_of_gt (Nat.lt_of_lt_of_le (h.numbered t ht) (hn _ message hm))

theorem goOn (h : Record opens begun past w) (hc : Custody opens (begun.map (·.lease)) after)
    (ha : Aside w after) : Record opens begun past after := by
  have ⟨_, hf, _⟩ := ha
  have hlive : after.live begun = w.live begun := by
    rw [World.live, World.live, hf.transactions]
  refine ⟨hc, h.handed, fun t ht => ?_, fun t ht => ?_, fun t ht => ?_, h.used, h.distinct⟩
  · obtain ⟨ho, hs⟩ := h.going t (hlive ▸ ht)
    exact ⟨ho, h.messages_of_aside ha ho ▸ hs⟩
  · rw [hlive, h.messages_of_aside ha ht]
    exact h.finished t ht
  · exact Nat.lt_of_lt_of_le (h.numbered t ht) hf.leases

-- Names may change as long as the same transactions are open.
theorem rename (h : Record opens begun past w) {transactions : List (String × Transaction)}
    (hc : Custody opens (next.map (·.lease)) { w with transactions })
    (hl : ∀ t, t ∈ World.live { w with transactions } next ↔ t ∈ w.live begun) :
    Record opens next past { w with transactions } where
  custody := hc
  handed := h.handed
  going t ht := h.going t ((hl t).mp ht)
  finished t ht := (h.finished t ht).imp_left (hl t).mpr
  numbered := h.numbered
  used := h.used
  distinct := h.distinct

theorem release (h : Record opens begun past w) (ht : w.transaction? name = some t) :
    Record opens (t :: begun) past (w.removeTransaction name) := by
  refine h.rename (h.custody.release ht) fun other => ?_
  have hp := ((perm_of_lookup h.custody.named ht).map (·.2)).mem_iff (a := other)
  simp only [World.live, List.mem_append, hp, List.map_cons, List.mem_cons]
  tauto

theorem keep (h : Record opens (t :: begun) past w) (hn : w.transaction? name = none) :
    Record opens begun past (w.keepTransaction name t) := by
  refine h.rename (h.custody.keep hn) fun other => ?_
  have hp := ((perm_insertTransaction name t w.transactions).map (·.2)).mem_iff (a := other)
  simp only [World.live, List.mem_append, hp, List.map_cons, List.mem_cons]
  tauto

end Changes

section News

theorem hand (h : Record opens begun past w) {lease : Lease} {there : World}
    (hl : lease.connection < there.links.length ∧ there.Ended opens lease.connection) :
    Record opens begun (past ++ [.handed lease there]) w := by
  have huses : ∀ t : Transaction, usesOf t.lease (past ++ [.handed lease there]) =
      usesOf t.lease past := fun t => by
    rw [usesOf_append, usesOf_handed, List.append_nil]
  refine ⟨h.custody, ?handed, ?going, ?finished, ?numbered, ?used, ?distinct⟩
  case handed =>
    intro lease there hm
    rcases List.mem_append.mp hm with hm | hm
    · exact h.handed lease there hm
    · obtain ⟨rfl, rfl⟩ : lease = _ ∧ there = _ := by simpa using hm
      exact hl
  case going =>
    intro t ht
    obtain ⟨ho, hs⟩ := h.going t ht
    exact ⟨List.mem_append_left _ ho, huses t ▸ hs⟩
  case finished =>
    intro t ht
    rw [huses]
    exact h.finished t (by simpa using ht)
  case numbered =>
    exact fun t ht => h.numbered t (by simpa using ht)
  case used =>
    intro lease use hm
    obtain ⟨t, ho, ht⟩ := h.used lease use (by simpa using hm)
    exact ⟨t, List.mem_append_left _ ho, ht⟩
  case distinct =>
    exact fun t other ht ho => h.distinct t other (by simpa using ht) (by simpa using ho)

-- Nothing was done or sent under a lease that is new.
theorem fresh (h : Record opens begun past w) {lease : Lease} (hn : w.leases ≤ lease.number) :
    usesOf lease past = [] ∧ w.messages lease = [] := by
  constructor
  · refine usesOf_eq_nil lease fun use hm => ?_
    obtain ⟨other, ho, rfl⟩ := h.used lease use hm
    have hlt := h.numbered other ho
    omega
  · refine List.map_eq_nil_iff.mpr (List.filter_eq_nil_iff.mpr fun message hm => ?_)
    have hlt := h.custody.dated _ message hm
    simp only [beq_iff_eq]
    omega

theorem opened (h : Record opens begun past w)
    (hb : Begun opens (begun.map (·.lease)) w after (.ok t)) :
    Record opens (t :: begun) (past ++ [.opened t]) after := by
  obtain ⟨hc, hf, hn⟩ := hb
  have hlive : after.live (t :: begun) = t :: w.live begun := by
    rw [World.live, World.live, hf.transactions, List.cons_append]
  have huses : ∀ lease, usesOf lease (past ++ [.opened t]) = usesOf lease past := fun lease => by
    rw [usesOf_append, usesOf_opened, List.append_nil]
  have hstory : Story (usesOf t.lease (past ++ [.opened t])) (after.messages t.lease) none := by
    obtain ⟨hu, hm⟩ := h.fresh hn
    rw [huses, hu, hf.messages_speech, hm, List.nil_append]
    exact .opened
  have hothers : ∀ other : Transaction, .opened other ∈ past →
      after.messages other.lease = w.messages other.lease := fun other ho =>
    h.messages_of_aside (hf.aside_speech hn) ho
  refine ⟨hc, ?handed, ?going, ?finished, ?numbered, ?used, ?distinct⟩
  case handed =>
    intro lease there hm
    exact h.handed lease there (by simpa using hm)
  case going =>
    intro other ho
    rw [hlive] at ho
    rcases List.mem_cons.mp ho with rfl | ho
    · exact ⟨List.mem_append_right _ List.mem_cons_self, hstory⟩
    · obtain ⟨hpast, hs⟩ := h.going other ho
      rw [huses, hothers other hpast]
      exact ⟨List.mem_append_left _ hpast, hs⟩
  case finished =>
    intro other ho
    rw [hlive]
    rcases List.mem_append.mp ho with ho | ho
    · rw [huses, hothers other ho]
      exact (h.finished other ho).imp_left (List.mem_cons_of_mem _)
    · obtain rfl : other = t := by simpa using ho
      exact .inl List.mem_cons_self
  case numbered =>
    intro other ho
    rcases List.mem_append.mp ho with ho | ho
    · exact Nat.lt_of_lt_of_le (h.numbered other ho) hf.leases
    · obtain rfl : other = t := by simpa using ho
      exact hc.holdings.numbered _
        (List.mem_append_left _ (List.mem_append_left _ List.mem_cons_self))
  case used =>
    intro lease use hm
    obtain ⟨other, ho, he⟩ := h.used lease use (by simpa using hm)
    exact ⟨other, List.mem_append_left _ ho, he⟩
  case distinct =>
    intro first second hfirst hsecond he
    rcases List.mem_append.mp hfirst with hf | hf <;>
      rcases List.mem_append.mp hsecond with hs | hs
    · exact h.distinct first second hf hs he
    · have hlt := h.numbered first hf
      obtain rfl : second = t := by simpa using hs
      omega
    · have hlt := h.numbered second hs
      obtain rfl : first = t := by simpa using hf
      omega
    · obtain rfl : first = t := by simpa using hf
      exact Eq.symm (by simpa using hs)

end News

section Uses

variable {deed : Use} {contents last : List Content} {outcome : Option Ending}

-- One transaction is used and the others are as they were. It stays open unless it is ended.
theorem use (h : Record opens begun past w) (ht : t ∈ w.live begun)
    (hf : Follows (t.lease.speech contents) w after)
    (hc : Custody opens (next.map (·.lease)) after)
    (hs : Story (usesOf t.lease past ++ [deed]) (w.messages t.lease ++ contents) outcome)
    (hlive : ∀ other ∈ after.live next, other ∈ w.live begun ∧ (other = t → outcome = none))
    (hleft : ∀ other ∈ w.live begun, other ∈ after.live next ∨ other = t ∧ outcome ≠ none) :
    Record opens next (past ++ [.used t.lease deed]) after := by
  have hopened : ∀ other : Transaction, .opened other ∈ past ++ [.used t.lease deed] →
      .opened other ∈ past := fun other ho => by simpa using ho
  have htold := (h.going t ht).1
  have hsame : Story (usesOf t.lease (past ++ [.used t.lease deed])) (after.messages t.lease)
      outcome := by
    rw [usesOf_append, usesOf_used, hf.messages_speech]
    exact hs
  have hothers : ∀ other : Transaction, .opened other ∈ past → other ≠ t →
      usesOf other.lease (past ++ [.used t.lease deed]) = usesOf other.lease past ∧
        after.messages other.lease = w.messages other.lease := by
    intro other ho hne
    have hnumber : t.lease.number ≠ other.lease.number := fun he =>
      hne (h.distinct other t ho htold he.symm)
    constructor
    · rw [usesOf_append, usesOf_used_of_ne _ fun he => hnumber (congrArg _ he), List.append_nil]
    · refine hf.messages_of_ne other.lease fun message hm => ?_
      rw [Lease.lease_of_mem_speech hm]
      exact hnumber
  refine ⟨hc, ?handed, ?going, ?finished, ?numbered, ?used, ?distinct⟩
  case handed =>
    intro lease there hm
    exact h.handed lease there (by simpa using hm)
  case going =>
    intro other ho
    obtain ⟨hw, hn⟩ := hlive other ho
    obtain ⟨hpast, hstory⟩ := h.going other hw
    refine ⟨List.mem_append_left _ hpast, ?_⟩
    by_cases he : other = t
    · obtain rfl := hn he
      exact he ▸ hsame
    · obtain ⟨hu, hm⟩ := hothers other hpast he
      rw [hu, hm]
      exact hstory
  case finished =>
    intro other ho
    have hpast := hopened other ho
    by_cases he : other = t
    · subst he
      refine (hleft other ht).imp_right fun hn => ?_
      obtain ⟨how, rfl⟩ := Option.ne_none_iff_exists'.mp hn.2
      exact ⟨how, hsame⟩
    · obtain ⟨hu, hm⟩ := hothers other hpast he
      rw [hu, hm]
      rcases h.finished other hpast with hw | hw
      · exact .inl ((hleft other hw).resolve_right fun hn => he hn.1)
      · exact .inr hw
  case numbered =>
    intro other ho
    exact Nat.lt_of_lt_of_le (h.numbered other (hopened other ho)) hf.leases
  case used =>
    intro lease use hm
    rcases List.mem_append.mp hm with hm | hm
    · obtain ⟨other, ho, rfl⟩ := h.used lease use hm
      exact ⟨other, List.mem_append_left _ ho, rfl⟩
    · obtain ⟨rfl, -⟩ : lease = t.lease ∧ use = deed := by simpa using hm
      exact ⟨t, List.mem_append_left _ htold, rfl⟩
  case distinct =>
    exact fun t other ht ho => h.distinct t other (hopened t ht) (hopened other ho)

theorem speak {sql : String} {late : Bool} (h : Record opens begun past w)
    (ht : t ∈ w.live begun) (hp : Piece late sql contents)
    (hc : Custody opens (begun.map (·.lease)) after)
    (hf : Follows (t.lease.speech contents) w after) :
    Record opens begun (past ++ [.used t.lease (.statement sql late)]) after := by
  have hlive : after.live begun = w.live begun := by
    rw [World.live, World.live, hf.transactions]
  refine h.use ht hf hc (.statement (h.going t ht).2 hp) ?_ ?_
  · exact fun other ho => ⟨hlive ▸ ho, fun _ => rfl⟩
  · exact fun other ho => .inl (hlive ▸ ho)

theorem notMem_live (h : Record opens (t :: begun) past w) : t ∉ w.live begun := by
  have hd := (List.nodup_append.mp h.custody.holdings.apart).2.1
  have hc := (List.nodup_cons.mp hd).1
  intro hm
  refine hc (List.mem_map_of_mem (List.mem_append_left _ ?_))
  rcases List.mem_append.mp hm with hm | hm
  · exact List.mem_append_left _ (List.mem_map_of_mem hm)
  · obtain ⟨entry, he, rfl⟩ := List.mem_map.mp hm
    exact List.mem_append_right _ (List.mem_map_of_mem (f := (·.2.lease)) he)

theorem ending {how : Ending} (h : Record opens (t :: begun) past w) (hl : Closing (some how) last)
    (hc : Custody opens (begun.map (·.lease)) after)
    (hf : Follows (t.lease.speech last) w after) :
    Record opens begun (past ++ [.used t.lease (.ending how)]) after := by
  have ht : t ∈ w.live (t :: begun) := List.mem_cons_self
  have hlive : after.live begun = w.live begun := by
    rw [World.live, World.live, hf.transactions]
  refine h.use ht hf hc (.ended (h.going t ht).2 hl) ?_ ?_
  · intro other ho
    rw [hlive] at ho
    exact ⟨List.mem_cons_of_mem _ ho, fun he => absurd (he ▸ ho) h.notMem_live⟩
  · intro other ho
    rcases List.mem_cons.mp ho with rfl | ho
    · exact .inr ⟨rfl, by simp⟩
    · exact .inl (hlive ▸ ho)

end Uses

end Record

end RecordSql.Store
