import RecordSql.Proofs.Server.Answered
import RecordSql.Store.Checkout
import RecordSql.Store.Exchange

namespace RecordSql.Store

open Server

namespace World

-- All that was sent over a connection, and how far it has been answered.
def sentOver (w : World) (connection : Nat) : List Message :=
  ((w.link? connection).map (·.sent)).getD []

def answeredOver (w : World) (connection : Nat) : List Exchange :=
  ((w.link? connection).map (·.answered)).getD []

-- What was sent on behalf of a lease.
def messages (w : World) (lease : Lease) : List Content :=
  ((w.sentOver lease.connection).filter (·.lease == lease.number)).map (·.content)

theorem sent_of_answeredOver (w : World) (connection i : Nat) (exchange : Exchange)
    (h : (w.answeredOver connection)[i]? = some exchange) :
    (w.sentOver connection)[i]? = some exchange.message := by
  unfold answeredOver at h
  unfold sentOver
  cases hl : w.link? connection with
  | none => simp [hl] at h
  | some l =>
    simp only [hl, Option.map_some, Option.getD_some] at h ⊢
    exact l.sent_of_answered i exchange h

theorem reply?_eq_some (w : World) (connection i : Nat) (reply : Reply)
    (h : w.reply? connection i = some reply) :
    ∃ exchange, (w.answeredOver connection)[i]? = some exchange ∧ exchange.reply = reply := by
  unfold reply? at h
  obtain ⟨l, hl, hr⟩ := Option.bind_eq_some_iff.mp h
  obtain ⟨exchange, he, rfl⟩ := Option.map_eq_some_iff.mp hr
  exact ⟨exchange, by simpa [answeredOver, hl] using he, rfl⟩

theorem nextMessage_eq (w : World) (connection : Nat) :
    w.nextMessage connection = (w.sentOver connection).length := by
  unfold nextMessage sentOver
  cases w.link? connection <;> rfl

end World

-- What is said under a lease is sent over its connection and over no other.
def Lease.speech (lease : Lease) (contents : List Content) (connection : Nat) : List Message :=
  if connection = lease.connection then contents.map (⟨lease.number, ·⟩) else []

@[simp] theorem Lease.speech_self (lease : Lease) (contents : List Content) :
    lease.speech contents lease.connection = contents.map (⟨lease.number, ·⟩) :=
  if_pos rfl

theorem Lease.speech_of_ne {lease : Lease} {connection : Nat} (h : connection ≠ lease.connection)
    (contents : List Content) : lease.speech contents connection = [] :=
  if_neg h

def silence : Nat → List Message := fun _ => []

-- How a world goes on while nothing but certain messages is sent. Open transactions stay as they
-- are.
structure Follows (added : Nat → List Message) (w after : World) : Prop where
  sent : ∀ c, after.sentOver c = w.sentOver c ++ added c
  answered : ∀ c, w.answeredOver c <+: after.answeredOver c
  opened : w.links.length ≤ after.links.length
  leases : w.leases ≤ after.leases
  transactions : after.transactions = w.transactions

namespace Follows

variable {w mid after : World} {added more : Nat → List Message}

-- Clock, pool, logs and the like have no part in it.
theorem of_eq (hl : after.links = w.links) (hn : w.leases ≤ after.leases)
    (ht : after.transactions = w.transactions) : Follows silence w after := by
  have hs : ∀ c, after.sentOver c = w.sentOver c := fun c => by
    simp [World.sentOver, World.link?, hl]
  have ha : ∀ c, after.answeredOver c = w.answeredOver c := fun c => by
    simp [World.answeredOver, World.link?, hl]
  exact ⟨fun c => by simp [hs, silence], fun c => ha c ▸ List.prefix_rfl,
    Nat.le_of_eq (congrArg List.length hl.symm), hn, ht⟩

theorem refl (w : World) : Follows silence w w := of_eq rfl (Nat.le_refl _) rfl

theorem trans (h : Follows added w mid) (hm : Follows more mid after) :
    Follows (fun c => added c ++ more c) w after where
  sent c := by rw [hm.sent, h.sent, List.append_assoc]
  answered c := (h.answered c).trans (hm.answered c)
  opened := Nat.le_trans h.opened hm.opened
  leases := Nat.le_trans h.leases hm.leases
  transactions := hm.transactions.trans h.transactions

theorem congr (h : Follows added w after) (he : ∀ c, added c = more c) : Follows more w after := by
  obtain rfl : added = more := funext he
  exact h

theorem silent_trans (h : Follows silence w mid) (hm : Follows more mid after) :
    Follows more w after :=
  (h.trans hm).congr fun _ => rfl

theorem trans_silent (h : Follows added w mid) (hm : Follows silence mid after) :
    Follows added w after :=
  (h.trans hm).congr fun _ => by simp [silence]

theorem speech_nil (lease : Lease) :
    Follows silence w after ↔ Follows (lease.speech []) w after := by
  have he : lease.speech [] = silence := by
    funext c
    simp [Lease.speech, silence]
  rw [he]

theorem speech_trans {lease : Lease} {first second : List Content}
    (h : Follows (lease.speech first) w mid) (hm : Follows (lease.speech second) mid after) :
    Follows (lease.speech (first ++ second)) w after :=
  (h.trans hm).congr fun c => by
    unfold Lease.speech
    split <;> simp

section Speech

variable {lease : Lease} {contents : List Content}

-- What is said comes after all that was sent before.
theorem sent_speech (h : Follows (lease.speech contents) w after) :
    after.sentOver lease.connection =
      w.sentOver lease.connection ++ contents.map (⟨lease.number, ·⟩) := by
  rw [h.sent, Lease.speech_self]

theorem length_sent_speech (h : Follows (lease.speech contents) w after) :
    (after.sentOver lease.connection).length =
      (w.sentOver lease.connection).length + contents.length := by
  rw [h.sent_speech, List.length_append, List.length_map]

end Speech

theorem messages (h : Follows added w after) (lease : Lease) :
    after.messages lease = w.messages lease ++
      ((added lease.connection).filter (·.lease == lease.number)).map (·.content) := by
  simp [World.messages, h.sent]

-- A lease is not told apart by its connection but by its number.
theorem messages_speech {lease : Lease} {contents : List Content}
    (h : Follows (lease.speech contents) w after) :
    after.messages lease = w.messages lease ++ contents := by
  have hc : ((lease.speech contents lease.connection).filter (·.lease == lease.number)).map
      (·.content) = contents := by
    simp [List.filter_map, Function.comp_def]
  rw [h.messages, hc]

theorem messages_of_ne (h : Follows added w after) (lease : Lease)
    (hn : ∀ message ∈ added lease.connection, message.lease ≠ lease.number) :
    after.messages lease = w.messages lease := by
  have hf : (added lease.connection).filter (·.lease == lease.number) = [] :=
    List.filter_eq_nil_iff.mpr fun message hm => by simpa using hn message hm
  rw [h.messages, hf, List.map_nil, List.append_nil]

end Follows

section Changes

variable (w : World)

theorem link?_updateLink (connection c : Nat) (change : Link → Link) :
    (w.updateLink connection change).link? c =
      (w.link? c).map fun l => if connection = c then change l else l := by
  simp only [World.updateLink, World.link?, List.getElem?_modify]
  cases w.links[c]? <;> rfl

-- A change that touches no message of a link is not seen in what was sent.
theorem follows_updateLink (connection : Nat) (change : Link → Link)
    (hs : ∀ l, (change l).sent = l.sent) (ha : ∀ l, (change l).answered = l.answered) :
    Follows silence w (w.updateLink connection change) := by
  have hsent : ∀ c, (w.updateLink connection change).sentOver c = w.sentOver c := by
    intro c
    simp only [World.sentOver, link?_updateLink]
    cases w.link? c with
    | none => rfl
    | some l =>
      by_cases hc : connection = c <;> simp [hc, hs]
  have hanswered : ∀ c, (w.updateLink connection change).answeredOver c = w.answeredOver c := by
    intro c
    simp only [World.answeredOver, link?_updateLink]
    cases w.link? c with
    | none => rfl
    | some l =>
      by_cases hc : connection = c <;> simp [hc, ha]
  exact ⟨fun c => by simp [hsent, silence], fun c => hanswered c ▸ List.prefix_rfl,
    by simp [World.updateLink], Nat.le_refl _, rfl⟩

theorem follows_sever (connection : Nat) : Follows silence w (w.updateLink connection Link.sever) :=
  follows_updateLink w connection Link.sever (fun _ => rfl) fun _ => rfl

theorem follows_send (lease : Lease) (content : Content) (h : lease.connection < w.links.length) :
    Follows (lease.speech [content]) w (w.send lease content) := by
  refine ⟨fun c => ?_, fun c => ?_, by simp [World.send, World.updateLink], Nat.le_refl _, rfl⟩
  · simp only [World.send, World.sentOver, link?_updateLink]
    cases hl : w.link? c with
    | none =>
      have hc : c ≠ lease.connection := by
        rintro rfl
        exact absurd (List.getElem?_eq_none_iff.mp hl) (by omega)
      simp [Lease.speech_of_ne hc]
    | some l =>
      by_cases hc : lease.connection = c
      · simp [Lease.speech, hc, Link.sent_send]
      · simp [Lease.speech, hc, Ne.symm hc]
  · simp only [World.send, World.answeredOver, link?_updateLink]
    cases w.link? c with
    | none => exact List.prefix_rfl
    | some l =>
      by_cases hc : lease.connection = c <;> simp [hc, Link.send]

theorem follows_connect : Follows silence w w.connect.2.2 := by
  have hlink : ∀ c, w.connect.2.2.link? c = if c = w.links.length then
      some { severed := w.welcomes.head?.getD .accept != .accept } else w.link? c := by
    intro c
    change (w.links ++ [_])[c]? = if c = w.links.length then some _ else w.links[c]?
    by_cases hc : c = w.links.length
    · subst hc
      simp
    · rw [if_neg hc]
      by_cases hl : c < w.links.length
      · exact List.getElem?_append_left hl
      · rw [List.getElem?_eq_none_iff.mpr (by simp; omega),
          List.getElem?_eq_none_iff.mpr (by omega)]
  have hnone : w.link? w.links.length = none := List.getElem?_eq_none_iff.mpr (Nat.le_refl _)
  refine ⟨fun c => ?_, fun c => ?_, by simp [World.connect], Nat.le_refl _, rfl⟩
  · by_cases hc : c = w.links.length
    · subst hc
      simp [World.sentOver, hlink, hnone, silence, Link.sent]
    · simp [World.sentOver, hlink, hc, silence]
  · by_cases hc : c = w.links.length
    · subst hc
      simp [World.answeredOver, hlink, hnone]
    · simp [World.answeredOver, hlink, hc]

theorem follows_serve : Follows silence w w.serve := by
  have hlink : ∀ c, w.serve.link? c = (w.link? c).map fun l => (l.serve w.server w.now).1 := by
    intro c
    simp only [World.serve, World.link?, List.getElem?_map, Option.map_map]
    rfl
  refine ⟨fun c => ?_, fun c => ?_, by simp [World.serve], Nat.le_refl _, rfl⟩
  · simp only [World.sentOver, hlink, Option.map_map, Function.comp_def, Link.sent_serve, silence,
      List.append_nil]
  · simp only [World.answeredOver, hlink]
    cases w.link? c with
    | none => exact List.prefix_rfl
    | some l => exact l.answered_serve _ _

theorem follows_giveBack (lease : Lease) : Follows silence w (w.giveBack lease) := by
  unfold World.giveBack
  split
  · exact .refl w
  · split
    · exact .of_eq rfl (Nat.le_refl _) rfl
    · refine Follows.silent_trans ?_ (follows_sever _ _)
      exact .of_eq rfl (Nat.le_refl _) rfl

theorem follows_discard (lease : Lease) : Follows silence w (w.discard lease) := by
  unfold World.discard
  split
  · exact .refl w
  · refine Follows.silent_trans ?_ (follows_sever _ _)
    exact .of_eq rfl (Nat.le_refl _) rfl

end Changes

section Speech

variable {lease : Lease} {contents : List Content} {connection : Nat} {message : Message}

theorem Lease.connection_of_mem_speech (h : message ∈ lease.speech contents connection) :
    connection = lease.connection := by
  by_contra hc
  rw [Lease.speech_of_ne hc] at h
  exact List.not_mem_nil h

theorem Lease.lease_of_mem_speech (h : message ∈ lease.speech contents connection) :
    message.lease = lease.number := by
  obtain rfl := Lease.connection_of_mem_speech h
  rw [Lease.speech_self] at h
  obtain ⟨content, -, rfl⟩ := List.mem_map.mp h
  rfl

end Speech

end RecordSql.Store
