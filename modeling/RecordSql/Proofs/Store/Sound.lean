import Mathlib.Data.List.Basic
import RecordSql.Proofs.Store.Checkout
import RecordSql.Proofs.Store.Scene

namespace RecordSql.Store

open Server

def World.Severed (w : World) (connection : Nat) : Prop :=
  ∃ l, w.link? connection = some l ∧ l.severed = true

-- What holds of every scene that a store can come to.
structure Scene.Sound (stale : Lease → Prop) (s : Scene) : Prop where
  custody : Custody (fun _ => False) s.held s.world
  -- Every connection is in one place.
  placed : (s.world.pool.idle ++ s.out.map (·.connection) ++ s.gone).Perm
    (List.range s.world.links.length)
  bounded : s.world.pool.size ≤ s.world.config.poolSize
  limited : s.world.pool.limit ≤ s.world.config.poolSize
  distinct : (s.out.map (·.number)).Nodup
  -- Leases follow each other on a connection, and the one that is out is the last of them.
  ordered : ∀ c, (s.world.sentOver c).Pairwise (·.lease ≤ ·.lease)
  newest : ∀ lease ∈ s.out, ∀ message ∈ s.world.sentOver lease.connection,
    message.lease ≤ lease.number
  last : ∀ rollback ∈ s.world.rollbacks, s.world.SentLast rollback
  -- Only what is gone has been severed.
  severed : ∀ c, s.world.Severed c → c ∈ s.gone
  -- What has not been answered belongs to who has the connection, or to a stale lease.
  awaited : ∀ c, ∀ message ∈ s.world.backlog c, c ∈ s.gone ∨
    ∃ lease, (lease ∈ s.out ∨ stale lease) ∧ lease.connection = c ∧ lease.number = message.lease

section Worlds

variable (w : World) {c : Nat}

theorem severed_updateLink {connection : Nat} {change : Link → Link}
    (h : (w.updateLink connection change).Severed c) :
    w.Severed c ∨ c = connection ∧ ∃ l, l.severed = false ∧ (change l).severed = true := by
  obtain ⟨l, hl, hs⟩ := h
  rw [link?_updateLink] at hl
  obtain ⟨old, ho, rfl⟩ := Option.map_eq_some_iff.mp hl
  by_cases hold : old.severed = true
  · exact .inl ⟨old, ho, hold⟩
  · split at hs
    · rename_i hc
      exact .inr ⟨hc.symm, old, by simpa using hold, hs⟩
    · exact absurd hs hold

theorem severed_sever {connection : Nat} {gone : List Nat} (hg : connection ∈ gone)
    (h : (w.updateLink connection Link.sever).Severed c) : w.Severed c ∨ c ∈ gone := by
  rcases severed_updateLink w h with hs | ⟨rfl, -⟩
  · exact .inl hs
  · exact .inr hg

theorem severed_send {lease : Lease} {content : Content} (h : (w.send lease content).Severed c) :
    w.Severed c := by
  refine (severed_updateLink w h).resolve_right ?_
  rintro ⟨-, l, hn, hs⟩
  simp [Link.send, hn] at hs

theorem severed_connect (h : w.connect.2.2.Severed c) :
    w.Severed c ∨ c = w.links.length ∧ ¬w.isWelcome := by
  obtain ⟨l, hl, hs⟩ := h
  change (w.links ++ [_])[c]? = some l at hl
  rw [List.getElem?_append] at hl
  split at hl
  · exact .inl ⟨l, hl, hs⟩
  · rename_i hc
    have hlast : c = w.links.length := by
      have hlt := (List.getElem?_eq_some_iff.mp hl).1
      simp only [List.length_singleton] at hlt
      omega
    subst hlast
    obtain rfl : _ = l := by simpa using hl
    exact .inr ⟨rfl, fun hw => by simp_all [World.isWelcome, World.connect]⟩

theorem severed_of_links {after : World} (hl : after.links = w.links) (h : after.Severed c) :
    w.Severed c := by
  unfold World.Severed World.link? at h ⊢
  rwa [hl] at h

theorem severed_serve (h : w.serve.Severed c) : w.Severed c := by
  obtain ⟨l, hl, hs⟩ := h
  simp only [World.serve, World.link?, List.getElem?_map, Option.map_map] at hl
  obtain ⟨old, ho, rfl⟩ := Option.map_eq_some_iff.mp hl
  exact ⟨old, ho, old.severed_of_serve _ _ hs⟩

theorem links_connect : w.connect.2.2.links.length = w.links.length + 1 := by
  simp [World.connect]

theorem perm_range_succ {n : Nat} : (n :: List.range n).Perm (List.range (n + 1)) := by
  rw [List.range_succ]
  exact (List.perm_append_singleton _ _).symm

-- No two leases that are out have one connection.
theorem Holdings.eq_of_connection {idle : List Nat} {out : List Lease} {links leases lent : Nat}
    (h : Holdings idle out links leases lent) {first second : Lease} (hf : first ∈ out)
    (hs : second ∈ out) (he : first.connection = second.connection) : first = second :=
  List.inj_on_of_nodup_map (List.nodup_append.mp h.apart).2.1 hf hs he

theorem World.SentLast.rollsBack {rollback : Rollback} (h : w.SentLast rollback) :
    w.RollsBack (fun _ => False) rollback := by
  obtain ⟨earlier, hs, hm⟩ := h
  refine ⟨?_, fun _ _ _ ho => ho.elim⟩
  rw [hs, hm, List.getElem?_concat_length]

theorem Follows.sentLast {w after : World} (h : Follows silence w after) {rollback : Rollback}
    (hl : w.SentLast rollback) : after.SentLast rollback := by
  unfold World.SentLast
  rw [h.sent, silence, List.append_nil]
  exact hl

-- To sever links changes nothing else.
theorem severAll_eq (connections : List Nat) :
    let after := connections.foldl (fun w c => w.updateLink c Link.sever) w
    after.links.length = w.links.length ∧ after.config = w.config ∧
      after.rollbacks = w.rollbacks ∧ ∀ c, after.Severed c → w.Severed c ∨ c ∈ connections := by
  induction connections generalizing w with
  | nil => exact ⟨rfl, rfl, rfl, fun _ hs => .inl hs⟩
  | cons connection rest ih =>
    obtain ⟨hl, hc, hr, hsevered⟩ := ih (w.updateLink connection Link.sever)
    refine ⟨hl.trans (by simp [World.updateLink]), hc, hr, fun c hs => ?_⟩
    rcases hsevered c hs with hs | hm
    · exact severed_sever w List.mem_cons_self hs
    · exact .inr (List.mem_cons_of_mem _ hm)

end Worlds

namespace Scene.Sound

variable {stale : Lease → Prop} {held : List Lease} {gone : List Nat} {s next : Scene}
  {w after : World} {lease : Lease}

-- Most moves send nothing. New leases have new numbers, and no lease gets lost: unless it stays
-- out, its connection is gone or has gone back.
theorem silently (h : s.Sound stale) (hf : Follows silence s.world next.world)
    (hc : Custody (fun _ => False) next.held next.world)
    (hp : (next.world.pool.idle ++ next.out.map (·.connection) ++ next.gone).Perm
      (List.range next.world.links.length))
    (hb : next.world.pool.size ≤ next.world.config.poolSize)
    (hl : next.world.pool.limit ≤ next.world.config.poolSize)
    (hd : (next.out.map (·.number)).Nodup)
    (ho : ∀ lease ∈ next.out, lease ∈ s.out ∨ s.world.leases ≤ lease.number)
    (hk : ∀ lease ∈ s.out, lease ∈ next.out ∨ lease.connection ∈ next.gone ∨
      s.world.backlog lease.connection = [] ∨ stale lease)
    (hg : s.gone ⊆ next.gone)
    (hr : ∀ rollback ∈ next.world.rollbacks, rollback ∈ s.world.rollbacks)
    (hs : ∀ c, next.world.Severed c → s.world.Severed c ∨ c ∈ next.gone) :
    next.Sound stale := by
  have hsent : ∀ c, next.world.sentOver c = s.world.sentOver c := fun c =>
    (hf.sent c).trans (List.append_nil _)
  refine ⟨hc, hp, hb, hl, hd, ?ordered, ?newest, ?last, ?severed, ?awaited⟩
  case ordered => simpa only [hsent] using h.ordered
  case newest =>
    intro lease hm message hmessage
    rw [hsent] at hmessage
    rcases ho lease hm with hout | hfresh
    · exact h.newest lease hout message hmessage
    · exact Nat.le_of_lt (Nat.lt_of_lt_of_le (h.custody.dated _ message hmessage) hfresh)
  case last =>
    intro rollback hm
    unfold World.SentLast
    rw [hsent]
    exact h.last rollback (hr rollback hm)
  case severed => exact fun c hc => (hs c hc).elim (fun hc => hg (h.severed c hc)) id
  case awaited =>
    intro c message hm
    have hm : message ∈ s.world.backlog c := by
      rcases hf.mem_backlog hm with hm | hm
      · exact hm
      · simp [silence] at hm
    rcases h.awaited c message hm with hgone | ⟨lease, hlease, rfl, hn⟩
    · exact .inl (hg hgone)
    · rcases hlease with hout | hstale
      · rcases hk lease hout with hstays | hgone | hnone | hstale
        · exact .inr ⟨lease, .inl hstays, rfl, hn⟩
        · exact .inl hgone
        · simp [hnone] at hm
        · exact .inr ⟨lease, .inr hstale, rfl, hn⟩
      · exact .inr ⟨lease, .inr hstale, rfl, hn⟩

-- What is gone is with nobody and not idle.
theorem notMem_out (h : s.Sound stale) {c : Nat} (hc : c ∈ s.gone) :
    c ∉ s.out.map (·.connection) := fun hm =>
  (List.nodup_append.mp (h.placed.nodup_iff.mpr List.nodup_range)).2.2 c
    (List.mem_append_right _ hm) c hc rfl

theorem notMem_idle (h : s.Sound stale) {c : Nat} (hc : c ∈ s.gone) : c ∉ s.world.pool.idle :=
  fun hm => (List.nodup_append.mp (h.placed.nodup_iff.mpr List.nodup_range)).2.2 c
    (List.mem_append_left _ hm) c hc rfl

section Moves

variable {stillGone : List Nat}

theorem perm_out (hf : Follows silence w after) (hr : after.rollbacks.Perm w.rollbacks) :
    (after.leasesOut held).Perm (w.leasesOut held) := by
  rw [World.leasesOut, World.leasesOut, hf.transactions]
  exact (hr.map _).append_left _

-- No lease comes or goes.
theorem stay (h : Scene.Sound stale ⟨held, gone, w⟩) (hf : Follows silence w after)
    (hc : Custody (fun _ => False) held after) (hr : after.rollbacks.Perm w.rollbacks)
    (hp : (after.pool.idle ++ (w.leasesOut held).map (·.connection) ++ stillGone).Perm
      (List.range after.links.length))
    (hb : after.pool.size ≤ after.config.poolSize)
    (hl : after.pool.limit ≤ after.config.poolSize) (hg : gone ⊆ stillGone)
    (hs : ∀ c, after.Severed c → w.Severed c ∨ c ∈ stillGone) :
    Scene.Sound stale ⟨held, stillGone, after⟩ := by
  have ho : (after.leasesOut held).Perm (w.leasesOut held) := perm_out hf hr
  refine h.silently hf hc ?_ hb hl ?_ ?_ ?_ hg (fun _ hm => hr.mem_iff.mp hm) hs
  · exact (((ho.map _).append_left _).append_right _).trans hp
  · exact (ho.map _).nodup_iff.mpr h.distinct
  · exact fun lease hm => .inl (ho.mem_iff.mp hm)
  · exact fun lease hm => .inl (ho.mem_iff.mpr hm)

theorem still (h : Scene.Sound stale ⟨held, gone, w⟩) (hf : Follows silence w after)
    (hpool : after.pool = w.pool) (hr : after.rollbacks.Perm w.rollbacks)
    (hl : after.links.length = w.links.length) (hconfig : after.config = w.config)
    (hs : ∀ c, after.Severed c → w.Severed c ∨ c ∈ gone) :
    Scene.Sound stale ⟨held, gone, after⟩ := by
  refine h.stay hf (h.custody.silent hf hpool hr) hr ?_ ?_ ?_ (List.Subset.refl _) hs
  · rw [hpool, hl]
    exact h.placed
  · rw [hpool, hconfig]
    exact h.bounded
  · rw [hpool, hconfig]
    exact h.limited

theorem aside (h : Scene.Sound stale ⟨held, gone, w⟩) (ha : Alongside w after) :
    Scene.Sound stale ⟨held, gone, after⟩ :=
  h.still (.of_eq ha.links (Nat.le_of_eq ha.leases.symm) ha.transactions) ha.pool
    (.of_eq ha.rollbacks) (congrArg _ ha.links) ha.config fun _ hs =>
    .inl (severed_of_links _ ha.links hs)

theorem serve (h : Scene.Sound stale ⟨held, gone, w⟩) : Scene.Sound stale ⟨held, gone, w.serve⟩ :=
  h.still (follows_serve w) rfl (List.mergeSort_perm _ _) (by simp [World.serve]) rfl fun _ hs =>
    .inl (severed_serve w hs)

theorem sever {connection : Nat} (h : Scene.Sound stale ⟨held, gone, w⟩)
    (hg : connection ∈ gone) :
    Scene.Sound stale ⟨held, gone, w.updateLink connection Link.sever⟩ :=
  h.still (follows_sever w connection) rfl (.refl _) (by simp [World.updateLink]) rfl fun _ hs =>
    severed_sever w hg hs

theorem openLost (h : Scene.Sound stale ⟨held, gone, w⟩) :
    Scene.Sound stale ⟨held, w.links.length :: gone, w.connect.2.2⟩ := by
  refine h.stay (follows_connect w) h.custody.connect (.refl _) ?_ h.bounded h.limited
    (List.subset_cons_self _ _) ?_
  · have hp := (h.placed.cons w.links.length).trans perm_range_succ
    rw [links_connect]
    exact List.perm_middle.trans hp
  · intro c hs
    rcases severed_connect w hs with hs | ⟨rfl, -⟩
    · exact .inl hs
    · exact .inr List.mem_cons_self

theorem close (h : Scene.Sound stale ⟨held, gone, w⟩) :
    Scene.Sound stale ⟨held, w.pool.idle ++ gone, w.close⟩ := by
  obtain ⟨hc, hf⟩ := h.custody.close
  obtain ⟨hl, hconfig, hr, hs⟩ := severAll_eq w w.pool.idle
  refine h.stay hf hc (.of_eq hr) ?_ ?_ (Nat.zero_le _) (List.subset_append_right _ _) fun c hc =>
    (hs c hc).imp_right fun hm => List.mem_append_left _ hm
  · rw [show w.close.links.length = w.links.length from hl]
    exact ((List.perm_append_comm_assoc ..).trans (.of_eq (List.append_assoc ..).symm)).trans
      h.placed
  · rw [show w.close.config = w.config from hconfig]
    exact Nat.le_trans (Nat.add_le_add_right (Nat.zero_le _) _) h.bounded

-- A lease is taken out.
theorem lend (h : Scene.Sound stale ⟨held, gone, w⟩) (hf : Follows silence w after)
    (hc : Custody (fun _ => False) (lease :: held) after) (hn : lease.number = w.leases)
    (hr : after.rollbacks = w.rollbacks)
    (hp : (lease.connection :: (after.pool.idle ++ (w.leasesOut held).map (·.connection) ++
      gone)).Perm (List.range after.links.length))
    (hb : after.pool.size ≤ after.config.poolSize)
    (hl : after.pool.limit ≤ after.config.poolSize) (hs : ∀ c, after.Severed c → w.Severed c) :
    Scene.Sound stale ⟨lease :: held, gone, after⟩ := by
  have ho : after.leasesOut (lease :: held) = lease :: w.leasesOut held := by
    simp only [World.leasesOut, hf.transactions, hr, List.cons_append]
  have hout : Scene.out ⟨lease :: held, gone, after⟩ = lease :: w.leasesOut held := ho
  refine h.silently hf hc ?_ hb hl ?_ ?_ ?_ (List.Subset.refl _) (fun _ hm => hr ▸ hm) fun c hc =>
    .inl (hs c hc)
  · rw [hout, List.map_cons]
    exact (List.perm_middle.append_right _).trans hp
  · rw [hout, List.map_cons]
    refine List.nodup_cons.mpr ⟨fun hm => ?_, h.distinct⟩
    obtain ⟨other, hother, he⟩ := List.mem_map.mp hm
    have hlt : other.number < w.leases := h.custody.holdings.numbered other hother
    omega
  · intro other hm
    rw [hout] at hm
    rcases List.mem_cons.mp hm with rfl | hm
    · exact .inr (Nat.le_of_eq hn.symm)
    · exact .inl hm
  · intro other hm
    rw [hout]
    exact .inl (List.mem_cons_of_mem _ hm)

-- A lease is given up, and its connection is given back or gone.
theorem drop {stillGone : List Nat} (h : Scene.Sound stale ⟨lease :: held, gone, w⟩)
    (hf : Follows silence w after) (hc : Custody (fun _ => False) held after)
    (hr : after.rollbacks = w.rollbacks)
    (hp : (after.pool.idle ++ (w.leasesOut held).map (·.connection) ++ stillGone).Perm
      (List.range after.links.length))
    (hb : after.pool.size ≤ after.config.poolSize)
    (hl : after.pool.limit ≤ after.config.poolSize) (hg : gone ⊆ stillGone)
    (hq : lease.connection ∈ stillGone ∨ w.backlog lease.connection = [] ∨ stale lease)
    (hs : ∀ c, after.Severed c → w.Severed c ∨ c ∈ stillGone) :
    Scene.Sound stale ⟨held, stillGone, after⟩ := by
  have hout : Scene.out ⟨held, stillGone, after⟩ = w.leasesOut held := by
    simp only [Scene.out, World.leasesOut, hf.transactions, hr]
  refine h.silently hf hc ?_ hb hl ?_ ?_ ?_ hg (fun _ hm => hr ▸ hm) hs
  · rw [hout]
    exact hp
  · rw [hout]
    exact (List.nodup_cons.mp h.distinct).2
  · intro other hm
    rw [hout] at hm
    exact .inl (List.mem_cons_of_mem _ hm)
  · intro other hm
    rw [hout]
    rcases List.mem_cons.mp hm with rfl | hm
    · exact .inr hq
    · exact .inl hm

theorem lendIdle {connection : Nat} {idle : List Nat} (h : Scene.Sound stale ⟨held, gone, w⟩)
    (hi : w.pool.idle = connection :: idle) :
    Scene.Sound stale
      ⟨({ w with pool.idle := idle }.lend connection).1 :: held, gone,
        ({ w with pool.idle := idle }.lend connection).2⟩ := by
  obtain ⟨hf, hl⟩ := lent_idle h.custody hi
  have hp := h.placed
  have hb := h.bounded
  rw [hi] at hp
  refine h.lend hf hl.custody rfl rfl hp ?_ h.limited fun _ hs => hs
  simp only [Pool.size, hi, List.length_cons] at hb
  simp only [Pool.size, World.lend, World.lease]
  omega

theorem severed_welcome {c : Nat} (hw : w.isWelcome) (hs : w.connect.2.2.Severed c) : w.Severed c :=
  (severed_connect w hs).resolve_right fun he => he.2 hw

theorem lendOpened (h : Scene.Sound stale ⟨held, gone, w⟩) (hw : w.isWelcome)
    (hi : w.pool.idle = []) (hr : w.hasRoom = true) :
    Scene.Sound stale
      ⟨(w.connect.2.2.lend w.links.length).1 :: held, gone,
        (w.connect.2.2.lend w.links.length).2⟩ := by
  obtain ⟨hf, hl⟩ := lent_connect h.custody true (w.pool.lent + 1) rfl
  have hroom : w.pool.lent < w.pool.limit := by simpa [World.hasRoom] using hr
  have hlimited : w.pool.limit ≤ w.config.poolSize := h.limited
  refine h.lend hf hl.custody rfl rfl ?_ ?_ h.limited fun _ hs => severed_welcome hw hs
  · exact ((h.placed.cons _).trans perm_range_succ).trans (.of_eq (congrArg _ (links_connect w).symm))
  · simp only [Pool.size, World.lend, World.lease, World.connect, hi, List.length_nil]
    omega

theorem openOwn (h : Scene.Sound stale ⟨held, gone, w⟩) (hw : w.isWelcome) :
    Scene.Sound stale
      ⟨(w.connect.2.2.lease w.links.length false).1 :: held, gone,
        (w.connect.2.2.lease w.links.length false).2⟩ := by
  obtain ⟨hf, hl⟩ := lent_connect h.custody false w.pool.lent rfl
  refine h.lend hf hl.custody rfl rfl ?_ h.bounded h.limited fun _ hs => severed_welcome hw hs
  exact ((h.placed.cons _).trans perm_range_succ).trans (.of_eq (congrArg _ (links_connect w).symm))

theorem giveBack (h : Scene.Sound stale ⟨lease :: held, gone, w⟩) (hp : lease.pooled = true)
    (hs : w.pool.size ≤ w.pool.limit) (hq : w.backlog lease.connection = [] ∨ stale lease) :
    Scene.Sound stale ⟨held, gone, w.giveBack lease⟩ := by
  have hf := follows_giveBack w lease
  have hc : Custody (fun _ => False) held (w.giveBack lease) :=
    h.custody.giveBack fun _ _ _ ho => ho.elim
  have hplaced := h.placed
  have hb := h.bounded
  have hlent : 0 < w.pool.lent := by
    have hl := h.custody.holdings.lent
    simp only [World.leasesOut, List.cons_append, List.countP_cons, hp, if_true] at hl
    omega
  simp only [World.giveBack, hp, hs, Bool.not_true, Bool.false_eq_true, if_true, if_false] at hf hc ⊢
  refine h.drop hf hc rfl ?_ ?_ h.limited (List.Subset.refl _) (.inr hq) fun _ hs => .inl hs
  · simpa [Scene.out, World.leasesOut] using hplaced
  · simp only [Pool.size, List.length_append, List.length_singleton] at hb ⊢
    omega

theorem discard (h : Scene.Sound stale ⟨lease :: held, gone, w⟩) :
    Scene.Sound stale ⟨held, lease.connection :: gone, w.discard lease⟩ := by
  have hf := follows_discard w lease
  have hc := h.custody.discard
  have hb : w.pool.idle.length + w.pool.lent ≤ w.config.poolSize := h.bounded
  have hplaced : (w.pool.idle ++ (w.leasesOut held).map (·.connection) ++
      lease.connection :: gone).Perm (List.range w.links.length) := by
    have hp := h.placed
    simp only [Scene.out, World.leasesOut, List.cons_append, List.map_cons] at hp
    exact (List.perm_middle.trans (List.perm_middle.append_right gone).symm).trans hp
  unfold World.discard at hf hc ⊢
  split
  · rename_i hu
    simp only [hu, if_true] at hf hc
    exact h.drop hf hc rfl hplaced h.bounded h.limited (List.subset_cons_self _ _)
      (.inl List.mem_cons_self) fun _ hs => .inl hs
  · rename_i hu
    simp only [hu] at hf hc
    refine h.drop hf hc rfl ?_ ?_ h.limited (List.subset_cons_self _ _)
      (.inl List.mem_cons_self) fun _ hs => severed_sever _ List.mem_cons_self hs
    · simpa [World.updateLink] using hplaced
    · simp only [Pool.size, World.updateLink]
      omega

-- What is said is said by whoever has the connection.
theorem send (h : Scene.Sound stale ⟨held, gone, w⟩) (hu : w.Uses held lease) (content : Content) :
    Scene.Sound stale ⟨held, gone, w.send lease content⟩ := by
  have hm : lease ∈ w.leasesOut held := Custody.mem_out hu
  have hf := h.custody.send_follows hu content
  have hsent : ∀ c, (w.send lease content).sentOver c =
      w.sentOver c ++ if c = lease.connection then [⟨lease.number, content⟩] else [] := hf.sent
  have hl : (w.send lease content).links.length = w.links.length := by
    simp [World.send, World.updateLink]
  have hplaced := h.placed
  refine ⟨h.custody.send hu content, ?_, h.bounded, h.limited, h.distinct, ?ordered, ?newest,
    ?last, fun c hs => h.severed c (severed_send w hs), ?awaited⟩
  · rw [hl]
    exact hplaced
  case ordered =>
    intro c
    rw [hsent]
    split
    · rename_i hc
      refine List.pairwise_append.mpr ⟨h.ordered c, List.pairwise_singleton _ _, ?_⟩
      intro message hmessage last hlast
      obtain rfl := List.mem_singleton.mp hlast
      exact h.newest lease hm message (hc ▸ hmessage)
    · rw [List.append_nil]
      exact h.ordered c
  case newest =>
    intro other ho message hmessage
    rw [hsent] at hmessage
    split at hmessage
    · rename_i hc
      obtain rfl := h.custody.holdings.eq_of_connection ho hm hc
      rcases List.mem_append.mp hmessage with hold | hnew
      · exact h.newest other ho message hold
      · obtain rfl := List.mem_singleton.mp hnew
        exact Nat.le_refl _
    · rw [List.append_nil] at hmessage
      exact h.newest other ho message hmessage
  case last =>
    intro rollback hr
    have hne := h.custody.holdings.ne_of_append hu (List.mem_map_of_mem (f := (·.lease)) hr)
    unfold World.SentLast
    rw [hsent, if_neg hne, List.append_nil]
    exact h.last rollback hr
  case awaited =>
    intro c message hmessage
    rcases hf.mem_backlog hmessage with hold | hnew
    · exact h.awaited c message hold
    · exact .inr ⟨lease, .inl hm, (Lease.connection_of_mem_speech hnew).symm,
        (Lease.lease_of_mem_speech hnew).symm⟩

-- Leases only change hands.
theorem handOver {left : List Lease} (transactions : List (String × Transaction))
    (rollbacks : List Rollback) (h : Scene.Sound stale ⟨held, gone, w⟩)
    (hn : (transactions.map (·.1)).Nodup)
    (hp : (w.leasesOut held).Perm
      (World.leasesOut left { w with transactions, rollbacks }))
    (hl : ∀ rollback ∈ rollbacks, w.SentLast rollback) :
    Scene.Sound stale ⟨left, gone, { w with transactions, rollbacks }⟩ := by
  have hconnections := hp.map (·.connection)
  refine ⟨⟨h.custody.holdings.perm hp, hn, h.custody.dated, h.custody.ended, ?_⟩, ?_, h.bounded,
    h.limited, ?_, h.ordered, ?_, hl, h.severed, ?_⟩
  · exact fun rollback hm => (hl rollback hm).rollsBack
  · exact (((hp.map _).symm.append_left _).append_right _).trans h.placed
  · exact (hp.map _).nodup_iff.mp h.distinct
  · exact fun lease hm => h.newest lease (hp.mem_iff.mpr hm)
  · intro c message hm
    refine (h.awaited c message hm).imp_right fun ⟨lease, hlease, he⟩ => ⟨lease, ?_, he⟩
    exact hlease.imp_left hp.mem_iff.mp

theorem leave {rollback : Rollback} (h : Scene.Sound stale ⟨rollback.lease :: held, gone, w⟩)
    (hl : w.SentLast rollback) :
    Scene.Sound stale ⟨held, gone, { w with rollbacks := w.rollbacks ++ [rollback] }⟩ := by
  refine handOver w.transactions (w.rollbacks ++ [rollback]) h h.custody.named ?_ ?_
  · simp only [World.leasesOut, List.map_append, List.map_cons, List.map_nil, List.cons_append,
      ← List.append_assoc]
    exact (List.perm_append_singleton _ _).symm
  · intro other hm
    rcases List.mem_append.mp hm with hm | hm
    · exact h.last other hm
    · exact List.mem_singleton.mp hm ▸ hl

theorem resume (h : Scene.Sound stale ⟨held, gone, w⟩) :
    Scene.Sound stale ⟨w.rollbacks.map (·.lease) ++ held, gone, { w with rollbacks := [] }⟩ := by
  refine handOver w.transactions [] h h.custody.named ?_ (by simp)
  simp only [World.leasesOut, List.map_nil, List.append_nil]
  exact List.perm_append_comm.trans (.of_eq (List.append_assoc ..).symm)

end Moves

end Scene.Sound

namespace Move

variable {stale : Lease → Prop} {s next : Scene}

theorem sound (hm : Move stale s next) (h : s.Sound stale) : next.Sound stale := by
  cases hm with
  | aside ha => exact h.aside ha
  | serve => exact h.serve
  | openLost => exact h.openLost
  | sever hg => exact h.sever hg
  | lendIdle hi => exact h.lendIdle hi
  | lendOpened hw hi hr => exact h.lendOpened hw hi hr
  | openOwn hw => exact h.openOwn hw
  | send hu content => exact h.send hu content
  | giveBack hp hs hq => exact h.giveBack hp hs hq
  | discard => exact h.discard
  | close => exact h.close
  | handOver hn hp => exact h.handOver _ _ hn (hp.append_right _) h.last
  | leave hl => exact h.leave hl
  | resume => exact h.resume

theorem config (hm : Move stale s next) : next.world.config = s.world.config := by
  cases hm with
  | aside ha => exact ha.config
  | giveBack hp hs hq => simp [World.giveBack, hp, hs]
  | @discard held gone w lease =>
    unfold World.discard
    split <;> rfl
  | @close held gone w => exact (severAll_eq w w.pool.idle).2.1
  | _ => rfl

-- What is gone does not come back.
theorem gone_subset (hm : Move stale s next) : s.gone ⊆ next.gone := by
  cases hm with
  | openLost => exact List.subset_cons_self _ _
  | discard => exact List.subset_cons_self _ _
  | close => exact List.subset_append_right _ _
  | _ => exact List.Subset.refl _

-- A move says at most one thing, under a lease that is in use. What it does to the open
-- transactions is left aside.
theorem speaks (hm : Move stale s next) (h : s.Sound stale) :
    ∃ added, Follows added s.world { next.world with transactions := s.world.transactions } ∧
      (added = silence ∨
        ∃ lease content, s.world.Uses s.held lease ∧ added = lease.speech [content]) := by
  have silent : ∀ after : World, Follows silence s.world after →
      ∃ added, Follows added s.world { after with transactions := s.world.transactions } ∧
        (added = silence ∨
          ∃ lease content, s.world.Uses s.held lease ∧ added = lease.speech [content]) :=
    fun after hf => ⟨silence, ⟨hf.sent, hf.answered, hf.opened, hf.leases, rfl⟩, .inl rfl⟩
  cases hm with
  | aside ha => exact silent _ (.of_eq ha.links (Nat.le_of_eq ha.leases.symm) ha.transactions)
  | serve => exact silent _ (follows_serve _)
  | openLost => exact silent _ (follows_connect _)
  | sever => exact silent _ (follows_sever _ _)
  | lendIdle hi => exact silent _ (lent_idle h.custody hi).1
  | lendOpened => exact silent _ (lent_connect h.custody true _ rfl).1
  | openOwn => exact silent _ (lent_connect h.custody false _ rfl).1
  | @send held gone w lease hu content =>
    exact ⟨_, h.custody.send_follows hu content, .inr ⟨lease, content, hu, rfl⟩⟩
  | giveBack => exact silent _ (follows_giveBack _ _)
  | discard => exact silent _ (follows_discard _ _)
  | close => exact silent _ h.custody.close.2
  | handOver => exact ⟨silence, .of_eq rfl (Nat.le_refl _) rfl, .inl rfl⟩
  | leave => exact ⟨silence, .of_eq rfl (Nat.le_refl _) rfl, .inl rfl⟩
  | resume => exact ⟨silence, .of_eq rfl (Nat.le_refl _) rfl, .inl rfl⟩

-- Only who has a connection sends over it, one message at a time.
theorem sentOver (hm : Move stale s next) (h : s.Sound stale) (c : Nat) :
    next.world.sentOver c = s.world.sentOver c ∨
      ∃ lease content, s.world.Uses s.held lease ∧ lease.connection = c ∧
        next.world.sentOver c = s.world.sentOver c ++ [⟨lease.number, content⟩] := by
  obtain ⟨added, hf, rfl | ⟨lease, content, hu, rfl⟩⟩ := hm.speaks h
  · exact .inl ((hf.sent c).trans (List.append_nil _))
  · by_cases hc : c = lease.connection
    · subst hc
      exact .inr ⟨lease, content, hu, rfl, hf.sent_speech⟩
    · have hsent := hf.sent c
      rw [Lease.speech_of_ne hc, List.append_nil] at hsent
      exact .inl hsent

end Move

namespace Moves

variable {stale : Lease → Prop} {s next : Scene}

theorem sound (hm : Moves stale s next) (h : s.Sound stale) : next.Sound stale := by
  induction hm with
  | refl => exact h
  | tail _ hmove ih => exact hmove.sound ih

theorem config (hm : Moves stale s next) : next.world.config = s.world.config := by
  induction hm with
  | refl => rfl
  | tail _ hmove ih => exact hmove.config.trans ih

theorem gone_subset (hm : Moves stale s next) : s.gone ⊆ next.gone := by
  induction hm with
  | refl => exact List.Subset.refl _
  | tail _ hmove ih => exact List.Subset.trans ih hmove.gone_subset

-- Nobody has a connection that is gone, and so nothing is sent over it any more.
theorem sentOver_of_gone (hm : Moves stale s next) (h : s.Sound stale) {c : Nat}
    (hc : c ∈ s.gone) : next.world.sentOver c = s.world.sentOver c := by
  induction hm with
  | refl => rfl
  | @tail mid next hmoves hmove ih =>
    have hmid := Moves.sound hmoves h
    rcases hmove.sentOver hmid c with hsame | ⟨lease, content, hu, rfl, -⟩
    · exact hsame.trans ih
    · exact absurd (List.mem_map_of_mem (Custody.mem_out hu))
        (hmid.notMem_out (gone_subset hmoves hc))

end Moves

end RecordSql.Store
