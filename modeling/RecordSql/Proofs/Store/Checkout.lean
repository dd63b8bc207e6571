import RecordSql.Proofs.Store.Statement

namespace RecordSql

open Server

-- The cause that the pool tells when the server turns a connection down. One that it ignores is not
-- turned down, and only a deadline ends the wait for it.
def Server.Welcome.failure? : Welcome → Option Store.PoolError
  | .accept => none
  | .refuse => some .refused
  | .hangUp => some .hungUp
  | .ignore => none

namespace Store

variable {opens : Content → Prop} {held : List Lease} {w mid after : World} {lease : Lease}

-- A lease that has been handed out is a new one, and all transactions of its connection have
-- ended.
structure Lent (opens : Content → Prop) (held : List Lease) (w after : World) (lease : Lease) :
    Prop where
  custody : Custody opens (lease :: held) after
  ended : after.Ended opens lease.connection
  fresh : w.leases ≤ lease.number

def Acquired (opens : Content → Prop) (held : List Lease) (w after : World) :
    Except Error Lease → Prop
  | .ok lease => Lent opens held w after lease
  | .error _ => Custody opens held after

-- An action that says nothing and may hand out a lease.
def Acquires (opens : Content → Prop) (held : List Lease) (action : Action (Except Error Lease)) :
    Prop :=
  ∀ w, Custody opens held w →
    Follows silence w (action.after w) ∧ Acquired opens held w (action.after w) (action.answer w)

theorem Acquired.after_silence {result : Except Error Lease} (hf : Follows silence w mid)
    (h : Acquired opens held mid after result) : Acquired opens held w after result := by
  cases result with
  | error e => exact h
  | ok lease => exact ⟨h.custody, h.ended, Nat.le_trans hf.leases h.fresh⟩

theorem Lent.opened (h : Lent opens held w after lease) : lease.connection < after.links.length :=
  h.custody.holdings.opened _ (List.mem_append_right _ List.mem_cons_self)

section Opening

theorem Custody.connect (h : Custody opens held w) : Custody opens held w.connect.2.2 :=
  h.silent (follows_connect w) rfl (.refl _)

-- Nothing has been sent over a connection that is opened now.
theorem ended_connect (w : World) : w.connect.2.2.Ended opens w.connect.2.1 := by
  have hsent : w.connect.2.2.sentOver w.connect.2.1 = [] := by
    have hnone : w.link? w.links.length = none := List.getElem?_eq_none_iff.mpr (Nat.le_refl _)
    rw [(follows_connect w).sent, World.sentOver]
    simp [World.connect, hnone, silence]
  intro i message hm
  simp [hsent] at hm

-- Only a lease of the pool is counted in it.
theorem lent_connect (h : Custody opens held w) (pooled : Bool) (lent : Nat)
    (hl : lent = w.connect.2.2.pool.lent + if pooled then 1 else 0) :
    Follows silence w ({ w.connect.2.2 with pool.lent := lent }.lease w.connect.2.1 pooled).2 ∧
      Lent opens held w ({ w.connect.2.2 with pool.lent := lent }.lease w.connect.2.1 pooled).2
        ({ w.connect.2.2 with pool.lent := lent }.lease w.connect.2.1 pooled).1 := by
  have hf : Follows silence w.connect.2.2
      ({ w.connect.2.2 with pool.lent := lent }.lease w.connect.2.1 pooled).2 :=
    .of_eq rfl (Nat.le_succ _) rfl
  have hh := h.holdings.fresh pooled
  refine ⟨(follows_connect w).silent_trans hf, ?_, hf.ended (ended_connect w) (by simp [silence]),
    Nat.le_refl _⟩
  refine h.connect.moveSilently hf ?_ h.connect.ended h.connect.rollingBack
  subst hl
  simpa [World.connect, World.lease, World.leasesOut] using hh

theorem lent_idle {connection : Nat} {idle : List Nat} (h : Custody opens held w)
    (hi : w.pool.idle = connection :: idle) :
    Follows silence w ({ w with pool.idle := idle }.lend connection).2 ∧
      Lent opens held w ({ w with pool.idle := idle }.lend connection).2
        ({ w with pool.idle := idle }.lend connection).1 := by
  have hf : Follows silence w ({ w with pool.idle := idle }.lend connection).2 :=
    .of_eq rfl (Nat.le_succ _) rfl
  have hh := h.holdings
  rw [hi] at hh
  refine ⟨hf, ?_, hf.ended (h.ended connection (by simp [hi])) (by simp [silence]), Nat.le_refl _⟩
  refine h.moveSilently hf hh.take ?_ h.rollingBack
  intro c hc
  exact h.ended c (hi ▸ List.mem_cons_of_mem _ hc)

end Opening

section Checkout

variable (limit : Deadline)

-- Where an attempt to open a connection for the pool leads to. One that the server accepts too late
-- is given up.
inductive Opening (limit : Deadline) (w : World) : Except Error Lease → World → Prop
  | accepted (hw : w.connect.1 = .accept) (ht : w.welcomeTick < limit.expiry.nextTick) :
    Opening limit w (.ok (w.connect.2.2.lend w.links.length).1)
      ((waitUntil w.welcomeTick).after (w.connect.2.2.lend w.links.length).2)
  | tooLate (hw : w.connect.1 = .accept) (ht : limit.expiry.nextTick ≤ w.welcomeTick) :
    Opening limit w (.error limit.error)
      (((waitUntil limit.expiry.nextTick).after
        (w.connect.2.2.lend w.links.length).2).discard (w.connect.2.2.lend w.links.length).1)
  | turnedDown {e : PoolError} (hw : w.connect.1.failure? = some e)
      (ht : w.welcomeTick < limit.expiry.nextTick) :
    Opening limit w (.error e.error) ((waitUntil w.welcomeTick).after w.connect.2.2)
  | cutOff (hw : w.connect.1 ≠ .accept)
      (ht : w.connect.1 = .ignore ∨ limit.expiry.nextTick ≤ w.welcomeTick) :
    Opening limit w (.error limit.error)
      ((waitUntil limit.expiry.nextTick).after w.connect.2.2)

theorem awaitWelcome_of_lt {tick : Nat} (h : tick < limit.expiry.nextTick) (w : World) :
    (awaitWelcome limit tick).answer w = true ∧
      (awaitWelcome limit tick).after w = (waitUntil tick).after w := by
  rw [awaitWelcome, Action.answer_bind, Action.after_bind, Nat.min_eq_left (Nat.le_of_lt h),
    Action.answer_pure, Action.after_pure]
  exact ⟨decide_eq_true h, rfl⟩

theorem awaitWelcome_of_le {tick : Nat} (h : limit.expiry.nextTick ≤ tick) (w : World) :
    (awaitWelcome limit tick).answer w = false ∧
      (awaitWelcome limit tick).after w = (waitUntil limit.expiry.nextTick).after w := by
  rw [awaitWelcome, Action.answer_bind, Action.after_bind, Nat.min_eq_right h, Action.answer_pure,
    Action.after_pure]
  exact ⟨decide_eq_false (Nat.not_lt_of_le h), rfl⟩

theorem turnDown_opening {e : PoolError} (hw : w.connect.1.failure? = some e) :
    Opening limit w ((turnDown limit w.welcomeTick e).answer w.connect.2.2)
      ((turnDown limit w.welcomeTick e).after w.connect.2.2) := by
  rw [turnDown, Action.after_bind, Action.answer_bind]
  rcases Nat.lt_or_ge w.welcomeTick limit.expiry.nextTick with ht | ht
  · rw [(awaitWelcome_of_lt limit ht _).1, (awaitWelcome_of_lt limit ht _).2, if_pos rfl,
      Action.after_pure, Action.answer_pure]
    exact .turnedDown hw ht
  · rw [(awaitWelcome_of_le limit ht _).1, (awaitWelcome_of_le limit ht _).2,
      if_neg Bool.false_ne_true, Action.after_pure, Action.answer_pure]
    refine .cutOff (fun ha => ?_) (.inr ht)
    simp [ha, Welcome.failure?] at hw

theorem openPooled_opening (w : World) :
    Opening limit w ((openPooled limit).answer w) ((openPooled limit).after w) := by
  have hopened : w.connect = (w.connect.1, w.links.length, w.connect.2.2) := rfl
  rw [openPooled, Action.after_get_bind, Action.answer_get_bind, hopened]
  cases hw : w.connect.1 with
  | accept =>
    dsimp only
    rw [Action.after_bind, Action.answer_bind, Action.after_set, Action.after_bind,
      Action.answer_bind]
    rcases Nat.lt_or_ge w.welcomeTick limit.expiry.nextTick with ht | ht
    · rw [(awaitWelcome_of_lt limit ht _).1, (awaitWelcome_of_lt limit ht _).2, if_pos rfl,
        Action.after_pure, Action.answer_pure]
      exact .accepted hw ht
    · rw [(awaitWelcome_of_le limit ht _).1, (awaitWelcome_of_le limit ht _).2,
        if_neg Bool.false_ne_true, Action.after_bind, Action.answer_bind, Action.after_modify,
        Action.after_pure, Action.answer_pure]
      exact .tooLate hw ht
  | refuse =>
    dsimp only
    rw [Action.after_bind, Action.answer_bind, Action.after_set]
    exact turnDown_opening limit (by rw [hw]; rfl)
  | hangUp =>
    dsimp only
    rw [Action.after_bind, Action.answer_bind, Action.after_set]
    exact turnDown_opening limit (by rw [hw]; rfl)
  | ignore =>
    dsimp only
    rw [Action.after_bind, Action.answer_bind, Action.after_set, Action.after_bind,
      Action.answer_bind, Action.after_pure, Action.answer_pure]
    exact .cutOff (by simp [hw]) (.inl hw)

theorem Lent.later (h : Lent opens held w mid lease)
    (ha : Custody opens (lease :: held) after ∧ Follows silence mid after) :
    Lent opens held w after lease :=
  ⟨ha.1, ha.2.ended h.ended (by simp [silence]), h.fresh⟩

theorem openPooled_acquires : Acquires opens held (openPooled limit) := by
  intro w h
  have hf := follows_connect w
  obtain ⟨hs, hl⟩ := lent_connect h true (w.connect.2.2.pool.lent + 1) rfl
  have ho := openPooled_opening limit w
  generalize (openPooled limit).after w = after at ho ⊢
  generalize (openPooled limit).answer w = result at ho ⊢
  cases ho with
  | accepted =>
    have hw := hl.custody.waitUntil w.welcomeTick
    exact ⟨hs.silent_trans hw.2, hl.later hw⟩
  | tooLate =>
    obtain ⟨hc, hw⟩ := hl.custody.waitUntil limit.expiry.nextTick
    exact ⟨hs.silent_trans (hw.silent_trans (follows_discard _ _)), hc.discard⟩
  | turnedDown =>
    obtain ⟨hc, hw⟩ := h.connect.waitUntil w.welcomeTick
    exact ⟨hf.silent_trans hw, hc⟩
  | cutOff =>
    obtain ⟨hc, hw⟩ := h.connect.waitUntil limit.expiry.nextTick
    exact ⟨hf.silent_trans hw, hc⟩

theorem takeOrOpen_acquires : Acquires opens held (takeOrOpen limit) := by
  intro w h
  rw [takeOrOpen, Action.after_get_bind, Action.answer_get_bind]
  cases hp : w.pool.idle with
  | nil => exact openPooled_acquires limit w h
  | cons connection idle => exact lent_idle h hp

theorem awaitRoom_keeps (h : Custody opens held w) :
    Custody opens held ((awaitRoom limit).after w) ∧
      Follows silence w ((awaitRoom limit).after w) := by
  rw [awaitRoom, Action.after_get_bind]
  cases w.hasRoom with
  | true => exact ⟨h, .refl w⟩
  | false =>
    simp only [Bool.false_eq_true, if_false]
    cases limit.hasRung w.now with
    | true => exact ⟨h, .refl w⟩
    | false =>
      simp only [Bool.false_eq_true, if_false, Action.after_bind, Action.after_pure]
      exact h.await _ _

theorem checkout_acquires : Acquires opens held (checkout limit) := by
  intro w h
  rw [checkout, Action.after_get_bind, Action.answer_get_bind]
  cases w.pool.closed with
  | true => exact ⟨.refl w, h⟩
  | false =>
    simp only [Bool.false_eq_true, if_false, Action.after_bind, Action.answer_bind]
    obtain ⟨hc, hf⟩ := awaitRoom_keeps limit h
    cases (awaitRoom limit).answer w with
    | false => exact ⟨hf, hc⟩
    | true =>
      obtain ⟨hs, ha⟩ := takeOrOpen_acquires limit _ hc
      exact ⟨hf.silent_trans hs, ha.after_silence hf⟩

-- The induction is on the attempts that are left.
theorem acquireWith_acquires (attempt left : Nat) :
    Acquires opens held (acquireWith limit attempt left) := by
  induction left generalizing attempt with
  | zero =>
    intro w h
    obtain ⟨hf, ha⟩ := checkout_acquires limit w h
    rw [acquireWith, Action.after_bind, Action.answer_bind]
    generalize (checkout limit).after w = mid at *
    generalize (checkout limit).answer w = result at *
    cases result with
    | ok lease => exact ⟨hf, ha⟩
    | error e =>
      obtain ⟨hc, hs⟩ := (quiet_record (.failed "connection checkout failed" e)).keeps ha
      exact ⟨hf.silent_trans hs, hc⟩
  | succ left ih =>
    intro w h
    obtain ⟨hf, ha⟩ := checkout_acquires limit w h
    rw [acquireWith, Action.after_bind, Action.answer_bind]
    generalize (checkout limit).after w = mid at *
    generalize (checkout limit).answer w = result at *
    cases result with
    | ok lease => exact ⟨hf, ha⟩
    | error e =>
      cases ht : e.isTimeout with
      | true =>
        simp only [ht, if_true, Action.after_bind, Action.answer_bind]
        obtain ⟨hc, hs⟩ := (quiet_record (.failed "connection checkout failed" e)).keeps ha
        exact ⟨hf.silent_trans hs, hc⟩
      | false =>
        simp only [ht, Bool.false_eq_true, if_false, Action.after_get_bind, Action.answer_get_bind]
        simp only [Action.after_bind, Action.answer_bind]
        obtain ⟨hc, hs⟩ :=
          (quiet_record (.retrying e (attempt + 1) mid.config.retryCount)).keeps ha
        obtain ⟨hn, hr⟩ := ih (attempt + 1) _ hc
        have hfs := hf.silent_trans hs
        exact ⟨hfs.silent_trans hn, hr.after_silence hfs⟩

theorem acquire_acquires : Acquires opens held (acquire limit) := by
  intro w h
  rw [acquire, Action.after_get_bind, Action.answer_get_bind]
  exact acquireWith_acquires limit 0 _ w h

end Checkout

section WithLease

-- A world that goes on while messages are sent under new leases only.
def Aside (w after : World) : Prop :=
  ∃ added, Follows added w after ∧ ∀ c, ∀ message ∈ added c, w.leases ≤ message.lease

theorem Follows.aside (h : Follows silence w after) : Aside w after :=
  ⟨silence, h, by simp [silence]⟩

theorem Follows.aside_speech {contents : List Content} (h : Follows (lease.speech contents) w after)
    (hn : w.leases ≤ lease.number) : Aside w after :=
  ⟨_, h, fun _ _ hm => Lease.lease_of_mem_speech hm ▸ hn⟩

variable {α : Type} {allowed : Lease → Moment → List Content → Prop}

-- An operation on a connection of its own may give it back, for it opens no transaction.
theorem withLease_keeps (limit : Deadline) {use : Lease → Action α}
    (hs : ∀ lease, Sends opens lease (allowed lease) (use lease))
    (hn : ∀ lease now contents, allowed lease now contents → ∀ content ∈ contents, ¬opens content)
    (h : Custody opens held w) :
    Custody opens held ((withLease limit use).after w) ∧
      Aside w ((withLease limit use).after w) := by
  obtain ⟨hf, ha⟩ := acquire_acquires limit w h
  rw [withLease, Action.after_bind]
  generalize (acquire limit).after w = mid at *
  generalize (acquire limit).answer w = result at *
  cases result with
  | error e => exact ⟨ha, hf.aside⟩
  | ok lease =>
    obtain ⟨contents, hc, hk, hf'⟩ := hs lease _ _ ha.custody
      (List.mem_append_left _ List.mem_cons_self)
    simp only [Action.after_bind, Action.after_modify, Action.after_pure]
    have he : ((use lease).after mid).Ended opens lease.connection := by
      refine hf'.ended ha.ended fun message hm => ?_
      rw [Lease.speech_self] at hm
      obtain ⟨content, hcontent, rfl⟩ := List.mem_map.mp hm
      exact hn lease _ contents hc content hcontent
    have hspeech := hf.silent_trans (hf'.trans_silent (follows_giveBack _ lease))
    exact ⟨hk.giveBack he, hspeech.aside_speech ha.fresh⟩

-- A text whose statement opens no transaction.
def Harmless (opens : Content → Prop) (sql : String) : Prop :=
  ¬opens (.prepare sql) ∧ ∀ payloads, ¬opens (.execute sql payloads)

theorem Harmless.pieces {sql : String} (h : Harmless opens sql) (limit : Option Deadline)
    (now : Moment) (contents : List Content) (hp : pieces limit sql now contents) :
    ∀ content ∈ contents, ¬opens content := by
  cases hp with
  | nothing => simp
  | prepared => simpa using h.1
  | executed payloads => simpa using ⟨h.1, h.2 payloads⟩

variable {sql : String} (limit : Deadline) (arguments : List Value)

theorem exec_keeps (hs : Harmless opens sql) (h : Custody opens held w) :
    Custody opens held ((exec limit sql arguments).after w) ∧
      Aside w ((exec limit sql arguments).after w) := by
  rw [exec, Action.after_bind]
  exact withLease_keeps limit (fun _ => (executeOn_runs limit sql arguments).sends)
    (fun _ => hs.pieces _) h

theorem query_keeps {σ : Type} (scan : Scan σ) (state : σ) (hs : Harmless opens sql)
    (h : Custody opens held w) :
    Custody opens held ((query limit scan state sql arguments).after w) ∧
      Aside w ((query limit scan state sql arguments).after w) := by
  rw [query, Action.after_bind]
  exact withLease_keeps limit (fun _ => (queryOn_runs limit sql arguments scan state).sends)
    (fun _ => hs.pieces _) h

theorem queryRow_keeps {σ : Type} (scan : Scan σ) (state : σ) (hs : Harmless opens sql)
    (h : Custody opens held w) :
    Custody opens held ((queryRow limit scan state sql arguments).after w) ∧
      Aside w ((queryRow limit scan state sql arguments).after w) := by
  rw [queryRow, Action.after_bind]
  exact withLease_keeps limit (fun _ => (queryRowOn_runs limit sql arguments scan state).sends)
    (fun _ => hs.pieces _) h

theorem call_keeps (call : Call) (hs : Harmless opens sql) (h : Custody opens held w) :
    Custody opens held ((Store.call limit call sql arguments).after w) ∧
      Aside w ((Store.call limit call sql arguments).after w) :=
  withLease_keeps limit (fun _ => callOn_sends none sql arguments call) (fun _ => hs.pieces _) h

end WithLease

end Store

end RecordSql
