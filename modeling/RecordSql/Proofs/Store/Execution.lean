import Mathlib.Data.List.Infix
import RecordSql.Proofs.Store.Conservation
import RecordSql.Proofs.Store.Quiescence

namespace RecordSql

open Server

-- What the server has taken up of what was sent: what it has answered, and what it works on.
def Server.Link.taken (l : Link) : List Message :=
  l.answered.map (·.message) ++ l.current.toList.map (·.exchange.message)

namespace Store

variable {α β : Type} {held : List Lease} {w mid after : World} {lease : Lease} {sql : String}
  {arguments : List Value}

section Taken

def World.takenOver (w : World) (connection : Nat) : List Message :=
  ((w.link? connection).map (·.taken)).getD []

-- What was sent under a lease, and what the server has taken up of it.
def World.sentUnder (w : World) (number connection : Nat) : List Message :=
  (w.sentOver connection).filter (·.lease == number)

def World.takenUnder (w : World) (number connection : Nat) : List Message :=
  (w.takenOver connection).filter (·.lease == number)

-- What the server has taken up of a number of messages, from a given one on.
def World.takenFrom (w : World) (connection first count : Nat) : List Message :=
  ((w.takenOver connection).drop first).take count

-- The server takes up what was sent in its order, and every message once.
theorem takenOver_initial (w : World) (connection : Nat) :
    w.takenOver connection <+: w.sentOver connection := by
  unfold World.takenOver World.sentOver
  cases w.link? connection with
  | none => exact List.prefix_rfl
  | some l => exact List.prefix_append l.taken l.waiting

theorem answeredOver_initial (w : World) (connection : Nat) :
    (w.answeredOver connection).map (·.message) <+: w.takenOver connection := by
  unfold World.takenOver World.answeredOver
  cases w.link? connection with
  | none => exact List.prefix_rfl
  | some l => exact List.prefix_append _ _

end Taken

section Statement

-- Whether what was sent as a message of a number over a connection has been answered, and not
-- refused.
def World.Succeeded (w : World) (connection n : Nat) (content : Content) : Prop :=
  ∃ exchange, (w.answeredOver connection)[n]? = some exchange ∧
    exchange.message.content = content ∧ exchange.reply ≠ .refused

-- How a statement is run under a lease. It is prepared at most once and then executed at most once,
-- and nothing else is sent. When it succeeds both have been done.
structure Ran (late : Bool) (lease : Lease) (sql : String) (w after : World) (succeeded : Prop)
    (contents : List Content) : Prop where
  piece : Piece late sql contents
  follows : Follows (lease.speech contents) w after
  done : succeeded → ∃ payloads, contents = [.prepare sql, .execute sql payloads] ∧
    after.Succeeded lease.connection (w.sentOver lease.connection).length (.prepare sql) ∧
    after.Succeeded lease.connection ((w.sentOver lease.connection).length + 1)
      (.execute sql payloads)

-- An action that runs a statement once.
def RunsOnce (lease : Lease) (late : Moment → Bool) (sql : String) (succeeded : α → Prop)
    (action : Action α) : Prop :=
  ∀ held w, Custody (fun _ => False) held w → w.Uses held lease →
    ∃ contents, Ran (late w.now) lease sql w (action.after w) (succeeded (action.answer w)) contents

theorem not_ok_of_error (e : Error) : ¬∃ a : α, Except.error e = .ok a := by
  rintro ⟨a, hok⟩
  cases hok

theorem World.Succeeded.still {added : Nat → List Message} {c n : Nat} {content : Content}
    (h : w.Succeeded c n content) (hf : Follows added w after) : after.Succeeded c n content := by
  obtain ⟨exchange, ha, hm, hr⟩ := h
  exact ⟨exchange, hf.still_answered ha, hm, hr⟩

-- What is done before and after a statement without a word does not count.
theorem Ran.silently {late : Bool} {succeeded : Prop} {contents : List Content} {last : World}
    (h : Ran late lease sql mid after succeeded contents) (hw : Follows silence w mid)
    (hf : Follows silence after last) : Ran late lease sql w last succeeded contents := by
  refine ⟨h.piece, hw.silent_trans (h.follows.trans_silent hf), fun hs => ?_⟩
  have hsent : mid.sentOver lease.connection = w.sentOver lease.connection := by
    rw [hw.sent, silence, List.append_nil]
  obtain ⟨payloads, hc, hprepared, hexecuted⟩ := h.done hs
  rw [hsent] at hprepared hexecuted
  exact ⟨payloads, hc, hprepared.still hf, hexecuted.still hf⟩

section Quiet

variable {late : Moment → Bool} {succeeded : α → Prop} {other : β → Prop}

theorem RunsOnce.bind_quiet {action : Action α} {next : α → Action β}
    (h : RunsOnce lease late sql succeeded action) (hq : ∀ a, Quiet (next a))
    (hs : ∀ a w, other ((next a).answer w) → succeeded a) :
    RunsOnce lease late sql other (action >>= next) := by
  intro held w hc hu
  obtain ⟨contents, hpiece, hfollows, hdone⟩ := h held w hc hu
  rw [Action.after_bind, Action.answer_bind]
  generalize action.after w = mid at *
  generalize action.answer w = a at *
  obtain ⟨logs, hl⟩ := hq a mid
  have hlogged : Follows silence mid { mid with logs } := .of_eq rfl (Nat.le_refl _) rfl
  rw [hl]
  exact ⟨contents, Ran.silently ⟨hpiece, hfollows, fun hsucceeded => hdone (hs a mid hsucceeded)⟩
    (.refl w) hlogged⟩

theorem RunsOnce.record_bind {entry : LogEntry} {next : Action α}
    (h : RunsOnce lease late sql succeeded next) :
    RunsOnce lease late sql succeeded (do record entry; next) := by
  intro held w hc hu
  have hlogged : Follows silence w (w.log entry) := .of_eq rfl (Nat.le_refl _) rfl
  obtain ⟨contents, hrun⟩ := h held (w.log entry) (hc.silent hlogged rfl (.refl _)) hu
  exact ⟨contents, hrun.silently hlogged (.refl _)⟩

end Quiet

variable (limit : Option Deadline) (deadline : Deadline) (sql arguments)

theorem statement_once :
    RunsOnce lease (fun now => limit.any (·.hasRung now)) sql
      (fun result => ∃ done, result = .ok done)
      (statement lease limit sql arguments) := by
  intro held w hc hu
  obtain ⟨first, hx⟩ := exchange_spec hc hu limit (.prepare sql)
  rw [statement, Action.after_bind, Action.answer_bind]
  generalize (exchange lease limit (.prepare sql)).after w = mid at hx ⊢
  generalize (exchange lease limit (.prepare sql)).answer w = result at hx ⊢
  have hfirst : Piece (limit.any (·.hasRung w.now)) sql first := by
    rcases hx.sent with rfl | ⟨rfl, hl⟩
    · exact .prepared
    · exact .nothing hl
  cases result with
  | error e => exact ⟨first, hfirst, hx.follows, fun hs => absurd hs (not_ok_of_error e)⟩
  | ok reply =>
    obtain ⟨rfl, hprepared⟩ := hx.answered reply rfl
    simp only
    cases bindArguments (signatureOf reply) arguments with
    | error e => exact ⟨_, hfirst, hx.follows, fun hs => absurd hs (not_ok_of_error e)⟩
    | ok payloads =>
      obtain ⟨second, hy⟩ := exchange_spec hx.custody (hu.of_follows hx.follows) limit
        (.execute sql payloads)
      simp only [Action.after_bind, Action.answer_bind, Action.after_pure, Action.answer_pure]
      generalize (exchange lease limit (.execute sql payloads)).answer mid = result at hy ⊢
      refine ⟨_, ?_, hx.follows.speech_trans hy.follows, fun hs => ?_⟩
      · rcases hy.sent with rfl | ⟨rfl, -⟩
        · exact .executed payloads
        · exact .prepared
      · cases result with
        | error e => exact absurd hs (not_ok_of_error e)
        | ok reply =>
          obtain ⟨rfl, hexecuted⟩ := hy.answered reply rfl
          have hlength : (mid.sentOver lease.connection).length =
              (w.sentOver lease.connection).length + 1 := hx.follows.length_sent_speech
          rw [hlength] at hexecuted
          exact ⟨payloads, rfl, World.Succeeded.still hprepared hy.follows, hexecuted⟩

theorem loggedStatement_once (failure : String) :
    RunsOnce lease deadline.hasRung sql (fun result => ∃ done, result = .ok done)
      (loggedStatement failure lease deadline sql arguments) := by
  have hlimit : (fun now => (some deadline).any (·.hasRung now)) = deadline.hasRung :=
    funext fun _ => Option.any_some
  have hrun : RunsOnce lease (fun now => (some deadline).any (·.hasRung now)) sql _ _ :=
    statement_once sql arguments (some deadline)
  rw [hlimit] at hrun
  refine RunsOnce.record_bind (hrun.bind_quiet (fun result => ?_) ?_)
  · cases result with
    | ok done => exact quiet_pure _
    | error e => exact (quiet_record _).bind fun _ => quiet_pure _
  · rintro (e | done) w hok
    · simp at hok
    · exact ⟨done, rfl⟩

variable {sql arguments deadline} in
-- An action that runs a statement does not succeed when the statement fails.
theorem Runs.once {failed : Error → α} {action : Action α} {succeeded : α → Prop}
    (h : Runs lease deadline sql arguments failed action) (hf : ∀ e, ¬succeeded (failed e)) :
    RunsOnce lease deadline.hasRung sql succeeded action := by
  obtain ⟨failure, next, rfl, hq, hfailed⟩ := h
  refine (loggedStatement_once sql arguments deadline failure).bind_quiet hq ?_
  rintro (e | done) w hs
  · rw [hfailed] at hs
    exact absurd hs (hf e)
  · exact ⟨done, rfl⟩

end Statement

section Afterwards

variable {stale : Lease → Prop} {s next : Scene} {number : Nat}

-- A move takes back no answer and no lease.
theorem Move.goesOn (hm : Move stale s next) (h : s.Sound stale) :
    (∀ c, s.world.answeredOver c <+: next.world.answeredOver c) ∧
      s.world.leases ≤ next.world.leases := by
  obtain ⟨added, hf, -⟩ := hm.speaks h
  exact ⟨hf.answered, hf.leases⟩

-- A lease that is out after a move was out before, or is a new one.
theorem Move.mem_out (hm : Move stale s next) (h : s.Sound stale) {lease : Lease}
    (ho : lease ∈ next.out) : lease ∈ s.out ∨ s.world.leases ≤ lease.number := by
  have hlent : ∀ new : Lease, s.world.leases ≤ new.number → lease ∈ new :: s.out →
      lease ∈ s.out ∨ s.world.leases ≤ lease.number := by
    intro new hn hm
    rcases List.mem_cons.mp hm with rfl | hm
    · exact .inr hn
    · exact .inl hm
  cases hm with
  | aside ha =>
    unfold Scene.out World.leasesOut at ho
    rw [ha.transactions, ha.rollbacks] at ho
    exact .inl ho
  | @serve held gone w =>
    have hp : (w.serve.leasesOut held).Perm (w.leasesOut held) :=
      Scene.Sound.perm_out (follows_serve w) (List.mergeSort_perm _ _)
    exact .inl (hp.mem_iff.mp ho)
  | openLost => exact .inl ho
  | sever => exact .inl ho
  | lendIdle hi => exact hlent _ (Nat.le_refl _) ho
  | lendOpened => exact hlent _ (Nat.le_refl _) ho
  | openOwn => exact hlent _ (Nat.le_refl _) ho
  | send => exact .inl ho
  | giveBack hp hs =>
    refine .inl (List.mem_cons_of_mem _ ?_)
    simpa [Scene.out, World.leasesOut, World.giveBack, hp, hs] using ho
  | @discard held gone w given =>
    have hsame : (w.discard given).leasesOut held = w.leasesOut held := by
      unfold World.discard
      split <;> rfl
    unfold Scene.out at ho
    rw [hsame] at ho
    exact .inl (List.mem_cons_of_mem _ ho)
  | @close held gone w =>
    have hp : (w.close.leasesOut held).Perm (w.leasesOut held) :=
      Scene.Sound.perm_out h.custody.close.2 (.of_eq (severAll_eq w w.pool.idle).2.2.1)
    exact .inl (hp.mem_iff.mp ho)
  | handOver hn hp => exact .inl ((hp.append_right _).mem_iff.mpr ho)
  | leave =>
    refine .inl ?_
    simp only [Scene.out, World.leasesOut, List.map_append, List.mem_append, List.map_cons,
      List.map_nil, List.cons_append, List.mem_cons] at ho ⊢
    tauto
  | resume =>
    refine .inl ?_
    simp only [Scene.out, World.leasesOut, List.mem_append, List.map_nil] at ho ⊢
    tauto

-- A lease that has been given up, under which nothing can be sent any more.
structure Scene.Spent (s : Scene) (number : Nat) : Prop where
  given : number < s.world.leases
  back : ∀ lease ∈ s.out, lease.number ≠ number

theorem Move.spent (hm : Move stale s next) (h : s.Sound stale) (hs : s.Spent number) :
    next.Spent number := by
  have hleases := (hm.goesOn h).2
  refine ⟨Nat.lt_of_lt_of_le hs.given hleases, fun lease ho => ?_⟩
  rcases hm.mem_out h ho with hout | hnew
  · exact hs.back lease hout
  · exact Nat.ne_of_gt (Nat.lt_of_lt_of_le hs.given hnew)

theorem Move.sentUnder (hm : Move stale s next) (h : s.Sound stale) (hs : s.Spent number)
    (c : Nat) : next.world.sentUnder number c = s.world.sentUnder number c := by
  unfold World.sentUnder
  rcases hm.sentOver h c with hsame | ⟨lease, content, hu, -, hsent⟩
  · rw [hsame]
  · have hne := hs.back lease (Custody.mem_out hu)
    simp [hsent, hne]

-- Whatever happens, what was sent stays sent and in its order, and what was answered stays
-- answered.
theorem Moves.goesOn (hm : Moves stale s next) (h : s.Sound stale) :
    (∀ c, s.world.sentOver c <+: next.world.sentOver c) ∧
      ∀ c, s.world.answeredOver c <+: next.world.answeredOver c := by
  induction hm with
  | refl => exact ⟨fun _ => List.prefix_rfl, fun _ => List.prefix_rfl⟩
  | @tail mid next hmoves hmove ih =>
    obtain ⟨hsent, hanswered⟩ := ih
    have hmid := Moves.sound hmoves h
    refine ⟨fun c => (hsent c).trans ?_, fun c => (hanswered c).trans ((hmove.goesOn hmid).1 c)⟩
    rcases hmove.sentOver hmid c with hsame | ⟨lease, content, -, -, hmore⟩
    · exact hsame ▸ List.prefix_rfl
    · rw [hmore]
      exact List.prefix_append _ _

-- Under a lease that has been given up nothing more is sent.
theorem Moves.sentUnder (hm : Moves stale s next) (h : s.Sound stale) (hs : s.Spent number) :
    next.Spent number ∧ ∀ c, next.world.sentUnder number c = s.world.sentUnder number c := by
  induction hm with
  | refl => exact ⟨hs, fun _ => rfl⟩
  | @tail mid next hmoves hmove ih =>
    obtain ⟨hs, hsame⟩ := ih
    have hmid := Moves.sound hmoves h
    exact ⟨hmove.spent hmid hs, fun c => (hmove.sentUnder hmid hs c).trans (hsame c)⟩

end Afterwards

section Calls

variable {stale : Lease → Prop} {origin : Scene} {late : Bool} {succeeded : Prop}
  {contents : List Content} {next : World} {c : Nat}

-- When a statement has succeeded all that was sent before it has been answered too, so that the
-- server has taken up all of it for good.
theorem Ran.takenUp (h : Ran late lease sql w after succeeded contents) (hs : succeeded)
    (hanswered : ∀ c, after.answeredOver c <+: next.answeredOver c) :
    after.sentOver lease.connection <+: next.takenOver lease.connection := by
  obtain ⟨payloads, rfl, -, exchange, ha, -⟩ := h.done hs
  have hlt := (List.getElem?_eq_some_iff.mp ha).1
  have hinitial := (answeredOver_initial after lease.connection).trans
    (takenOver_initial after lease.connection)
  have hall : (after.answeredOver lease.connection).map (·.message) =
      after.sentOver lease.connection := by
    refine hinitial.eq_of_length_le ?_
    rw [h.follows.length_sent_speech, List.length_map]
    simp only [List.length_cons, List.length_nil]
    omega
  rw [← hall]
  exact ((hanswered lease.connection).map (·.message)).trans
    (answeredOver_initial next lease.connection)

-- Of the messages of a statement the server takes up the first ones, and all of them when the
-- statement succeeds. They are found by where they stand in what was sent.
theorem Ran.takenFrom (h : Ran late lease sql w after succeeded contents)
    (hsent : ∀ c, after.sentOver c <+: next.sentOver c)
    (hanswered : ∀ c, after.answeredOver c <+: next.answeredOver c) :
    next.takenFrom lease.connection (w.sentOver lease.connection).length contents.length <+:
        contents.map (Message.mk lease.number) ∧
      (succeeded → next.takenFrom lease.connection (w.sentOver lease.connection).length
        contents.length = contents.map (Message.mk lease.number)) := by
  have hafter : after.sentOver lease.connection =
      w.sentOver lease.connection ++ contents.map (Message.mk lease.number) :=
    h.follows.sent_speech
  have hcut : ∀ rest : List Message,
      ((after.sentOver lease.connection ++ rest).drop (w.sentOver lease.connection).length).take
        contents.length = contents.map (Message.mk lease.number) := fun rest => by
    simp [hafter]
  constructor
  · obtain ⟨rest, hrest⟩ := hsent lease.connection
    have hinitial := ((takenOver_initial next lease.connection).drop
      (w.sentOver lease.connection).length).take contents.length
    rwa [← hrest, hcut] at hinitial
  · intro hs
    obtain ⟨rest, hrest⟩ := h.takenUp hs hanswered
    rw [World.takenFrom, ← hrest]
    exact hcut rest

-- The same where the messages of the statement are found by their lease, which is a new one.
theorem Ran.takenUnder (h : Ran late lease sql w after succeeded contents)
    (hunder : ∀ c, next.sentUnder lease.number c = lease.speech contents c)
    (hanswered : ∀ c, after.answeredOver c <+: next.answeredOver c)
    (hafter : ∀ c, after.sentUnder lease.number c = lease.speech contents c) (c : Nat) :
    next.takenUnder lease.number c <+: lease.speech contents c ∧
      (succeeded → next.takenUnder lease.number c = lease.speech contents c) := by
  have hinitial : next.takenUnder lease.number c <+: lease.speech contents c := by
    rw [← hunder]
    exact (takenOver_initial next c).filter _
  refine ⟨hinitial, fun hs => ?_⟩
  by_cases hc : c = lease.connection
  · subst hc
    have hwhole := (h.takenUp hs hanswered).filter (·.lease == lease.number)
    have hlength := hwhole.length_le
    change (after.sentUnder lease.number lease.connection).length ≤ _ at hlength
    rw [hafter] at hlength
    exact hinitial.eq_of_length_le hlength
  · rw [Lease.speech_of_ne hc] at hinitial ⊢
    exact List.prefix_nil.mp hinitial

-- What is the case in a world that can be reached, and in every world that can come after it.
def Henceforth (origin : Scene) (held : List Lease) (w : World) (P : World → Prop) : Prop :=
  ∃ gone, Moves anyLease origin ⟨held, gone, w⟩ ∧
    ∀ next, Moves anyLease ⟨held, gone, w⟩ next → P next.world

-- A call outside of any transaction. Without a connection it sends nothing and does not succeed.
-- With one it runs its statement once, under a lease of its own: nothing else is ever sent under
-- it, so that the server takes up what it is sent for the call once, and all of it when the call
-- succeeds.
def CallsOnce (origin : Scene) (held : List Lease) (context : Deadline) (sql : String)
    (w after : World) (succeeded : Prop) : Prop :=
  match (acquire context).answer w with
  | .error _ => Follows silence w after ∧ ¬succeeded
  | .ok lease => w.leases ≤ lease.number ∧ ∃ contents,
      Ran (context.hasRung ((acquire context).after w).now) lease sql w after succeeded contents ∧
      Henceforth origin held after fun next => ∀ c,
        next.sentUnder lease.number c = lease.speech contents c ∧
        next.takenUnder lease.number c <+: lease.speech contents c ∧
        (succeeded → next.takenUnder lease.number c = lease.speech contents c)

-- A call in a transaction. It runs its statement once over the connection of the transaction, where
-- the messages of the call keep their places.
def CallsOnceIn (origin : Scene) (held : List Lease) (late : Bool) (lease : Lease) (sql : String)
    (w after : World) (succeeded : Prop) : Prop :=
  ∃ contents, Ran late lease sql w after succeeded contents ∧
    Henceforth origin held after fun next =>
      (∀ c, after.sentOver c <+: next.sentOver c) ∧
      next.takenFrom lease.connection (w.sentOver lease.connection).length contents.length <+:
        contents.map (Message.mk lease.number) ∧
      (succeeded → next.takenFrom lease.connection (w.sentOver lease.connection).length
        contents.length = contents.map (Message.mk lease.number))

-- Who gives a connection back gives its lease up.
theorem spent_giveBack {gone left : List Nat} (h : Scene.Sound stale ⟨lease :: held, gone, w⟩) :
    Scene.Spent ⟨held, left, w.giveBack lease⟩ lease.number := by
  have hout : (w.giveBack lease).leasesOut held = w.leasesOut held := by
    unfold World.giveBack
    split
    · rfl
    · split <;> rfl
  have hgiven : lease.number < w.leases := h.custody.holdings.numbered lease List.mem_cons_self
  refine ⟨Nat.lt_of_lt_of_le hgiven (follows_giveBack w lease).leases, fun other ho hn => ?_⟩
  have hfresh : lease.number ∉ (w.leasesOut held).map (·.number) :=
    (List.nodup_cons.mp h.distinct).1
  unfold Scene.out at ho
  rw [hout] at ho
  exact hfresh (hn ▸ List.mem_map_of_mem ho)

-- Nothing was sent under a new lease but what is sent now.
theorem sentUnder_speech (hd : ∀ c, ∀ message ∈ w.sentOver c, message.lease < lease.number)
    (hf : Follows (lease.speech contents) w after) (c : Nat) :
    after.sentUnder lease.number c = lease.speech contents c := by
  have hold : (w.sentOver c).filter (·.lease == lease.number) = [] :=
    List.filter_eq_nil_iff.mpr fun message hm => by simpa using Nat.ne_of_lt (hd c message hm)
  have hnew : (lease.speech contents c).filter (·.lease == lease.number) =
      lease.speech contents c :=
    List.filter_eq_self.mpr fun message hm => by simpa using Lease.lease_of_mem_speech hm
  rw [World.sentUnder, hf.sent, List.filter_append, hold, hnew, List.nil_append]

theorem pooled_once {context : Deadline} {use : Lease → Action α} {failed : Error → α}
    (outcome : Except Error α → β) (success : β → Prop)
    (hr : ∀ lease, Runs lease context sql arguments failed (use lease))
    (hf : ∀ e, ¬success (outcome (.ok (failed e)))) (he : ∀ e, ¬success (outcome (.error e)))
    (h : Arrives anyLease origin held w) :
    CallsOnce origin held context sql w ((do return outcome (← withLease context use)).after w)
      (success ((do return outcome (← withLease context use)).answer w)) := by
  obtain ⟨hsilent, hacquired⟩ := acquire_acquires context w h.custody
  have htaken := acquire_takes context h
  rw [Action.after_bind, Action.answer_bind, Action.after_pure, Action.answer_pure, withLease,
    Action.after_bind, Action.answer_bind]
  unfold CallsOnce
  generalize (acquire context).after w = mid at *
  generalize (acquire context).answer w = result at *
  cases result with
  | error e => exact ⟨hsilent, he e⟩
  | ok lease =>
    have huses : mid.Uses (lease :: held) lease := List.mem_append_left _ List.mem_cons_self
    have honce : RunsOnce lease context.hasRung sql (fun a => success (outcome (.ok a)))
        (use lease) := (hr lease).once hf
    obtain ⟨contents, hran⟩ := honce _ mid hacquired.custody huses
    obtain ⟨hleft, -, -⟩ := (hr lease).hears _ mid htaken huses
    simp only [Action.after_bind, Action.answer_bind, Action.after_modify, Action.after_pure,
      Action.answer_pure]
    generalize (use lease).after mid = done at *
    generalize (use lease).answer mid = a at *
    have hran := hran.silently hsilent (follows_giveBack done lease)
    obtain ⟨gone, hmoves, hreturned⟩ := hleft.giveBack (.inr trivial)
    obtain ⟨_, -, hsound⟩ := hleft
    have hunder := sentUnder_speech (fun c message hm =>
      Nat.lt_of_lt_of_le (h.custody.dated c message hm) hacquired.fresh) hran.follows
    refine ⟨hacquired.fresh, contents, hran, gone, hmoves, fun next hn c => ?_⟩
    have hsame := fun c =>
      ((hn.sentUnder hreturned (spent_giveBack hsound)).2 c).trans (hunder c)
    exact ⟨hsame c, hran.takenUnder hsame (hn.goesOn hreturned).2 hunder c⟩

theorem uses_named {name : String} {t : Transaction} (h : Arrives stale origin held w)
    (ht : w.transaction? name = some t) : w.Uses held t.lease := by
  have hp := (perm_of_lookup h.custody.named ht).map (·.2.lease)
  exact List.mem_append_right _ (hp.mem_iff.mpr List.mem_cons_self)

theorem named_once {limit : Moment → Bool} {action : Action α} {success : α → Prop}
    (hr : RunsOnce lease limit sql success action) (hu : w.Uses held lease)
    (h : Arrives anyLease origin held w) (ha : Arrives anyLease origin held (action.after w)) :
    CallsOnceIn origin held (limit w.now) lease sql w (action.after w)
      (success (action.answer w)) := by
  obtain ⟨contents, hran⟩ := hr held w h.custody hu
  obtain ⟨gone, hmoves, hsound⟩ := ha
  refine ⟨contents, hran, gone, hmoves, fun next hn => ?_⟩
  obtain ⟨hsent, hanswered⟩ := hn.goesOn hsound
  exact ⟨hsent, hran.takenFrom hsent hanswered⟩

variable (limit : Deadline) (reader : CellReader) (sql arguments)

theorem returnedIdOn_arrives (h : Arrives stale origin held w) (hu : w.Uses held lease) :
    Arrives stale origin held ((returnedIdOn lease limit reader sql arguments).after w) := by
  cases hc : hasReturningClause sql with
  | true => exact ((returnedIdOn_runs limit sql arguments reader hc).hears held w h hu).1
  | false => exact h.quiet (quiet_returnedIdOn limit sql arguments reader hc)

-- Without the clause that it needs the call says nothing.
theorem returnedIdOn_once :
    RunsOnce lease (fun now => limit.hasRung now || !hasReturningClause sql) sql
      (fun result => ∃ value, result = .ok value)
      (returnedIdOn lease limit reader sql arguments) := by
  cases hc : hasReturningClause sql with
  | true =>
    simp only [Bool.not_true, Bool.or_false]
    exact (returnedIdOn_runs limit sql arguments reader hc).once not_ok_of_error
  | false =>
    intro held w hcustody hu
    have hquiet : Quiet (returnedIdOn lease limit reader sql arguments) :=
      quiet_returnedIdOn limit sql arguments reader hc
    have hsilent := (hquiet.keeps hcustody).2
    have herror : (returnedIdOn lease limit reader sql arguments).answer w =
        .error .missingReturningClause := by
      unfold returnedIdOn
      rw [hc]
      rfl
    refine ⟨[], .nothing (by simp), (Follows.speech_nil lease).mp hsilent, fun hs => ?_⟩
    rw [herror] at hs
    exact absurd hs (not_ok_of_error _)

-- A run of a program goes on from any world that can be reached.
theorem moves_performAll (steps : List Step) {gone : List Nat}
    (h : Scene.Sound anyLease ⟨[], gone, w⟩) :
    ∃ left, Moves anyLease ⟨[], gone, w⟩ ⟨[], left, (performAll steps).after w⟩ := by
  have hleads := performAll_leads steps w (fun _ _ => trivial) ⟨gone, .refl, h⟩
  obtain ⟨left, hmoves, -⟩ := hleads.arrives
  exact ⟨left, hmoves⟩

end Calls

variable {σ : Type}

-- However often a checkout is tried again, whatever the server does and however late it does it,
-- one call of an operation prepares its statement at most once, executes it at most once, and does
-- so on one connection. That is not made up for later, whoever uses the connection then. When the
-- call succeeds its statement has been executed once. The store may be in any state that it can
-- come to, with any number of operations under way.
theorem statements_once (config : StoreConfig) (server : Behaviour) (welcomes : List Welcome)
    (races : List Bool) {held : List Lease} {gone : List Nat} {w : World}
    (hw : Moves anyLease (Scene.start config server welcomes races) ⟨held, gone, w⟩)
    (context : Deadline) (scan : Scan σ) (state : σ) (reader : CellReader) (sql : String)
    (arguments : List Value) :
    let origin := Scene.start config server welcomes races
    CallsOnce origin held context sql w ((exec context sql arguments).after w)
        (∃ count, (exec context sql arguments).answer w = .ok count) ∧
      CallsOnce origin held context sql w ((query context scan state sql arguments).after w)
        (((query context scan state sql arguments).answer w).2 = .ok ()) ∧
      CallsOnce origin held context sql w ((queryRow context scan state sql arguments).after w)
        (((queryRow context scan state sql arguments).answer w).2 = .ok ()) ∧
      ∀ name t, w.transaction? name = some t →
        let limit := t.bound context
        CallsOnceIn origin held (limit.hasRung w.now) t.lease sql w
            ((executeOn t.lease limit sql arguments).after w)
            (∃ count, (executeOn t.lease limit sql arguments).answer w = .ok count) ∧
          CallsOnceIn origin held (limit.hasRung w.now || !hasReturningClause sql) t.lease sql w
            ((returnedIdOn t.lease limit reader sql arguments).after w)
            (∃ value, (returnedIdOn t.lease limit reader sql arguments).answer w = .ok value) := by
  intro origin
  have h : Arrives anyLease origin held w :=
    ⟨gone, hw, hw.sound (sound_start config server welcomes races)⟩
  refine ⟨?_, ?_, ?_, fun name t ht => ⟨?_, ?_⟩⟩
  · exact pooled_once (·.bind id) (fun result => ∃ count, result = .ok count)
      (fun _ => executeOn_runs context sql arguments) not_ok_of_error not_ok_of_error h
  · exact pooled_once (scanResult state) (fun result => result.2 = .ok ())
      (fun _ => queryOn_runs context sql arguments scan state) (fun e hok => by cases hok)
      (fun e hok => by cases hok) h
  · exact pooled_once (scanResult state) (fun result => result.2 = .ok ())
      (fun _ => queryRowOn_runs context sql arguments scan state) (fun e hok => by cases hok)
      (fun e hok => by cases hok) h
  · have hu := uses_named h ht
    have hr : Runs t.lease (t.bound context) sql arguments Except.error
        (executeOn t.lease (t.bound context) sql arguments) := executeOn_runs _ sql arguments
    have honce : RunsOnce t.lease (t.bound context).hasRung sql
        (fun result => ∃ count, result = .ok count)
        (executeOn t.lease (t.bound context) sql arguments) :=
      hr.once not_ok_of_error
    exact named_once honce hu h (hr.hears held w h hu).1
  · have hu := uses_named h ht
    exact named_once (returnedIdOn_once sql arguments (t.bound context) reader) hu h
      (returnedIdOn_arrives sql arguments (t.bound context) reader h hu)

-- A store that tries a checkout once again, with two connections.
def retryingPair : StoreConfig := { oneSecond with retryCount := 1, maxConnections := 2 }

def pairStart : Scene := Scene.start retryingPair slowScript [.accept, .refuse] []

-- A transaction is open, and the next attempt to connect is refused.
def besideOpen : World := (performAll [.begin "a"]).after pairStart.world

-- A call is given up while its statement is at work. Another call gets the connection later, and
-- the statement is not sent again. A call in the transaction succeeds, and its statement is
-- executed once whatever is done after it.
theorem statements_once_besideOpen :
    let after := (exec besideOpen.context "SLOW" []).after besideOpen
    let next := (performAll [.context none, .exec "U" []]).after after
    ((exec besideOpen.context "SLOW" []).answer besideOpen =
        .error (.timeout (Duration.ofSeconds 1)) ∧
      (next.sentOver 2).map (·.lease) = [1, 1, 2] ∧
      (∀ c, next.sentUnder 1 c = after.sentUnder 1 c) ∧
      next.takenUnder 1 2 <+: [⟨1, .prepare "SLOW"⟩, ⟨1, .execute "SLOW" []⟩]) ∧
    ∃ t, besideOpen.transaction? "a" = some t ∧ ∃ payloads, ∀ steps,
      ((performAll steps).after ((executeOn t.lease (t.bound besideOpen.context) "U" []).after
        besideOpen)).takenFrom 0 1 2 = [⟨0, .prepare "U"⟩, ⟨0, .execute "U" payloads⟩] := by
  intro after next
  have hstart : pairStart.Sound anyLease :=
    sound_start retryingPair slowScript [.accept, .refuse] []
  obtain ⟨gone, hmoves⟩ : ∃ gone, Moves anyLease pairStart ⟨[], gone, besideOpen⟩ :=
    moves_performAll [.begin "a"] hstart
  have honce := statements_once retryingPair slowScript [.accept, .refuse] [] hmoves
    besideOpen.context (collecting fun _ _ => .ok .null) [] ⟨.int4, false⟩
  constructor
  · obtain ⟨hexec, -⟩ := honce "SLOW" []
    have hlease : (acquire besideOpen.context).answer besideOpen = .ok ⟨1, 2, true⟩ := by
      decide +kernel
    have hsent : after.sentUnder 1 2 = [⟨1, .prepare "SLOW"⟩, ⟨1, .execute "SLOW" []⟩] := by
      decide +kernel
    rw [CallsOnce, hlease] at hexec
    obtain ⟨-, contents, -, left, hthere, hlater⟩ := hexec
    obtain ⟨_, hreached⟩ := moves_performAll [.context none, .exec "U" []] (hthere.sound hstart)
    have hafter := hlater _ .refl
    have hnext := hlater _ hreached
    refine ⟨by decide +kernel, by decide +kernel, fun c => (hnext c).1.trans (hafter c).1.symm, ?_⟩
    rw [← hsent, (hafter 2).1]
    exact (hnext 2).2.1
  · have hopen : (besideOpen.transaction? "a").map (fun t =>
        (t.lease, (executeOn t.lease (t.bound besideOpen.context) "U" []).answer besideOpen)) =
          some (⟨0, 0, true⟩, .ok 0) := by
      decide +kernel
    have hplace : (besideOpen.sentOver 0).length = 1 := by decide +kernel
    obtain ⟨⟨lease, deadline⟩, ht, hcall⟩ := Option.map_eq_some_iff.mp hopen
    obtain ⟨rfl, hok⟩ := Prod.mk.inj hcall
    obtain ⟨-, -, -, hnamed⟩ := honce "U" []
    obtain ⟨⟨contents, hran, left, hthere, hlater⟩, -⟩ := hnamed "a" _ ht
    obtain ⟨payloads, rfl, -⟩ := hran.done ⟨0, hok⟩
    refine ⟨_, ht, payloads, fun steps => ?_⟩
    obtain ⟨_, hreached⟩ := moves_performAll steps (hthere.sound hstart)
    have htaken := (hlater _ hreached).2.2 ⟨0, hok⟩
    rw [hplace] at htaken
    exact htaken

end Store

end RecordSql
