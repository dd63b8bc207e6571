import RecordSql.Proofs.Store.History
import RecordSql.Proofs.Store.Operations
import RecordSql.Proofs.Store.Run

namespace RecordSql.Store

open Server

variable {stale : Lease → Prop} {origin : Scene} {held : List Lease} {w : World} {t : Transaction}
  {name : String}

section Names

theorem Arrives.release (h : Arrives stale origin held w) (ht : w.transaction? name = some t) :
    Arrives stale origin (t.lease :: held) (w.removeTransaction name) := by
  have hc := h.custody.release ht
  have hp := (perm_of_lookup h.custody.named ht).map (·.2.lease)
  exact h.move fun gone => ⟨gone, .handOver hc.named
    ((hp.append_left held).trans List.perm_middle)⟩

theorem Arrives.keep (h : Arrives stale origin (t.lease :: held) w)
    (hn : w.transaction? name = none) :
    Arrives stale origin held (w.keepTransaction name t) := by
  have hc := h.custody.keep hn
  have hp := (perm_insertTransaction name t w.transactions).map (·.2.lease)
  exact h.move fun gone => ⟨gone, .handOver hc.named
    (List.perm_middle.symm.trans (hp.append_left held).symm)⟩

variable (name)

-- Afterwards the name is free.
theorem dropNamed_arrives (h : Arrives stale origin held w) :
    Arrives stale origin held ((dropNamed name).after w) ∧
      ((dropNamed name).after w).transaction? name = none := by
  rw [dropNamed, Action.after_get_bind]
  cases ht : w.transaction? name with
  | none =>
    dsimp only
    rw [Action.after_pure]
    exact ⟨h, ht⟩
  | some t =>
    have hr := h.release ht
    have hf := (abandon_ends id t hr.custody).2
    dsimp only
    rw [Action.after_bind, Action.after_set]
    refine ⟨abandon_arrives hr, ?_⟩
    unfold World.transaction?
    rw [hf.transactions]
    exact transaction?_removeTransaction w name

theorem keepNamed_arrives (h : Arrives stale origin (t.lease :: held) w) :
    Arrives stale origin held ((keepNamed name t).after w) := by
  obtain ⟨hd, hn⟩ := dropNamed_arrives name h
  rw [keepNamed, Action.after_bind, Action.after_modify]
  exact hd.keep hn

-- Something is done with the open transaction of a name.
theorem withNamed_arrives {use : World → Transaction → Action Answer}
    (hu : ∀ t, Hears stale origin t.lease (fun _ => True) (use w t)) (h : Arrives stale origin held w) :
    Arrives stale origin held ((withNamed name use).after w) := by
  rw [withNamed, Action.after_get_bind]
  cases ht : w.transaction? name with
  | none => exact h
  | some t =>
    have hp := perm_of_lookup h.custody.named ht
    have hm := (hp.map (·.2.lease)).mem_iff.mpr List.mem_cons_self
    exact (hu t held w h (List.mem_append_right _ hm)).1

-- To let go of a name is to let go of what it stands for.
theorem dropOpen_arrives (h : Arrives stale origin held w) :
    Arrives stale origin held
      ((withNamed name fun _ _ => do
        dropNamed name
        return .done).after w) := by
  have hd := (dropNamed_arrives name h).1
  rw [withNamed, Action.after_get_bind]
  cases w.transaction? name with
  | none => exact h
  | some t =>
    dsimp only
    rwa [Action.after_bind, Action.after_pure]

theorem endNamed_arrives {finish : Deadline → Transaction → Action (Except Error Unit)}
    (hf : ∀ context t w, Arrives stale origin (t.lease :: held) w →
      Arrives stale origin held ((finish context t).after w))
    (h : Arrives stale origin held w) :
    Arrives stale origin held ((endNamed name finish).after w) := by
  rw [endNamed, withNamed, Action.after_get_bind]
  cases ht : w.transaction? name with
  | none => exact h
  | some t =>
    dsimp only
    rw [Action.after_bind, Action.after_set, Action.after_bind, Action.after_pure]
    exact hf _ t _ (h.release ht)

theorem openNamed_arrives {action : Action (Except Error Transaction)}
    (h : OpensAt stale origin held (action.after w) (action.answer w)) :
    Arrives stale origin held ((do keepOpened name (← action)).after w) := by
  rw [Action.after_bind]
  generalize action.after w = after at *
  generalize action.answer w = result at *
  cases result with
  | ok t =>
    dsimp only [keepOpened]
    rw [Action.after_bind, Action.after_pure]
    exact keepNamed_arrives name h
  | error e => exact h

end Names

section TimedOut

variable {α : Type} {lease : Lease}

-- The lease of an operation that ran out of time with a connection in its hands.
def expiredLease (limit : Deadline) (result : Except Error α) (w : World) : List Lease :=
  match (acquire limit).answer w, result with
  | .ok lease, .error e => if e.isTimeout then [lease] else []
  | _, _ => []

mutual

-- The leases of the operations outside of any transaction that ran out of time.
def Step.timedOut : Step → World → List Lease
  | .exec sql arguments, w =>
    expiredLease w.context ((RecordSql.Store.exec w.context sql arguments).answer w) w
  | .query read sql arguments, w =>
    expiredLease w.context
      ((RecordSql.Store.query w.context (collecting read) [] sql arguments).answer w).2 w
  | .queryRow read sql arguments, w =>
    expiredLease w.context
      ((RecordSql.Store.queryRow w.context (collecting read) [] sql arguments).answer w).2 w
  | .withTransaction name steps _, w =>
    match (beginTransaction w.context).answer w with
    | .ok t => timedOut steps ((keepNamed name t).after ((beginTransaction w.context).after w))
    | .error _ => []
  | _, _ => []

def timedOut : List Step → World → List Lease
  | [], _ => []
  | step :: rest, w => step.timedOut w ++ timedOut rest (step.perform.after w)

end

variable {limit : Deadline}

theorem mem_expiredLease {result : Except Error α} (ha : (acquire limit).answer w = .ok lease)
    (hr : Unheard (some limit) result) : lease ∈ expiredLease limit result w := by
  obtain ⟨deadline, hl, rfl⟩ := hr
  simp [expiredLease, ha, Deadline.error, Error.isTimeout]

theorem answer_withLease {use : Lease → Action α} (ha : (acquire limit).answer w = .ok lease) :
    (withLease limit use).answer w = .ok ((use lease).answer ((acquire limit).after w)) := by
  rw [withLease_answer, ha]
  rfl

variable {β γ : Type} {sql : String} {arguments : List Value}

-- An operation that takes a connection for one statement, and makes something of what comes of it.
-- Its lease is a stale one when it runs out of time.
theorem expiring_arrives {use : Lease → Action α} {failed : Error → α}
    (hr : ∀ lease, Runs lease limit sql arguments failed (use lease))
    (outcome : Except Error α → β) (result : β → Except Error γ)
    (hf : ∀ e, result (outcome (.ok (failed e))) = .error e)
    (hs : ∀ lease ∈ expiredLease limit
      (result ((do return outcome (← withLease limit use)).answer w)) w, stale lease)
    (h : Arrives stale origin held w) :
    Arrives stale origin held ((do return outcome (← withLease limit use)).after w) := by
  rw [Action.after_bind, Action.after_pure]
  refine withLease_arrives limit (fun lease => (hr lease).hears) ?_ h
  intro lease ha hm
  refine hs lease (mem_expiredLease ha ⟨limit, rfl, ?_⟩)
  rw [Action.answer_bind, Action.answer_pure, answer_withLease ha, hm, hf]

variable (sql arguments)

theorem exec_arrives (h : Arrives stale origin held w)
    (hs : ∀ lease ∈ expiredLease limit ((exec limit sql arguments).answer w) w, stale lease) :
    Arrives stale origin held ((exec limit sql arguments).after w) :=
  expiring_arrives (fun _ => executeOn_runs limit sql arguments) (·.bind id) id (fun _ => rfl) hs h

theorem query_arrives {σ : Type} (scan : Scan σ) (state : σ) (h : Arrives stale origin held w)
    (hs : ∀ lease ∈ expiredLease limit ((query limit scan state sql arguments).answer w).2 w,
      stale lease) :
    Arrives stale origin held ((query limit scan state sql arguments).after w) :=
  expiring_arrives (fun _ => queryOn_runs limit sql arguments scan state) (scanResult state) (·.2)
    (fun _ => rfl) hs h

theorem queryRow_arrives {σ : Type} (scan : Scan σ) (state : σ) (h : Arrives stale origin held w)
    (hs : ∀ lease ∈ expiredLease limit ((queryRow limit scan state sql arguments).answer w).2 w,
      stale lease) :
    Arrives stale origin held ((queryRow limit scan state sql arguments).after w) :=
  expiring_arrives (fun _ => queryRowOn_runs limit sql arguments scan state) (scanResult state)
    (·.2) (fun _ => rfl) hs h

-- Without a deadline for the statement nothing is left unanswered.
theorem call_arrives (call : Call) (h : Arrives stale origin held w) :
    Arrives stale origin held ((Store.call limit call sql arguments).after w) := by
  refine withLease_arrives limit (fun _ => callOn_hears none sql arguments call) ?_ h
  rintro lease - ⟨deadline, hn, -⟩
  simp at hn

end TimedOut

section Steps

variable {lease : Lease} {there : World}

-- A lease as it is handed out: nothing has been sent under it.
structure Fresh (stale : Lease → Prop) (origin : Scene) (lease : Lease) (there : World) : Prop where
  arrives : Arrives stale origin [lease] there
  unused : ∀ message ∈ there.sentOver lease.connection, message.lease < lease.number

theorem fresh_of_handedEvents (limit : Deadline) (h : Arrives stale origin [] w)
    (hm : .handed lease there ∈ handedEvents w limit) : Fresh stale origin lease there := by
  have ha := acquire_takes limit h
  have hl := acquire_acquires limit w h.custody
  unfold handedEvents at hm
  generalize (acquire limit).after w = after at *
  generalize (acquire limit).answer w = result at *
  cases result with
  | error e => simp at hm
  | ok other =>
    obtain ⟨rfl, rfl⟩ : lease = other ∧ there = after := by simpa using hm
    refine ⟨ha, fun message hmessage => ?_⟩
    rw [hl.1.sent, silence, List.append_nil] at hmessage
    exact Nat.lt_of_lt_of_le (h.custody.dated _ message hmessage) hl.2.fresh

theorem handed_notMem_namedEvents (use : Transaction → Use) :
    .handed lease there ∉ namedEvents name w use := by
  unfold namedEvents
  cases w.transaction? name <;> simp

theorem handed_notMem_openEvents (action : Action (Except Error Transaction)) :
    .handed lease there ∉ openEvents name w action := by
  unfold openEvents
  cases action.answer w with
  | error e => simp
  | ok t => simpa [dropEvents] using handed_notMem_namedEvents fun _ => .ending .drop

-- What a step comes to: the world after it, and the worlds in which connections are handed out
-- on the way.
structure Leads (stale : Lease → Prop) (origin : Scene) (events : List Event) (after : World) :
    Prop where
  arrives : Arrives stale origin [] after
  handed : ∀ lease there, .handed lease there ∈ events → Fresh stale origin lease there

namespace Leads

variable {events more : List Event} {mid after : World}

theorem of_nil (h : Arrives stale origin [] after) : Leads stale origin [] after := ⟨h, by simp⟩

theorem of_named {use : Transaction → Use} (h : Arrives stale origin [] after) :
    Leads stale origin (namedEvents name w use) after :=
  ⟨h, fun _ _ hm => absurd hm (handed_notMem_namedEvents use)⟩

theorem of_opened {action : Action (Except Error Transaction)} (h : Arrives stale origin [] after) :
    Leads stale origin (openEvents name w action) after :=
  ⟨h, fun _ _ hm => absurd hm (handed_notMem_openEvents action)⟩

theorem of_handed (limit : Deadline) (hw : Arrives stale origin [] w)
    (h : Arrives stale origin [] after) : Leads stale origin (handedEvents w limit) after :=
  ⟨h, fun _ _ => fresh_of_handedEvents limit hw⟩

theorem trans (h : Leads stale origin events mid) (hm : Leads stale origin more after) :
    Leads stale origin (events ++ more) after :=
  ⟨hm.arrives, fun lease there he => (List.mem_append.mp he).elim (h.handed lease there)
    (hm.handed lease there)⟩

end Leads

-- Whatever a step does, it does by moves. The induction is on the step and the steps inside of it.
mutual

theorem Step.act_leads : ∀ (step : Step) (w : World), (∀ lease ∈ step.timedOut w, stale lease) →
    Arrives stale origin [] w → Leads stale origin (step.events w) (step.act.after w)
  | .context timeout, w, _, h => by
    rw [Step.act, Step.events, Action.after_bind, Action.after_pure, Action.after_modify, newContext]
    generalize Deadline.after w.now _ = context
    exact .of_nil (h.aside ⟨rfl, rfl, rfl, rfl, rfl, rfl⟩)
  | .advance time, w, _, h => by
    rw [Step.act, Step.events, Action.after_bind, Action.after_pure, Action.after_modify]
    exact .of_nil (h.atMoment _)
  | .close, w, _, h => by
    rw [Step.act, Step.events, Action.after_bind, Action.after_pure, Action.after_modify]
    exact .of_nil (h.move fun _ => ⟨_, .close⟩)
  | .begin name, w, _, h => by
    rw [Step.act, Step.events, Action.after_get_bind]
    have ha := openNamed_arrives name (beginTransaction_arrives w.context h)
    exact (Leads.of_handed _ h h).trans (.of_opened ha)
  | .beginUnpooled name timeout, w, _, h => by
    rw [Step.act, Step.events, Action.after_get_bind]
    exact .of_opened (openNamed_arrives name (beginUnpooled_arrives _ h))
  | .exec sql arguments, w, hs, h => by
    rw [Step.act, Step.events, Action.after_get_bind, Action.after_bind, Action.after_pure]
    exact .of_handed _ h (exec_arrives sql arguments h hs)
  | .query read sql arguments, w, hs, h => by
    rw [Step.act, Step.events, Action.after_get_bind, Action.after_bind, Action.after_pure]
    exact .of_handed _ h (query_arrives sql arguments _ _ h hs)
  | .queryRow read sql arguments, w, hs, h => by
    rw [Step.act, Step.events, Action.after_get_bind, Action.after_bind, Action.after_pure]
    exact .of_handed _ h (queryRow_arrives sql arguments _ _ h hs)
  | .call call sql arguments, w, _, h => by
    rw [Step.act, Step.events, Action.after_get_bind, Action.after_bind, Action.after_pure]
    exact .of_handed _ h (call_arrives sql arguments call h)
  | .callIn name call sql arguments, w, _, h => by
    rw [Step.act, Step.events]
    exact .of_named (withNamed_arrives name (fun t => (callOn_hears _ sql arguments call).bind_quiet
      (fun _ => quiet_pure _) fun _ _ _ => trivial) h)
  | .execIn name sql arguments, w, _, h => by
    rw [Step.act, Step.events]
    exact .of_named (withNamed_arrives name (fun t => (executeOn_runs _ sql arguments).hears.bind_quiet
      (fun _ => quiet_pure _) fun _ _ _ => trivial) h)
  | .returnedIdIn name reader sql arguments, w, _, h => by
    rw [Step.act, Step.events]
    cases hr : hasReturningClause sql with
    | true =>
      rw [if_pos rfl]
      exact .of_named (withNamed_arrives name (fun t =>
        (returnedIdOn_runs _ sql arguments reader hr).hears.bind_quiet (fun _ => quiet_pure _)
          fun _ _ _ => trivial) h)
    | false =>
      rw [if_neg (by simp)]
      exact .of_nil (withNamed_arrives name (fun t =>
        ((quiet_returnedIdOn _ sql arguments reader hr).bind fun _ => quiet_pure _).hears) h)
  | .deadlineOf name, w, _, h => by
    rw [Step.act, Step.events]
    exact .of_nil (withNamed_arrives name (fun t => (quiet_pure _).hears) h)
  | .commit name, w, _, h => by
    rw [Step.act, Step.events]
    exact .of_named (endNamed_arrives name (fun context _ _ => commit_arrives context) h)
  | .rollback name, w, _, h => by
    rw [Step.act, Step.events]
    exact .of_named (endNamed_arrives name (fun context _ _ => rollback_arrives context) h)
  | .drop name, w, _, h => by
    rw [Step.act, Step.events]
    exact .of_named (dropOpen_arrives name h)
  | .withTransaction name steps outcome, w, hs, h => by
    have hb := beginTransaction_arrives w.context h
    have hopen : ∀ after, Arrives stale origin [] after → Leads stale origin
        (handedEvents w w.openingLimit ++ openEvents name w (beginTransaction w.context)) after :=
      fun after ha => (Leads.of_handed _ h h).trans (.of_opened ha)
    rw [Step.timedOut] at hs
    rw [Step.act, Step.events, Action.after_get_bind, Action.after_bind]
    generalize (beginTransaction w.context).after w = opened at *
    generalize (beginTransaction w.context).answer w = result at *
    cases result with
    | error e =>
      dsimp only
      rw [List.append_nil, Action.after_pure]
      exact hopen _ hb
    | ok t =>
      have hkept := keepNamed_arrives name hb
      dsimp only at hs ⊢
      rw [Action.after_bind]
      generalize (keepNamed name t).after opened = kept at *
      have hinner := performAll_leads steps kept hs hkept
      rw [Action.after_bind, Action.after_bind, Action.after_pure]
      generalize (performAll steps).after kept = left at *
      have hdrop := (dropNamed_arrives name hinner.arrives).1
      exact (hopen _ hkept).trans (hinner.trans (.of_named hdrop))

theorem performAll_leads : ∀ (steps : List Step) (w : World),
    (∀ lease ∈ timedOut steps w, stale lease) → Arrives stale origin [] w →
      Leads stale origin (history steps w) ((performAll steps).after w)
  | [], w, _, h => by
    rw [performAll, history, Action.after_pure]
    exact .of_nil h
  | step :: rest, w, hs, h => by
    rw [timedOut] at hs
    have hstep := Step.act_leads step w (fun lease hm => hs lease (List.mem_append_left _ hm)) h
    have hrest := performAll_leads rest _
      (fun lease hm => hs lease (List.mem_append_right _ hm)) hstep.arrives.settle
    rw [performAll, history, Action.after_bind, Action.after_bind, Action.after_pure]
    exact hstep.trans hrest

end

-- Where nothing can be sent any more the open transactions are let go one after the other.
theorem abandonAll_arrives (entries : List (String × Transaction))
    (h : Arrives stale origin (entries.map (·.2.lease)) w) :
    Arrives stale origin [] ((entries.forM fun entry => abandonOffline entry.2).after w) := by
  induction entries generalizing w with
  | nil => exact h
  | cons entry rest ih =>
    rw [List.forM_eq_forM, List.forM_cons, Action.after_bind]
    exact ih (abandonOffline_arrives h)

theorem finish_arrives (h : Arrives stale origin [] w) :
    Arrives stale origin [] (finish.after w) := by
  have hall : Arrives stale origin (w.transactions.map (·.2.lease)) { w with transactions := [] } :=
    h.move fun gone => ⟨gone, .handOver List.nodup_nil (by simp)⟩
  rw [finish, Action.after_get_bind, Action.after_bind, Action.after_set]
  exact abandonAll_arrives w.transactions hall

end Steps

section Start

-- A store that has just been set up.
def Scene.start (config : StoreConfig) (server : Behaviour) (welcomes : List Welcome)
    (races : List Bool) : Scene :=
  { world := World.start config server welcomes races }

variable (config : StoreConfig) (server : Behaviour) (welcomes : List Welcome) (races : List Bool)

theorem sound_start : (Scene.start config server welcomes races).Sound stale where
  custody := (record_start config server welcomes races).custody
  placed := .refl _
  bounded := Nat.zero_le _
  limited := Nat.le_refl _
  distinct := List.nodup_nil
  ordered := by simp [Scene.start, World.sentOver, World.link?, World.start]
  newest := by simp [Scene.start, Scene.out, World.leasesOut, World.start]
  last := by simp [Scene.start, World.start]
  severed := by simp [Scene.start, World.Severed, World.link?, World.start]
  awaited := by simp [Scene.start, World.backlog, World.link?, World.start]

theorem start_arrives : Arrives stale (Scene.start config server welcomes races) []
    (World.start config server welcomes races) :=
  ⟨[], .refl, sound_start config server welcomes races⟩

end Start

end RecordSql.Store
