import RecordSql.Proofs.Store.Record

namespace RecordSql.Store

open Server

variable {opens : Content → Prop} {begun : List Transaction} {past : List Event} {w : World}
  {name : String} {t : Transaction}

section Operations

theorem handed_keeps (h : Record opens begun past w) (limit : Deadline) :
    Record opens begun (past ++ handedEvents w limit) w := by
  obtain ⟨hf, ha⟩ := acquire_acquires limit w h.custody
  unfold handedEvents
  generalize (acquire limit).after w = after at *
  generalize (acquire limit).answer w = result at *
  cases result with
  | ok lease => exact h.hand ⟨ha.opened, ha.ended⟩
  | error e => simpa using h

theorem begun_keeps {after : World} {result : Except Error Transaction}
    (h : Record opens begun past w)
    (hb : Begun opens (begun.map (·.lease)) w after result) :
    match result with
    | .ok t => Record opens (t :: begun) (past ++ [.opened t]) after
    | .error _ => Record opens begun past after := by
  cases result with
  | ok t => exact h.opened hb
  | error e => exact h.goOn hb.1 hb.2

variable (name) (hrollback : ¬opens (.batch rollbackSql))

include hrollback in
theorem dropNamed_keeps (h : Record opens begun past w) :
    Record opens begun (past ++ dropEvents name w) ((dropNamed name).after w) ∧
      ((dropNamed name).after w).transaction? name = none := by
  rw [dropNamed, Action.after_get_bind]
  unfold dropEvents namedEvents
  cases ht : w.transaction? name with
  | none =>
    dsimp only
    rw [List.append_nil, Action.after_pure]
    exact ⟨h, ht⟩
  | some t =>
    have hr := h.release ht
    obtain ⟨hc, hf⟩ := abandon_ends hrollback t hr.custody
    dsimp only
    rw [Action.after_bind, Action.after_set]
    refine ⟨hr.ending rfl hc hf, ?_⟩
    unfold World.transaction?
    rw [hf.transactions]
    exact transaction?_removeTransaction w name

include hrollback in
theorem keepNamed_keeps (h : Record opens (t :: begun) past w) :
    Record opens begun (past ++ dropEvents name w) ((keepNamed name t).after w) := by
  obtain ⟨hd, hn⟩ := dropNamed_keeps name hrollback h
  rw [keepNamed, Action.after_bind, Action.after_modify]
  exact hd.keep hn

include hrollback in
-- To let go of a name is to let go of what it stands for.
theorem dropOpen_keeps (h : Record opens begun past w) :
    Record opens begun (past ++ dropEvents name w)
      ((withNamed name fun _ _ => do
        dropNamed name
        return .done).after w) := by
  have hd := (dropNamed_keeps name hrollback h).1
  rw [withNamed, Action.after_get_bind]
  cases ht : w.transaction? name with
  | none =>
    dsimp only
    rw [dropEvents, namedEvents, ht, List.append_nil, Action.after_pure]
    exact h
  | some t =>
    dsimp only
    rwa [Action.after_bind, Action.after_pure]

-- A statement on the open transaction of a name.
theorem statementNamed_keeps {sql : String} {use : World → Transaction → Action Answer}
    {limit : Transaction → Deadline}
    (hs : ∀ t, Sends opens t.lease (pieces (some (limit t)) sql) (use w t))
    (h : Record opens begun past w) :
    Record opens begun
      (past ++ namedEvents name w fun t => .statement sql ((limit t).hasRung w.now))
      ((withNamed name use).after w) := by
  rw [withNamed, Action.after_get_bind]
  unfold namedEvents
  cases ht : w.transaction? name with
  | none =>
    dsimp only
    rwa [List.append_nil, Action.after_pure]
  | some t =>
    have hp := perm_of_lookup h.custody.named ht
    have hlive : t ∈ w.live begun :=
      List.mem_append_right _ ((hp.map (·.2)).mem_iff.mpr List.mem_cons_self)
    have hu : w.Uses (begun.map (·.lease)) t.lease := by
      have hm := (hp.map (·.2.lease)).mem_iff.mpr List.mem_cons_self
      exact List.mem_append_right _ hm
    obtain ⟨contents, hpiece, hc, hf⟩ := hs t _ w h.custody hu
    rw [pieces, Option.any_some] at hpiece
    exact h.speak hlive hpiece hc hf

theorem quietNamed_keeps {use : World → Transaction → Action Answer}
    (hq : ∀ t, Quiet (use w t)) (h : Record opens begun past w) :
    Record opens begun past ((withNamed name use).after w) := by
  rw [withNamed, Action.after_get_bind]
  cases w.transaction? name with
  | none =>
    dsimp only
    rwa [Action.after_pure]
  | some t =>
    obtain ⟨hc, hf⟩ := (hq t).keeps h.custody
    exact h.goOn hc hf.aside

theorem endNamed_keeps {how : Ending}
    {finish : Deadline → Transaction → Action (Except Error Unit)}
    (hfinish : ∀ context t held w, Custody opens (t.lease :: held) w →
      ∃ last, Closing (some how) last ∧ Custody opens held ((finish context t).after w) ∧
        Follows (t.lease.speech last) w ((finish context t).after w))
    (h : Record opens begun past w) :
    Record opens begun (past ++ namedEvents name w fun _ => .ending how)
      ((endNamed name finish).after w) := by
  rw [endNamed, withNamed, Action.after_get_bind]
  unfold namedEvents
  cases ht : w.transaction? name with
  | none =>
    dsimp only
    rwa [List.append_nil, Action.after_pure]
  | some t =>
    have hr := h.release ht
    obtain ⟨last, ha, hc, hf⟩ := hfinish w.context t _ _ hr.custody
    dsimp only
    rw [Action.after_bind, Action.after_set, Action.after_bind, Action.after_pure]
    exact hr.ending ha hc hf

include hrollback in
theorem openNamed_keeps {action : Action (Except Error Transaction)}
    (hb : Begun opens (begun.map (·.lease)) w (action.after w) (action.answer w))
    (h : Record opens begun past w) :
    Record opens begun (past ++ openEvents name w action)
      ((do keepOpened name (← action)).after w) := by
  have hk := begun_keeps h hb
  rw [Action.after_bind]
  unfold openEvents
  generalize action.after w = after at *
  generalize action.answer w = result at *
  cases result with
  | ok t =>
    have hn := keepNamed_keeps name hrollback hk
    rw [List.append_assoc] at hn
    dsimp only [keepOpened]
    rw [Action.after_bind, Action.after_pure]
    exact hn
  | error e =>
    dsimp only [keepOpened]
    rwa [List.append_nil, Action.after_pure]

end Operations

section Steps

theorem Record.silently (h : Record opens begun past w) {after : World}
    (hs : Custody opens (begun.map (·.lease)) after ∧ Follows silence w after) :
    Record opens begun past after :=
  h.goOn hs.1 hs.2.aside

-- An operation outside of any transaction happens after a connection was handed out for it.
theorem Record.meanwhile (h : Record opens begun past w) {after : World} (limit : Deadline)
    (hs : Custody opens (begun.map (·.lease)) after ∧ Aside w after) :
    Record opens begun (past ++ handedEvents w limit) after :=
  (handed_keeps h limit).goOn hs.1 hs.2

-- What happens in a step is added to what happened before. The induction is on the step and the
-- steps inside of it.
mutual

theorem Step.act_keeps (hcommit : ¬opens (.batch commitSql))
    (hrollback : ¬opens (.batch rollbackSql)) : ∀ (step : Step) (past : List Event) (w : World),
    (∀ sql ∈ step.statements, Harmless opens sql) → Record opens [] past w →
      Record opens [] (past ++ step.events w) (step.act.after w)
  | .context timeout, past, w, _, h => by
    rw [Step.act, Step.events, List.append_nil, Action.after_bind, Action.after_pure,
      Action.after_modify, newContext]
    generalize Deadline.after w.now _ = context
    have hf : Follows silence w { w with context } := .of_eq rfl (Nat.le_refl _) rfl
    exact h.silently ⟨h.custody.silent hf rfl (.refl _), hf⟩
  | .advance time, past, w, _, h => by
    rw [Step.act, Step.events, List.append_nil, Action.after_bind, Action.after_pure,
      Action.after_modify]
    exact h.silently (h.custody.atMoment _)
  | .close, past, w, _, h => by
    rw [Step.act, Step.events, List.append_nil, Action.after_bind, Action.after_pure,
      Action.after_modify]
    exact h.silently h.custody.close
  | .begin name, past, w, _, h => by
    rw [Step.act, Step.events, Action.after_get_bind, ← List.append_assoc]
    have hh := handed_keeps h w.openingLimit
    exact openNamed_keeps name hrollback (beginTransaction_begins w.context hh.custody) hh
  | .beginUnpooled name timeout, past, w, _, h => by
    rw [Step.act, Step.events, Action.after_get_bind]
    exact openNamed_keeps name hrollback (beginUnpooled_begins _ h.custody) h
  | .exec sql arguments, past, w, hs, h => by
    rw [Step.act, Step.events, Action.after_get_bind, Action.after_bind, Action.after_pure]
    exact h.meanwhile _ (exec_keeps w.context arguments (hs sql (by simp [Step.statements]))
      h.custody)
  | .query read sql arguments, past, w, hs, h => by
    rw [Step.act, Step.events, Action.after_get_bind, Action.after_bind, Action.after_pure]
    exact h.meanwhile _ (query_keeps w.context arguments _ _
      (hs sql (by simp [Step.statements])) h.custody)
  | .queryRow read sql arguments, past, w, hs, h => by
    rw [Step.act, Step.events, Action.after_get_bind, Action.after_bind, Action.after_pure]
    exact h.meanwhile _ (queryRow_keeps w.context arguments _ _
      (hs sql (by simp [Step.statements])) h.custody)
  | .call call sql arguments, past, w, hs, h => by
    rw [Step.act, Step.events, Action.after_get_bind, Action.after_bind, Action.after_pure]
    exact h.meanwhile _ (call_keeps w.context arguments call
      (hs sql (by simp [Step.statements])) h.custody)
  | .callIn name call sql arguments, past, w, _, h => by
    rw [Step.act, Step.events]
    exact statementNamed_keeps name (fun t => (callOn_sends _ sql arguments call).bind_quiet
      fun _ => quiet_pure _) h
  | .execIn name sql arguments, past, w, _, h => by
    rw [Step.act, Step.events]
    exact statementNamed_keeps name (fun t => (executeOn_runs _ sql arguments).sends.bind_quiet
      fun _ => quiet_pure _) h
  | .returnedIdIn name reader sql arguments, past, w, _, h => by
    rw [Step.act, Step.events]
    cases hr : hasReturningClause sql with
    | true =>
      rw [if_pos rfl]
      exact statementNamed_keeps name (fun t =>
        (returnedIdOn_runs _ sql arguments reader hr).sends.bind_quiet fun _ => quiet_pure _) h
    | false =>
      rw [if_neg (by simp), List.append_nil]
      exact quietNamed_keeps name (fun t => (quiet_returnedIdOn _ sql arguments reader hr).bind
        fun _ => quiet_pure _) h
  | .deadlineOf name, past, w, _, h => by
    rw [Step.act, Step.events, List.append_nil]
    exact quietNamed_keeps name (fun t => quiet_pure _) h
  | .commit name, past, w, _, h => by
    rw [Step.act, Step.events]
    exact endNamed_keeps name (fun context t _ _ hc => commit_ends hcommit context t hc) h
  | .rollback name, past, w, _, h => by
    rw [Step.act, Step.events]
    exact endNamed_keeps name (fun context t _ _ hc => rollback_ends hrollback context t hc) h
  | .drop name, past, w, _, h => by
    rw [Step.act, Step.events]
    exact dropOpen_keeps name hrollback h
  | .withTransaction name steps outcome, past, w, hs, h => by
    have hh := handed_keeps h w.openingLimit
    have hb := beginTransaction_begins w.context hh.custody
    have hk := begun_keeps hh hb
    rw [Step.act, Step.events, Action.after_get_bind, Action.after_bind]
    unfold openEvents
    generalize (beginTransaction w.context).after w = opened at *
    generalize (beginTransaction w.context).answer w = result at *
    cases result with
    | error e =>
      dsimp only
      rwa [List.append_nil, List.append_nil, Action.after_pure]
    | ok t =>
      have hkept := keepNamed_keeps name hrollback hk
      dsimp only
      rw [Action.after_bind]
      generalize (keepNamed name t).after opened = kept at *
      have hinner := performAll_keeps hcommit hrollback steps _ kept hs hkept
      rw [Action.after_bind, Action.after_bind, Action.after_pure]
      generalize (performAll steps).after kept = left at *
      have hdrop := (dropNamed_keeps name hrollback hinner).1
      simpa only [List.append_assoc, List.cons_append, List.nil_append] using hdrop

theorem performAll_keeps (hcommit : ¬opens (.batch commitSql))
    (hrollback : ¬opens (.batch rollbackSql)) :
    ∀ (steps : List Step) (past : List Event) (w : World),
    (∀ sql ∈ statementsOf steps, Harmless opens sql) → Record opens [] past w →
      Record opens [] (past ++ history steps w) ((performAll steps).after w)
  | [], past, w, _, h => by
    rw [performAll, history, List.append_nil, Action.after_pure]
    exact h
  | step :: rest, past, w, hs, h => by
    rw [statementsOf] at hs
    have hstep := Step.act_keeps hcommit hrollback step past w
      (fun sql hm => hs sql (List.mem_append_left _ hm)) h
    have hsettled := hstep.silently hstep.custody.settle
    have hrest := performAll_keeps hcommit hrollback rest _ _
      (fun sql hm => hs sql (List.mem_append_right _ hm)) hsettled
    rw [performAll, history, Action.after_bind, Action.after_bind, Action.after_pure,
      ← List.append_assoc]
    exact hrest

end

-- A store that has just been set up has nothing to tell.
theorem record_start (config : StoreConfig) (server : Behaviour) (welcomes : List Welcome)
    (races : List Bool) : Record opens [] [] (World.start config server welcomes races) where
  custody := by
    constructor
    · exact ⟨List.nodup_nil, by simp [World.leasesOut, World.start], by
        simp [World.leasesOut, World.start], rfl⟩
    · exact List.nodup_nil
    · simp [World.sentOver, World.link?, World.start]
    · simp [World.start]
    · simp [World.start]
  handed := by simp
  going := by simp [World.live, World.start]
  finished := by simp
  numbered := by simp
  used := by simp
  distinct := by simp

end Steps

end RecordSql.Store
