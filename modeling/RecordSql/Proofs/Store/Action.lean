import RecordSql.Store.World

namespace RecordSql.Store

variable {α β : Type}

-- What an action gives when it starts in a world, and the world after it.
def Action.answer (action : Action α) (w : World) : α := (action.run w).1

def Action.after (action : Action α) (w : World) : World := (action.run w).2

namespace Action

variable (w : World)

@[simp] theorem answer_pure (a : α) : Action.answer (pure a) w = a := rfl

@[simp] theorem after_pure (a : α) : Action.after (pure a) w = w := rfl

@[simp] theorem answer_bind (action : Action α) (next : α → Action β) :
    Action.answer (action >>= next) w = (next (action.answer w)).answer (action.after w) := rfl

@[simp] theorem after_bind (action : Action α) (next : α → Action β) :
    Action.after (action >>= next) w = (next (action.answer w)).after (action.after w) := rfl

@[simp] theorem answer_map (f : α → β) (action : Action α) :
    Action.answer (f <$> action) w = f (action.answer w) := rfl

@[simp] theorem answer_get : Action.answer get w = w := rfl

@[simp] theorem after_get : Action.after get w = w := rfl

-- What is got is put in at once, also in what is decided about it.
theorem answer_get_bind (next : World → Action β) :
    Action.answer (get >>= next) w = (next w).answer w := rfl

theorem after_get_bind (next : World → Action β) :
    Action.after (get >>= next) w = (next w).after w := rfl

@[simp] theorem after_set (next : World) : Action.after (set next) w = next := rfl

@[simp] theorem after_modify (change : World → World) :
    Action.after (modify change) w = change w := rfl

end Action

section Await

variable {P : World → Prop} (ready : World → Option α)

-- Waiting moves the clock and lets the links go on, and nothing else. It ends as soon as there
-- is something to give.
theorem awaitWith_spec (hs : ∀ w, P w → P w.settle) (hw : ∀ w tick, P w → P (w.waitFor tick))
    (limit : Option Nat) (fuel : Nat) (w : World) (h : P w) :
    P ((awaitWith ready limit fuel).after w) ∧
      ∀ a, (awaitWith ready limit fuel).answer w = some a →
        ready ((awaitWith ready limit fuel).after w) = some a := by
  induction fuel generalizing w with
  | zero => exact ⟨h, fun a ha => by simp [awaitWith] at ha⟩
  | succ fuel ih =>
    unfold awaitWith
    simp only [Action.answer_bind, Action.after_bind, Action.answer_get, Action.after_get]
    cases hr : ready w with
    | some a => exact ⟨h, fun b hb => by simpa [hr] using hb⟩
    | none =>
      cases hd : w.nextDue with
      | none =>
        cases limit with
        | none => exact ⟨h, fun a ha => by simp at ha⟩
        | some tick => exact ⟨hw _ _ h, fun a ha => by simp at ha⟩
      | some due =>
        cases limit with
        | none => exact ih _ (hs _ (hw _ _ h))
        | some tick =>
          by_cases ht : tick ≤ due
          · simp only [ht, if_true]
            exact ⟨hw _ _ h, fun a ha => by simp at ha⟩
          · simp only [ht, if_false]
            exact ih _ (hs _ (hw _ _ h))

theorem awaitUntil_keeps (hs : ∀ w, P w → P w.settle) (hw : ∀ w tick, P w → P (w.waitFor tick))
    (limit : Option Nat) (w : World) (h : P w) : P ((awaitUntil ready limit).after w) :=
  (awaitWith_spec ready hs hw _ _ w h).1

theorem awaitUntil_ready (limit : Option Nat) (w : World) (a : α)
    (h : (awaitUntil ready limit).answer w = some a) :
    ready ((awaitUntil ready limit).after w) = some a :=
  (awaitWith_spec (P := fun _ => True) ready (fun _ _ => trivial) (fun _ _ _ => trivial)
    _ _ w trivial).2 a h

theorem await_ready (limit : Option Deadline) (w : World) (a : α)
    (h : (await ready limit).answer w = some a) :
    ready ((await ready limit).after w) = some a :=
  awaitUntil_ready ready _ w a h

-- Who waits until a tick waits for nothing else.
theorem after_waitUntil (tick : Nat) (w : World) :
    (waitUntil tick).after w = if w.now.lastTick < tick then
      (awaitUntil (fun _ => (none : Option Unit)) (some tick)).after w else w := by
  rw [waitUntil, Action.after_get_bind]
  split <;> rfl

end Await

end RecordSql.Store
