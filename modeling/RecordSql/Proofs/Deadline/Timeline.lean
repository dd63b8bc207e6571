import Mathlib.Data.List.Infix
import RecordSql.Deadline

namespace RecordSql.Deadline

-- A timeout that was given at a moment.
structure Call where
  moment : Moment
  timeout : Duration
  deriving DecidableEq

-- The moment at which a call by itself expires.
def Call.expiry (c : Call) : Nat := c.moment.nanos + min c.timeout.nanos farFuture.nanos

-- A deadline, the calls that it is made of, and the numbers of the deadlines that it was
-- derived from, directly or through others.
structure Made where
  deadline : Deadline
  calls : List Call
  sources : List Nat
  deriving DecidableEq

-- What is done with deadlines. They are numbered from nought in the order in which they are
-- made.
inductive Step
  | advance (time : Duration)
  | after (timeout : Duration)
  | child (parent : Nat) (timeout : Duration)
  | earliest (first second : Nat)

structure Timeline where
  now : Moment := .start
  made : List Made := []

namespace Timeline

def add (t : Timeline) (m : Made) : Timeline := { t with made := t.made ++ [m] }

-- A step that names a deadline which is not there does nothing.
def apply (t : Timeline) : Step → Timeline
  | .advance time => { t with now := t.now.add time }
  | .after timeout => t.add ⟨Deadline.after t.now timeout, [⟨t.now, timeout⟩], []⟩
  | .child parent timeout =>
    match t.made[parent]? with
    | none => t
    | some m =>
      t.add ⟨m.deadline.child t.now timeout, m.calls ++ [⟨t.now, timeout⟩], parent :: m.sources⟩
  | .earliest first second =>
    match t.made[first]?, t.made[second]? with
    | some m, some other =>
      t.add ⟨m.deadline.earliest other.deadline, m.calls ++ other.calls,
        first :: second :: (m.sources ++ other.sources)⟩
    | _, _ => t

def run (t : Timeline) (steps : List Step) : Timeline := steps.foldl apply t

end Timeline

section Tightest

variable {d other : Deadline} {calls more : List Call}

-- A deadline is that of one of its calls, and no call expires before this one.
def Tightest (calls : List Call) (d : Deadline) : Prop :=
  ∃ call ∈ calls, d = after call.moment call.timeout ∧
    ∀ another ∈ calls, call.expiry ≤ another.expiry

theorem expiry_after (call : Call) :
    (after call.moment call.timeout).expiry.nanos = call.expiry := rfl

theorem child_eq_earliest (d : Deadline) (now : Moment) (timeout : Duration) :
    d.child now timeout = d.earliest (after now timeout) := rfl

theorem tightest_after (now : Moment) (timeout : Duration) :
    Tightest [⟨now, timeout⟩] (after now timeout) := by
  refine ⟨⟨now, timeout⟩, List.mem_singleton_self _, rfl, fun another hanother => ?_⟩
  rw [List.mem_singleton.mp hanother]

theorem Tightest.earliest (h : Tightest calls d) (ho : Tightest more other) :
    Tightest (calls ++ more) (d.earliest other) := by
  obtain ⟨call, hmem, rfl, hleast⟩ := h
  obtain ⟨rival, hrival, rfl, hleastRival⟩ := ho
  unfold Deadline.earliest
  rw [expiry_after, expiry_after]
  split
  · next hlt =>
    refine ⟨rival, List.mem_append_right _ hrival, rfl, fun another hanother => ?_⟩
    rcases List.mem_append.mp hanother with hanother | hanother
    · exact Nat.le_of_lt (Nat.lt_of_lt_of_le hlt (hleast another hanother))
    · exact hleastRival another hanother
  · next hle =>
    refine ⟨call, List.mem_append_left _ hmem, rfl, fun another hanother => ?_⟩
    rcases List.mem_append.mp hanother with hanother | hanother
    · exact hleast another hanother
    · exact Nat.le_trans (Nat.le_of_not_lt hle) (hleastRival another hanother)

end Tightest

section Narrowing

variable {d source : Deadline}

-- What expires no later has no more time left, at any moment.
theorem remaining_le (h : d.expiry.nanos ≤ source.expiry.nanos) (moment : Moment) :
    (d.remaining moment).nanos ≤ (source.remaining moment).nanos :=
  Nat.sub_le_sub_right h _

-- What is expired stays so, together with all that expires no later.
theorem isExpired_of_le (h : d.expiry.nanos ≤ source.expiry.nanos) {moment later : Moment}
    (hlater : moment.nanos ≤ later.nanos) (hexpired : source.isExpired moment = true) :
    d.isExpired later = true :=
  decide_eq_true (Nat.le_trans h (Nat.le_trans (of_decide_eq_true hexpired) hlater))

end Narrowing

namespace Timeline

variable {t other : Timeline} {m : Made}

-- One timeline goes on from another: the clock is not set back, and what was made stays.
structure GoesOn (t other : Timeline) : Prop where
  now : t.now.nanos ≤ other.now.nanos
  made : t.made <+: other.made

theorem GoesOn.refl (t : Timeline) : t.GoesOn t := ⟨Nat.le_refl _, List.prefix_rfl⟩

theorem GoesOn.trans {last : Timeline} (h : t.GoesOn other) (ho : other.GoesOn last) :
    t.GoesOn last :=
  ⟨Nat.le_trans h.now ho.now, h.made.trans ho.made⟩

theorem GoesOn.getElem? (h : t.GoesOn other) {i : Nat} (hm : t.made[i]? = some m) :
    other.made[i]? = some m := by
  obtain ⟨more, hmore⟩ := h.made
  have hlt : i < t.made.length := (List.getElem?_eq_some_iff.mp hm).1
  rw [← hmore, List.getElem?_append_left hlt, hm]

theorem goesOn_add (t : Timeline) (m : Made) : t.GoesOn (t.add m) :=
  ⟨Nat.le_refl _, List.prefix_append _ _⟩

theorem goesOn_apply (t : Timeline) (step : Step) : t.GoesOn (t.apply step) := by
  cases step with
  | advance time => exact ⟨Nat.le_add_right _ _, List.prefix_rfl⟩
  | after timeout => exact goesOn_add t _
  | child parent timeout =>
    rw [apply]
    split
    · exact .refl t
    · exact goesOn_add t _
  | earliest first second =>
    rw [apply]
    split
    · exact goesOn_add t _
    · exact .refl t

theorem goesOn_run (t : Timeline) (steps : List Step) : t.GoesOn (t.run steps) := by
  induction steps generalizing t with
  | nil => exact .refl t
  | cons step rest ih => exact (goesOn_apply t step).trans (ih (t.apply step))

-- What holds of a deadline of a timeline, as long as the timeline goes on.
structure Keeps (t : Timeline) (m : Made) : Prop where
  tightest : Tightest m.calls m.deadline
  past : ∀ call ∈ m.calls, call.moment.nanos ≤ t.now.nanos
  sources : ∀ i ∈ m.sources, ∃ source, t.made[i]? = some source ∧
    m.deadline.expiry.nanos ≤ source.deadline.expiry.nanos

def Sound (t : Timeline) : Prop := ∀ m ∈ t.made, t.Keeps m

theorem Keeps.goesOn (h : t.Keeps m) (ho : t.GoesOn other) : other.Keeps m where
  tightest := h.tightest
  past call hcall := Nat.le_trans (h.past call hcall) ho.now
  sources i hi := by
    obtain ⟨source, hsource, hle⟩ := h.sources i hi
    exact ⟨source, ho.getElem? hsource, hle⟩

theorem Sound.add (h : t.Sound) (hm : t.Keeps m) : (t.add m).Sound := by
  intro made hmade
  refine Keeps.goesOn ?_ (goesOn_add t m)
  rcases List.mem_append.mp hmade with hmade | hmade
  · exact h made hmade
  · exact List.mem_singleton.mp hmade ▸ hm

-- A deadline that expires no later than another one may be derived from it.
theorem Keeps.sources_le (h : t.Keeps m) {number : Nat} (hm : t.made[number]? = some m)
    {d : Deadline} (hle : d.expiry.nanos ≤ m.deadline.expiry.nanos) :
    ∀ i ∈ number :: m.sources, ∃ source, t.made[i]? = some source ∧
      d.expiry.nanos ≤ source.deadline.expiry.nanos := by
  intro i hi
  rcases List.mem_cons.mp hi with rfl | hi
  · exact ⟨m, hm, hle⟩
  · obtain ⟨source, hsource, hexpiry⟩ := h.sources i hi
    exact ⟨source, hsource, Nat.le_trans hle hexpiry⟩

theorem keeps_after (t : Timeline) (timeout : Duration) :
    t.Keeps ⟨Deadline.after t.now timeout, [⟨t.now, timeout⟩], []⟩ where
  tightest := tightest_after t.now timeout
  past call hcall := by rw [List.mem_singleton.mp hcall]
  sources i hi := nomatch hi

theorem Keeps.child (h : t.Keeps m) {parent : Nat} (hm : t.made[parent]? = some m)
    (timeout : Duration) :
    t.Keeps ⟨m.deadline.child t.now timeout, m.calls ++ [⟨t.now, timeout⟩],
      parent :: m.sources⟩ where
  tightest := by
    rw [child_eq_earliest]
    exact h.tightest.earliest (tightest_after t.now timeout)
  past call hcall := by
    rcases List.mem_append.mp hcall with hcall | hcall
    · exact h.past call hcall
    · rw [List.mem_singleton.mp hcall]
  sources := h.sources_le hm (expiry_child m.deadline t.now timeout ▸ Nat.min_le_left _ _)

theorem Keeps.earliest {rival : Made} (h : t.Keeps m) (hr : t.Keeps rival) {first second : Nat}
    (hm : t.made[first]? = some m) (hrival : t.made[second]? = some rival) :
    t.Keeps ⟨m.deadline.earliest rival.deadline, m.calls ++ rival.calls,
      first :: second :: (m.sources ++ rival.sources)⟩ where
  tightest := h.tightest.earliest hr.tightest
  past call hcall := (List.mem_append.mp hcall).elim (h.past call) (hr.past call)
  sources i hi := by
    have hexpiry := expiry_earliest m.deadline rival.deadline
    have hfirst := h.sources_le hm (d := m.deadline.earliest rival.deadline) (by omega) i
    have hsecond := hr.sources_le hrival (d := m.deadline.earliest rival.deadline) (by omega) i
    simp only [List.mem_cons, List.mem_append] at hi hfirst hsecond
    tauto

theorem Sound.apply (h : t.Sound) (step : Step) : (t.apply step).Sound := by
  have hkeeps {number : Nat} {m : Made} (hm : t.made[number]? = some m) : t.Keeps m :=
    h m (List.mem_of_getElem? hm)
  cases step with
  | advance time =>
    intro m hm
    exact (h m hm).goesOn (goesOn_apply t (.advance time))
  | after timeout => exact h.add (keeps_after t timeout)
  | child parent timeout =>
    rw [Timeline.apply]
    split
    · exact h
    · next m hm => exact h.add ((hkeeps hm).child hm timeout)
  | earliest first second =>
    rw [Timeline.apply]
    split
    · next m rival hm hrival => exact h.add ((hkeeps hm).earliest (hkeeps hrival) hm hrival)
    · exact h

theorem Sound.run (h : t.Sound) (steps : List Step) : (t.run steps).Sound := by
  induction steps generalizing t with
  | nil => exact h
  | cons step rest ih => exact ih (h.apply step)

theorem sound_start : ({} : Timeline).Sound := fun _ hm => nomatch hm

-- What a deadline of a timeline is worth: it is expired from the moment on at which the first of
-- its calls expires, and names the timeout of that call; it never leaves more time than a deadline
-- that it was derived from; and when it is expired it stays so, with all that is derived from it at
-- any time.
structure Narrow (t : Timeline) (number : Nat) (m : Made) : Prop where
  minimum : ∃ call ∈ m.calls, m.deadline.expiry.nanos = call.expiry ∧
    m.deadline.timeout = call.timeout ∧
    (∀ moment, m.deadline.isExpired moment = true ↔ call.expiry ≤ moment.nanos) ∧
    ∀ another ∈ m.calls, call.expiry ≤ another.expiry
  past : ∀ call ∈ m.calls, call.moment.nanos ≤ t.now.nanos
  remaining : ∀ i ∈ m.sources, ∃ source, t.made[i]? = some source ∧
    ∀ moment, (m.deadline.remaining moment).nanos ≤ (source.deadline.remaining moment).nanos
  expired (moment : Moment) :
    m.deadline.isExpired moment = true ↔ m.deadline.remaining moment = ⟨0⟩
  stays (hexpired : m.deadline.isExpired t.now = true) (more : List Step) :
    (t.run more).made[number]? = some m ∧ m.deadline.isExpired (t.run more).now = true ∧
      ∀ derived ∈ (t.run more).made, number ∈ derived.sources →
        derived.deadline.isExpired (t.run more).now = true

theorem Sound.narrow (h : t.Sound) {number : Nat} (hm : t.made[number]? = some m) :
    t.Narrow number m where
  minimum := by
    obtain ⟨call, hcall, heq, hleast⟩ := (h m (List.mem_of_getElem? hm)).tightest
    rw [heq]
    exact ⟨call, hcall, rfl, rfl, fun moment => decide_eq_true_iff, hleast⟩
  past := (h m (List.mem_of_getElem? hm)).past
  remaining i hi := by
    obtain ⟨source, hsource, hle⟩ := (h m (List.mem_of_getElem? hm)).sources i hi
    exact ⟨source, hsource, remaining_le hle⟩
  expired := isExpired_iff m.deadline
  stays hexpired more := by
    have hgoes := goesOn_run t more
    have hlater := hgoes.getElem? hm
    refine ⟨hlater, isExpired_of_le (Nat.le_refl _) hgoes.now hexpired, ?_⟩
    intro derived hderived hi
    obtain ⟨source, hsource, hle⟩ := ((h.run more) derived hderived).sources number hi
    obtain rfl : m = source := Option.some.inj (hlater.symm.trans hsource)
    exact isExpired_of_le hle hgoes.now hexpired

-- Deadlines only narrow, however they are derived from each other and whenever.
theorem narrow_of_run (steps : List Step) {number : Nat} {m : Made}
    (hm : (({} : Timeline).run steps).made[number]? = some m) :
    (({} : Timeline).run steps).Narrow number m :=
  (sound_start.run steps).narrow hm

-- A timeout without end, narrowed twice, with some time in between. The last deadline stems from
-- both narrower ones, and the later of these expires first.
def narrowedTwice : List Step :=
  [.after (.ofSeconds 18446744073709551615), .advance (.ofMillis 3), .child 0 (.ofMillis 50),
    .advance (.ofMillis 3), .child 0 (.ofMillis 40), .earliest 1 2]

theorem narrow_narrowedTwice :
    ∃ m, (({} : Timeline).run narrowedTwice).made[3]? = some m ∧
      m.calls.length = 4 ∧ m.sources = [1, 2, 0, 0] ∧
      m.deadline = Deadline.after (Moment.start.add (.ofMillis 6)) (.ofMillis 40) ∧
      (({} : Timeline).run narrowedTwice).Narrow 3 m := by
  have hm : (({} : Timeline).run narrowedTwice).made[3]? = some _ := rfl
  exact ⟨_, hm, by decide, by decide, by decide, narrow_of_run narrowedTwice hm⟩

end Timeline

end RecordSql.Deadline
