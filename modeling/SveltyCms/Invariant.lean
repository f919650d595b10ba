import SveltyCms.Trace

/-!
# The run invariant

`Inv env s os` ties the state a run reaches to its trace: the pending timer is
`pendingOf os`, the rename slot is `slotOf os`, the clock is no earlier than any time in
the trace and no later than the pending deadline, and every observation agrees with the
trace before it (`Fired`, `Armed`, `Ordered`). Each step function has one equation
(`handleWatcherEvent_eq`, `fireCompileTimeout_eq`, `step_eq_some`), each kind of step one
preservation lemma, and `Run.inv` is the induction over a run, done once.
-/

namespace SveltyCms

/-! ## What each step does -/

/-- The handling the callback for `event` gives at `currentTime` when the rename slot is
`slot`. -/
def handlingOf (event : WatchEvent) (slot : Option String × Nat) (currentTime : Nat) :
    Handling :=
  if event.isUnlink then .deleted
  else if event.isAddOrChange then
    match renameSource slot.1 slot.2 currentTime with
    | some source => .renamed source
    | none => .updated
  else .other

theorem handlingOf_eq_deleted {e : WatchEvent} {slot : Option String × Nat} {t : Nat} :
    handlingOf e slot t = .deleted ↔ e.isUnlink = true := by
  unfold handlingOf
  split_ifs
  · simp_all
  · split <;> simp_all
  · simp_all

theorem renameSource_of_handlingOf {e : WatchEvent} {slot : Option String × Nat} {t : Nat}
    {src : String} (h : handlingOf e slot t = .renamed src) :
    renameSource slot.1 slot.2 t = some src := by
  unfold handlingOf at h
  split_ifs at h
  split at h <;> simp_all

/-- The continuation a callback leaves at its first `await`. -/
def firstAwait (cb : Callback) : List Task :=
  if cb.event.isUnlink then [.callback cb .importCleanup]
  else if cb.event.isAddOrChange then [.callback cb .importCompile] else []

theorem handleWatcherEvent_eq (env : Env) (s : Watcher) (e : WatchEvent) (f : String) :
    handleWatcherEvent env s e f =
      ({ s with
          compileTimeout := if isCollectionFile env.userCollections f
            then some ⟨e, f, s.now + 50⟩ else s.compileTimeout
          running := s.running ++
            if isRolesFile env.rolesPath f then [.rolesReload .importRoles] else [] },
        (if isCollectionFile env.userCollections f then [.collectionFileEvent e f s.now] else []) ++
          if isRolesFile env.rolesPath f then [.rolesFileChanged f] else []) := by
  unfold handleWatcherEvent Watcher.arm
  by_cases hc : isCollectionFile env.userCollections f <;> simp [hc]

theorem fireCompileTimeout_eq (s : Watcher) (p : Timer) :
    fireCompileTimeout s p =
      let cb : Callback := ⟨p.event, p.file, s.now⟩
      let h := handlingOf p.event (s.lastUnlinkFile, s.lastUnlinkTime) s.now
      ({ s with
          compileTimeout := none
          lastUnlinkFile := (slotStep (s.lastUnlinkFile, s.lastUnlinkTime) (.handled cb h)).1
          lastUnlinkTime := (slotStep (s.lastUnlinkFile, s.lastUnlinkTime) (.handled cb h)).2
          running := s.running ++ firstAwait cb },
        .handled cb h :: if h = .other then [.collectionsUpdated cb] else []) := by
  unfold fireCompileTimeout handlingOf firstAwait
  by_cases hu : p.event.isUnlink
  · simp [hu, slotStep]
  · by_cases ha : p.event.isAddOrChange
    · cases hr : renameSource s.lastUnlinkFile s.lastUnlinkTime s.now <;>
        simp [hu, ha, hr, slotStep]
    · simp [hu, ha, slotStep]

/-- A resumed continuation never touches the debounce. -/
theorem quiet_resumeTask (env : Env) (task : Task) (ok : Bool) :
    Quiet (resumeTask env task ok).2 ∧ NoStart (resumeTask env task ok).2 := by
  obtain ⟨_, _, redis⟩ := env
  cases task with
  | callback cb stage =>
    cases stage <;> cases ok <;> cases redis <;>
      simp [resumeTask, resumeCallback, Obs.isCollectionFileEvent, Obs.isHandled]
  | rolesReload stage =>
    cases stage <;> cases ok <;>
      simp [resumeTask, resumeRolesReload, Obs.isCollectionFileEvent, Obs.isHandled]

/-- Everything a step can do. -/
theorem step_eq_some {env : Env} {s s' : Watcher} {i : Input} {o : List Obs}
    (h : step env s i = some (s', o)) :
    (∃ e f, (s', o) = handleWatcherEvent env s e f) ∨
    (∃ t, s.canTick t = true ∧ s' = { s with now := t } ∧ o = []) ∨
    (∃ p, s.compileTimeout = some p ∧ p.deadline = s.now ∧
      (s', o) = fireCompileTimeout s p) ∨
    (∃ task ok, task ∈ s.running ∧
      s' = { s with running := s.running.erase task ++ (resumeTask env task ok).1.toList } ∧
      o = (resumeTask env task ok).2) := by
  cases i with
  | watch e f => exact .inl ⟨e, f, (Option.some.inj h).symm⟩
  | tick t =>
    simp only [step] at h
    split at h
    · cases h; exact .inr (.inl ⟨t, ‹_›, rfl, rfl⟩)
    · cases h
  | fire =>
    simp only [step] at h
    split at h
    · split at h
      · exact .inr (.inr (.inl ⟨_, ‹_›, ‹_›, (Option.some.inj h).symm⟩))
      · cases h
    · cases h
  | resume task ok =>
    simp only [step] at h
    split at h
    · cases h; exact .inr (.inr (.inr ⟨task, ok, ‹_›, rfl, rfl⟩))
    · cases h

/-! ## The invariant -/

/-- A callback start is the pending timer firing at its deadline: it handles the timer's
event and file, and classifies the change with the slot the trace before it left. -/
def Fired (pre : List Obs) : Obs → Prop
  | .handled cb h => pendingOf pre = some ⟨cb.event, cb.file, cb.currentTime⟩ ∧
      h = handlingOf cb.event (slotOf pre) cb.currentTime
  | _ => True

/-- A collection-file event is for a collection file, and comes no later than the deadline
of the timer it clears. -/
def Armed (env : Env) (pre : List Obs) : Obs → Prop
  | .collectionFileEvent _ f t =>
    isCollectionFile env.userCollections f = true ∧ ∀ p ∈ pendingOf pre, t ≤ p.deadline
  | _ => True

/-- An observation's time is no earlier than the times before it. -/
def Ordered (pre : List Obs) (o : Obs) : Prop :=
  ∀ t ∈ o.stamp, ∀ u ∈ pre.filterMap Obs.stamp, u ≤ t

/-- What every run from `Watcher.init` keeps. -/
structure Inv (env : Env) (s : Watcher) (os : List Obs) : Prop where
  timer : s.compileTimeout = pendingOf os
  slot : (s.lastUnlinkFile, s.lastUnlinkTime) = slotOf os
  due : ∀ p ∈ s.compileTimeout, s.now ≤ p.deadline
  past : ∀ t ∈ os.filterMap Obs.stamp, t ≤ s.now
  fired : Each Fired os
  armed : Each (Armed env) os
  ordered : Each Ordered os

/-- One observation stamped `now`, after a trace stamped no later than `now`, is in order. -/
theorem each_ordered_singleton {os : List Obs} {x : Obs} {now : Nat} (hx : x.stamp = some now)
    (hp : ∀ t ∈ os.filterMap Obs.stamp, t ≤ now) :
    Each (fun pre o => Ordered (os ++ pre) o) [x] :=
  each_cons.2 ⟨fun t ht u hu => by
    rw [hx, Option.mem_def, Option.some.injEq] at ht
    rw [List.append_nil] at hu
    exact ht ▸ hp u hu, each_nil _⟩

theorem Inv.init (env : Env) (t : Nat) : Inv env (Watcher.init t) [] :=
  ⟨rfl, rfl, nofun, nofun, each_nil _, each_nil _, each_nil _⟩

variable {env : Env} {s s' : Watcher} {os o : List Obs}

/-- Observations that touch neither the timer nor the slot keep the invariant. -/
theorem Inv.silent (hi : Inv env s os) (hq : Quiet o) (hs : NoStart o)
    (hnow : s'.now = s.now) (ht : s'.compileTimeout = s.compileTimeout)
    (hf : s'.lastUnlinkFile = s.lastUnlinkFile) (hl : s'.lastUnlinkTime = s.lastUnlinkTime) :
    Inv env s' (os ++ o) := by
  have hstamp : o.filterMap Obs.stamp = [] :=
    List.filterMap_eq_nil_iff.2 fun x hx => Obs.stamp_eq_none (hq x hx) (hs x hx)
  refine ⟨?_, ?_, ?_, ?_, ?_, ?_, ?_⟩
  · rw [ht, hi.timer, pendingOf_append_silent _ hq hs]
  · rw [hf, hl, hi.slot, slotOf_append_noStart _ hs]
  · rw [ht, hnow]; exact hi.due
  · rw [List.filterMap_append, hstamp, List.append_nil, hnow]; exact hi.past
  · refine each_append.2 ⟨hi.fired, each_of_mem fun pre x hx => ?_⟩
    have := hs x hx
    cases x <;> simp_all [Fired, Obs.isHandled]
  · refine each_append.2 ⟨hi.armed, each_of_mem fun pre x hx => ?_⟩
    have := hq x hx
    cases x <;> simp_all [Armed, Obs.isCollectionFileEvent]
  · refine each_append.2 ⟨hi.ordered, each_of_mem fun pre x hx => ?_⟩
    simp [Ordered, Obs.stamp_eq_none (hq x hx) (hs x hx)]

/-- A collection-file event re-arms the timer 50 ms ahead. -/
theorem Inv.arm (hi : Inv env s os) {e : WatchEvent} {f : String}
    (hc : isCollectionFile env.userCollections f = true) :
    Inv env (s.arm e f) (os ++ [.collectionFileEvent e f s.now]) := by
  refine ⟨by simp [Watcher.arm, pendingStep], ?_, by simp [Watcher.arm], ?_, ?_, ?_, ?_⟩
  · simpa [Watcher.arm, slotStep] using hi.slot
  · intro t ht
    rcases List.mem_append.1 (List.filterMap_append .. ▸ ht) with ht | ht
    · exact hi.past t ht
    · simp [Obs.stamp] at ht; simp [Watcher.arm, ht]
  · simpa [each_append, Fired] using hi.fired
  · refine each_append.2 ⟨hi.armed, ?_⟩
    simpa [Armed, hc, ← hi.timer] using hi.due
  · exact each_append.2 ⟨hi.ordered, each_ordered_singleton rfl hi.past⟩

theorem Inv.watch (hi : Inv env s os) (e : WatchEvent) (f : String) :
    Inv env (handleWatcherEvent env s e f).1 (os ++ (handleWatcherEvent env s e f).2) := by
  rw [handleWatcherEvent_eq]
  have hr : Quiet (if isRolesFile env.rolesPath f then [.rolesFileChanged f] else []) ∧
      NoStart (if isRolesFile env.rolesPath f then [.rolesFileChanged f] else []) := by
    split <;> simp [Obs.isCollectionFileEvent, Obs.isHandled]
  by_cases hc : isCollectionFile env.userCollections f
  · simp only [hc, if_true, ← List.append_assoc]
    exact (hi.arm hc).silent hr.1 hr.2 rfl rfl rfl rfl
  · simp only [hc, if_false, List.nil_append]
    exact hi.silent hr.1 hr.2 rfl (by simp [hc]) rfl rfl

theorem Watcher.canTick_iff {s : Watcher} {t : Nat} :
    s.canTick t = true ↔ s.now ≤ t ∧ ∀ p ∈ s.compileTimeout, t ≤ p.deadline := by
  cases h : s.compileTimeout <;> simp [Watcher.canTick, h]

theorem Inv.tick (hi : Inv env s os) {t : Nat} (ht : s.canTick t = true) :
    Inv env { s with now := t } os := by
  rw [Watcher.canTick_iff] at ht
  exact { hi with
    due := fun p hp => ht.2 p hp
    past := fun u hu => (hi.past u hu).trans ht.1 }

theorem Inv.fire (hi : Inv env s os) {p : Timer} (hp : s.compileTimeout = some p)
    (hd : p.deadline = s.now) :
    Inv env (fireCompileTimeout s p).1 (os ++ (fireCompileTimeout s p).2) := by
  rw [fireCompileTimeout_eq]
  dsimp only
  generalize hh : handlingOf p.event (s.lastUnlinkFile, s.lastUnlinkTime) s.now = h
  have hrest :
      Quiet (if h = .other then [Obs.collectionsUpdated ⟨p.event, p.file, s.now⟩] else []) ∧
      NoStart (if h = .other then [Obs.collectionsUpdated ⟨p.event, p.file, s.now⟩]
        else []) := by
    split <;> simp [Obs.isCollectionFileEvent, Obs.isHandled]
  rw [← List.singleton_append, ← List.append_assoc]
  refine Inv.silent (s := { s with
      compileTimeout := none
      lastUnlinkFile :=
        (slotStep (s.lastUnlinkFile, s.lastUnlinkTime) (.handled ⟨p.event, p.file, s.now⟩ h)).1
      lastUnlinkTime :=
        (slotStep (s.lastUnlinkFile, s.lastUnlinkTime) (.handled ⟨p.event, p.file, s.now⟩ h)).2
      })
    ?_ hrest.1 hrest.2 rfl rfl rfl rfl
  refine ⟨by simp [pendingStep], by simp [hi.slot], nofun, ?_, ?_, ?_, ?_⟩
  · intro t ht
    rcases List.mem_append.1 (List.filterMap_append .. ▸ ht) with ht | ht
    · exact hi.past t ht
    · simp [Obs.stamp] at ht; simp [ht]
  · refine each_append.2 ⟨hi.fired, ?_⟩
    simp only [each_cons, each_nil, and_true, List.append_nil, Fired]
    exact ⟨by rw [← hi.timer, hp, ← hd], by rw [← hi.slot, hh]⟩
  · exact each_append.2 ⟨hi.armed, by simp [Armed]⟩
  · exact each_append.2 ⟨hi.ordered, each_ordered_singleton rfl hi.past⟩

theorem Inv.step (hi : Inv env s os) {i : Input} (h : step env s i = some (s', o)) :
    Inv env s' (os ++ o) := by
  rcases step_eq_some h with ⟨e, f, he⟩ | ⟨t, ht, rfl, rfl⟩ | ⟨p, hp, hd, he⟩ |
      ⟨task, ok, -, rfl, rfl⟩
  · have := hi.watch e f
    rw [← he] at this
    exact this
  · simpa using hi.tick ht
  · have := hi.fire hp hd
    rw [← he] at this
    exact this
  · exact hi.silent (quiet_resumeTask env task ok).1 (quiet_resumeTask env task ok).2
      rfl rfl rfl rfl

/-- `Inv.fired` at one callback start. -/
theorem Inv.fired_at (hi : Inv env s os) {pre post : List Obs} {cb : Callback} {h : Handling}
    (hos : os = pre ++ .handled cb h :: post) :
    pendingOf pre = some ⟨cb.event, cb.file, cb.currentTime⟩ ∧
      h = handlingOf cb.event (slotOf pre) cb.currentTime :=
  hi.fired pre (.handled cb h) post hos

/-- Every run from `Watcher.init` keeps the invariant. -/
theorem Run.inv {t : Nat} (h : Run env (Watcher.init t) s os) : Inv env s os := by
  induction h with
  | nil => exact Inv.init env t
  | snoc _ hs ih => exact ih.step hs

end SveltyCms
