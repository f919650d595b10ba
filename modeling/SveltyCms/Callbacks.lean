import SveltyCms.Invariant

/-!
# The life of a debounce callback

A callback starts when the timer fires, suspended at its first `await` in the branch of
its event (`firstAwait`), and every resumption moves it along that branch
(`resumeTask`): the deletion branch calls `cleanupOrphanedFiles` once its import returns,
the add/change branch calls `compile`. `Lifecycle s os` collects what a run keeps about
them: a callback is named only once it has started, and no earlier than the clock and the
pending deadline allow; a suspended callback is in its event's branch; and each callback
calls `compile` and `cleanupOrphanedFiles` at most once between the trace and its
suspended continuation (`compileOnce`, `cleanupOnce`). `Run.lifecycle` is the induction
over a run.
-/

namespace SveltyCms

/-- The callback an observation is about. -/
def Obs.callback? : Obs → Option Callback
  | .handled cb _ | .cleanupOrphanedFiles cb | .compile cb | .clearCache cb
  | .updateCollections cb | .generateContentTypes cb | .collectionsUpdated cb
  | .processingError cb | .syncError cb => some cb
  | _ => none

/-- The callback a continuation belongs to. -/
def Task.callback? : Task → Option Callback
  | .callback cb _ => some cb
  | .rolesReload _ => none

/-- The `await`s of the deletion branch. -/
def Await.inDeletion : Await → Bool
  | .importCleanup | .cleanupOrphanedFiles => true
  | _ => false

/-! ## One resumption -/

/-- Everything a resumed callback emits is about that callback. -/
theorem callback?_resumeCallback (r : Bool) (cb : Callback) (st : Await) (ok : Bool) :
    ∀ x ∈ (resumeCallback r cb st ok).2, x.callback? = some cb := by
  intro x hx
  cases st <;> cases ok <;> cases r <;>
    simp only [resumeCallback, List.mem_cons, List.mem_singleton, List.not_mem_nil, or_false,
      Bool.false_eq_true, ite_false, ite_true] at hx <;>
    rcases hx with rfl | rfl <;> rfl

theorem count_compile_resumeCallback (r : Bool) (cb : Callback) (st : Await) (ok : Bool) :
    (resumeCallback r cb st ok).2.count (.compile cb) =
      if st = .importCompile ∧ ok = true then 1 else 0 := by
  cases st <;> cases ok <;> cases r <;> simp [resumeCallback]

theorem count_cleanup_resumeCallback (r : Bool) (cb : Callback) (st : Await) (ok : Bool) :
    (resumeCallback r cb st ok).2.count (.cleanupOrphanedFiles cb) =
      if st = .importCleanup ∧ ok = true then 1 else 0 := by
  cases st <;> cases ok <;> cases r <;> simp [resumeCallback]

section Resume

variable (env : Env) (task : Task) (ok : Bool) (cb : Callback)

theorem callback?_resumeTask_obs :
    ∀ x ∈ (resumeTask env task ok).2, ∀ c, x.callback? = some c →
      task.callback? = some c := by
  cases task with
  | callback cb stage =>
    intro x hx c hc
    exact (callback?_resumeCallback _ cb stage ok x hx).symm.trans hc
  | rolesReload stage =>
    cases stage <;> cases ok <;> simp [resumeTask, resumeRolesReload, Obs.callback?]

/-- A callback stays in its branch. -/
theorem resumeTask_next {cb' : Callback} {st st' : Await}
    (h : (resumeTask env (.callback cb st) ok).1 = some (.callback cb' st')) :
    cb' = cb ∧ st'.inDeletion = st.inDeletion := by
  obtain ⟨_, _, redis⟩ := env
  cases st <;> cases ok <;> cases redis <;> simp [resumeTask, resumeCallback] at h <;>
    obtain ⟨rfl, rfl⟩ := h <;> exact ⟨rfl, rfl⟩

theorem resumeTask_rolesReload_next {st : RolesAwait} {t : Task}
    (h : (resumeTask env (.rolesReload st) ok).1 = some t) : t.callback? = none := by
  cases st <;> cases ok <;> simp [resumeTask, resumeRolesReload] at h
  subst h
  rfl

/-- No resumption goes back to an import that precedes a call. -/
theorem resumeTask_ne_import {st : Await} (hst : st = .importCompile ∨ st = .importCleanup) :
    (resumeTask env task ok).1 ≠ some (.callback cb st) := by
  obtain ⟨_, _, redis⟩ := env
  rcases hst with rfl | rfl <;>
  cases task with
  | callback cb stage =>
    cases stage <;> cases ok <;> cases redis <;> simp [resumeTask, resumeCallback]
  | rolesReload stage => cases stage <;> cases ok <;> simp [resumeTask, resumeRolesReload]

/-- An observation about another callback is not among those a resumption emits. -/
theorem count_resumeTask_of_ne {c : Callback} {stage : Await} {x : Obs}
    (hx : x.callback? = some cb) (hc : c ≠ cb) :
    (resumeTask env (.callback c stage) ok).2.count x = 0 :=
  List.count_eq_zero.2 fun hm =>
    hc (Option.some.inj ((callback?_resumeCallback _ c stage ok x hm).symm.trans hx))

theorem count_compile_resumeTask :
    (resumeTask env task ok).2.count (.compile cb) =
      if task = .callback cb .importCompile ∧ ok = true then 1 else 0 := by
  cases task with
  | callback c stage =>
    by_cases hc : c = cb
    · subst hc
      simp only [resumeTask, count_compile_resumeCallback, Task.callback.injEq, true_and]
    · rw [count_resumeTask_of_ne env ok cb (x := .compile cb) rfl hc, if_neg (by simp [hc])]
  | rolesReload stage => cases stage <;> cases ok <;> simp [resumeTask, resumeRolesReload]

theorem count_cleanup_resumeTask :
    (resumeTask env task ok).2.count (.cleanupOrphanedFiles cb) =
      if task = .callback cb .importCleanup ∧ ok = true then 1 else 0 := by
  cases task with
  | callback c stage =>
    by_cases hc : c = cb
    · subst hc
      simp only [resumeTask, count_cleanup_resumeCallback, Task.callback.injEq, true_and]
    · rw [count_resumeTask_of_ne env ok cb (x := .cleanupOrphanedFiles cb) rfl hc,
        if_neg (by simp [hc])]
  | rolesReload stage => cases stage <;> cases ok <;> simp [resumeTask, resumeRolesReload]

end Resume

/-! ## The invariant -/

/-- The callback is named by the trace or suspended in the state. -/
def Named (s : Watcher) (os : List Obs) (cb : Callback) : Prop :=
  (∃ o ∈ os, o.callback? = some cb) ∨ ∃ st, Task.callback cb st ∈ s.running

/-- What every run keeps about the callbacks it started. -/
structure Lifecycle (s : Watcher) (os : List Obs) : Prop where
  fresh : ∀ cb, Named s os cb →
    cb.currentTime ≤ s.now ∧ ∀ p ∈ s.compileTimeout, cb.currentTime < p.deadline
  branch : ∀ cb st, Task.callback cb st ∈ s.running →
    (st.inDeletion = true → cb.event.isUnlink = true) ∧
      (st.inDeletion = false → cb.event.isAddOrChange = true)
  started : ∀ cb, Named s os cb → ∃ h, Obs.handled cb h ∈ os
  compileOnce : ∀ cb,
    os.count (.compile cb) + s.running.count (.callback cb .importCompile) ≤ 1
  cleanupOnce : ∀ cb,
    os.count (.cleanupOrphanedFiles cb) + s.running.count (.callback cb .importCleanup) ≤ 1
  compileBranch : ∀ cb, Obs.compile cb ∈ os → cb.event.isAddOrChange = true
  cleanupBranch : ∀ cb, Obs.cleanupOrphanedFiles cb ∈ os → cb.event.isUnlink = true

theorem Lifecycle.init (t : Nat) : Lifecycle (Watcher.init t) [] := by
  refine ⟨?_, nofun, ?_, by simp [Watcher.init], by simp [Watcher.init], nofun, nofun⟩ <;>
    rintro cb (⟨_, h, _⟩ | ⟨_, h⟩) <;> cases h

variable {s s' : Watcher} {os o : List Obs}

/-- Observations and continuations that name no callback keep the invariant, as long as
the clock and the timer only give more room. -/
theorem Lifecycle.anonymous (hl : Lifecycle s os) (extra : List Task)
    (ho : ∀ x ∈ o, x.callback? = none) (hx : ∀ t ∈ extra, t.callback? = none)
    (hr : s'.running = s.running ++ extra) (hnow : s.now ≤ s'.now)
    (ht : ∀ p ∈ s'.compileTimeout, ∀ cb, Named s os cb → cb.currentTime < p.deadline) :
    Lifecycle s' (os ++ o) := by
  have named : ∀ cb, Named s' (os ++ o) cb → Named s os cb := by
    rintro cb (⟨x, hx', hc⟩ | ⟨st, hst⟩)
    · rcases List.mem_append.1 hx' with hx' | hx'
      · exact .inl ⟨x, hx', hc⟩
      · exact absurd (hc.symm.trans (ho x hx')) (by simp)
    · rw [hr] at hst
      rcases List.mem_append.1 hst with hst | hst
      · exact .inr ⟨st, hst⟩
      · exact absurd (hx _ hst) (by simp [Task.callback?])
  have compile_o : ∀ cb, o.count (.compile cb) = 0 := fun cb =>
    List.count_eq_zero.2 fun h => absurd (ho _ h) (by simp [Obs.callback?])
  have cleanup_o : ∀ cb, o.count (.cleanupOrphanedFiles cb) = 0 := fun cb =>
    List.count_eq_zero.2 fun h => absurd (ho _ h) (by simp [Obs.callback?])
  have extra_c : ∀ cb st, extra.count (.callback cb st) = 0 := fun cb st =>
    List.count_eq_zero.2 fun h => absurd (hx _ h) (by simp [Task.callback?])
  refine ⟨fun cb h => ⟨(hl.fresh cb (named cb h)).1.trans hnow,
      fun p hp => ht p hp cb (named cb h)⟩,
    fun cb st h => ?_, fun cb h => ?_, fun cb => ?_, fun cb => ?_, fun cb h => ?_, fun cb h => ?_⟩
  · rw [hr] at h
    rcases List.mem_append.1 h with h | h
    · exact hl.branch cb st h
    · exact absurd (hx _ h) (by simp [Task.callback?])
  · obtain ⟨hd, hm⟩ := hl.started cb (named cb h)
    exact ⟨hd, List.mem_append_left _ hm⟩
  · simpa [hr, List.count_append, compile_o, extra_c] using hl.compileOnce cb
  · simpa [hr, List.count_append, cleanup_o, extra_c] using hl.cleanupOnce cb
  · rcases List.mem_append.1 h with h | h
    · exact hl.compileBranch cb h
    · exact absurd (ho _ h) (by simp [Obs.callback?])
  · rcases List.mem_append.1 h with h | h
    · exact hl.cleanupBranch cb h
    · exact absurd (ho _ h) (by simp [Obs.callback?])

theorem Lifecycle.watch (hl : Lifecycle s os) (env : Env) (e : WatchEvent) (f : String) :
    Lifecycle (handleWatcherEvent env s e f).1 (os ++ (handleWatcherEvent env s e f).2) := by
  rw [handleWatcherEvent_eq]
  refine hl.anonymous (if isRolesFile env.rolesPath f then [.rolesReload .importRoles] else [])
    ?_ ?_ rfl le_rfl ?_
  · intro x hx
    simp only [List.mem_append] at hx
    rcases hx with hx | hx <;> split_ifs at hx <;> simp at hx <;> subst hx <;> rfl
  · intro t ht
    split_ifs at ht <;> simp at ht
    subst ht; rfl
  · intro p hp cb hn
    simp only [Option.mem_def] at hp
    split_ifs at hp
    · cases hp
      have := (hl.fresh cb hn).1
      dsimp only
      omega
    · exact (hl.fresh cb hn).2 p hp

theorem Lifecycle.tick (hl : Lifecycle s os) {t : Nat} (ht : s.canTick t = true) :
    Lifecycle { s with now := t } os := by
  rw [Watcher.canTick_iff] at ht
  simpa using hl.anonymous [] (o := []) nofun nofun
    (show ({ s with now := t } : Watcher).running = s.running ++ [] by simp) ht.1
    fun p hp cb hn => (hl.fresh cb hn).2 p hp

theorem count_firstAwait_le (cb₀ cb : Callback) (st : Await) :
    (firstAwait cb₀).count (.callback cb st) ≤ if cb = cb₀ then 1 else 0 := by
  unfold firstAwait
  split_ifs <;> simp_all [List.count_singleton] <;> split_ifs <;> simp_all

theorem Lifecycle.fire (hl : Lifecycle s os) {p : Timer} (hp : s.compileTimeout = some p)
    (hd : p.deadline = s.now) :
    Lifecycle (fireCompileTimeout s p).1 (os ++ (fireCompileTimeout s p).2) := by
  rw [fireCompileTimeout_eq]
  dsimp only
  generalize handlingOf p.event (s.lastUnlinkFile, s.lastUnlinkTime) s.now = h
  generalize hc : (⟨p.event, p.file, s.now⟩ : Callback) = cb₀
  have hnow : cb₀.currentTime = s.now := by rw [← hc]
  have new : ¬Named s os cb₀ := fun hn => by
    have := (hl.fresh cb₀ hn).2 p hp
    omega
  have ho : ∀ x ∈ Obs.handled cb₀ h ::
      if h = .other then [Obs.collectionsUpdated cb₀] else [],
      x = .handled cb₀ h ∨ x = .collectionsUpdated cb₀ := by
    intro x hx
    rcases List.mem_cons.1 hx with rfl | hx
    · exact .inl rfl
    · split_ifs at hx <;> simp at hx
      exact .inr hx
  have hfa : ∀ t ∈ firstAwait cb₀, ∃ st, t = .callback cb₀ st ∧
      (st.inDeletion = true → cb₀.event.isUnlink = true) ∧
        (st.inDeletion = false → cb₀.event.isAddOrChange = true) := by
    intro t ht
    unfold firstAwait at ht
    split_ifs at ht with hu ha <;> simp at ht <;> subst ht
    · exact ⟨_, rfl, fun _ => hu, fun h => by simp [Await.inDeletion] at h⟩
    · exact ⟨_, rfl, fun h => by simp [Await.inDeletion] at h, fun _ => ha⟩
  have named : ∀ cb, Named { s with
      compileTimeout := none
      lastUnlinkFile := (slotStep (s.lastUnlinkFile, s.lastUnlinkTime) (.handled cb₀ h)).1
      lastUnlinkTime := (slotStep (s.lastUnlinkFile, s.lastUnlinkTime) (.handled cb₀ h)).2
      running := s.running ++ firstAwait cb₀ }
      (os ++ Obs.handled cb₀ h ::
        if h = .other then [Obs.collectionsUpdated cb₀] else []) cb →
      Named s os cb ∨ cb = cb₀ := by
    rintro cb (⟨x, hx, hcb⟩ | ⟨st, hst⟩)
    · rcases List.mem_append.1 hx with hx | hx
      · exact .inl (.inl ⟨x, hx, hcb⟩)
      · rcases ho x hx with rfl | rfl <;> exact .inr (Option.some.inj hcb).symm
    · rcases List.mem_append.1 hst with hst | hst
      · exact .inl (.inr ⟨st, hst⟩)
      · obtain ⟨st', he, -⟩ := hfa _ hst
        exact .inr (Task.callback.inj he).1
  have absent : ∀ cb, (Obs.compile cb ∉ Obs.handled cb₀ h ::
      if h = .other then [Obs.collectionsUpdated cb₀] else []) ∧
      (Obs.cleanupOrphanedFiles cb ∉ Obs.handled cb₀ h ::
      if h = .other then [Obs.collectionsUpdated cb₀] else []) :=
    fun cb => ⟨fun hm => (by rcases ho _ hm with h | h <;> cases h),
      fun hm => (by rcases ho _ hm with h | h <;> cases h)⟩
  refine ⟨fun cb hn => ?_, fun cb st hm => ?_, fun cb hn => ?_, fun cb => ?_, fun cb => ?_,
    fun cb hm => ?_, fun cb hm => ?_⟩
  · rcases named cb hn with hn | rfl
    · exact ⟨(hl.fresh cb hn).1, nofun⟩
    · exact ⟨hnow.le, nofun⟩
  · rcases List.mem_append.1 hm with hm | hm
    · exact hl.branch cb st hm
    · obtain ⟨st', he, h1, h2⟩ := hfa _ hm
      obtain ⟨rfl, rfl⟩ := Task.callback.inj he
      exact ⟨h1, h2⟩
  · rcases named cb hn with hn | rfl
    · obtain ⟨hd, hm⟩ := hl.started cb hn
      exact ⟨hd, List.mem_append_left _ hm⟩
    · exact ⟨h, by simp⟩
  · have h1 := count_firstAwait_le cb₀ cb .importCompile
    have h2 := hl.compileOnce cb
    rw [List.count_append, List.count_append, List.count_eq_zero.2 (absent cb).1]
    by_cases hcb : cb = cb₀
    · subst hcb
      rw [List.count_eq_zero.2 fun hm => new (.inl ⟨.compile _, hm, rfl⟩),
        List.count_eq_zero.2 fun hm => new (.inr ⟨_, hm⟩)]
      simp only [if_true] at h1
      omega
    · simp only [hcb, if_false] at h1
      omega
  · have h1 := count_firstAwait_le cb₀ cb .importCleanup
    have h2 := hl.cleanupOnce cb
    rw [List.count_append, List.count_append, List.count_eq_zero.2 (absent cb).2]
    by_cases hcb : cb = cb₀
    · subst hcb
      rw [List.count_eq_zero.2 fun hm => new (.inl ⟨.cleanupOrphanedFiles _, hm, rfl⟩),
        List.count_eq_zero.2 fun hm => new (.inr ⟨_, hm⟩)]
      simp only [if_true] at h1
      omega
    · simp only [hcb, if_false] at h1
      omega
  · rcases List.mem_append.1 hm with hm | hm
    · exact hl.compileBranch cb hm
    · exact absurd hm (absent cb).1
  · rcases List.mem_append.1 hm with hm | hm
    · exact hl.cleanupBranch cb hm
    · exact absurd hm (absent cb).2

theorem Lifecycle.resume (hl : Lifecycle s os) (env : Env) {task : Task} {ok : Bool}
    (hT : task ∈ s.running) :
    Lifecycle { s with running := s.running.erase task ++ (resumeTask env task ok).1.toList }
      (os ++ (resumeTask env task ok).2) := by
  have ofTask : ∀ cb, task.callback? = some cb → Named s os cb := by
    intro cb h
    cases task with
    | callback c st => cases h; exact .inr ⟨st, hT⟩
    | rolesReload => cases h
  have next : ∀ cb st, Task.callback cb st ∈ (resumeTask env task ok).1.toList →
      ∃ st₀, task = .callback cb st₀ ∧ st.inDeletion = st₀.inDeletion := by
    intro cb st hm
    rw [Option.mem_toList, Option.mem_def] at hm
    cases task with
    | callback c st₀ =>
      obtain ⟨rfl, h⟩ := resumeTask_next env ok c hm
      exact ⟨st₀, rfl, h⟩
    | rolesReload st₀ => cases resumeTask_rolesReload_next env ok hm
  have named : ∀ cb, Named { s with
      running := s.running.erase task ++ (resumeTask env task ok).1.toList }
      (os ++ (resumeTask env task ok).2) cb → Named s os cb := by
    rintro cb (⟨x, hx, hcb⟩ | ⟨st, hst⟩)
    · rcases List.mem_append.1 hx with hx | hx
      · exact .inl ⟨x, hx, hcb⟩
      · exact ofTask cb (callback?_resumeTask_obs env task ok x hx cb hcb)
    · rcases List.mem_append.1 hst with hst | hst
      · exact .inr ⟨st, List.mem_of_mem_erase hst⟩
      · obtain ⟨st₀, rfl, -⟩ := next cb st hst
        exact .inr ⟨st₀, hT⟩
  have noReturn : ∀ cb st, (st = .importCompile ∨ st = .importCleanup) →
      (resumeTask env task ok).1.toList.count (.callback cb st) = 0 := fun cb st hst =>
    List.count_eq_zero.2 fun hm =>
      resumeTask_ne_import env task ok cb hst (Option.mem_def.1 (Option.mem_toList.1 hm))
  refine ⟨fun cb hn => hl.fresh cb (named cb hn), fun cb st hm => ?_,
    fun cb hn => ?_, fun cb => ?_, fun cb => ?_, fun cb hm => ?_, fun cb hm => ?_⟩
  · rcases List.mem_append.1 hm with hm | hm
    · exact hl.branch cb st (List.mem_of_mem_erase hm)
    · obtain ⟨st₀, rfl, h⟩ := next cb st hm
      rw [h]
      exact hl.branch cb st₀ hT
  · obtain ⟨hd, hm⟩ := hl.started cb (named cb hn)
    exact ⟨hd, List.mem_append_left _ hm⟩
  · have h1 := count_compile_resumeTask env task ok cb
    have h2 := hl.compileOnce cb
    have h3 := List.count_pos_iff.2 hT
    rw [List.count_append, List.count_append, h1, noReturn cb _ (.inl rfl), List.count_erase]
    by_cases ht : task = .callback cb .importCompile
    · subst ht
      cases ok <;> simp <;> omega
    · simp [ht]
      omega
  · have h1 := count_cleanup_resumeTask env task ok cb
    have h2 := hl.cleanupOnce cb
    have h3 := List.count_pos_iff.2 hT
    rw [List.count_append, List.count_append, h1, noReturn cb _ (.inr rfl), List.count_erase]
    by_cases ht : task = .callback cb .importCleanup
    · subst ht
      cases ok <;> simp <;> omega
    · simp [ht]
      omega
  · rcases List.mem_append.1 hm with hm | hm
    · exact hl.compileBranch cb hm
    · have h1 := count_compile_resumeTask env task ok cb
      have h2 := List.count_pos_iff.2 hm
      split_ifs at h1 with ht
      · exact (hl.branch cb .importCompile (ht.1 ▸ hT)).2 rfl
      · omega
  · rcases List.mem_append.1 hm with hm | hm
    · exact hl.cleanupBranch cb hm
    · have h1 := count_cleanup_resumeTask env task ok cb
      have h2 := List.count_pos_iff.2 hm
      split_ifs at h1 with ht
      · exact (hl.branch cb .importCleanup (ht.1 ▸ hT)).1 rfl
      · omega

theorem Lifecycle.step (hl : Lifecycle s os) {env : Env} {i : Input}
    (h : step env s i = some (s', o)) : Lifecycle s' (os ++ o) := by
  rcases step_eq_some h with ⟨e, f, he⟩ | ⟨t, ht, rfl, rfl⟩ | ⟨p, hp, hd, he⟩ |
      ⟨task, ok, hT, rfl, rfl⟩
  · have := hl.watch env e f
    rw [← he] at this
    exact this
  · simpa using hl.tick ht
  · have := hl.fire hp hd
    rw [← he] at this
    exact this
  · exact hl.resume env hT

/-- Every run from `Watcher.init` keeps the lifecycle invariant. -/
theorem Run.lifecycle {env : Env} {t : Nat} (h : Run env (Watcher.init t) s os) :
    Lifecycle s os := by
  induction h with
  | nil => exact Lifecycle.init t
  | snoc _ hs ih => exact ih.step hs

end SveltyCms
