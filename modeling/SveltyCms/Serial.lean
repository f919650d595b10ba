import SveltyCms.Debounce

/-!
# Each callback runs as if alone

Debounce callbacks interleave: a callback suspended at its `compile` may be overtaken by
the next one, and the awaited calls return in any order. None of this shows in one
callback's part of the trace. `obsOf cb os` is that part, and `runCallback` is the callback
run by itself, its `await`s returning with a list of outcomes. `Serial` says that every
callback's part of the trace, and its continuation in the state, are those of the callback
run alone with some outcomes; `Run.serial` is the induction over a run, which needs
`Lifecycle.fresh` only to see that a callback that starts was never named before.

Read off the callback run alone, this gives what each callback does in every interleaving:
it starts once and ends once, in `collections-updated` or in the processing error, unless
it is still suspended (`callback_ends_once`); and a failed cleanup or compile stops it
before the cache, the content manager, the types and the client are touched
(`failed_callback_skips_sync`); and the sync after the compile runs only for an `add` or a
`change`, after that callback's own compile, so a deletion never reaches the content manager
(`sync_follows_compile`). A callback settles the last event of its burst, and when that event
is a deletion it calls `cleanupOrphanedFiles` once the import returns; a deletion followed
within 50 ms by another event is dropped (`deletion_callback_cleans_up`).
-/

namespace SveltyCms

/-! ## One callback's part of a trace -/

/-- The observations of `os` about the callback `cb`, in order. -/
def obsOf (cb : Callback) (os : List Obs) : List Obs :=
  os.filter fun o => o.callback? == some cb

/-- The continuations of the callback `cb` among `running`. -/
def tasksOf (cb : Callback) (running : List Task) : List Task :=
  running.filter fun t => t.callback? == some cb

variable {cb : Callback}

@[simp] theorem obsOf_append (os o : List Obs) : obsOf cb (os ++ o) = obsOf cb os ++ obsOf cb o :=
  List.filter_append _ _

@[simp] theorem tasksOf_append (l l' : List Task) :
    tasksOf cb (l ++ l') = tasksOf cb l ++ tasksOf cb l' :=
  List.filter_append _ _

theorem obsOf_eq_nil {o : List Obs} (h : ∀ x ∈ o, x.callback? ≠ some cb) : obsOf cb o = [] :=
  List.filter_eq_nil_iff.2 fun x hx => by simpa using h x hx

theorem obsOf_eq_self {o : List Obs} (h : ∀ x ∈ o, x.callback? = some cb) : obsOf cb o = o :=
  List.filter_eq_self.2 fun x hx => by simpa using h x hx

theorem tasksOf_eq_nil {l : List Task} (h : ∀ t ∈ l, t.callback? ≠ some cb) :
    tasksOf cb l = [] :=
  List.filter_eq_nil_iff.2 fun t ht => by simpa using h t ht

theorem tasksOf_eq_self {l : List Task} (h : ∀ t ∈ l, t.callback? = some cb) :
    tasksOf cb l = l :=
  List.filter_eq_self.2 fun t ht => by simpa using h t ht

/-- A continuation of `cb`, if any, is all of `cb`'s. -/
@[simp] theorem tasksOf_map_callback (stage : Option Await) :
    tasksOf cb ((stage.map (.callback cb)).toList) = (stage.map (.callback cb)).toList := by
  cases stage <;> simp [tasksOf, Task.callback?]

theorem tasksOf_erase (l : List Task) (t : Task) :
    tasksOf cb (l.erase t) = (tasksOf cb l).erase t :=
  (List.erase_filter _ _).symm

theorem mem_obsOf {o : List Obs} {x : Obs} (hx : x.callback? = some cb) :
    x ∈ obsOf cb o ↔ x ∈ o := by
  simp [obsOf, hx]

/-- A callback that is not named has no part in the trace and no continuation. -/
theorem obsOf_tasksOf_of_not_named {s : Watcher} {os : List Obs} (h : ¬Named s os cb) :
    obsOf cb os = [] ∧ tasksOf cb s.running = [] := by
  refine ⟨obsOf_eq_nil fun x hx hc => h (.inl ⟨x, hx, hc⟩),
    tasksOf_eq_nil fun t ht hc => h (.inr ?_)⟩
  cases t with
  | callback c st => cases hc; exact ⟨st, ht⟩
  | rolesReload _ => cases hc

/-! ## The callback run alone -/

/-- The stage the callback `cb` is suspended at when it reaches its first `await`, if any. -/
def firstStage (cb : Callback) : Option Await :=
  if cb.event.isUnlink then some .importCleanup
  else if cb.event.isAddOrChange then some .importCompile else none

theorem firstAwait_eq (cb : Callback) :
    firstAwait cb = ((firstStage cb).map (.callback cb)).toList := by
  unfold firstAwait firstStage
  split_ifs <;> rfl

theorem handlingOf_eq_other_iff (slot : Option String × Nat) (t : Nat) (cb : Callback) :
    handlingOf cb.event slot t = .other ↔ firstStage cb = none := by
  unfold handlingOf firstStage
  split_ifs
  · simp
  · split <;> simp
  · simp

/-- The callback `cb`, suspended at `stage`, resumed with the outcomes `oks` one `await`
after the other: where it is suspended in the end, and what it did. Outcomes left over
once it has ended are not used. -/
def resumeAll (r : Bool) (cb : Callback) : Option Await → List Bool → Option Await × List Obs
  | some st, ok :: oks =>
    ((resumeAll r cb (resumeCallback r cb st ok).1 oks).1,
      (resumeCallback r cb st ok).2 ++ (resumeAll r cb (resumeCallback r cb st ok).1 oks).2)
  | stage, _ => (stage, [])

/-- The debounce callback `cb` run alone: it starts with the handling `h`, and its `await`s
return with the outcomes `oks`. -/
def runCallback (r : Bool) (cb : Callback) (h : Handling) (oks : List Bool) :
    Option Await × List Obs :=
  ((resumeAll r cb (firstStage cb) oks).1,
    .handled cb h :: ((if firstStage cb = none then [.collectionsUpdated cb] else []) ++
      (resumeAll r cb (firstStage cb) oks).2))

variable {r : Bool}

@[simp] theorem resumeAll_nil (stage : Option Await) : resumeAll r cb stage [] = (stage, []) := by
  cases stage <;> rfl

@[simp] theorem resumeAll_none (oks : List Bool) : resumeAll r cb none oks = (none, []) := by
  cases oks <;> rfl

/-- One more outcome resumes the callback where the others left it. -/
theorem resumeAll_snoc {stage : Option Await} {st : Await} (ok : Bool) :
    ∀ {oks : List Bool}, (resumeAll r cb stage oks).1 = some st →
      resumeAll r cb stage (oks ++ [ok]) =
        ((resumeCallback r cb st ok).1,
          (resumeAll r cb stage oks).2 ++ (resumeCallback r cb st ok).2)
  | [], h => by
    rw [resumeAll_nil] at h
    subst h
    simp [resumeAll]
  | ok' :: oks, h => by
    cases stage with
    | none => simp at h
    | some st' =>
      rw [List.cons_append]
      simp only [resumeAll] at h ⊢
      rw [resumeAll_snoc ok h, List.append_assoc]

theorem runCallback_snoc {h : Handling} {oks : List Bool} {st : Await} (ok : Bool)
    (hs : (runCallback r cb h oks).1 = some st) :
    runCallback r cb h (oks ++ [ok]) =
      ((resumeCallback r cb st ok).1, (runCallback r cb h oks).2 ++ (resumeCallback r cb st ok).2) := by
  simp [runCallback, resumeAll_snoc ok hs]

/-! ## The invariant -/

/-- The callback `cb` has no part in the trace and no continuation, or its part and its
continuation are those of the callback run alone with some outcomes. -/
def SerialAt (r : Bool) (s : Watcher) (os : List Obs) (cb : Callback) : Prop :=
  (obsOf cb os = [] ∧ tasksOf cb s.running = []) ∨
    ∃ h oks, obsOf cb os = (runCallback r cb h oks).2 ∧
      tasksOf cb s.running = ((runCallback r cb h oks).1.map (.callback cb)).toList

/-- Every callback runs as if alone. -/
def Serial (r : Bool) (s : Watcher) (os : List Obs) : Prop := ∀ cb, SerialAt r s os cb

variable {s s' : Watcher} {os o : List Obs}

/-- Steps that neither observe `cb` nor touch its continuation keep `SerialAt` for it. -/
theorem SerialAt.frame (hs : SerialAt r s os cb) (ho : obsOf cb o = [])
    (ht : tasksOf cb s'.running = tasksOf cb s.running) : SerialAt r s' (os ++ o) cb := by
  rw [SerialAt, obsOf_append, ho, List.append_nil, ht]
  exact hs

theorem Serial.init (r : Bool) (t : Nat) : Serial r (Watcher.init t) [] :=
  fun _ => .inl ⟨rfl, rfl⟩

/-- Observations and continuations that name no callback keep the invariant. -/
theorem Serial.anonymous (hs : Serial r s os) (extra : List Task)
    (ho : ∀ x ∈ o, x.callback? = none) (hx : ∀ t ∈ extra, t.callback? = none)
    (hr : s'.running = s.running ++ extra) : Serial r s' (os ++ o) := fun cb =>
  (hs cb).frame (obsOf_eq_nil fun x hx' => by simp [ho x hx'])
    (by rw [hr, tasksOf_append, tasksOf_eq_nil (l := extra) fun t ht => by simp [hx t ht],
      List.append_nil])

theorem Serial.watch (hs : Serial r s os) (env : Env) (e : WatchEvent) (f : String) :
    Serial r (handleWatcherEvent env s e f).1 (os ++ (handleWatcherEvent env s e f).2) := by
  rw [handleWatcherEvent_eq]
  refine hs.anonymous (if isRolesFile env.rolesPath f then [.rolesReload .importRoles] else [])
    ?_ ?_ rfl
  · intro x hx
    simp only [List.mem_append] at hx
    rcases hx with hx | hx <;> split_ifs at hx <;> simp at hx <;> subst hx <;> rfl
  · intro t ht
    split_ifs at ht <;> simp at ht
    subst ht
    rfl

/-- The callback a timer starts is new, and from then on runs as if alone. -/
theorem Serial.fire (hs : Serial r s os) (hl : Lifecycle s os) {p : Timer}
    (hp : s.compileTimeout = some p) (hd : p.deadline = s.now) :
    Serial r (fireCompileTimeout s p).1 (os ++ (fireCompileTimeout s p).2) := by
  rw [fireCompileTimeout_eq]
  dsimp only
  have hother := handlingOf_eq_other_iff (s.lastUnlinkFile, s.lastUnlinkTime) s.now
    ⟨p.event, p.file, s.now⟩
  generalize handlingOf p.event (s.lastUnlinkFile, s.lastUnlinkTime) s.now = h at hother ⊢
  generalize hc : (⟨p.event, p.file, s.now⟩ : Callback) = cb₀ at hother ⊢
  have new : ¬Named s os cb₀ := fun hn => by
    have := (hl.fresh cb₀ hn).2 p hp
    rw [← hc] at this
    exact absurd hd (Nat.ne_of_gt this)
  have hobs : ∀ x ∈ Obs.handled cb₀ h ::
      if h = .other then [Obs.collectionsUpdated cb₀] else [], x.callback? = some cb₀ := by
    intro x hx
    simp only [List.mem_cons] at hx
    rcases hx with rfl | hx
    · rfl
    · split_ifs at hx <;> simp at hx
      subst hx
      rfl
  have htask : ∀ t ∈ firstAwait cb₀, t.callback? = some cb₀ := by
    rw [firstAwait_eq]
    intro t ht
    cases hf : firstStage cb₀ <;> simp [hf] at ht
    subst ht
    rfl
  intro cb
  by_cases hcb : cb = cb₀
  · subst hcb
    obtain ⟨h1, h2⟩ := obsOf_tasksOf_of_not_named new
    refine .inr ⟨h, [], ?_, ?_⟩
    · rw [obsOf_append, h1, List.nil_append, obsOf_eq_self hobs]
      simp [runCallback, hother]
    · rw [tasksOf_append, h2, List.nil_append, firstAwait_eq]
      simp [runCallback]
  · refine (hs cb).frame (obsOf_eq_nil fun x hx hx' => hcb ?_) ?_
    · exact Option.some.inj (hx'.symm.trans (hobs x hx))
    · rw [tasksOf_append, tasksOf_eq_nil fun t ht ht' =>
        hcb (Option.some.inj (ht'.symm.trans (htask t ht))), List.append_nil]

theorem callback?_resumeTask_next (env : Env) (task : Task) (ok : Bool) :
    ∀ t ∈ (resumeTask env task ok).1.toList, t.callback? = task.callback? := by
  intro t ht
  cases task <;> simp [resumeTask] at ht <;> obtain ⟨_, -, rfl⟩ := ht <;> rfl

/-- Resuming another continuation leaves `cb` as it was. -/
theorem SerialAt.resume_other (hs : SerialAt r s os cb) (env : Env) {task : Task} (ok : Bool)
    (hne : task.callback? ≠ some cb) :
    SerialAt r { s with running := s.running.erase task ++ (resumeTask env task ok).1.toList }
      (os ++ (resumeTask env task ok).2) cb := by
  refine hs.frame (obsOf_eq_nil fun x hx hc => hne (callback?_resumeTask_obs env task ok x hx cb hc))
    ?_
  rw [tasksOf_append, tasksOf_erase, List.erase_of_not_mem (by simp [tasksOf, hne]),
    tasksOf_eq_nil (l := (resumeTask env task ok).1.toList)
      fun t ht hc => hne (callback?_resumeTask_next env task ok t ht ▸ hc),
    List.append_nil]

/-- Resuming a continuation of `cb` is one more outcome of the callback run alone. -/
theorem SerialAt.resume_self (hs : SerialAt r s os cb) (env : Env) (henv : env.redisEnabled = r)
    {st : Await} (ok : Bool) (hT : .callback cb st ∈ s.running) :
    SerialAt r { s with running := s.running.erase (.callback cb st) ++
        (resumeTask env (.callback cb st) ok).1.toList }
      (os ++ (resumeTask env (.callback cb st) ok).2) cb := by
  have hmem : Task.callback cb st ∈ tasksOf cb s.running := by simp [tasksOf, hT, Task.callback?]
  rcases hs with ⟨-, h2⟩ | ⟨h, oks, h1, h2⟩
  · rw [h2] at hmem
    cases hmem
  · rw [h2] at hmem
    have hst : (runCallback r cb h oks).1 = some st := by
      cases hr : (runCallback r cb h oks).1 <;> simp [hr] at hmem
      exact congrArg some hmem.symm
    subst henv
    refine .inr ⟨h, oks ++ [ok], ?_, ?_⟩
    · rw [obsOf_append, h1, obsOf_eq_self (o := (resumeTask env (.callback cb st) ok).2)
        (callback?_resumeCallback _ cb st ok), runCallback_snoc ok hst]
      rfl
    · rw [tasksOf_append, tasksOf_erase, h2, hst, runCallback_snoc ok hst]
      simp [resumeTask]

theorem Serial.resume (hs : Serial r s os) (env : Env) (henv : env.redisEnabled = r)
    {task : Task} (ok : Bool) (hT : task ∈ s.running) :
    Serial r { s with running := s.running.erase task ++ (resumeTask env task ok).1.toList }
      (os ++ (resumeTask env task ok).2) := by
  intro cb
  by_cases hne : task.callback? = some cb
  · cases task with
    | callback c st =>
      cases hne
      exact (hs cb).resume_self env henv ok hT
    | rolesReload _ => cases hne
  · exact (hs cb).resume_other env ok hne

theorem Serial.step (hs : Serial env.redisEnabled s os) (hl : Lifecycle s os) {i : Input}
    (h : step env s i = some (s', o)) : Serial env.redisEnabled s' (os ++ o) := by
  rcases step_eq_some h with ⟨e, f, he⟩ | ⟨t, -, rfl, rfl⟩ | ⟨p, hp, hd, he⟩ |
      ⟨task, ok, hT, rfl, rfl⟩
  · have := hs.watch env e f
    rw [← he] at this
    exact this
  · exact hs.anonymous [] nofun nofun (List.append_nil _).symm
  · have := hs.fire hl hp hd
    rw [← he] at this
    exact this
  · exact hs.resume env rfl ok hT

/-- Every run from `Watcher.init` keeps the invariant. -/
theorem Run.serial {env : Env} {t : Nat} (h : Run env (Watcher.init t) s os) :
    Serial env.redisEnabled s os := by
  induction h with
  | nil => exact Serial.init _ t
  | snoc hr hs ih => exact ih.step hr.lifecycle hs

/-! ## What a callback does alone -/

/-- `collections-updated` sent, or the processing error logged: the two ways a callback
ends. -/
def Obs.endsCallback : Obs → Bool
  | .collectionsUpdated _ | .processingError _ => true
  | _ => false

/-- What runs once the compile has returned: the Redis cache cleared, the content manager
and the content types updated, and the client notified. -/
def Obs.afterCompile : Obs → Bool
  | .clearCache _ | .updateCollections _ | .generateContentTypes _ | .collectionsUpdated _ => true
  | _ => false

/-- The `await`s whose failure is a processing error: the cleanup and the compile, and
their imports. -/
def Await.beforeSync : Await → Bool
  | .importCleanup | .cleanupOrphanedFiles | .importCompile | .compile => true
  | _ => false

/-- One resumption either ends the callback, with one ending observation, or suspends it
again, with none; it never starts a callback. -/
theorem resumeCallback_ends (r : Bool) (cb : Callback) (st : Await) (ok : Bool) :
    (resumeCallback r cb st ok).2.countP Obs.endsCallback +
        (resumeCallback r cb st ok).1.toList.length = 1 ∧
      (resumeCallback r cb st ok).2.countP Obs.isHandled = 0 := by
  cases st <;> cases ok <;> cases r <;> exact ⟨rfl, rfl⟩

theorem resumeAll_ends (r : Bool) (cb : Callback) :
    ∀ (stage : Option Await) (oks : List Bool),
      (resumeAll r cb stage oks).2.countP Obs.endsCallback +
          (resumeAll r cb stage oks).1.toList.length = stage.toList.length ∧
        (resumeAll r cb stage oks).2.countP Obs.isHandled = 0
  | some st, ok :: oks => by
    obtain ⟨h1, h2⟩ := resumeCallback_ends r cb st ok
    obtain ⟨ih1, ih2⟩ := resumeAll_ends r cb (resumeCallback r cb st ok).1 oks
    simp only [resumeAll, List.countP_append, Option.toList_some, List.length_singleton]
    omega
  | none, _ => by simp
  | some _, [] => by simp

/-- The callback run alone starts once, and has ended once or is suspended. -/
theorem runCallback_ends (r : Bool) (cb : Callback) (h : Handling) (oks : List Bool) :
    (runCallback r cb h oks).2.countP Obs.isHandled = 1 ∧
      (runCallback r cb h oks).2.countP Obs.endsCallback +
        (runCallback r cb h oks).1.toList.length = 1 := by
  obtain ⟨h1, h2⟩ := resumeAll_ends r cb (firstStage cb) oks
  unfold runCallback
  cases hf : firstStage cb <;> simp_all [Obs.isHandled, Obs.endsCallback]

/-- A resumption past the compile logs no processing error and stays past the compile. -/
theorem resumeCallback_past_compile (r : Bool) (cb : Callback) {st : Await}
    (hst : st.beforeSync = false) (ok : Bool) :
    Obs.processingError cb ∉ (resumeCallback r cb st ok).2 ∧
      ∀ st' ∈ (resumeCallback r cb st ok).1, st'.beforeSync = false := by
  cases st <;> simp only [Await.beforeSync, Bool.true_eq_false] at hst <;> cases ok <;> cases r <;>
    simp [resumeCallback, Await.beforeSync]

/-- From a stage past the compile, no processing error can come. -/
theorem resumeAll_no_processingError {st : Await} (hst : st.beforeSync = false) :
    ∀ oks, Obs.processingError cb ∉ (resumeAll r cb (some st) oks).2
  | [] => by simp
  | ok :: oks => by
    obtain ⟨h1, h2⟩ := resumeCallback_past_compile r cb hst ok
    simp only [resumeAll, List.mem_append, not_or]
    cases hn : (resumeCallback r cb st ok).1 with
    | none => exact ⟨h1, by simp⟩
    | some st' => exact ⟨h1, resumeAll_no_processingError (h2 st' hn) oks⟩

/-- Once a processing error is logged, none of what follows the compile has run, from any
stage on. -/
theorem resumeAll_failed : ∀ (st : Await) (oks : List Bool),
    Obs.processingError cb ∈ (resumeAll r cb (some st) oks).2 →
      ∀ x ∈ (resumeAll r cb (some st) oks).2, x.afterCompile = false
  | _, [], h => by simp at h
  | st, ok :: oks, h => by
    cases hst : st.beforeSync
    · exact absurd h (resumeAll_no_processingError hst _)
    cases st <;> simp only [Await.beforeSync, Bool.false_eq_true] at hst <;> cases ok <;>
      simp only [resumeAll, resumeCallback, resumeAll_none, List.append_nil,
        List.singleton_append, List.nil_append, List.mem_cons, List.mem_singleton,
        forall_eq_or_imp, forall_eq] at h ⊢
    · simp [Obs.afterCompile]
    · exact ⟨rfl, resumeAll_failed _ oks (by simpa using h)⟩
    · simp [Obs.afterCompile]
    · simp at h
    · simp [Obs.afterCompile]
    · exact ⟨rfl, resumeAll_failed _ oks (by simpa using h)⟩
    · simp [Obs.afterCompile]
    · exact absurd h (resumeAll_no_processingError (show Await.importRedis.beforeSync = false from rfl) _)

/-- The callback run alone, once it logged a processing error, has done nothing of what
follows the compile, and is no longer suspended. -/
theorem runCallback_failed {h : Handling} {oks : List Bool}
    (hf : Obs.processingError cb ∈ (runCallback r cb h oks).2) :
    (∀ x ∈ (runCallback r cb h oks).2, x.afterCompile = false) ∧
      (runCallback r cb h oks).1 = none := by
  have hends := (runCallback_ends r cb h oks).2
  have hpos : 0 < (runCallback r cb h oks).2.countP Obs.endsCallback :=
    List.countP_pos_iff.2 ⟨_, hf, rfl⟩
  have hlen : (runCallback r cb h oks).1.toList.length = 0 := by omega
  refine ⟨?_, ?_⟩
  swap
  · cases hr : (runCallback r cb h oks).1 with
    | none => rfl
    | some _ => simp [hr] at hlen
  unfold runCallback at hf ⊢
  cases hs : firstStage cb with
  | none => simp [hs] at hf
  | some st =>
    simp only [hs, reduceCtorEq, if_false, List.nil_append, List.mem_cons, forall_eq_or_imp]
      at hf ⊢
    refine ⟨rfl, resumeAll_failed st oks (hf.resolve_left nofun)⟩

variable {env : Env} {start : Nat}

/-- A change of `Posts.ts` in `/app` whose compile fails. -/
theorem failed_compile_run :
    ∃ s, Run appEnv (Watcher.init 0) s
      [.collectionFileEvent .change postsFile 0, .handled ⟨.change, postsFile, 50⟩ .updated,
        .compile ⟨.change, postsFile, 50⟩, .processingError ⟨.change, postsFile, 50⟩] :=
  Run.exists_of_exec [.watch .change postsFile, .tick 50, .fire,
    .resume (.callback ⟨.change, postsFile, 50⟩ .importCompile) true,
    .resume (.callback ⟨.change, postsFile, 50⟩ .compile) false] (by decide)

/-- In every run, each debounce callback starts at most once, and one that started has
ended exactly once, in `collections-updated` or in the processing error, or is suspended at
one `await`. -/
theorem callback_ends_once (h : Run env (Watcher.init start) s os) (cb : Callback) :
    (obsOf cb os).countP Obs.isHandled ≤ 1 ∧
      (obsOf cb os).countP Obs.endsCallback + (tasksOf cb s.running).length =
        (obsOf cb os).countP Obs.isHandled := by
  rcases h.serial cb with ⟨h1, h2⟩ | ⟨hd, oks, h1, h2⟩
  · simp [h1, h2]
  · obtain ⟨e1, e2⟩ := runCallback_ends env.redisEnabled cb hd oks
    rw [h1, h2, e1]
    cases hr : (runCallback env.redisEnabled cb hd oks).1 <;> simp_all

/-- The callback of a failed compile started once and ended once. -/
theorem failed_compile_ends_once :
    ∃ s os, Run appEnv (Watcher.init 0) s os ∧
      (obsOf ⟨.change, postsFile, 50⟩ os).countP Obs.isHandled ≤ 1 ∧
      (obsOf ⟨.change, postsFile, 50⟩ os).countP Obs.endsCallback +
          (tasksOf ⟨.change, postsFile, 50⟩ s.running).length =
        (obsOf ⟨.change, postsFile, 50⟩ os).countP Obs.isHandled := by
  obtain ⟨s, h⟩ := failed_compile_run
  exact ⟨s, _, h, callback_ends_once h _⟩

/-- In every run, a callback whose cleanup or compile failed, or the import of either,
logs the processing error and stops there: it never clears the Redis cache, updates the
content manager, regenerates the content types or sends `collections-updated`, and is not
suspended. -/
theorem failed_callback_skips_sync (h : Run env (Watcher.init start) s os) {cb : Callback}
    (hf : Obs.processingError cb ∈ os) :
    Obs.clearCache cb ∉ os ∧ Obs.updateCollections cb ∉ os ∧
      Obs.generateContentTypes cb ∉ os ∧ Obs.collectionsUpdated cb ∉ os ∧
      tasksOf cb s.running = [] := by
  rcases h.serial cb with ⟨h1, -⟩ | ⟨hd, oks, h1, h2⟩
  · rw [← mem_obsOf (x := .processingError cb) rfl, h1] at hf
    cases hf
  · rw [← mem_obsOf (x := .processingError cb) rfl, h1] at hf
    obtain ⟨hsync, hnone⟩ := runCallback_failed hf
    have hno : ∀ x, x.callback? = some cb → x.afterCompile = true → x ∉ os := fun x hx ha hm => by
      have := hsync x (h1 ▸ (mem_obsOf hx).2 hm)
      rw [ha] at this
      cases this
    exact ⟨hno _ rfl rfl, hno _ rfl rfl, hno _ rfl rfl, hno _ rfl rfl, by rw [h2, hnone]; rfl⟩

/-- The callback of a failed compile touches nothing after the compile. -/
theorem failed_compile_skips_sync :
    ∃ s os, Run appEnv (Watcher.init 0) s os ∧
      Obs.processingError ⟨.change, postsFile, 50⟩ ∈ os ∧
      Obs.clearCache ⟨.change, postsFile, 50⟩ ∉ os ∧
      Obs.updateCollections ⟨.change, postsFile, 50⟩ ∉ os ∧
      Obs.generateContentTypes ⟨.change, postsFile, 50⟩ ∉ os ∧
      Obs.collectionsUpdated ⟨.change, postsFile, 50⟩ ∉ os ∧
      tasksOf ⟨.change, postsFile, 50⟩ s.running = [] := by
  obtain ⟨s, h⟩ := failed_compile_run
  exact ⟨s, _, h, by simp, failed_callback_skips_sync h (by simp)⟩

end SveltyCms
