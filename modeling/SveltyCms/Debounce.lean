import SveltyCms.Callbacks

/-!
# One callback per burst

The debounce keeps one timer for the whole collection tree: every collection-file event
clears it and arms it again 50 ms ahead, and only the last event of a burst (a run of events
less than 50 ms apart) is still armed when its deadline comes. So a callback handles the
most recent event, 50 ms after it (`Inv.handled_settles`); two callbacks are separated by
the end of a burst (`Inv.handled_separated`); and each callback calls `compile` or
`cleanupOrphanedFiles` at most once, never both. `callbacks_settle_bursts` collects these,
with the fact that any other event leaves the timer alone. Every script file strictly inside
the collections directory arms the timer (`inside_file_arms_debounce`). Since timers fire on
time (the clock never passes a pending deadline), an event followed by more than 50 ms of
quiet is always handled (`settled_event_handled`).

The same mechanism drops events: a deletion followed within 50 ms by another event is never
handled (`Inv.no_start_within_window`). What a deletion's callback then does is read off the
callback run alone, in `SveltyCms.Serial`.
-/

namespace SveltyCms

variable {env : Env} {start : Nat} {s : Watcher} {os : List Obs}

/-! ## Callbacks and the events they handle -/

/-- A callback handles the most recent collection-file event, 50 ms after it, and no other
callback started in between. -/
theorem Inv.handled_settles (hi : Inv env s os) {pre post : List Obs} {cb : Callback}
    {h : Handling} (hos : os = pre ++ .handled cb h :: post) :
    ∃ pre' t mid, pre = pre' ++ .collectionFileEvent cb.event cb.file t :: mid ∧
      cb.currentTime = t + 50 ∧ Quiet mid ∧ NoStart mid :=
  pendingOf_eq_some (hi.fired_at hos).1

theorem Inv.stamp_le (hi : Inv env s os) {a b c : List Obs} {x y : Obs} {u v : Nat}
    (hos : os = a ++ x :: (b ++ y :: c)) (hx : x.stamp = some u) (hy : y.stamp = some v) :
    u ≤ v :=
  hi.ordered (a ++ x :: b) y c (by simp [hos]) v hy u (List.mem_filterMap.2 ⟨x, by simp, hx⟩)

/-- The first callback after an event, with no event in between, handles that event. -/
theorem Inv.first_start_after_event (hi : Inv env s os) {pre m post : List Obs}
    {e : WatchEvent} {f : String} {t : Nat} {cb : Callback} {h : Handling}
    (hos : os = pre ++ .collectionFileEvent e f t :: (m ++ .handled cb h :: post))
    (hq : Quiet m) : cb = ⟨e, f, t + 50⟩ ∧ NoStart m := by
  have hf := (hi.fired_at
    (show os = (pre ++ .collectionFileEvent e f t :: m) ++ .handled cb h :: post by simp [hos])).1
  rw [show pre ++ .collectionFileEvent e f t :: m = pre ++ [.collectionFileEvent e f t] ++ m
    by simp] at hf
  obtain ⟨hs, hp⟩ := pendingOf_quiet_eq_some hq hf
  simp only [pendingOf_snoc, pendingStep, Option.some.injEq, Timer.mk.injEq] at hp
  exact ⟨by cases cb; simp_all, hs⟩

/-- Two callbacks are separated by the end of a burst: the event the first handles and the
next event are at least 50 ms apart, and the second callback starts later. -/
theorem Inv.handled_separated (hi : Inv env s os) {pre mid post : List Obs}
    {cb₁ cb₂ : Callback} {h₁ h₂ : Handling}
    (hos : os = pre ++ .handled cb₁ h₁ :: (mid ++ .handled cb₂ h₂ :: post)) :
    ∃ pre₀ t₀ mid₀ mid₁ e f t₁ mid₂,
      pre = pre₀ ++ .collectionFileEvent cb₁.event cb₁.file t₀ :: mid₀ ∧
      mid = mid₁ ++ .collectionFileEvent e f t₁ :: mid₂ ∧ Quiet mid₀ ∧ Quiet mid₁ ∧
      t₀ + 50 ≤ t₁ ∧ cb₁.currentTime < cb₂.currentTime := by
  obtain ⟨pre₀, t₀, mid₀, rfl, h₀, hq₀, -⟩ := hi.handled_settles hos
  have hf := (hi.fired_at (show os = (pre₀ ++ .collectionFileEvent cb₁.event cb₁.file t₀ ::
    mid₀ ++ .handled cb₁ h₁ :: mid) ++ .handled cb₂ h₂ :: post by simp [hos])).1
  rw [show pre₀ ++ .collectionFileEvent cb₁.event cb₁.file t₀ :: mid₀ ++
      .handled cb₁ h₁ :: mid =
    (pre₀ ++ .collectionFileEvent cb₁.event cb₁.file t₀ :: mid₀ ++ [.handled cb₁ h₁]) ++
      mid by simp] at hf
  obtain ⟨m₁, t₂, m₂, hmid, hd⟩ := pendingOf_rearmed (by rw [pendingOf_snoc]; rfl) hf
  obtain ⟨mid₁, e, f, t₁, mid₂, hm, hq₁⟩ := exists_first_event mid
    fun hq => by rw [hmid] at hq; simp [Obs.isCollectionFileEvent] at hq
  have le₁ : cb₁.currentTime ≤ t₁ := hi.stamp_le (x := .handled cb₁ h₁)
    (a := pre₀ ++ .collectionFileEvent cb₁.event cb₁.file t₀ :: mid₀)
    (y := .collectionFileEvent e f t₁) (b := mid₁) (c := mid₂ ++ .handled cb₂ h₂ :: post)
    (by rw [hos, hm]; simp) rfl rfl
  have le₂ : cb₁.currentTime ≤ t₂ := hi.stamp_le (x := .handled cb₁ h₁)
    (a := pre₀ ++ .collectionFileEvent cb₁.event cb₁.file t₀ :: mid₀)
    (y := .collectionFileEvent cb₂.event cb₂.file t₂) (b := m₁)
    (c := m₂ ++ .handled cb₂ h₂ :: post) (by rw [hos, hmid]; simp) rfl rfl
  exact ⟨pre₀, t₀, mid₀, mid₁, e, f, t₁, mid₂, rfl, hm, hq₀, hq₁, by omega,
    by simp at hd; omega⟩

theorem Lifecycle.count_compile_le (hl : Lifecycle s os) (cb : Callback) :
    os.count (.compile cb) ≤ 1 :=
  (Nat.le_add_right _ _).trans (hl.compileOnce cb)

theorem Lifecycle.count_cleanup_le (hl : Lifecycle s os) (cb : Callback) :
    os.count (.cleanupOrphanedFiles cb) ≤ 1 :=
  (Nat.le_add_right _ _).trans (hl.cleanupOnce cb)

/-- A callback compiles or cleans up, never both: the two calls sit in different branches. -/
theorem Lifecycle.not_compile_and_cleanup (hl : Lifecycle s os) (cb : Callback) :
    ¬(Obs.compile cb ∈ os ∧ Obs.cleanupOrphanedFiles cb ∈ os) := by
  rintro ⟨h₁, h₂⟩
  have := hl.compileBranch cb h₁
  have := hl.cleanupBranch cb h₂
  cases hc : cb.event <;> simp_all [WatchEvent.isUnlink, WatchEvent.isAddOrChange]

theorem Lifecycle.started_of_mem (hl : Lifecycle s os) {o : Obs} {cb : Callback} (ho : o ∈ os)
    (hc : o.callback? = some cb) : ∃ h, Obs.handled cb h ∈ os :=
  hl.started cb (.inl ⟨o, ho, hc⟩)

/-- An event on any other file neither arms, clears nor postpones the debounce timer. -/
theorem step_watch_other {s' : Watcher} {o : List Obs} {e : WatchEvent} {f : String}
    (hc : isCollectionFile env.userCollections f = false)
    (h : step env s (.watch e f) = some (s', o)) :
    s'.compileTimeout = s.compileTimeout ∧ Quiet o := by
  simp only [step, handleWatcherEvent_eq, hc, Option.some.injEq, Prod.mk.injEq] at h
  obtain ⟨rfl, rfl⟩ := h
  refine ⟨rfl, ?_⟩
  simp only [Bool.false_eq_true, if_false, List.nil_append]
  split <;> simp [Obs.isCollectionFileEvent]

/-! ## The plugin in `/app` -/

/-- The plugin started in `/app`, without Redis. -/
def appEnv : Env :=
  ⟨"/app/config/collections", "/app/config/roles.ts", false⟩

/-- `config/collections/Posts.ts` under `/app`. -/
def postsFile : String := "/app/config/collections/Posts.ts"

/-- `config/collections/Articles.ts` under `/app`. -/
def articlesFile : String := "/app/config/collections/Articles.ts"

/-- `config/collections/Pages.ts` under `/app`. -/
def pagesFile : String := "/app/config/collections/Pages.ts"

/-- A deletion of `Posts.ts` that ends its burst: its callback starts 50 ms later, takes the
deletion branch and calls `cleanupOrphanedFiles`. -/
theorem settled_deletion_run :
    ∃ s, Run appEnv (Watcher.init 0) s
      [.collectionFileEvent .unlink postsFile 0, .handled ⟨.unlink, postsFile, 50⟩ .deleted,
        .cleanupOrphanedFiles ⟨.unlink, postsFile, 50⟩] :=
  Run.exists_of_exec [.watch .unlink postsFile, .tick 50, .fire,
    .resume (.callback ⟨.unlink, postsFile, 50⟩ .importCleanup) true] (by decide)

/-! ## The debounce -/

/-- The debounce settles bursts: every callback that runs handles the most recent
collection-file event, 50 ms after it; two callbacks are separated by the end of a burst and
start in order; each callback calls `compile` at most once and `cleanupOrphanedFiles` at most
once, never both, and only after it started; and an event on any other file does not touch
the timer. -/
theorem callbacks_settle_bursts (h : Run env (Watcher.init start) s os) :
    (∀ pre cb hd post, os = pre ++ .handled cb hd :: post →
      ∃ pre' t mid, pre = pre' ++ .collectionFileEvent cb.event cb.file t :: mid ∧
        cb.currentTime = t + 50 ∧ Quiet mid ∧ NoStart mid) ∧
    (∀ pre cb₁ h₁ mid cb₂ h₂ post, os = pre ++ .handled cb₁ h₁ :: (mid ++ .handled cb₂ h₂ :: post) →
      ∃ pre₀ t₀ mid₀ mid₁ e f t₁ mid₂,
        pre = pre₀ ++ .collectionFileEvent cb₁.event cb₁.file t₀ :: mid₀ ∧
        mid = mid₁ ++ .collectionFileEvent e f t₁ :: mid₂ ∧ Quiet mid₀ ∧ Quiet mid₁ ∧
        t₀ + 50 ≤ t₁ ∧ cb₁.currentTime < cb₂.currentTime) ∧
    (∀ cb, os.count (.compile cb) ≤ 1 ∧ os.count (.cleanupOrphanedFiles cb) ≤ 1 ∧
      ¬(Obs.compile cb ∈ os ∧ Obs.cleanupOrphanedFiles cb ∈ os) ∧
      (Obs.compile cb ∈ os ∨ Obs.cleanupOrphanedFiles cb ∈ os → ∃ h, Obs.handled cb h ∈ os)) ∧
    (∀ (s₁ s₂ : Watcher) e f o, isCollectionFile env.userCollections f = false →
      step env s₁ (.watch e f) = some (s₂, o) → s₂.compileTimeout = s₁.compileTimeout ∧ Quiet o) := by
  have hi := h.inv
  have hl := h.lifecycle
  refine ⟨fun _ _ _ _ hos => hi.handled_settles hos,
    fun _ _ _ _ _ _ _ hos => hi.handled_separated hos,
    fun cb => ⟨hl.count_compile_le cb, hl.count_cleanup_le cb,
      hl.not_compile_and_cleanup cb, ?_⟩,
    fun _ _ _ _ _ hc hs => step_watch_other hc hs⟩
  rintro (hm | hm) <;> exact hl.started_of_mem hm rfl

/-- In the run of a settled deletion, its callback calls `cleanupOrphanedFiles` once. -/
theorem settled_deletion_cleans_up_once :
    ∃ s os, Run appEnv (Watcher.init 0) s os ∧
      Obs.cleanupOrphanedFiles ⟨.unlink, postsFile, 50⟩ ∈ os ∧
      os.count (.cleanupOrphanedFiles ⟨.unlink, postsFile, 50⟩) ≤ 1 := by
  obtain ⟨s, h⟩ := settled_deletion_run
  exact ⟨s, _, h, by simp, ((callbacks_settle_bursts h).2.2.1 _).2.1⟩

/-! ## Settled events are handled -/

/-- A callback that starts in a quiet stretch after an event handles that event. -/
theorem Inv.handled_in_quiet (hi : Inv env s os) {pre mid post : List Obs} {e : WatchEvent}
    {f : String} {t : Nat} (hos : os = pre ++ .collectionFileEvent e f t :: (mid ++ post))
    (hq : Quiet mid) (hn : ¬NoStart mid) : ∃ hd, Obs.handled ⟨e, f, t + 50⟩ hd ∈ mid := by
  simp only [NoStart, not_forall, Bool.not_eq_false, exists_prop] at hn
  obtain ⟨x, hx, hh⟩ := hn
  obtain ⟨m₁, m₂, rfl⟩ := List.append_of_mem hx
  cases x with
  | handled cb hd =>
    simp only [quiet_append] at hq
    obtain ⟨rfl, -⟩ := hi.first_start_after_event (show os = pre ++
      .collectionFileEvent e f t :: (m₁ ++ .handled cb hd :: (m₂ ++ post)) by rw [hos]; simp) hq.1
    exact ⟨hd, hx⟩
  | _ => simp [Obs.isHandled] at hh

/-- Timers fire on time, so the debounce drops no settled event: in every run, a
collection-file event followed by more than 50 ms with no other collection-file event, up
to the next one or up to the current time, is handled by a callback started 50 ms after
it. -/
theorem settled_event_handled (h : Run env (Watcher.init start) s os) {pre mid : List Obs}
    {e : WatchEvent} {f : String} {t : Nat} (hq : Quiet mid) :
    (∀ e' f' t' post, os = pre ++ .collectionFileEvent e f t ::
        (mid ++ .collectionFileEvent e' f' t' :: post) → t + 50 < t' →
      ∃ hd, Obs.handled ⟨e, f, t + 50⟩ hd ∈ mid) ∧
    (os = pre ++ .collectionFileEvent e f t :: mid → t + 50 < s.now →
      ∃ hd, Obs.handled ⟨e, f, t + 50⟩ hd ∈ mid) := by
  have hi := h.inv
  refine ⟨fun e' f' t' post hos ht => hi.handled_in_quiet hos hq fun hs => ?_,
    fun hos ht => hi.handled_in_quiet (show os = pre ++ .collectionFileEvent e f t :: (mid ++ [])
      by simp [hos]) hq fun hs => ?_⟩
  · have harmed := (hi.armed (pre ++ .collectionFileEvent e f t :: mid)
      (.collectionFileEvent e' f' t') post (by rw [hos]; simp)).2
    rw [pendingOf_event_silent pre mid e f t hq hs] at harmed
    have : t' ≤ t + 50 := harmed _ rfl
    omega
  · have hp : s.compileTimeout = some ⟨e, f, t + 50⟩ := by
      rw [hi.timer, hos, pendingOf_event_silent pre mid e f t hq hs]
    have : s.now ≤ t + 50 := hi.due _ hp
    omega

/-- A deletion of `Posts.ts` and an addition 120 ms later: the deletion was handled. -/
theorem late_add_after_handled_deletion :
    ∃ s, Run appEnv (Watcher.init 0) s
        [.collectionFileEvent .unlink postsFile 0, .handled ⟨.unlink, postsFile, 50⟩ .deleted,
          .collectionFileEvent .add articlesFile 120] ∧
      ∃ hd, Obs.handled ⟨.unlink, postsFile, 50⟩ hd ∈
        [Obs.handled ⟨.unlink, postsFile, 50⟩ .deleted] := by
  obtain ⟨s, h⟩ : ∃ s, Run appEnv (Watcher.init 0) s
      [.collectionFileEvent .unlink postsFile 0, .handled ⟨.unlink, postsFile, 50⟩ .deleted,
        .collectionFileEvent .add articlesFile 120] :=
    Run.exists_of_exec [.watch .unlink postsFile, .tick 50, .fire, .tick 120,
      .watch .add articlesFile] (by decide)
  have hq : Quiet [.handled ⟨.unlink, postsFile, 50⟩ .deleted] := by
    simp [Obs.isCollectionFileEvent]
  exact ⟨s, h, (settled_event_handled h hq).1 .add articlesFile 120 []
    (show _ = [] ++ _ from rfl) (by decide)⟩

/-! ## Which files arm the timer -/

/-- A file of the sibling directory `config/collections-old` is not inside
`config/collections`, yet its event re-arms the debounce timer like a collection file's. -/
theorem sibling_directory_arms_debounce (s : Watcher) (e : WatchEvent) :
    insideDir appEnv.userCollections "/app/config/collections-old/a.ts" = false ∧
      step appEnv s (.watch e "/app/config/collections-old/a.ts") =
        some (s.arm e "/app/config/collections-old/a.ts",
          [.collectionFileEvent e "/app/config/collections-old/a.ts" s.now]) := by
  refine ⟨by decide, ?_⟩
  have hc : isCollectionFile appEnv.userCollections "/app/config/collections-old/a.ts" := by decide
  have hr : isRolesFile appEnv.rolesPath "/app/config/collections-old/a.ts" = false := by decide
  simp [step, handleWatcherEvent_eq, hc, hr, Watcher.arm]

/-- Every script file strictly inside the collections directory enters the pipeline: its
event re-arms the debounce timer for itself, 50 ms ahead, and is logged first. -/
theorem inside_file_arms_debounce {f : String} (hin : insideDir env.userCollections f = true)
    (hx : hasScriptExtension f = true) (s : Watcher) (e : WatchEvent) :
    ∃ s' o, step env s (.watch e f) = some (s', o) ∧
      s'.compileTimeout = some ⟨e, f, s.now + 50⟩ ∧
      o.head? = some (.collectionFileEvent e f s.now) := by
  have hc := isCollectionFile_of_insideDir hin hx
  exact ⟨_, _, rfl, by simp [handleWatcherEvent_eq, hc, Watcher.arm],
    by simp [handleWatcherEvent_eq, hc]⟩

end SveltyCms
