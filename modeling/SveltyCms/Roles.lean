import SveltyCms.Debounce

/-!
# Reloads of the roles

A change of `config/roles.ts` starts a reload of the roles: it awaits the new roles module,
then `src/auth/types`, and ends in a `full-reload` message to the browser or in the logged
error. Reloads are not serialised: each change starts its own, interleaved with the other
reloads and with the debounce callbacks. `Balanced` counts them: the changes in a trace are
the reloads that ended in it and those still suspended in the state. `Run.balanced` is the
induction over a run, and `roles_reloads_balance` reads off that no reload is lost or
duplicated, so that nothing but a change of the roles file reloads the page.
-/

namespace SveltyCms

/-- A suspended continuation of the roles branch. -/
def Task.isRolesReload : Task → Bool
  | .rolesReload _ => true
  | .callback _ _ => false

/-- `Roles file changed: file`, the start of a reload. -/
def Obs.isRolesFileChanged : Obs → Bool
  | .rolesFileChanged _ => true
  | _ => false

/-- The end of a reload: `full-reload` sent, or `Error reloading roles` logged. -/
def Obs.endsReload : Obs → Bool
  | .fullReload | .rolesError => true
  | _ => false

/-- Every reload started in the trace has ended in it or is suspended in the state. -/
def Balanced (s : Watcher) (os : List Obs) : Prop :=
  os.countP Obs.isRolesFileChanged =
    os.countP Obs.endsReload + s.running.countP Task.isRolesReload

/-! ## What each step does to the count -/

/-- The observations of a resumed callback are about no reload. -/
theorem countP_resumeCallback {q : Obs → Bool}
    (hq : ∀ x cb, x.callback? = some cb → q x = false) (r : Bool) (cb : Callback) (st : Await)
    (ok : Bool) :
    (resumeCallback r cb st ok).2.countP q = 0 :=
  List.countP_eq_zero.2 fun x hx => by
    rw [hq x cb (callback?_resumeCallback r cb st ok x hx)]
    exact Bool.false_ne_true

theorem isRolesFileChanged_of_callback? (x : Obs) (cb : Callback) (h : x.callback? = some cb) :
    x.isRolesFileChanged = false := by
  cases x <;> first | rfl | cases h

theorem endsReload_of_callback? (x : Obs) (cb : Callback) (h : x.callback? = some cb) :
    x.endsReload = false := by
  cases x <;> first | rfl | cases h

variable {s s' : Watcher} {os o : List Obs}

theorem Balanced.init (t : Nat) : Balanced (Watcher.init t) [] := rfl

theorem Balanced.watch (hb : Balanced s os) (env : Env) (e : WatchEvent) (f : String) :
    Balanced (handleWatcherEvent env s e f).1 (os ++ (handleWatcherEvent env s e f).2) := by
  rw [handleWatcherEvent_eq]
  unfold Balanced at *
  by_cases hr : isRolesFile env.rolesPath f <;>
    by_cases hc : isCollectionFile env.userCollections f <;>
    simp [hr, hc, hb, List.countP_append, Obs.isRolesFileChanged, Obs.endsReload,
      Task.isRolesReload] <;> omega

theorem Balanced.fire (hb : Balanced s os) (p : Timer) :
    Balanced (fireCompileTimeout s p).1 (os ++ (fireCompileTimeout s p).2) := by
  rw [fireCompileTimeout_eq]
  unfold Balanced at *
  have hf : (firstAwait ⟨p.event, p.file, s.now⟩).countP Task.isRolesReload = 0 := by
    unfold firstAwait
    split_ifs <;> rfl
  simp only [List.countP_append, hf, hb]
  split <;> simp [Obs.isRolesFileChanged, Obs.endsReload]

theorem Balanced.resume (hb : Balanced s os) (env : Env) {task : Task} (ok : Bool)
    (hT : task ∈ s.running) :
    Balanced { s with running := s.running.erase task ++ (resumeTask env task ok).1.toList }
      (os ++ (resumeTask env task ok).2) := by
  have hp := (List.perm_cons_erase hT).countP_eq Task.isRolesReload
  unfold Balanced at *
  simp only [List.countP_append]
  cases task with
  | callback cb st =>
    simp only [resumeTask, countP_resumeCallback isRolesFileChanged_of_callback?,
      countP_resumeCallback endsReload_of_callback?]
    cases (resumeCallback env.redisEnabled cb st ok).1 <;>
      simp_all [Task.isRolesReload]
  | rolesReload st =>
    cases st <;> cases ok <;>
      simp_all [resumeTask, resumeRolesReload, Task.isRolesReload, Obs.isRolesFileChanged,
        Obs.endsReload] <;> omega

theorem Balanced.step (hb : Balanced s os) {env : Env} {i : Input}
    (h : step env s i = some (s', o)) : Balanced s' (os ++ o) := by
  rcases step_eq_some h with ⟨e, f, he⟩ | ⟨t, -, rfl, rfl⟩ | ⟨p, -, -, he⟩ |
      ⟨task, ok, hT, rfl, rfl⟩
  · have := hb.watch env e f
    rw [← he] at this
    exact this
  · simpa [Balanced] using hb
  · have := hb.fire p
    rw [← he] at this
    exact this
  · exact hb.resume env ok hT

/-- Every run from `Watcher.init` keeps the count. -/
theorem Run.balanced {env : Env} {t : Nat} (h : Run env (Watcher.init t) s os) :
    Balanced s os := by
  induction h with
  | nil => exact Balanced.init t
  | snoc _ hs ih => exact ih.step hs

/-! ## No reload lost or duplicated -/

/-- In every run, each change of the roles file has started one reload, which has ended in
one `full-reload` or one logged error, or is still awaiting; so the page is reloaded no more
often than the roles file changed. -/
theorem roles_reloads_balance {env : Env} {start : Nat} (h : Run env (Watcher.init start) s os) :
    os.countP Obs.isRolesFileChanged =
        os.countP Obs.endsReload + s.running.countP Task.isRolesReload ∧
      os.count .fullReload ≤ os.countP Obs.isRolesFileChanged := by
  have hb := h.balanced
  refine ⟨hb, ?_⟩
  calc os.count .fullReload ≤ os.countP Obs.endsReload :=
        List.countP_mono_left fun x _ hx => by rw [beq_iff_eq.1 hx]; rfl
    _ ≤ os.countP Obs.isRolesFileChanged := hb ▸ Nat.le_add_right _ _

/-- In `/app`, a change of `config/roles.ts` whose two imports return reloads the page once,
and the count balances. -/
theorem roles_change_reloads_once :
    ∃ s os, Run appEnv (Watcher.init 0) s os ∧
      os = [.rolesFileChanged "/app/config/roles.ts", .fullReload] ∧
      os.countP Obs.isRolesFileChanged =
        os.countP Obs.endsReload + s.running.countP Task.isRolesReload ∧
      os.count .fullReload ≤ os.countP Obs.isRolesFileChanged := by
  obtain ⟨s, h⟩ : ∃ s, Run appEnv (Watcher.init 0) s
      [.rolesFileChanged "/app/config/roles.ts", .fullReload] :=
    Run.exists_of_exec [.watch .change "/app/config/roles.ts",
      .resume (.rolesReload .importRoles) true, .resume (.rolesReload .importAuthTypes) true]
      (by decide)
  exact ⟨s, _, h, rfl, roles_reloads_balance h⟩

end SveltyCms
