import SveltyCms.Routing

/-!
# The collection watcher

`configureServer` of the `collection-watcher` plugin in `vite.config.ts`, as a state
machine. The state (`Watcher`) holds the clock `Date.now()`, the one module-level
debounce timer `compileTimeout`, the rename slot `lastUnlinkFile` and `lastUnlinkTime`,
and the async continuations suspended at an `await` (`running`). An `Input` is what the
outside does next: the file watcher reports an event, the clock moves, the pending timer
fires, or a suspended continuation resumes because the call it awaits returned or threw.
`step` runs the code from there to its next `await` and reports what it did as `Obs`
values: the console lines that classify a change, the calls into the collaborators, and
the messages to the client.

The clock never goes back and never passes the deadline of a pending timer
(`Watcher.canTick`), so a timer fires 50 ms after the event that armed it unless an event
clears it first; at the deadline itself either order can happen. Continuations resume in
any order, each with either outcome of its call. `Run` is every trace of such steps from a
state, and `exec` runs a list of inputs.

`lastUUIDUpdate` is written by the callback and read by nothing, so it is left out; so are
the console lines that only report a step done.
-/

namespace SveltyCms

/-! ## Events, callbacks and observations -/

/-- The event names chokidar passes to an `'all'` listener. -/
inductive WatchEvent
  | add | addDir | change | unlink | unlinkDir
  deriving DecidableEq, Repr

/-- `event === 'unlink' || event === 'unlinkDir'`. -/
def WatchEvent.isUnlink : WatchEvent → Bool
  | .unlink | .unlinkDir => true
  | _ => false

/-- `event === 'add' || event === 'change'`. -/
def WatchEvent.isAddOrChange : WatchEvent → Bool
  | .add | .change => true
  | _ => false

/-- What the plugin reads from outside: `userCollections` and the path of
`config/roles.ts`, both built from `process.cwd()`, and the answer of `isRedisEnabled()`. -/
structure Env where
  userCollections : String
  rolesPath : String
  redisEnabled : Bool

/-- The callback `setTimeout` armed: the `event` and `file` its closure captured, and the
time it is due. -/
structure Timer where
  event : WatchEvent
  file : String
  deadline : Nat
  deriving DecidableEq, Repr

/-- A debounce callback that has started: its closure's `event` and `file`, and the
`currentTime` it read from `Date.now()`. -/
structure Callback where
  event : WatchEvent
  file : String
  currentTime : Nat
  deriving DecidableEq, Repr

/-- The `await`s of the debounce callback, in the order the code reaches them; the first
two are those of the deletion branch. -/
inductive Await
  | importCleanup | cleanupOrphanedFiles
  | importCompile | compile | importRedis | importContentManager | importContentTypes
  | clearCache | updateCollections | generateContentTypes
  deriving DecidableEq, Repr

/-- The `await`s of the listener's branch for `config/roles.ts`. -/
inductive RolesAwait
  | importRoles | importAuthTypes
  deriving DecidableEq, Repr

/-- An async continuation suspended at an `await`. -/
inductive Task
  | callback (cb : Callback) (stage : Await)
  | rolesReload (stage : RolesAwait)
  deriving DecidableEq, Repr

/-- How a debounce callback classified its change, as its first console line says. -/
inductive Handling
  /-- `Collection file deleted: file`. -/
  | deleted
  /-- `Collection file renamed: source -> file`. -/
  | renamed (source : String)
  /-- `Collection file add: file` or `Collection file change: file`. -/
  | updated
  /-- Neither branch, as for an `addDir` event. -/
  | other
  deriving DecidableEq, Repr

/-- What a step does that the outside sees. -/
inductive Obs
  /-- `Collection file event: event - file` at `time`, and the debounce timer re-armed. -/
  | collectionFileEvent (event : WatchEvent) (file : String) (time : Nat)
  /-- The callback `cb` started and classified its change. -/
  | handled (cb : Callback) (h : Handling)
  | cleanupOrphanedFiles (cb : Callback)
  | compile (cb : Callback)
  | clearCache (cb : Callback)
  | updateCollections (cb : Callback)
  | generateContentTypes (cb : Callback)
  /-- `server.ws.send` of the custom event `collections-updated`. -/
  | collectionsUpdated (cb : Callback)
  /-- `Error processing collection file ...`: the callback stops. -/
  | processingError (cb : Callback)
  /-- `Error during post-compilation sync`. -/
  | syncError (cb : Callback)
  | rolesFileChanged (file : String)
  /-- `setLoadedRoles(roles)`, then `server.ws.send` of `full-reload`. -/
  | fullReload
  | rolesError
  deriving DecidableEq, Repr

/-! ## The state and the code between two `await`s -/

/-- The watcher's state between two steps. -/
structure Watcher where
  now : Nat
  compileTimeout : Option Timer
  lastUnlinkFile : Option String
  lastUnlinkTime : Nat
  running : List Task
  deriving DecidableEq, Repr

/-- The state when `configureServer` installs the listener, at time `t`. -/
def Watcher.init (t : Nat) : Watcher :=
  ⟨t, none, none, 0, []⟩

/-- `clearTimeout(compileTimeout); compileTimeout = setTimeout(..., 50)`. -/
def Watcher.arm (s : Watcher) (event : WatchEvent) (file : String) : Watcher :=
  { s with compileTimeout := some ⟨event, file, s.now + 50⟩ }

/-- The `'all'` listener up to its first `await`: a collection file clears and re-arms the
debounce timer, and `config/roles.ts` starts a reload of the roles. -/
def handleWatcherEvent (env : Env) (s : Watcher) (event : WatchEvent) (file : String) :
    Watcher × List Obs :=
  let collection := isCollectionFile env.userCollections file
  let roles := isRolesFile env.rolesPath file
  let s₁ := if collection then s.arm event file else s
  ({ s₁ with running := s₁.running ++ (if roles then [.rolesReload .importRoles] else []) },
    (if collection then [.collectionFileEvent event file s.now] else []) ++
      if roles then [.rolesFileChanged file] else [])

/-- `lastUnlinkFile && currentTime - lastUnlinkTime < 100`, as the file the rename is
from. A JavaScript string is truthy when it is not empty. -/
def renameSource (lastUnlinkFile : Option String) (lastUnlinkTime currentTime : Nat) :
    Option String :=
  lastUnlinkFile.filter fun f => f != "" && decide ((currentTime : Int) - lastUnlinkTime < 100)

/-- The debounce callback of the timer `p`, run at its deadline up to its first `await`. -/
def fireCompileTimeout (s : Watcher) (p : Timer) : Watcher × List Obs :=
  let cb : Callback := ⟨p.event, p.file, s.now⟩
  let s := { s with compileTimeout := none }
  if p.event.isUnlink then
    ({ s with
        lastUnlinkFile := some p.file
        lastUnlinkTime := cb.currentTime
        running := s.running ++ [.callback cb .importCleanup] },
      [.handled cb .deleted])
  else if p.event.isAddOrChange then
    match renameSource s.lastUnlinkFile s.lastUnlinkTime cb.currentTime with
    | some source =>
      ({ s with lastUnlinkFile := none, running := s.running ++ [.callback cb .importCompile] },
        [.handled cb (.renamed source)])
    | none =>
      ({ s with running := s.running ++ [.callback cb .importCompile] }, [.handled cb .updated])
  else (s, [.handled cb .other, .collectionsUpdated cb])

/-- The callback resumed at `stage` because the awaited call returned (`ok`) or threw: the
`await` it stops at next, if any, and what it does up to there. -/
def resumeCallback (redisEnabled : Bool) (cb : Callback) :
    Await → Bool → Option Await × List Obs
  | .importCleanup, true => (some .cleanupOrphanedFiles, [.cleanupOrphanedFiles cb])
  | .cleanupOrphanedFiles, true => (none, [.collectionsUpdated cb])
  | .importCompile, true => (some .compile, [.compile cb])
  | .compile, true => (some .importRedis, [])
  | .importRedis, true => (some .importContentManager, [])
  | .importContentManager, true => (some .importContentTypes, [])
  | .importContentTypes, true =>
    if redisEnabled then (some .clearCache, [.clearCache cb])
    else (some .updateCollections, [.updateCollections cb])
  | .clearCache, true => (some .updateCollections, [.updateCollections cb])
  | .updateCollections, true => (some .generateContentTypes, [.generateContentTypes cb])
  | .generateContentTypes, true => (none, [.collectionsUpdated cb])
  | .importCleanup, false | .cleanupOrphanedFiles, false | .importCompile, false
  | .compile, false => (none, [.processingError cb])
  | _, false => (none, [.syncError cb, .collectionsUpdated cb])

/-- The roles branch resumed at `stage`. -/
def resumeRolesReload : RolesAwait → Bool → Option RolesAwait × List Obs
  | .importRoles, true => (some .importAuthTypes, [])
  | .importAuthTypes, true => (none, [.fullReload])
  | _, false => (none, [.rolesError])

/-- A suspended continuation resumed with the outcome `ok` of its call. -/
def resumeTask (env : Env) : Task → Bool → Option Task × List Obs
  | .callback cb stage, ok =>
    ((resumeCallback env.redisEnabled cb stage ok).1.map (.callback cb),
      (resumeCallback env.redisEnabled cb stage ok).2)
  | .rolesReload stage, ok =>
    ((resumeRolesReload stage ok).1.map .rolesReload, (resumeRolesReload stage ok).2)

/-! ## Steps and runs -/

/-- What happens next. -/
inductive Input
  /-- The file watcher reports `event` on `file`. -/
  | watch (event : WatchEvent) (file : String)
  /-- `Date.now()` moves to `t`. -/
  | tick (t : Nat)
  /-- The pending debounce timer fires. -/
  | fire
  /-- The suspended `task` resumes; its call returned if `ok`, else it threw. -/
  | resume (task : Task) (ok : Bool)
  deriving DecidableEq, Repr

/-- The clock may move to `t`: it does not go back, nor past a pending deadline. -/
def Watcher.canTick (s : Watcher) (t : Nat) : Bool :=
  decide (s.now ≤ t) && s.compileTimeout.all fun p => decide (t ≤ p.deadline)

/-- One step, `none` when the input cannot happen in `s`. -/
def step (env : Env) (s : Watcher) : Input → Option (Watcher × List Obs)
  | .watch event file => some (handleWatcherEvent env s event file)
  | .tick t => if s.canTick t then some ({ s with now := t }, []) else none
  | .fire =>
    match s.compileTimeout with
    | some p => if p.deadline = s.now then some (fireCompileTimeout s p) else none
    | none => none
  | .resume task ok =>
    if task ∈ s.running then
      some ({ s with running := s.running.erase task ++ (resumeTask env task ok).1.toList },
        (resumeTask env task ok).2)
    else none

/-- The states and traces that runs from `s₀` reach. -/
inductive Run (env : Env) (s₀ : Watcher) : Watcher → List Obs → Prop
  | nil : Run env s₀ s₀ []
  | snoc {s os i s' o} : Run env s₀ s os → step env s i = some (s', o) →
      Run env s₀ s' (os ++ o)

/-- Run `inputs` in order from the state and trace `acc`; `none` if one cannot happen. -/
def exec (env : Env) (acc : Watcher × List Obs) : List Input → Option (Watcher × List Obs)
  | [] => some acc
  | i :: inputs =>
    match step env acc.1 i with
    | some (s', o) => exec env (s', acc.2 ++ o) inputs
    | none => none

theorem Run.of_exec {env : Env} {s₀ : Watcher} :
    ∀ {inputs : List Input} {s s' : Watcher} {os os' : List Obs}, Run env s₀ s os →
      exec env (s, os) inputs = some (s', os') → Run env s₀ s' os'
  | [], _, _, _, _, h, he => by cases he; exact h
  | i :: inputs, s, _, os, _, h, he => by
    rw [exec] at he
    split at he
    · rename_i s₁ o hs
      exact Run.of_exec (h.snoc hs) he
    · cases he

theorem Run.exists_of_exec {env : Env} {s₀ : Watcher} (inputs : List Input) {os : List Obs}
    (h : (exec env (s₀, []) inputs).map Prod.snd = some os) : ∃ s, Run env s₀ s os := by
  obtain ⟨⟨s, os'⟩, he, rfl⟩ := Option.map_eq_some'.1 h
  exact ⟨s, Run.of_exec .nil he⟩

end SveltyCms
