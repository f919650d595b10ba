import Mathlib.Logic.Basic

/-!
# The config-file check at load time

Before the plugins exist, `vite.config.ts` checks that `config/private.ts` and
`config/public.ts` both exist. If one is missing it runs `npm run installer` and checks again:
Vite goes on only if the second check passes, and otherwise calls `process.exit(1)`, also when
the installer itself throws. The file system is read twice, before and after the installer,
so the installer is a parameter: any function from the files it found to the files it left,
or to the message it threw with.

`startup_needs_config_files` is the guard's purpose, over every file state and every installer:
a complete config proceeds at once without the installer, Vite proceeds only with both files
present, and every abort exits with code 1.
-/

namespace SveltyCms

/-- Which of `privateConfigPath` and `publicConfigPath` `existsSync` finds. -/
structure ConfigFiles where
  privateTs : Bool
  publicTs : Bool
  deriving DecidableEq, Repr

/-- `checkConfigFiles()`: `existsSync(privateConfigPath) && existsSync(publicConfigPath)`. -/
def checkConfigFiles (files : ConfigFiles) : Bool :=
  files.privateTs && files.publicTs

/-- The console lines of the check, in the order the code prints them. -/
inductive ConfigLog
  /-- `Config files missing. Launching CLI installer...` -/
  | configFilesMissing
  /-- `Installer exited without creating config files. Aborting Vite startup.` -/
  | installerWithoutConfig
  /-- `Installer completed successfully. Continuing Vite startup...` -/
  | installerCompleted
  /-- `Error running the installer or installer exited prematurely. Aborting Vite startup.`,
  with `error.message`. -/
  | installerError (message : String)
  deriving DecidableEq, Repr

/-- How loading the config file ends: Vite goes on with the files it found, or
`process.exit(code)`. -/
inductive Startup
  | proceed (files : ConfigFiles)
  | exit (code : Nat)
  deriving DecidableEq, Repr

/-- Lines 36-59: check the config files and, if one is missing, launch the installer
(`execSync('npm run installer')` returns the files it left, or throws) and check again. -/
def ensureConfigFiles (installer : ConfigFiles → Except String ConfigFiles)
    (files : ConfigFiles) : List ConfigLog × Startup :=
  if checkConfigFiles files then ([], .proceed files)
  else
    match installer files with
    | .ok files' =>
      if checkConfigFiles files' then ([.configFilesMissing, .installerCompleted], .proceed files')
      else ([.configFilesMissing, .installerWithoutConfig], .exit 1)
    | .error message => ([.configFilesMissing, .installerError message], .exit 1)

/-- The three ways the check can end, by what the two reads of the file system found. -/
theorem ensureConfigFiles_cases (installer : ConfigFiles → Except String ConfigFiles)
    (files : ConfigFiles) :
    (checkConfigFiles files = true ∧ ensureConfigFiles installer files = ([], .proceed files)) ∨
      (checkConfigFiles files = false ∧ ∃ files', installer files = .ok files' ∧
        checkConfigFiles files' = true ∧
        ensureConfigFiles installer files =
          ([.configFilesMissing, .installerCompleted], .proceed files')) ∨
      (checkConfigFiles files = false ∧ ∃ log,
        ensureConfigFiles installer files = (.configFilesMissing :: log, .exit 1)) := by
  cases hc : checkConfigFiles files
  · cases hi : installer files with
    | ok files' =>
      cases hc' : checkConfigFiles files'
      · exact .inr (.inr ⟨rfl, [.installerWithoutConfig], by simp [ensureConfigFiles, hc, hi, hc']⟩)
      · exact .inr (.inl ⟨rfl, files', rfl, hc', by simp [ensureConfigFiles, hc, hi, hc']⟩)
    | error message =>
      exact .inr (.inr ⟨rfl, [.installerError message], by simp [ensureConfigFiles, hc, hi]⟩)
  · exact .inl ⟨rfl, by simp [ensureConfigFiles, hc]⟩

/-- Vite never starts without its config: for every state of the file system and every
outcome of the installer, a complete config proceeds at once, printing nothing and launching no
installer; the check proceeds only with `private.ts` and `public.ts` both present; it prints
nothing exactly when both were there; and every abort is `process.exit(1)`. -/
theorem startup_needs_config_files (installer : ConfigFiles → Except String ConfigFiles)
    (files : ConfigFiles) :
    (files.privateTs = true ∧ files.publicTs = true →
      ensureConfigFiles installer files = ([], .proceed files)) ∧
    (∀ files', (ensureConfigFiles installer files).2 = .proceed files' →
      files'.privateTs = true ∧ files'.publicTs = true) ∧
    ((ensureConfigFiles installer files).1 = [] ↔
      files.privateTs = true ∧ files.publicTs = true) ∧
    (∀ code, (ensureConfigFiles installer files).2 = .exit code → code = 1) := by
  have both : ∀ f, checkConfigFiles f = true ↔ f.privateTs = true ∧ f.publicTs = true :=
    fun _ => (Bool.and_eq_true _ _).to_iff
  have missing : checkConfigFiles files = false →
      ¬(files.privateTs = true ∧ files.publicTs = true) := fun hc h => by
    rw [← both, hc] at h
    exact Bool.false_ne_true h
  rcases ensureConfigFiles_cases installer files with
    ⟨hc, he⟩ | ⟨hc, f', -, hc', he⟩ | ⟨hc, log, he⟩ <;> rw [he]
  · exact ⟨fun _ => rfl, fun _ h => by cases h; exact (both _).1 hc,
      iff_of_true rfl ((both _).1 hc), fun _ => nofun⟩
  · exact ⟨fun h => absurd h (missing hc), fun _ h => by cases h; exact (both _).1 hc',
      iff_of_false (List.cons_ne_nil _ _) (missing hc), fun _ => nofun⟩
  · exact ⟨fun h => absurd h (missing hc), fun _ => nofun,
      iff_of_false (List.cons_ne_nil _ _) (missing hc), fun _ h => by cases h; rfl⟩

/-- A fresh checkout whose installer writes both files: Vite goes on after two lines. -/
example : ensureConfigFiles (fun _ => .ok ⟨true, true⟩) ⟨false, false⟩ =
    ([.configFilesMissing, .installerCompleted], .proceed ⟨true, true⟩) := rfl

end SveltyCms
