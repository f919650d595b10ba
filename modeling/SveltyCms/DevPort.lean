import SveltyCms.Replace

/-!
# The port manager `scripts/dev-port.js`

`updateEnvPort(port)` writes the port into `.env.local`. A missing file is created with a
`PORT` and a `HOST` line. An existing one has every `PORT=<digits>` and every
`HOST_DEV=http://localhost:<digits>` rewritten, and gets a `PORT` line in front or a
`HOST_DEV` line at the end where it contains no `PORT=` or no `HOST_DEV=` at all. `main`
reads a command and a port argument; `set`, `find` and `auto` end in `updateEnvPort`.

A port is a JavaScript number: an integer, or `NaN` (`none`) where `parseInt` found no
digits. It prints in decimal below `10^21` and in exponent form (`1e+21`) from there on
(`portText`). `isPortAvailable` asks the operating system whether a server can listen on a
port; `main` takes its answers as a parameter, which for each port says free, in use, or that
the probe failed.

With a safe natural port the rewriting acts on each line by itself, and a line with neither
key is kept (`updateEnvPort_edits_lines`), but it is not keyed on whole lines. `/PORT=\d+/g`
also matches inside `DB_PORT=27017`, and `includes('PORT=')` holds for such a file, so the
database port is rewritten and no `PORT` line is added (`set_rewrites_other_port_keys`). A
negative port passes the guard of `set` and prints with a `-`, which `\d+` does not match,
so a later `set` changes nothing (`set_negative_port_sticks`). For natural ports below `10^21`
a later write overrides an earlier one (`updateEnvPort_override`); `set 1e21` sticks like a
negative port, since `e+21` survives every later write.

`findAvailablePort` probes `startPort`, the other default ports, then the hundred ports
from `startPort` on, some of them a second time, and returns the first found free
(`findAvailablePort_search_order`). `find` and `auto` write only a port the probe found
free (`main_writes_probed_port`), so where the probe reports only ports a server can listen
on, natural numbers below `65536`, the port they write is overridden by any later natural one
below `10^21` (`find_auto_overridden`).
-/

namespace SveltyCms

/-! ## Writing the port -/

/-- `1e21`: from this integer on, `Number.prototype.toString` prints in exponent form. -/
def exponentFormFrom : Nat := 1000000000000000000000

/-- `2^53`: an integer below it in absolute value is a safe integer, a double that JavaScript
prints exactly. -/
def safeIntegerBound : Nat := 9007199254740992

/-- `Number.prototype.toString` of an integer `n ≥ 10^21`: its first digit, then a `.` and the
other significant digits if there are any, then `e+` and the exponent, as in `1e+21` or
`1.5e+21`. -/
def exponentText (n : Nat) : String :=
  let digits := Nat.toDigits 10 n
  let significant := (digits.reverse.dropWhile (· = '0')).reverse
  ⟨significant.take 1 ++ if 1 < significant.length then '.' :: significant.drop 1 else []⟩ ++
    "e+" ++ toString (digits.length - 1)

/-- `${port}` for a port: an integer prints in decimal below `10^21`, and in exponent form
from `10^21` on, with a `-` when negative; `NaN` prints as `NaN`. A port is the integer
`parseInt` returned: this is JavaScript's text for every safe integer (below `2^53` in absolute
value); beyond it `parseInt` rounds to a double, which JavaScript prints by its shortest
digits. -/
def portText : Option Int → String
  | some p =>
    if p.natAbs < exponentFormFrom then toString p
    else (if p < 0 then "-" else "") ++ exponentText p.natAbs
  | none => "NaN"

example : portText (some exponentFormFrom) = "1e+21" ∧
    portText (some (-1500000000000000000000)) = "-1.5e+21" := by
  decide

/-- `updateEnvPort(port)`: what it writes to `.env.local`, given the file's content, or
`none` when the file does not exist. -/
def updateEnvPort (port : Option Int) : Option String → String
  | none => "PORT=" ++ portText port ++ "\nHOST=localhost\n"
  | some content =>
    let content :=
      if includes content "PORT=" then jsReplace content "PORT=" ("PORT=" ++ portText port)
      else "PORT=" ++ portText port ++ "\n" ++ content
    if includes content "HOST_DEV=" then
      jsReplace content "HOST_DEV=http://localhost:"
        ("HOST_DEV=http://localhost:" ++ portText port)
    else content ++ "\nHOST_DEV=http://localhost:" ++ portText port

/-! ## Finding a free port -/

/-- `DEFAULT_PORTS`. -/
def defaultPorts : List Int := [5173, 3000, 4000, 8080, 8000, 3001, 4001, 5000]

/-- `for (const port of ports) if (await isPortAvailable(port)) return port;`: the first
port found free, or the first failed probe. -/
def firstAvailable (isPortAvailable : Option Int → Except String Bool) :
    List (Option Int) → Except String (Option (Option Int))
  | [] => pure none
  | port :: ports => do
    if (← isPortAvailable port) then pure (some port)
    else firstAvailable isPortAvailable ports

/-- The ports of `for (let port = startPort; port < startPort + 100; port++)`: none from
`NaN`. -/
def sequentialPorts : Option Int → List (Option Int)
  | some startPort => (List.range 100).map fun i => some (startPort + i)
  | none => []

/-- `findAvailablePort(startPort)`: the first free port among `startPort` and the default
ports, then among the hundred ports from `startPort` on. -/
def findAvailablePort (isPortAvailable : Option Int → Except String Bool)
    (startPort : Option Int) : Except String (Option Int) := do
  let ports := startPort :: (defaultPorts.map some).filter fun p => p != startPort
  match ← firstAvailable isPortAvailable ports with
  | some port => pure port
  | none =>
    match ← firstAvailable isPortAvailable (sequentialPorts startPort) with
    | some port => pure port
    | none => throw "No available ports found"

/-! ## The commands -/

/-- JavaScript truthiness of a number: neither `0` nor `NaN`. -/
def isTruthy : Option Int → Bool
  | some p => p != 0
  | none => false

/-- `isNaN(portArg)`. -/
def isNaN (port : Option Int) : Bool := port.isNone

/-- What `set` prints before `process.exit(1)`. -/
def invalidPortMessage : String := "❌ Please provide a valid port number"

/-- `main()`: what `.env.local` holds after `node scripts/dev-port.js command`, with
`portArg = args[1] ? parseInt(args[1]) : 5173`. An error is the run stopping: the exit of
`set`, or a rejection that `main().catch` prints. -/
def main (isPortAvailable : Option Int → Except String Bool) (command : String)
    (portArg : Option Int) (env : Option String) : Except String (Option String) :=
  match command with
  | "check" => do
    let _ ← isPortAvailable portArg
    pure env
  | "find" =>
    match findAvailablePort isPortAvailable portArg with
    | .ok availablePort => pure (some (updateEnvPort availablePort env))
    | .error _ => pure env
  | "set" =>
    if !isTruthy portArg || isNaN portArg then throw invalidPortMessage
    else pure (some (updateEnvPort portArg env))
  | "auto" => do
    if (← isPortAvailable portArg) then pure (some (updateEnvPort portArg env))
    else
      let alternativePort ← findAvailablePort isPortAvailable (portArg.map (· + 1))
      pure (some (updateEnvPort alternativePort env))
  | _ => pure env

/-! ## Ports that are not on a line of their own -/

/-- `set 5173` on a file holding only `DB_PORT=27017` rewrites the database port and adds
no `PORT` line. -/
theorem set_rewrites_other_port_keys (isPortAvailable : Option Int → Except String Bool) :
    main isPortAvailable "set" (some 5173) (some "DB_PORT=27017\n") =
      .ok (some "DB_PORT=5173\n\nHOST_DEV=http://localhost:5173") := by
  rfl

/-- `set -5` passes the guard and writes `PORT=-5`; `\d+` matches no `-`, so a later
`set 3000` leaves the file as it is, where `set 3000` alone writes port 3000. -/
theorem set_negative_port_sticks (isPortAvailable : Option Int → Except String Bool) :
    main isPortAvailable "set" (some (-5)) (some "PORT=1") =
        .ok (some "PORT=-5\nHOST_DEV=http://localhost:-5") ∧
      main isPortAvailable "set" (some 3000) (some "PORT=-5\nHOST_DEV=http://localhost:-5") =
        .ok (some "PORT=-5\nHOST_DEV=http://localhost:-5") ∧
      main isPortAvailable "set" (some 3000) (some "PORT=1") =
        .ok (some "PORT=3000\nHOST_DEV=http://localhost:3000") := by
  refine ⟨rfl, rfl, rfl⟩

/-! ## Natural ports override each other -/

/-- The literal of `/PORT=\d+/g`. -/
def portLit : Literal := ⟨'P', "ORT=".data, rfl, by decide⟩

/-- The literal of `/HOST_DEV=http:\/\/localhost:\d+/g`. -/
def hostDevLit : Literal := ⟨'H', "OST_DEV=http://localhost:".data, rfl, by decide⟩

/-- The text `includes` looks for before the `HOST_DEV` replacement. -/
def hostDevKey : List Char := "HOST_DEV=".data

/-- `content.replace(/PORT=\d+/g, ...)` with the printed port `d`, on characters. -/
def replacePort (d : List Char) : List Char → List Char :=
  replaceDigitRuns portLit.text (portLit.text ++ d)

/-- `content.replace(/HOST_DEV=http:\/\/localhost:\d+/g, ...)` with the printed port `d`, on
characters. -/
def replaceHostDev (d : List Char) : List Char → List Char :=
  replaceDigitRuns hostDevLit.text (hostDevLit.text ++ d)

/-- The `PORT` step of `updateEnvPort`, on characters, with the printed port `d`. -/
def withPort (d c : List Char) : List Char :=
  if portLit.text <:+: c then replacePort d c else portLit.text ++ d ++ '\n' :: c

/-- `updateEnvPort` on an existing file, on characters, with the printed port `d`. -/
def rewriteEnv (d c : List Char) : List Char :=
  if hostDevKey <:+: withPort d c then replaceHostDev d (withPort d c)
  else withPort d c ++ '\n' :: (hostDevLit.text ++ d)

theorem data_updateEnvPort (port : Option Int) (c : String) :
    (updateEnvPort port (some c)).data = rewriteEnv (portText port).data c.data := by
  simp only [updateEnvPort, rewriteEnv, includes, jsReplace, replacePort, replaceHostDev,
    withPort, hostDevKey, portLit, hostDevLit, Literal.text, decide_eq_true_eq,
    apply_ite String.data, String.data_append, List.append_assoc, List.singleton_append]
  split_ifs <;> simp

theorem digitChar_isDigit {k : Nat} (hk : k < 10) : (Nat.digitChar k).isDigit :=
  (by decide : ∀ k < 10, (Nat.digitChar k).isDigit) k hk

/-- `toDigitsCore` puts at least one digit, and only digits, in front of `ds`. -/
theorem isDigits_toDigitsCore : ∀ (fuel n : Nat) {ds : List Char}, (∀ c ∈ ds, c.isDigit) →
    IsDigits (Nat.toDigitsCore 10 (fuel + 1) n ds)
  | fuel, n, ds, hds => by
    have hall : ∀ c ∈ Nat.digitChar (n % 10) :: ds, c.isDigit := by
      simp only [List.mem_cons, forall_eq_or_imp]
      exact ⟨digitChar_isDigit (Nat.mod_lt _ (by decide)), hds⟩
    show IsDigits (if n / 10 = 0 then Nat.digitChar (n % 10) :: ds
      else Nat.toDigitsCore 10 fuel (n / 10) (Nat.digitChar (n % 10) :: ds))
    split
    · exact ⟨List.cons_ne_nil _ _, hall⟩
    · cases fuel with
      | zero => exact ⟨List.cons_ne_nil _ _, hall⟩
      | succ fuel => exact isDigits_toDigitsCore fuel _ hall

theorem portText_of_lt {n : Nat} (hn : n < exponentFormFrom) : portText (some n) = toString (n : Int) :=
  if_pos hn

/-- A natural port below `10^21` prints as a digit run. -/
theorem isDigits_portText {n : Nat} (hn : n < exponentFormFrom) : IsDigits (portText (some n)).data := by
  rw [portText_of_lt hn]
  exact isDigits_toDigitsCore n n (by simp)

section Rewrite

variable {d e : List Char}

theorem replacePort_sep (x y : List Char) :
    replacePort e (x ++ '\n' :: y) = replacePort e x ++ '\n' :: replacePort e y :=
  portLit.replaceDigitRuns_append_sep (by decide : '\n' ∉ portLit.text) rfl _ x y

theorem replaceHostDev_sep (x y : List Char) :
    replaceHostDev e (x ++ '\n' :: y) = replaceHostDev e x ++ '\n' :: replaceHostDev e y :=
  hostDevLit.replaceDigitRuns_append_sep (by decide : '\n' ∉ hostDevLit.text) rfl _ x y

theorem replacePort_override (hd : IsDigits d) (s : List Char) :
    replacePort e (replacePort d s) = replacePort e s :=
  portLit.replaceDigitRuns_override e hd s

theorem replaceHostDev_override (hd : IsDigits d) (s : List Char) :
    replaceHostDev e (replaceHostDev d s) = replaceHostDev e s :=
  hostDevLit.replaceDigitRuns_override e hd s

theorem replacePort_replaceHostDev (hd : ∀ c ∈ d, c.isDigit) (he : ∀ c ∈ e, c.isDigit)
    (s : List Char) : replacePort e (replaceHostDev d s) = replaceHostDev d (replacePort e s) :=
  replaceDigitRuns_comm hostDevLit portLit (by decide) (by decide) hd he s

theorem replacePort_portText (hd : IsDigits d) :
    replacePort e (portLit.text ++ d) = portLit.text ++ e := by
  have := replaceDigitRuns_of_match (r := portLit.text ++ e)
    (matchDigitRun_digits portLit.text hd (s := []) fun _ h => by cases h)
  simpa [replacePort] using this

theorem replaceHostDev_hostDevText (hd : IsDigits d) :
    replaceHostDev e (hostDevLit.text ++ d) = hostDevLit.text ++ e := by
  have := replaceDigitRuns_of_match (r := hostDevLit.text ++ e)
    (matchDigitRun_digits hostDevLit.text hd (s := []) fun _ h => by cases h)
  simpa [replaceHostDev] using this

/-- The first character of a literal that is not a digit is missing from a word followed by
digits when it is missing from the word. -/
theorem not_mem_append_digits {c : Char} {w : List Char} (hc : c.isDigit = false)
    (hw : c ∉ w) (hd : ∀ x ∈ d, x.isDigit) : c ∉ w ++ d := fun h => by
  rcases List.mem_append.1 h with h | h
  · exact hw h
  · simpa [hc] using hd c h

theorem replacePort_hostDevText (hd : ∀ c ∈ d, c.isDigit) :
    replacePort e (hostDevLit.text ++ d) = hostDevLit.text ++ d :=
  portLit.replaceDigitRuns_of_not_mem _ (not_mem_append_digits rfl (by decide) hd)

theorem replaceHostDev_portText (hd : ∀ c ∈ d, c.isDigit) :
    replaceHostDev e (portLit.text ++ d) = portLit.text ++ d :=
  hostDevLit.replaceDigitRuns_of_not_mem _ (not_mem_append_digits rfl (by decide) hd)

theorem replacePort_of_not_contains {s : List Char} (h : ¬ portLit.text <:+: s) :
    replacePort e s = s :=
  replaceDigitRuns_of_not_contains _ h

theorem replaceHostDev_of_not_contains {s : List Char} (h : ¬ hostDevKey <:+: s) :
    replaceHostDev e s = s :=
  replaceDigitRuns_of_not_contains _ fun h' => h (((by decide : hostDevKey <+: hostDevLit.text)
    ).isInfix.trans h')

theorem hostDevKey_infix_replacePort (he : ∀ c ∈ e, c.isDigit) (s : List Char) :
    hostDevKey <:+: replacePort e s ↔ hostDevKey <:+: s :=
  infix_replaceDigitRuns_iff portLit (K := "OST_DEV=".data) (by decide : 'H' ∉ portLit.text)
    rfl (by decide) he s

theorem portText_infix_replaceHostDev (hd : ∀ c ∈ d, c.isDigit) (s : List Char) :
    portLit.text <:+: replaceHostDev d s ↔ portLit.text <:+: s :=
  infix_replaceDigitRuns_iff hostDevLit (K := "ORT=".data) (by decide : 'P' ∉ hostDevLit.text)
    rfl (by decide) hd s

theorem portText_infix_replacePort {s : List Char} (h : portLit.text <:+: s) :
    portLit.text <:+: replacePort d s :=
  portLit.contains_replace_of_starts d (List.prefix_refl _) (by decide) s h

theorem hostDevKey_infix_replaceHostDev {s : List Char} (h : hostDevKey <:+: s) :
    hostDevKey <:+: replaceHostDev d s :=
  hostDevLit.contains_replace_of_starts (K := "OST_DEV=".data) d (by decide) (by decide) s h

theorem hostDevKey_infix_prepend (hd : ∀ c ∈ d, c.isDigit) (c : List Char) :
    hostDevKey <:+: portLit.text ++ d ++ '\n' :: c ↔ hostDevKey <:+: c := by
  have hH : 'H' ∉ portLit.text ++ d ++ ['\n'] := fun h => by
    rcases List.mem_append.1 h with h | h
    · exact not_mem_append_digits (c := 'H') rfl (by decide) hd h
    · simp at h
  rw [← List.singleton_append, ← List.append_assoc]
  exact infix_append_iff_of_not_mem (K := "OST_DEV=".data) hH

theorem withPort_of_contains {c : List Char} (h : portLit.text <:+: c) :
    withPort d c = replacePort d c :=
  if_pos h

theorem withPort_of_not_contains {c : List Char} (h : ¬ portLit.text <:+: c) :
    withPort d c = portLit.text ++ d ++ '\n' :: c :=
  if_neg h

theorem rewriteEnv_of_contains {c : List Char} (h : hostDevKey <:+: withPort d c) :
    rewriteEnv d c = replaceHostDev d (withPort d c) :=
  if_pos h

theorem rewriteEnv_of_not_contains {c : List Char} (h : ¬ hostDevKey <:+: withPort d c) :
    rewriteEnv d c = withPort d c ++ '\n' :: (hostDevLit.text ++ d) :=
  if_neg h

theorem portText_infix_withPort (c : List Char) : portLit.text <:+: withPort d c := by
  unfold withPort
  split_ifs with h
  · exact portText_infix_replacePort h
  · exact ((List.prefix_append _ _).trans (List.prefix_append _ _)).isInfix

theorem hostDevKey_infix_withPort (hd : ∀ c ∈ d, c.isDigit) (c : List Char) :
    hostDevKey <:+: withPort d c ↔ hostDevKey <:+: c := by
  unfold withPort
  split_ifs
  · exact hostDevKey_infix_replacePort hd c
  · exact hostDevKey_infix_prepend hd c

/-- What `updateEnvPort` writes always has a `PORT=` in it. -/
theorem portText_infix_rewriteEnv (hd : ∀ c ∈ d, c.isDigit) (c : List Char) :
    portLit.text <:+: rewriteEnv d c := by
  unfold rewriteEnv
  split_ifs
  · exact (portText_infix_replaceHostDev hd _).2 (portText_infix_withPort c)
  · exact (portText_infix_withPort c).trans (List.prefix_append _ _).isInfix

/-- What `updateEnvPort` writes always has a `HOST_DEV=` in it. -/
theorem hostDevKey_infix_rewriteEnv (c : List Char) : hostDevKey <:+: rewriteEnv d c := by
  unfold rewriteEnv
  split_ifs with h
  · exact hostDevKey_infix_replaceHostDev h
  · exact ((by decide : hostDevKey <+: hostDevLit.text).trans (List.prefix_append _ _)
      ).isInfix.trans ((List.suffix_cons _ _).trans (List.suffix_append _ _)).isInfix

/-- On a file with both keys, `updateEnvPort` is the two replacements. -/
theorem rewriteEnv_of_both (hd : ∀ c ∈ d, c.isDigit) {c : List Char}
    (hP : portLit.text <:+: c) (hH : hostDevKey <:+: c) :
    rewriteEnv d c = replaceHostDev d (replacePort d c) := by
  rw [rewriteEnv_of_contains ((hostDevKey_infix_withPort hd c).2 hH), withPort_of_contains hP]

/-- Writing one natural port and then another writes what the second alone writes. -/
theorem rewriteEnv_rewriteEnv (hd : IsDigits d) (he : IsDigits e) (c : List Char) :
    rewriteEnv e (rewriteEnv d c) = rewriteEnv e c := by
  rw [rewriteEnv_of_both he.2 (portText_infix_rewriteEnv hd.2 c)
    (hostDevKey_infix_rewriteEnv c)]
  by_cases hP : portLit.text <:+: c <;> by_cases hH : hostDevKey <:+: c
  · rw [rewriteEnv_of_both hd.2 hP hH, rewriteEnv_of_both he.2 hP hH,
      replacePort_replaceHostDev hd.2 he.2, replaceHostDev_override hd,
      replacePort_override hd]
  · have hH' : ¬ hostDevKey <:+: replacePort e c := by
      rwa [hostDevKey_infix_replacePort he.2]
    rw [rewriteEnv_of_not_contains (by rwa [hostDevKey_infix_withPort hd.2]),
      rewriteEnv_of_not_contains (by rwa [hostDevKey_infix_withPort he.2]),
      withPort_of_contains hP, withPort_of_contains hP, replacePort_sep, replacePort_override hd,
      replacePort_hostDevText hd.2, replaceHostDev_sep, replaceHostDev_of_not_contains hH',
      replaceHostDev_hostDevText hd]
  · rw [rewriteEnv_of_contains ((hostDevKey_infix_withPort hd.2 c).2 hH),
      rewriteEnv_of_contains ((hostDevKey_infix_withPort he.2 c).2 hH),
      withPort_of_not_contains hP, withPort_of_not_contains hP, replaceHostDev_sep,
      replaceHostDev_portText hd.2, replacePort_sep, replacePort_portText hd,
      replacePort_of_not_contains (by rwa [portText_infix_replaceHostDev hd.2]),
      replaceHostDev_sep, replaceHostDev_sep, replaceHostDev_portText he.2,
      replaceHostDev_override hd]
  · rw [rewriteEnv_of_not_contains (by rwa [hostDevKey_infix_withPort hd.2]),
      rewriteEnv_of_not_contains (by rwa [hostDevKey_infix_withPort he.2]),
      withPort_of_not_contains hP, withPort_of_not_contains hP, replacePort_sep, replacePort_sep,
      replacePort_portText hd, replacePort_of_not_contains hP, replacePort_hostDevText hd.2,
      replaceHostDev_sep, replaceHostDev_sep, replaceHostDev_portText he.2,
      replaceHostDev_of_not_contains hH, replaceHostDev_hostDevText hd]

/-- What `updateEnvPort` does to one line of a file with both keys, with the printed port
`d`. -/
def editLine (d line : List Char) : List Char :=
  replaceHostDev d (replacePort d line)

theorem editLine_sep (x y : List Char) :
    editLine e (x ++ '\n' :: y) = editLine e x ++ '\n' :: editLine e y := by
  rw [editLine, replacePort_sep, replaceHostDev_sep]
  rfl

/-- A line with neither key is kept. -/
theorem editLine_of_not_contains {line : List Char} (hP : ¬ portLit.text <:+: line)
    (hH : ¬ hostDevKey <:+: line) : editLine e line = line := by
  rw [editLine, replacePort_of_not_contains hP, replaceHostDev_of_not_contains hH]

theorem intercalate_cons_cons (a b : List Char) (ls : List (List Char)) :
    ['\n'].intercalate (a :: b :: ls) = a ++ '\n' :: ['\n'].intercalate (b :: ls) := by
  simp [List.intercalate, List.intersperse_cons₂]

/-- `editLine` acts on each line of a text cut at `\n`. -/
theorem editLine_intercalate : ∀ {ls : List (List Char)}, ls ≠ [] →
    editLine e (['\n'].intercalate ls) = ['\n'].intercalate (ls.map (editLine e))
  | [a], _ => by simp [List.intercalate]
  | a :: b :: ls, _ => by
    rw [intercalate_cons_cons, editLine_sep, editLine_intercalate (List.cons_ne_nil b ls)]
    rfl

/-- `rewriteEnv` edits the whole file, after a `PORT` line put in front where the file has no
`PORT=`, and before a `HOST_DEV` line put at the end where it has no `HOST_DEV=`. -/
theorem rewriteEnv_eq_editLine (hd : ∀ c ∈ d, c.isDigit) (c : List Char) :
    rewriteEnv d c =
      (if portLit.text <:+: c then [] else portLit.text ++ d ++ ['\n']) ++ editLine d c ++
        if hostDevKey <:+: c then [] else '\n' :: (hostDevLit.text ++ d) := by
  by_cases hP : portLit.text <:+: c <;> by_cases hH : hostDevKey <:+: c
  · rw [rewriteEnv_of_both hd hP hH, if_pos hP, if_pos hH, List.nil_append, List.append_nil]
    rfl
  · rw [rewriteEnv_of_not_contains (by rwa [hostDevKey_infix_withPort hd]),
      withPort_of_contains hP, editLine, replaceHostDev_of_not_contains
        (by rwa [hostDevKey_infix_replacePort hd]), if_pos hP, if_neg hH, List.nil_append]
  · rw [rewriteEnv_of_contains ((hostDevKey_infix_withPort hd c).2 hH),
      withPort_of_not_contains hP, replaceHostDev_sep, replaceHostDev_portText hd, editLine,
      replacePort_of_not_contains hP, if_neg hP, if_pos hH]
    simp
  · rw [rewriteEnv_of_not_contains (by rwa [hostDevKey_infix_withPort hd]),
      withPort_of_not_contains hP, editLine_of_not_contains hP hH, if_neg hP, if_neg hH]
    simp

end Rewrite

/-- A later `updateEnvPort` with a natural port below `10^21` overrides an earlier one with
such a port: the file it writes does not depend on the earlier write. From `10^21` on the port
prints as `1e+21`, whose `e+21` no later write removes. -/
theorem updateEnvPort_override {p q : Nat} (hp : p < exponentFormFrom) (hq : q < exponentFormFrom)
    (c : String) :
    updateEnvPort (some q) (some (updateEnvPort (some p) (some c))) =
      updateEnvPort (some q) (some c) := by
  rw [String.ext_iff, data_updateEnvPort, data_updateEnvPort, data_updateEnvPort]
  exact rewriteEnv_rewriteEnv (isDigits_portText hp) (isDigits_portText hq) c.data

/-- `set 3000` after `set 5173` on a file with a `PORT` line and a database port writes what
`set 3000` alone writes. -/
theorem set_3000_overrides_5173 :
    5173 < exponentFormFrom ∧ 3000 < exponentFormFrom ∧
      updateEnvPort (some 3000) (some (updateEnvPort (some 5173) (some "PORT=1\nDB_PORT=2"))) =
        updateEnvPort (some 3000) (some "PORT=1\nDB_PORT=2") :=
  ⟨by decide, by decide, updateEnvPort_override (by decide) (by decide) _⟩

/-- At `10^21` the law fails: `set 9` after it leaves `PORT=9e+21`. -/
example : updateEnvPort (some 9) (some (updateEnvPort (some exponentFormFrom) (some "PORT=1"))) =
    "PORT=9e+21\nHOST_DEV=http://localhost:9e+21" := by
  decide

/-- With a safe natural port, `updateEnvPort` edits an existing file line by line: the lines stay
in order, each has its `PORT=<digits>` and `HOST_DEV=http://localhost:<digits>` rewritten,
and a line with neither `PORT=` nor `HOST_DEV=` is kept; a `PORT` line may be added in front
and a `HOST_DEV` line at the end. -/
theorem updateEnvPort_edits_lines {n : Nat} (hn : n < safeIntegerBound) (c : String) :
    (∃ front back : List Char,
      (front = [] ∨ front = ("PORT=" ++ portText (some n) ++ "\n").data) ∧
      (back = [] ∨ back = ("\nHOST_DEV=http://localhost:" ++ portText (some n)).data) ∧
      (updateEnvPort (some n) (some c)).data = front ++
        ['\n'].intercalate ((c.data.splitOn '\n').map (editLine (portText (some n)).data)) ++
        back) ∧
    ∀ line, ¬ "PORT=".data <:+: line → ¬ "HOST_DEV=".data <:+: line →
      editLine (portText (some n)).data line = line := by
  have he : editLine (portText (some n)).data c.data =
      ['\n'].intercalate ((c.data.splitOn '\n').map (editLine (portText (some n)).data)) := by
    have := editLine_intercalate (e := (portText (some n)).data)
      (show c.data.splitOn '\n' ≠ [] from List.splitOnP_ne_nil _ _)
    rwa [List.intercalate_splitOn] at this
  have h := rewriteEnv_eq_editLine (isDigits_portText (hn.trans (by decide))).2 c.data
  rw [← data_updateEnvPort, he] at h
  exact ⟨⟨_, _, by split_ifs <;> simp [portLit, Literal.text],
    by split_ifs <;> simp [hostDevLit, Literal.text], h⟩, fun _ => editLine_of_not_contains⟩

/-- `set 5173` on a file with a database line and a `PORT` line edits it line by line. -/
theorem set_5173_edits_lines :
    5173 < safeIntegerBound ∧
      (∃ front back : List Char,
        (front = [] ∨ front = ("PORT=" ++ portText (some 5173) ++ "\n").data) ∧
        (back = [] ∨ back = ("\nHOST_DEV=http://localhost:" ++ portText (some 5173)).data) ∧
        (updateEnvPort (some 5173) (some "DB=1\nPORT=2")).data = front ++
          ['\n'].intercalate (("DB=1\nPORT=2".data.splitOn '\n').map
            (editLine (portText (some 5173)).data)) ++ back) ∧
      ∀ line, ¬ "PORT=".data <:+: line → ¬ "HOST_DEV=".data <:+: line →
        editLine (portText (some 5173)).data line = line :=
  ⟨by decide, updateEnvPort_edits_lines (by decide) _⟩

/-! ## The ports `find` and `auto` write -/

section Probe

variable {isPortAvailable : Option Int → Except String Bool}

theorem firstAvailable_cons_ok {port : Option Int} {b : Bool} (ports : List (Option Int))
    (h : isPortAvailable port = .ok b) :
    firstAvailable isPortAvailable (port :: ports) =
      if b = true then .ok (some port) else firstAvailable isPortAvailable ports := by
  simp only [firstAvailable, bind, Except.bind, h]
  rfl

theorem firstAvailable_cons_error {port : Option Int} {e : String} (ports : List (Option Int))
    (h : isPortAvailable port = .error e) :
    firstAvailable isPortAvailable (port :: ports) = .error e := by
  simp only [firstAvailable, bind, Except.bind, h]

/-- What `firstAvailable` finds was probed free, after ports all probed in use. -/
theorem exists_decomp_of_firstAvailable {port : Option Int} : ∀ {ports : List (Option Int)},
    firstAvailable isPortAvailable ports = .ok (some port) →
      ∃ pre post, ports = pre ++ port :: post ∧
        (∀ q ∈ pre, isPortAvailable q = .ok false) ∧ isPortAvailable port = .ok true
  | [], h => by cases h
  | p :: ps, h => by
    cases hp : isPortAvailable p with
    | error _ => rw [firstAvailable_cons_error ps hp] at h; cases h
    | ok b =>
      rw [firstAvailable_cons_ok ps hp] at h
      cases b with
      | true =>
        obtain rfl : p = port := by simpa using h
        exact ⟨[], ps, rfl, nofun, hp⟩
      | false =>
        obtain ⟨pre, post, rfl, hpre, hport⟩ := exists_decomp_of_firstAvailable (by simpa using h)
        exact ⟨p :: pre, post, rfl, List.forall_mem_cons.2 ⟨hp, hpre⟩, hport⟩

/-- After ports all probed in use, a port probed free is the one `firstAvailable` finds. -/
theorem firstAvailable_append_cons {port : Option Int} (post : List (Option Int))
    (hport : isPortAvailable port = .ok true) : ∀ {pre : List (Option Int)},
    (∀ q ∈ pre, isPortAvailable q = .ok false) →
      firstAvailable isPortAvailable (pre ++ port :: post) = .ok (some port)
  | [], _ => (firstAvailable_cons_ok post hport).trans (if_pos rfl)
  | q :: pre, h => by
    rw [List.cons_append, firstAvailable_cons_ok _ (h q (List.mem_cons_self _ _)),
      if_neg Bool.false_ne_true]
    exact firstAvailable_append_cons post hport fun q' hq' => h q' (List.mem_cons_of_mem _ hq')

theorem firstAvailable_of_all_busy : ∀ {ports : List (Option Int)},
    (∀ q ∈ ports, isPortAvailable q = .ok false) →
      firstAvailable isPortAvailable ports = .ok none
  | [], _ => rfl
  | p :: ps, h => by
    rw [firstAvailable_cons_ok ps (h p (List.mem_cons_self _ _)), if_neg Bool.false_ne_true]
    exact firstAvailable_of_all_busy fun q hq => h q (List.mem_cons_of_mem _ hq)

/-- Searching two lists one after the other is searching their concatenation. -/
theorem firstAvailable_append (xs ys : List (Option Int)) :
    firstAvailable isPortAvailable (xs ++ ys) =
      (firstAvailable isPortAvailable xs).bind fun
        | some port => .ok (some port)
        | none => firstAvailable isPortAvailable ys := by
  induction xs with
  | nil => rfl
  | cons x xs ih =>
    cases hx : isPortAvailable x with
    | error e =>
      rw [List.cons_append, firstAvailable_cons_error _ hx, firstAvailable_cons_error _ hx]
      rfl
    | ok b =>
      rw [List.cons_append, firstAvailable_cons_ok _ hx, firstAvailable_cons_ok _ hx, ih]
      cases b <;> rfl

/-- The ports `findAvailablePort` probes, in order: `startPort`, the other default ports as
listed, then the hundred ports from `startPort` on. -/
def candidatePorts (startPort : Option Int) : List (Option Int) :=
  (startPort :: (defaultPorts.map some).filter fun p => p != startPort) ++
    sequentialPorts startPort

example : (candidatePorts (some 3000)).take 9 = [some 3000, some 5173, some 4000, some 8080,
    some 8000, some 3001, some 4001, some 5000, some 3000] := rfl

/-- The two loops of `findAvailablePort` are one search over `candidatePorts`. -/
theorem findAvailablePort_eq (startPort : Option Int) :
    findAvailablePort isPortAvailable startPort =
      (firstAvailable isPortAvailable (candidatePorts startPort)).bind fun
        | some port => .ok port
        | none => .error "No available ports found" := by
  rw [candidatePorts, firstAvailable_append]
  unfold findAvailablePort
  dsimp only
  rcases firstAvailable isPortAvailable
      (startPort :: (defaultPorts.map some).filter fun p => p != startPort) with _ | _ | _
  · rfl
  · rcases firstAvailable isPortAvailable (sequentialPorts startPort) with _ | _ | _ <;> rfl
  · rfl

theorem findAvailablePort_eq_ok_iff {startPort port : Option Int} :
    findAvailablePort isPortAvailable startPort = .ok port ↔
      firstAvailable isPortAvailable (candidatePorts startPort) = .ok (some port) := by
  rw [findAvailablePort_eq]
  rcases firstAvailable isPortAvailable (candidatePorts startPort) with _ | _ | _ <;>
    simp [Except.bind]

/-- `findAvailablePort` answers only with a port the probe found free. -/
theorem findAvailablePort_probed {startPort port : Option Int}
    (h : findAvailablePort isPortAvailable startPort = .ok port) :
    isPortAvailable port = .ok true := by
  obtain ⟨-, -, -, -, hport⟩ := exists_decomp_of_firstAvailable (findAvailablePort_eq_ok_iff.1 h)
  exact hport

/-- `findAvailablePort` returns the first port of `candidatePorts` that the probe finds
free, provided every port before it was probed and found in use; when every candidate is in
use it fails with `No available ports found`. -/
theorem findAvailablePort_search_order (startPort : Option Int) :
    (∀ port, findAvailablePort isPortAvailable startPort = .ok port ↔
      ∃ pre post, candidatePorts startPort = pre ++ port :: post ∧
        (∀ q ∈ pre, isPortAvailable q = .ok false) ∧ isPortAvailable port = .ok true) ∧
    ((∀ q ∈ candidatePorts startPort, isPortAvailable q = .ok false) →
      findAvailablePort isPortAvailable startPort = .error "No available ports found") := by
  refine ⟨fun port => findAvailablePort_eq_ok_iff.trans ⟨exists_decomp_of_firstAvailable, ?_⟩,
    fun h => by rw [findAvailablePort_eq, firstAvailable_of_all_busy h]; rfl⟩
  rintro ⟨pre, post, h, hpre, hport⟩
  rw [h]
  exact firstAvailable_append_cons post hport hpre

/-- Against a probe that finds only port 8080 free, `findAvailablePort(3000)` passes over 3000,
5173 and 4000, found in use, and returns 8080. -/
theorem find_from_3000_returns_8080 :
    findAvailablePort (fun port => (.ok (port == some 8080) : Except String Bool)) (some 3000) =
      .ok (some 8080) :=
  ((findAvailablePort_search_order (some 3000)).1 (some 8080)).2
    ⟨[some 3000, some 5173, some 4000], (candidatePorts (some 3000)).drop 4, rfl,
      by simp, rfl⟩

/-- A run of `find` or `auto` leaves `.env.local` as it was, or writes a port the probe
found free into it. -/
theorem main_writes_probed_port {command : String} {portArg : Option Int}
    {env env' : Option String} (hcmd : command = "find" ∨ command = "auto")
    (h : main isPortAvailable command portArg env = .ok env') :
    env' = env ∨
      ∃ port, isPortAvailable port = .ok true ∧ env' = some (updateEnvPort port env) := by
  rcases hcmd with rfl | rfl
  · simp only [main] at h
    split at h
    · cases h; exact .inr ⟨_, findAvailablePort_probed ‹_›, rfl⟩
    · cases h; exact .inl rfl
  · simp only [main, bind, Except.bind] at h
    split at h
    · cases h
    · rename_i b hp
      split at h
      · cases h; exact .inr ⟨_, by rw [hp, ‹b = true›], rfl⟩
      · split at h
        · cases h
        · cases h; exact .inr ⟨_, findAvailablePort_probed ‹_›, rfl⟩

/-- Where the probe finds free only ports a server can listen on, natural numbers below
`65536`, a run of `find` or `auto` on an existing file leaves it as it was or writes a port the
probe found free, and what it leaves is overridden by every later natural port below `10^21`. -/
theorem find_auto_overridden {command : String} {portArg : Option Int} {c c₁ : String}
    (hnode : ∀ port, isPortAvailable port = .ok true → ∃ n : Nat, n < 65536 ∧ port = some n)
    (hcmd : command = "find" ∨ command = "auto")
    (h : main isPortAvailable command portArg (some c) = .ok (some c₁)) :
    (c₁ = c ∨ ∃ n : Nat, n < 65536 ∧ isPortAvailable (some n) = .ok true ∧
        c₁ = updateEnvPort (some n) (some c)) ∧
      ∀ q : Nat, q < exponentFormFrom →
        updateEnvPort (some q) (some c₁) = updateEnvPort (some q) (some c) := by
  have hwrote : c₁ = c ∨ ∃ n : Nat, n < 65536 ∧ isPortAvailable (some n) = .ok true ∧
      c₁ = updateEnvPort (some n) (some c) := by
    rcases main_writes_probed_port hcmd h with h' | ⟨port, hp, h'⟩
    · exact .inl (Option.some.inj h')
    · obtain ⟨n, hn, rfl⟩ := hnode port hp
      exact .inr ⟨n, hn, hp, Option.some.inj h'⟩
  refine ⟨hwrote, fun q hq => ?_⟩
  rcases hwrote with rfl | ⟨n, hn, -, rfl⟩
  · rfl
  · rw [String.ext_iff, data_updateEnvPort, data_updateEnvPort, data_updateEnvPort]
    exact rewriteEnv_rewriteEnv (isDigits_portText (hn.trans (by decide))) (isDigits_portText hq) c.data

end Probe

/-- Against a probe that finds only port 3000 free, `find` on `PORT=1` writes port 3000,
which a later port 8080 overrides. -/
theorem find_overridden_on_probe_3000 :
    ("PORT=3000\nHOST_DEV=http://localhost:3000" = "PORT=1" ∨
        ∃ n : Nat, n < 65536 ∧
          (Except.ok (some (n : Int) == some 3000) : Except String Bool) = .ok true ∧
          "PORT=3000\nHOST_DEV=http://localhost:3000" = updateEnvPort (some n) (some "PORT=1")) ∧
      ∀ q : Nat, q < exponentFormFrom →
        updateEnvPort (some q) (some "PORT=3000\nHOST_DEV=http://localhost:3000") =
          updateEnvPort (some q) (some "PORT=1") :=
  find_auto_overridden
    (fun port hp => ⟨3000, by decide, by simpa using hp⟩) (.inl rfl)
    (show main (fun port => .ok (port == some 3000)) "find" (some 5173) (some "PORT=1") =
      .ok (some "PORT=3000\nHOST_DEV=http://localhost:3000") from rfl)

end SveltyCms
