import Mathlib.Data.List.Infix

/-!
# JavaScript string operations

`vite.config.ts` routes watcher events with `startsWith` and `endsWith`, and
`dev-port.js` rewrites `.env.local` with `includes` and `replace` under a global
regular expression. A JavaScript string is a sequence of characters; each operation
here works on `String.data`, so that what is proved about it is proved about lists.

`replaceDigitRuns lit r s` is `s.replace(/lit\d+/g, r)` for a literal `lit`, the only
shape of regular expression the source uses: the scan tries a match at each position
from the left, takes the digits greedily, and goes on after the match
(`replaceDigitRuns_of_match`, `replaceDigitRuns_of_no_match`).
-/

namespace SveltyCms

/-! ## Tests -/

/-- `s.startsWith(p)`. -/
def startsWith (s p : String) : Bool :=
  p.data.isPrefixOf s.data

/-- `s.endsWith(p)`. -/
def endsWith (s p : String) : Bool :=
  p.data.isSuffixOf s.data

/-- `s.includes(p)`. -/
def includes (s p : String) : Bool :=
  decide (p.data <:+: s.data)

@[simp] theorem startsWith_iff (s p : String) : startsWith s p = true ↔ p.data <+: s.data :=
  List.isPrefixOf_iff_prefix

@[simp] theorem endsWith_iff (s p : String) : endsWith s p = true ↔ p.data <:+ s.data :=
  List.isSuffixOf_iff_suffix

@[simp] theorem includes_iff (s p : String) : includes s p = true ↔ p.data <:+: s.data :=
  decide_eq_true_iff

/-! ## Global replacement of a literal followed by digits -/

/-- Where a match of `/lit\d+/` at the start of `s` ends: after `lit` and the longest
run of digits that follows it, which must not be empty. -/
def matchDigitRun (lit s : List Char) : Option (List Char) :=
  match lit.isPrefixOf? s with
  | some (d :: rest) => if d.isDigit then some (rest.dropWhile Char.isDigit) else none
  | _ => none

/-- The scan of `s.replace(/lit\d+/g, r)`, one match or one copied character a step, for
at most `n` steps. -/
def replaceLoop (lit r : List Char) : Nat → List Char → List Char
  | 0, s => s
  | _ + 1, [] => []
  | n + 1, c :: cs =>
    match matchDigitRun lit (c :: cs) with
    | some rest => r ++ replaceLoop lit r n rest
    | none => c :: replaceLoop lit r n cs

/-- `s.replace(/lit\d+/g, r)`. Every step consumes a character, so `s.length` steps
finish the scan (`replaceLoop_of_length_le`). -/
def replaceDigitRuns (lit r s : List Char) : List Char :=
  replaceLoop lit r s.length s

/-- `s.replace(/lit\d+/g, r)` on strings. -/
def jsReplace (s lit r : String) : String :=
  ⟨replaceDigitRuns lit.data r.data s.data⟩

theorem isPrefixOf?_eq_some_iff : ∀ {lit s t : List Char},
    lit.isPrefixOf? s = some t ↔ s = lit ++ t
  | [], s, t => by simp [List.isPrefixOf?, eq_comm]
  | _ :: _, [], t => by simp [List.isPrefixOf?]
  | a :: lit, b :: s, t => by
    by_cases h : a = b
    · subst h; simp [List.isPrefixOf?, isPrefixOf?_eq_some_iff]
    · simp [List.isPrefixOf?, h, Ne.symm h]

theorem matchDigitRun_eq_some_iff {lit s rest : List Char} :
    matchDigitRun lit s = some rest ↔
      ∃ d ds, s = lit ++ d :: ds ∧ d.isDigit ∧ rest = ds.dropWhile Char.isDigit := by
  constructor
  · intro h
    unfold matchDigitRun at h
    split at h
    · rename_i d ds hp
      split_ifs at h with hd
      exact ⟨d, ds, isPrefixOf?_eq_some_iff.1 hp, hd, (Option.some.inj h).symm⟩
    · cases h
  · rintro ⟨d, ds, rfl, hd, rfl⟩
    simp [matchDigitRun, isPrefixOf?_eq_some_iff.2 rfl, hd]

theorem length_lt_of_matchDigitRun {lit s rest : List Char}
    (h : matchDigitRun lit s = some rest) : rest.length < s.length := by
  obtain ⟨d, ds, rfl, -, rfl⟩ := matchDigitRun_eq_some_iff.1 h
  have := (List.dropWhile_suffix Char.isDigit (l := ds)).length_le
  simp only [List.length_append, List.length_cons]
  omega

/-- More fuel than characters changes nothing. -/
theorem replaceLoop_succ (lit r : List Char) :
    ∀ n s, s.length ≤ n → replaceLoop lit r (n + 1) s = replaceLoop lit r n s
  | _, [], _ => by cases ‹Nat› <;> rfl
  | 0, _ :: _, h => by simp at h
  | n + 1, c :: cs, h => by
    rw [replaceLoop]
    conv_rhs => rw [replaceLoop]
    split
    · rename_i rest hm
      have := length_lt_of_matchDigitRun hm
      simp only [List.length_cons] at h this
      rw [replaceLoop_succ lit r n rest (by omega)]
    · simp only [List.length_cons] at h
      rw [replaceLoop_succ lit r n cs (by omega)]

theorem replaceLoop_of_length_le (lit r : List Char) {n : Nat} {s : List Char}
    (h : s.length ≤ n) : replaceLoop lit r n s = replaceDigitRuns lit r s := by
  obtain ⟨k, rfl⟩ := Nat.exists_eq_add_of_le h
  induction k with
  | zero => rfl
  | succ k ih => rw [← Nat.add_assoc, replaceLoop_succ lit r _ s (by omega), ih (by omega)]

@[simp] theorem replaceDigitRuns_nil (lit r : List Char) : replaceDigitRuns lit r [] = [] :=
  rfl

@[simp] theorem matchDigitRun_nil (lit : List Char) : matchDigitRun lit [] = none := by
  cases lit <;> rfl

theorem replaceDigitRuns_of_match {lit r s rest : List Char}
    (h : matchDigitRun lit s = some rest) :
    replaceDigitRuns lit r s = r ++ replaceDigitRuns lit r rest := by
  cases s with
  | nil => simp at h
  | cons c cs =>
    have := length_lt_of_matchDigitRun h
    rw [replaceDigitRuns, List.length_cons, replaceLoop, h]
    exact congrArg (r ++ ·) (replaceLoop_of_length_le lit r (by simp at this; omega))

theorem replaceDigitRuns_of_no_match {lit r c cs}
    (h : matchDigitRun lit (c :: cs) = none) :
    replaceDigitRuns lit r (c :: cs) = c :: replaceDigitRuns lit r cs := by
  rw [replaceDigitRuns, List.length_cons, replaceLoop, h]
  rfl

end SveltyCms
