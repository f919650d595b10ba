import SveltyCms.JsString

/-!
# Laws of the digit-run replacement

`dev-port.js` rewrites `.env.local` with `content.replace(/PORT=\d+/g, ...)` and then
`content.replace(/HOST_DEV=http:\/\/localhost:\d+/g, ...)`, and a later run of the script
does both again on what the first wrote. This module proves how `replaceDigitRuns`
composes with itself and with the replacement for another literal.

A `Literal` is a literal whose matches cannot overlap: its first character is not a digit,
and no proper suffix of it is a prefix of it. For such a literal, replaced by itself
followed by digits:

* text in which the literal's first character does not occur passes through unchanged
  (`replaceDigitRuns_append_of_not_mem`), and so does text that does not contain the
  literal (`replaceDigitRuns_of_not_contains`);
* the replacement works line by line: it commutes with a separator that is neither a digit
  nor a character of the literal (`replaceDigitRuns_append_sep`);
* a second replacement overrides the first (`replaceDigitRuns_override`): it finds exactly
  the matches the first one wrote, because a copied character never starts a new match
  (`matchDigitRun_cons_replace`);
* the start of the literal survives its own replacement (`contains_replace_of_starts`);
* the replacements for two literals, neither of which contains the other's first
  character, commute (`replaceDigitRuns_comm`) and keep each other's words
  (`infix_replaceDigitRuns_iff`).
-/

namespace SveltyCms

/-! ## Digit runs -/

/-- A run of digits that is not empty: what `\d+` matches, and how a natural port prints. -/
def IsDigits (d : List Char) : Prop := d ≠ [] ∧ ∀ c ∈ d, c.isDigit

/-- The text does not start with a digit, so a digit run before it ends where it starts. -/
def StartsNonDigit (s : List Char) : Prop := ∀ c ∈ s.head?, c.isDigit = false

theorem startsNonDigit_dropWhile (ds : List Char) :
    StartsNonDigit (ds.dropWhile Char.isDigit) := by
  intro c hc
  have := List.head?_dropWhile_not Char.isDigit ds
  rw [Option.mem_def.1 hc] at this
  exact this

theorem dropWhile_digits_append {d s : List Char} (hd : ∀ c ∈ d, c.isDigit)
    (hs : StartsNonDigit s) : (d ++ s).dropWhile Char.isDigit = s := by
  rw [List.dropWhile_append_of_pos hd]
  cases s with
  | nil => rfl
  | cons c cs => simp [List.dropWhile_cons, hs c rfl]

theorem dropWhile_append_cons_of_not {sep : Char} (hsep : sep.isDigit = false) :
    ∀ ds y : List Char,
      (ds ++ sep :: y).dropWhile Char.isDigit = ds.dropWhile Char.isDigit ++ sep :: y
  | [], y => by simp [List.dropWhile_cons, hsep]
  | d :: ds, y => by
    cases hd : d.isDigit <;>
      simp [List.dropWhile_cons, hd, dropWhile_append_cons_of_not hsep ds y]

/-- A literal followed by a digit run and then by a non-digit is one whole match. -/
theorem matchDigitRun_digits (lit : List Char) {d s : List Char} (hd : IsDigits d)
    (hs : StartsNonDigit s) : matchDigitRun lit (lit ++ (d ++ s)) = some s := by
  obtain ⟨hne, hall⟩ := hd
  obtain ⟨x, xs, rfl⟩ := List.exists_cons_of_ne_nil hne
  exact matchDigitRun_eq_some_iff.2 ⟨x, xs ++ s, rfl, hall x (by simp),
    (dropWhile_digits_append (fun c hc => hall c (by simp [hc])) hs).symm⟩

/-- A match is the literal, a digit run, and a rest that starts with no digit. -/
theorem matchDigitRun_decomp {lit s rest : List Char} (h : matchDigitRun lit s = some rest) :
    ∃ dd, IsDigits dd ∧ s = lit ++ (dd ++ rest) ∧ StartsNonDigit rest := by
  obtain ⟨d, ds, rfl, hd, rfl⟩ := matchDigitRun_eq_some_iff.1 h
  refine ⟨d :: ds.takeWhile Char.isDigit, ⟨List.cons_ne_nil _ _, ?_⟩, ?_,
    startsNonDigit_dropWhile ds⟩
  · simp only [List.mem_cons, forall_eq_or_imp]
    exact ⟨hd, fun c hc => List.mem_takeWhile_imp hc⟩
  · simp [List.takeWhile_append_dropWhile]

theorem replaceDigitRuns_of_not_contains {lit : List Char} (r : List Char) :
    ∀ {s : List Char}, ¬ lit <:+: s → replaceDigitRuns lit r s = s
  | [], _ => rfl
  | c :: cs, h => by
    have hm : matchDigitRun lit (c :: cs) = none := by
      cases hm : matchDigitRun lit (c :: cs) with
      | none => rfl
      | some rest =>
        obtain ⟨d, ds, he, -⟩ := matchDigitRun_eq_some_iff.1 hm
        exact absurd ⟨[], d :: ds, he.symm⟩ h
    rw [replaceDigitRuns_of_no_match hm, replaceDigitRuns_of_not_contains r
      fun h' => h (h'.trans (List.suffix_cons c cs).isInfix)]

theorem infix_append_iff_of_not_mem {k : Char} {K t : List Char} :
    ∀ {m : List Char}, k ∉ m → (k :: K <:+: m ++ t ↔ k :: K <:+: t)
  | [], _ => Iff.rfl
  | a :: m, h => by
    rw [List.mem_cons, not_or] at h
    rw [List.cons_append, List.infix_cons_iff, infix_append_iff_of_not_mem h.2]
    simp [h.1]

/-! ## Literals whose matches cannot overlap -/

/-- The literal of a regular expression `/lit\d+/g` whose matches never overlap: its first
character is not a digit, and no proper suffix of it is a prefix of it. -/
structure Literal where
  first : Char
  rest : List Char
  first_not_digit : first.isDigit = false
  unbordered : ∀ k < rest.length, ¬ rest.drop k <+: first :: rest

namespace Literal

variable (L : Literal)

/-- The characters of the literal. -/
def text : List Char := L.first :: L.rest

theorem first_mem : L.first ∈ L.text := List.mem_cons_self _ _

/-- A proper suffix of the literal is not a prefix of it. -/
theorem proper_suffix_not_start {a b : List Char} (hab : L.text = a ++ b) (ha : a ≠ [])
    (hb : b ≠ []) : ¬ b <+: L.text := by
  obtain ⟨a₀, a, rfl⟩ := List.exists_cons_of_ne_nil ha
  simp only [text, List.cons_append, List.cons.injEq] at hab
  have hlt : a.length < L.rest.length := by
    rw [hab.2, List.length_append]
    exact Nat.lt_add_of_pos_right (List.length_pos.2 hb)
  have hdrop : L.rest.drop a.length = b := by rw [hab.2, List.drop_left]
  rw [← hdrop]
  exact L.unbordered _ hlt

theorem matchDigitRun_cons_of_ne {c : Char} (cs : List Char) (h : c ≠ L.first) :
    matchDigitRun L.text (c :: cs) = none := by
  cases hm : matchDigitRun L.text (c :: cs) with
  | none => rfl
  | some rest =>
    obtain ⟨_, _, he, -⟩ := matchDigitRun_eq_some_iff.1 hm
    exact absurd (List.cons.inj he).1 h

/-- Where the literal's first character does not occur, nothing is replaced. -/
theorem replaceDigitRuns_append_of_not_mem (r : List Char) :
    ∀ {t : List Char} (w : List Char), L.first ∉ t →
      replaceDigitRuns L.text r (t ++ w) = t ++ replaceDigitRuns L.text r w
  | [], _, _ => rfl
  | c :: t, w, h => by
    rw [List.mem_cons, not_or] at h
    rw [List.cons_append, replaceDigitRuns_of_no_match (L.matchDigitRun_cons_of_ne _
      (Ne.symm h.1)), replaceDigitRuns_append_of_not_mem r w h.2, List.cons_append]

theorem replaceDigitRuns_of_not_mem (r : List Char) {t : List Char} (h : L.first ∉ t) :
    replaceDigitRuns L.text r t = t := by
  simpa using L.replaceDigitRuns_append_of_not_mem r [] h

theorem exists_match_of_append_sep {sep : Char} (hsep : sep ∉ L.text)
    (hsd : sep.isDigit = false) {c : Char} {cs y ds : List Char} {x : Char}
    (h : c :: cs ++ sep :: y = L.text ++ x :: ds) (hx : x.isDigit) :
    ∃ ds', c :: cs = L.text ++ x :: ds' ∧ ds = ds' ++ sep :: y := by
  rcases List.append_eq_append_iff.1 h with ⟨a, hL, ha⟩ | ⟨c', hc, hc'⟩
  · cases a with
    | nil => cases (List.cons.inj ha).1; simp [hsd] at hx
    | cons a₀ a => exact absurd (hL ▸ (List.cons.inj ha).1 ▸ by simp) hsep
  · cases c' with
    | nil => cases (List.cons.inj hc').1; simp [hsd] at hx
    | cons x' ds' =>
      obtain ⟨rfl, rfl⟩ := List.cons.inj hc'
      exact ⟨ds', hc, rfl⟩

/-- The replacement goes line by line: a separator that is neither a digit nor in the
literal cuts every match. -/
theorem replaceDigitRuns_append_sep {sep : Char} (hsep : sep ∉ L.text)
    (hsd : sep.isDigit = false) (r : List Char) : ∀ x y : List Char,
      replaceDigitRuns L.text r (x ++ sep :: y) =
        replaceDigitRuns L.text r x ++ sep :: replaceDigitRuns L.text r y
  | [], y => by
    rw [List.nil_append, replaceDigitRuns_of_no_match (L.matchDigitRun_cons_of_ne _
      fun h => hsep (by rw [h]; exact L.first_mem))]
    rfl
  | c :: cs, y => by
    cases hm : matchDigitRun L.text (c :: cs) with
    | some rest =>
      obtain ⟨d, ds, he, hd, hrest⟩ := matchDigitRun_eq_some_iff.1 hm
      have hm' : matchDigitRun L.text (c :: cs ++ sep :: y) = some (rest ++ sep :: y) :=
        matchDigitRun_eq_some_iff.2 ⟨d, ds ++ sep :: y, by simp [he], hd,
          by rw [hrest, dropWhile_append_cons_of_not hsd]⟩
      have := length_lt_of_matchDigitRun hm
      rw [replaceDigitRuns_of_match hm', replaceDigitRuns_of_match hm,
        replaceDigitRuns_append_sep hsep hsd r rest y, List.append_assoc]
    | none =>
      have hm' : matchDigitRun L.text (c :: (cs ++ sep :: y)) = none := by
        cases hm' : matchDigitRun L.text (c :: (cs ++ sep :: y)) with
        | none => rfl
        | some rest =>
          obtain ⟨x, ds, he, hx, -⟩ := matchDigitRun_eq_some_iff.1 hm'
          obtain ⟨ds', he', -⟩ := L.exists_match_of_append_sep hsep hsd he hx
          rw [matchDigitRun_eq_some_iff.2 ⟨x, ds', he', hx, rfl⟩] at hm
          cases hm
      rw [List.cons_append, replaceDigitRuns_of_no_match hm',
        replaceDigitRuns_append_sep hsep hsd r cs y, replaceDigitRuns_of_no_match hm,
        List.cons_append]
termination_by x => x.length

/-! ## Replacing a literal by itself followed by digits -/

variable (e : List Char)

theorem startsNonDigit_replace {s : List Char} (hs : StartsNonDigit s) :
    StartsNonDigit (replaceDigitRuns L.text (L.text ++ e) s) := by
  cases s with
  | nil => exact hs
  | cons c cs =>
    cases hm : matchDigitRun L.text (c :: cs) with
    | none => rw [replaceDigitRuns_of_no_match hm]; exact hs
    | some rest =>
      rw [replaceDigitRuns_of_match hm]
      rintro x ⟨⟩
      exact L.first_not_digit

/-- What precedes a given piece of the replaced text, where the literal's first character
does not occur, was there before the replacement. -/
theorem eq_append_of_replace : ∀ {u : List Char}, L.first ∉ u → ∀ {t w : List Char},
    replaceDigitRuns L.text (L.text ++ e) t = u ++ w →
      ∃ w', t = u ++ w' ∧ replaceDigitRuns L.text (L.text ++ e) w' = w
  | [], _, t, _, h => ⟨t, rfl, h⟩
  | v :: u, hu, t, w, h => by
    rw [List.mem_cons, not_or] at hu
    cases t with
    | nil => cases h
    | cons c cs =>
      cases hm : matchDigitRun L.text (c :: cs) with
      | some rest =>
        rw [replaceDigitRuns_of_match hm] at h
        exact absurd (List.cons.inj h).1 hu.1
      | none =>
        rw [replaceDigitRuns_of_no_match hm, List.cons_append] at h
        obtain ⟨rfl, h'⟩ := List.cons.inj h
        obtain ⟨w', rfl, hw'⟩ := eq_append_of_replace hu.2 h'
        exact ⟨w', rfl, hw'⟩

/-- A match of a literal that lacks `L.first` after the replacement was a match before. -/
theorem exists_match_of_replace {u : List Char} (hu : L.first ∉ u) {t xs : List Char}
    {x : Char} (h : replaceDigitRuns L.text (L.text ++ e) t = u ++ x :: xs)
    (hx : x.isDigit) : ∃ ys, t = u ++ x :: ys := by
  obtain ⟨w', rfl, hw'⟩ := L.eq_append_of_replace e hu h
  cases w' with
  | nil => cases hw'
  | cons y ys =>
    cases hm : matchDigitRun L.text (y :: ys) with
    | some rest =>
      rw [replaceDigitRuns_of_match hm] at hw'
      cases (List.cons.inj hw').1
      simp [L.first_not_digit] at hx
    | none =>
      rw [replaceDigitRuns_of_no_match hm] at hw'
      cases (List.cons.inj hw').1
      exact ⟨ys, rfl⟩

theorem prefix_replace_iff {u : List Char} (hu : L.first ∉ u) (t : List Char) :
    u <+: replaceDigitRuns L.text (L.text ++ e) t ↔ u <+: t := by
  constructor
  · rintro ⟨w, hw⟩
    obtain ⟨w', rfl, -⟩ := L.eq_append_of_replace e hu hw.symm
    exact List.prefix_append _ _
  · rintro ⟨w, rfl⟩
    rw [L.replaceDigitRuns_append_of_not_mem _ w hu]
    exact List.prefix_append _ _

/-- A word that starts the literal, and does not contain its first character again,
survives the replacement: a match is rewritten to a text that starts with the literal. -/
theorem contains_replace_of_starts {k : Char} {K : List Char} (hK : k :: K <+: L.text)
    (hK' : L.first ∉ K) : ∀ s : List Char,
      k :: K <:+: s → k :: K <:+: replaceDigitRuns L.text (L.text ++ e) s
  | [], h => h
  | c :: cs, h => by
    cases hm : matchDigitRun L.text (c :: cs) with
    | some rest =>
      rw [replaceDigitRuns_of_match hm, List.append_assoc]
      exact (hK.trans (List.prefix_append _ _)).isInfix
    | none =>
      rw [replaceDigitRuns_of_no_match hm]
      rcases List.infix_cons_iff.1 h with h | h
      · obtain ⟨rfl, hp⟩ := List.cons_prefix_cons.1 h
        exact (List.cons_prefix_cons.2 ⟨rfl, (L.prefix_replace_iff e hK' cs).2 hp⟩).isInfix
      · exact (contains_replace_of_starts hK hK' cs h).trans (List.suffix_cons _ _).isInfix

/-- A match that seems to follow a piece `a` of the literal in the replaced text was
already there: no proper suffix of the literal starts it again. -/
theorem exists_match_of_prefix_replace : ∀ (cs : List Char) {a xs : List Char} {x : Char},
    a ≠ [] → a <+: L.text →
      a ++ replaceDigitRuns L.text (L.text ++ e) cs = L.text ++ x :: xs → x.isDigit →
      ∃ ys, a ++ cs = L.text ++ x :: ys
  | [], a, xs, x, _, hpre, h, _ => by
    have h₁ := hpre.length_le
    have h₂ := congrArg List.length h
    simp only [replaceDigitRuns_nil, List.append_nil, List.length_append,
      List.length_cons] at h₂
    omega
  | c :: cs, a, xs, x, ha, ⟨b, hb⟩, h, hx => by
    cases hm : matchDigitRun L.text (c :: cs) with
    | some rest =>
      rw [replaceDigitRuns_of_match hm] at h
      have h' : L.text ++ (e ++ replaceDigitRuns L.text (L.text ++ e) rest) = b ++ x :: xs :=
        List.append_cancel_left (show a ++ _ = a ++ _ by
          rw [← List.append_assoc L.text, h, ← hb, List.append_assoc])
      exfalso
      cases b with
      | nil =>
        have hx' : L.first = x := (List.cons.inj h').1
        simp [← hx', L.first_not_digit] at hx
      | cons b₀ b =>
        refine L.proper_suffix_not_start hb.symm ha (List.cons_ne_nil _ _) ?_
        exact List.prefix_of_prefix_length_le ⟨x :: xs, h'.symm⟩ (List.prefix_append _ _)
          (by rw [← hb, List.length_append]; omega)
    | none =>
      rw [replaceDigitRuns_of_no_match hm] at h
      cases b with
      | nil =>
        simp only [List.append_nil] at hb
        subst hb
        obtain ⟨rfl, -⟩ := List.cons.inj (List.append_cancel_left h)
        exact ⟨cs, rfl⟩
      | cons b₀ b =>
        have h' := h.trans (by rw [← hb, List.append_assoc] :
          L.text ++ x :: xs = a ++ (b₀ :: b ++ x :: xs))
        obtain ⟨rfl, -⟩ := List.cons.inj (List.append_cancel_left h')
        obtain ⟨ys, hys⟩ := exists_match_of_prefix_replace cs (a := a ++ [c])
          (by simp) ⟨b, by rw [← hb]; simp⟩ (by simpa using h) hx
        exact ⟨ys, by simpa using hys⟩

/-- A character the replacement copied never starts a new match. -/
theorem matchDigitRun_cons_replace {c : Char} {cs : List Char}
    (h : matchDigitRun L.text (c :: cs) = none) :
    matchDigitRun L.text (c :: replaceDigitRuns L.text (L.text ++ e) cs) = none := by
  cases hm : matchDigitRun L.text (c :: replaceDigitRuns L.text (L.text ++ e) cs) with
  | none => rfl
  | some rest =>
    obtain ⟨x, xs, hx, hd, -⟩ := matchDigitRun_eq_some_iff.1 hm
    have hc : c = L.first := (List.cons.inj hx).1
    obtain ⟨ys, hys⟩ := L.exists_match_of_prefix_replace e cs (a := [c]) (by simp)
      ⟨L.rest, by rw [hc]; rfl⟩ hx hd
    have hys' : c :: cs = L.text ++ x :: ys := hys
    rw [matchDigitRun_eq_some_iff.2 ⟨x, ys, hys', hd, rfl⟩] at h
    cases h

/-- A second replacement of the literal overrides the first: it finds exactly the matches
the first one wrote. -/
theorem replaceDigitRuns_override {d : List Char} (hd : IsDigits d) : ∀ s : List Char,
    replaceDigitRuns L.text (L.text ++ e) (replaceDigitRuns L.text (L.text ++ d) s) =
      replaceDigitRuns L.text (L.text ++ e) s
  | [] => rfl
  | c :: cs => by
    cases hm : matchDigitRun L.text (c :: cs) with
    | some rest =>
      obtain ⟨-, -, -, hrest⟩ := matchDigitRun_decomp hm
      have := length_lt_of_matchDigitRun hm
      rw [replaceDigitRuns_of_match hm, replaceDigitRuns_of_match hm, List.append_assoc,
        replaceDigitRuns_of_match (matchDigitRun_digits _ hd
          (L.startsNonDigit_replace d hrest)),
        replaceDigitRuns_override hd rest]
    | none =>
      rw [replaceDigitRuns_of_no_match hm, replaceDigitRuns_of_no_match hm,
        replaceDigitRuns_of_no_match (L.matchDigitRun_cons_replace d hm),
        replaceDigitRuns_override hd cs]
termination_by s => s.length

end Literal

/-! ## Two literals -/

section TwoLiterals

variable (L M : Literal) {e f : List Char}

/-- A match of `L` is rewritten the same way whether `M`'s replacement runs before or
after `L`'s, when `M`'s first character is neither in `L` nor a digit. -/
theorem replace_comm_of_match (hML : M.first ∉ L.text) (he : ∀ c ∈ e, c.isDigit)
    {s rest : List Char} (hm : matchDigitRun L.text s = some rest) :
    replaceDigitRuns M.text (M.text ++ f) (replaceDigitRuns L.text (L.text ++ e) s) =
        L.text ++ e ++ replaceDigitRuns M.text (M.text ++ f)
          (replaceDigitRuns L.text (L.text ++ e) rest) ∧
      replaceDigitRuns L.text (L.text ++ e) (replaceDigitRuns M.text (M.text ++ f) s) =
        L.text ++ e ++ replaceDigitRuns L.text (L.text ++ e)
          (replaceDigitRuns M.text (M.text ++ f) rest) := by
  obtain ⟨dd, hdd, rfl, hrest⟩ := matchDigitRun_decomp hm
  have hnot : ∀ x, (∀ c ∈ x, c.isDigit) → M.first ∉ L.text ++ x := fun x hx h => by
    rcases List.mem_append.1 h with h | h
    · exact hML h
    · simpa [M.first_not_digit] using hx _ h
  constructor
  · rw [replaceDigitRuns_of_match hm, M.replaceDigitRuns_append_of_not_mem _ _ (hnot e he)]
  · rw [← List.append_assoc, M.replaceDigitRuns_append_of_not_mem _ _ (hnot dd hdd.2),
      List.append_assoc, replaceDigitRuns_of_match (matchDigitRun_digits _ hdd
        (M.startsNonDigit_replace f hrest))]

/-- Where `L`'s replacement creates no match of `M`: a text without a match of `M` at its
start keeps none. -/
theorem matchDigitRun_replace_of_none (hLM : L.first ∉ M.text) {t : List Char}
    (h : matchDigitRun M.text t = none) :
    matchDigitRun M.text (replaceDigitRuns L.text (L.text ++ e) t) = none := by
  cases hm : matchDigitRun M.text (replaceDigitRuns L.text (L.text ++ e) t) with
  | none => rfl
  | some rest =>
    obtain ⟨x, xs, hx, hd, -⟩ := matchDigitRun_eq_some_iff.1 hm
    obtain ⟨ys, rfl⟩ := L.exists_match_of_replace e hLM hx hd
    rw [matchDigitRun_eq_some_iff.2 ⟨x, ys, rfl, hd, rfl⟩] at h
    cases h

/-- The replacements for two literals, neither of which contains the other's first
character, commute. -/
theorem replaceDigitRuns_comm (hLM : L.first ∉ M.text) (hML : M.first ∉ L.text)
    (he : ∀ c ∈ e, c.isDigit) (hf : ∀ c ∈ f, c.isDigit) : ∀ s : List Char,
    replaceDigitRuns M.text (M.text ++ f) (replaceDigitRuns L.text (L.text ++ e) s) =
      replaceDigitRuns L.text (L.text ++ e) (replaceDigitRuns M.text (M.text ++ f) s)
  | [] => rfl
  | c :: cs => by
    cases hL : matchDigitRun L.text (c :: cs) with
    | some rest =>
      have := length_lt_of_matchDigitRun hL
      obtain ⟨h₁, h₂⟩ := replace_comm_of_match L M (f := f) hML he hL
      rw [h₁, h₂, replaceDigitRuns_comm hLM hML he hf rest]
    | none =>
      cases hM : matchDigitRun M.text (c :: cs) with
      | some rest =>
        have := length_lt_of_matchDigitRun hM
        obtain ⟨h₁, h₂⟩ := replace_comm_of_match M L (f := e) hLM hf hM
        rw [h₁, h₂, replaceDigitRuns_comm hLM hML he hf rest]
      | none =>
        have hL' := matchDigitRun_replace_of_none M L (e := f) hML hL
        have hM' := matchDigitRun_replace_of_none L M (e := e) hLM hM
        rw [replaceDigitRuns_of_no_match hM] at hL'
        rw [replaceDigitRuns_of_no_match hL] at hM'
        rw [replaceDigitRuns_of_no_match hL, replaceDigitRuns_of_no_match hM,
          replaceDigitRuns_of_no_match hM', replaceDigitRuns_of_no_match hL',
          replaceDigitRuns_comm hLM hML he hf cs]
termination_by s => s.length

/-- A word that starts with a character outside `L` and the digits, and lacks `L`'s first
character, occurs after `L`'s replacement exactly where it occurred before. -/
theorem infix_replaceDigitRuns_iff {k : Char} {K : List Char} (hk : k ∉ L.text)
    (hkd : k.isDigit = false) (hK : L.first ∉ k :: K) (he : ∀ c ∈ e, c.isDigit) :
    ∀ s : List Char,
      k :: K <:+: replaceDigitRuns L.text (L.text ++ e) s ↔ k :: K <:+: s
  | [] => Iff.rfl
  | c :: cs => by
    have hnot : ∀ x, (∀ c ∈ x, c.isDigit) → k ∉ L.text ++ x := fun x hx h => by
      rcases List.mem_append.1 h with h | h
      · exact hk h
      · simpa [hkd] using hx _ h
    cases hm : matchDigitRun L.text (c :: cs) with
    | some rest =>
      obtain ⟨dd, hdd, hs, -⟩ := matchDigitRun_decomp hm
      have := length_lt_of_matchDigitRun hm
      rw [replaceDigitRuns_of_match hm, infix_append_iff_of_not_mem (hnot e he), hs,
        ← List.append_assoc, infix_append_iff_of_not_mem (hnot dd hdd.2)]
      exact infix_replaceDigitRuns_iff hk hkd hK he rest
    | none =>
      have hpre := L.prefix_replace_iff e hK (c :: cs)
      rw [replaceDigitRuns_of_no_match hm] at hpre ⊢
      rw [List.infix_cons_iff, List.infix_cons_iff, hpre,
        infix_replaceDigitRuns_iff hk hkd hK he cs]
termination_by s => s.length

end TwoLiterals

end SveltyCms
