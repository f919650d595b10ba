import SveltyCms.Debounce

/-!
# Rename detection

A deletion callback records its file and time in the slot `lastUnlinkFile`,
`lastUnlinkTime`; an add or change callback less than 100 ms later (by the callbacks'
clocks) logs a rename from that file and clears the slot. The check and the clear happen
before the callback's first `await`, so no interleaving separates them.
`rename_source_is_last_deletion`: a rename's source is the file of the last deletion
callback before it, with no other deletion or rename in between; so the last deletion wins
and a candidate is used once.

A callback's clock is 50 ms behind its event, and a deletion's callback runs only if no
other event arrives within 50 ms (`Inv.gap_callback`). `rename_pair_classification` follows
a deletion of `A` at `t₁` and an addition of `B` at `t₂`: if the deletion's callback ran
before `B` arrived, it took the deletion branch, and `B` is a rename from `A` exactly when
`t₂ < t₁ + 100`; otherwise the deletion is never handled at all, and `B` is classified as if
it had not happened.
-/

namespace SveltyCms

variable {env : Env} {start : Nat} {s : Watcher} {os : List Obs}

theorem renameSource_some (f : String) (lastUnlinkTime currentTime : Nat) :
    renameSource (some f) lastUnlinkTime currentTime =
      if f ≠ "" ∧ (currentTime : Int) - lastUnlinkTime < 100 then some f else none := by
  simp [renameSource, Option.filter_some]

/-- A rename's source is the file of the last deletion callback before it, and no other
deletion or rename callback ran in between. -/
theorem rename_source_is_last_deletion (h : Run env (Watcher.init start) s os)
    {pre post : List Obs} {cb : Callback} {src : String}
    (hos : os = pre ++ .handled cb (.renamed src) :: post) :
    ∃ pre₁ cbU mid, pre = pre₁ ++ .handled cbU .deleted :: mid ∧ cbU.file = src ∧
      cbU.event.isUnlink = true ∧ ∀ o ∈ mid, o.writesSlot = false := by
  have hi := h.inv
  have hr := renameSource_of_handlingOf (hi.fired_at hos).2.symm
  rw [renameSource, Option.filter_eq_some, Option.mem_def] at hr
  obtain ⟨pre₁, cbU, mid, rfl, hfile, hm⟩ := slotOf_fst_eq_some hr.1
  have hd := (hi.fired_at (show os = pre₁ ++ .handled cbU .deleted ::
    (mid ++ .handled cb (.renamed src) :: post) by simp [hos])).2
  exact ⟨pre₁, cbU, mid, rfl, hfile, handlingOf_eq_deleted.1 hd.symm, hm⟩

/-- Two deletions, `Posts.ts` then `Articles.ts`, and 20 ms after the second an addition of
`Pages.ts`, with both cleanups still suspended: the addition renames from `Articles.ts`, the
file of the later deletion callback, with no deletion or rename callback after it. -/
theorem rename_source_after_two_deletions :
    ∃ s, Run appEnv (Watcher.init 0) s
      [.collectionFileEvent .unlink postsFile 0, .handled ⟨.unlink, postsFile, 50⟩ .deleted,
        .collectionFileEvent .unlink articlesFile 60,
        .handled ⟨.unlink, articlesFile, 110⟩ .deleted,
        .collectionFileEvent .add pagesFile 130,
        .handled ⟨.add, pagesFile, 180⟩ (.renamed articlesFile)] ∧
      ∃ (pre₁ : List Obs) (cbU : Callback) (mid : List Obs),
        [.collectionFileEvent .unlink postsFile 0, .handled ⟨.unlink, postsFile, 50⟩ .deleted,
          .collectionFileEvent .unlink articlesFile 60,
          .handled ⟨.unlink, articlesFile, 110⟩ .deleted,
          .collectionFileEvent .add pagesFile 130] = pre₁ ++ .handled cbU .deleted :: mid ∧
        cbU.file = articlesFile ∧
        cbU.event.isUnlink = true ∧ ∀ o ∈ mid, o.writesSlot = false := by
  obtain ⟨s, h⟩ : ∃ s, Run appEnv (Watcher.init 0) s
      [.collectionFileEvent .unlink postsFile 0, .handled ⟨.unlink, postsFile, 50⟩ .deleted,
        .collectionFileEvent .unlink articlesFile 60,
        .handled ⟨.unlink, articlesFile, 110⟩ .deleted,
        .collectionFileEvent .add pagesFile 130,
        .handled ⟨.add, pagesFile, 180⟩ (.renamed articlesFile)] :=
    Run.exists_of_exec [.watch .unlink postsFile, .tick 50, .fire, .tick 60,
      .watch .unlink articlesFile, .tick 110, .fire, .tick 130, .watch .add pagesFile, .tick 180,
      .fire] (by decide)
  exact ⟨s, h, rename_source_is_last_deletion h (show _ = _ ++
    Obs.handled ⟨.add, pagesFile, 180⟩ (.renamed articlesFile) :: [] from rfl)⟩

/-! ## A deletion and the next addition -/

/-- An add or change callback with a candidate `f` renames from `f` when less than 100 ms
passed. -/
theorem handlingOf_of_candidate {e : WatchEvent} {f : String} {t₀ t : Nat}
    (he : e.isAddOrChange = true) (hf : f ≠ "") :
    handlingOf e (some f, t₀) t = if (t : Int) - t₀ < 100 then .renamed f else .updated := by
  have hu : e.isUnlink = false := by
    cases e <;> simp_all [WatchEvent.isUnlink, WatchEvent.isAddOrChange]
  unfold handlingOf
  dsimp only
  rw [if_neg (by rw [hu]; decide), if_pos he, renameSource_some]
  by_cases ht : (t : Int) - t₀ < 100
  · rw [if_pos ⟨hf, ht⟩, if_pos ht]
  · rw [if_neg fun h => ht h.2, if_neg ht]

/-- In a quiet stretch after an event, the only callback that can start is that event's
own, 50 ms after it, classified with the slot the trace before the event left. -/
theorem Inv.gap_callback (hi : Inv env s os) {pre mid post : List Obs} {e : WatchEvent}
    {f : String} {t : Nat} (hos : os = pre ++ .collectionFileEvent e f t :: (mid ++ post))
    (hq : Quiet mid) :
    NoStart mid ∨ ∃ m₁ m₂,
      mid = m₁ ++ .handled ⟨e, f, t + 50⟩ (handlingOf e (slotOf pre) (t + 50)) :: m₂ ∧
        NoStart m₁ ∧ NoStart m₂ := by
  by_cases hs : NoStart mid
  · exact .inl hs
  simp only [NoStart, not_forall, Bool.not_eq_false, exists_prop] at hs
  obtain ⟨x, hx, hh⟩ := hs
  obtain ⟨m₁, m₂, rfl⟩ := List.append_of_mem hx
  cases x with
  | handled cb hd =>
    simp only [quiet_append, quiet_cons] at hq
    obtain ⟨rfl, hs₁⟩ := hi.first_start_after_event (show os =
      pre ++ .collectionFileEvent e f t :: (m₁ ++ .handled cb hd :: (m₂ ++ post))
      by rw [hos]; simp) hq.1
    have hd' := (hi.fired_at (show os = (pre ++ .collectionFileEvent e f t :: m₁) ++
      .handled ⟨e, f, t + 50⟩ hd :: (m₂ ++ post) by rw [hos]; simp)).2
    rw [slotOf_append_noStart _ (by simpa [Obs.isHandled] using hs₁ :
      NoStart (.collectionFileEvent e f t :: m₁))] at hd'
    subst hd'
    refine .inr ⟨m₁, m₂, rfl, hs₁, fun y hy => ?_⟩
    cases hyh : y.isHandled
    · rfl
    obtain ⟨ma, mb, rfl⟩ := List.append_of_mem hy
    cases y with
    | handled cb₂ h₂ =>
      obtain ⟨-, -, -, mid₁, e', f', t', mid₂, -, hma, -, -, -, -⟩ := hi.handled_separated
        (show os = (pre ++ .collectionFileEvent e f t :: m₁) ++
          .handled ⟨e, f, t + 50⟩ (handlingOf e (slotOf pre) (t + 50)) ::
          (ma ++ .handled cb₂ h₂ :: (mb ++ post)) by rw [hos]; simp)
      simp [hma, Obs.isCollectionFileEvent] at hq
    | _ => simp [Obs.isHandled] at hyh
  | _ => simp [Obs.isHandled] at hh

/-- A deletion superseded before its callback ran by an addition or change whose callback
then ran is never handled: no callback for it starts, before, between or after. -/
theorem Inv.superseded_never_handled (hi : Inv env s os) {pre mid mid₂ post : List Obs}
    {e₁ e₂ : WatchEvent} {A B : String} {t₁ t₂ : Nat} {c : Handling}
    (hos : os = pre ++ .collectionFileEvent e₁ A t₁ ::
      (mid ++ .collectionFileEvent e₂ B t₂ :: (mid₂ ++ .handled ⟨e₂, B, t₂ + 50⟩ c :: post)))
    (he₁ : e₁.isUnlink = true) (he₂ : e₂.isAddOrChange = true) (ht : t₁ ≤ t₂)
    (hs : NoStart mid) (hs₂ : NoStart mid₂) (hd : Handling) :
    Obs.handled ⟨e₁, A, t₁ + 50⟩ hd ∉ os := by
  intro hm
  rw [hos, List.mem_append, List.mem_cons, List.mem_append, List.mem_cons, List.mem_append,
    List.mem_cons] at hm
  rcases hm with hm | hm | hm | hm | hm | hm | hm
  · obtain ⟨pa, pb, rfl⟩ := List.append_of_mem hm
    have := hi.stamp_le (a := pa) (x := .handled ⟨e₁, A, t₁ + 50⟩ hd) (b := pb)
      (y := .collectionFileEvent e₁ A t₁) (c := mid ++ .collectionFileEvent e₂ B t₂ ::
        (mid₂ ++ .handled ⟨e₂, B, t₂ + 50⟩ c :: post)) (by rw [hos]; simp) rfl rfl
    dsimp only at this
    omega
  · cases hm
  · simpa [Obs.isHandled] using hs _ hm
  · cases hm
  · simpa [Obs.isHandled] using hs₂ _ hm
  · simp only [Obs.handled.injEq, Callback.mk.injEq] at hm
    obtain ⟨⟨rfl, -, -⟩, -⟩ := hm
    cases e₁ <;> simp_all [WatchEvent.isUnlink, WatchEvent.isAddOrChange]
  · obtain ⟨qa, qb, rfl⟩ := List.append_of_mem hm
    obtain ⟨-, -, -, -, -, -, -, -, -, -, -, -, -, hlt⟩ := hi.handled_separated
      (show os = (pre ++ .collectionFileEvent e₁ A t₁ :: mid ++
        .collectionFileEvent e₂ B t₂ :: mid₂) ++ .handled ⟨e₂, B, t₂ + 50⟩ c ::
        (qa ++ .handled ⟨e₁, A, t₁ + 50⟩ hd :: qb) by rw [hos]; simp)
    simp at hlt
    omega

/-- A deletion of `A` at `t₁`, then an addition or change of `B` at `t₂` with no
collection-file event between them, and `B`'s callback runs. That callback starts at
`t₂ + 50`. Either the deletion's own callback ran in between, took the deletion branch and
made `A` the candidate, and then `B` is a rename from `A` exactly when `t₂ < t₁ + 100`; or no
callback ran in between, the deletion is never handled and never cleaned up, and `B` is
classified from the slot as it was before the deletion. The first case needs
`t₁ + 50 ≤ t₂`, the second `t₂ ≤ t₁ + 50`. -/
theorem rename_pair_classification (h : Run env (Watcher.init start) s os)
    {pre mid mid₂ post : List Obs} {e₁ e₂ : WatchEvent} {A B : String} {t₁ t₂ : Nat}
    {cb : Callback} {c : Handling}
    (hos : os = pre ++ .collectionFileEvent e₁ A t₁ ::
      (mid ++ .collectionFileEvent e₂ B t₂ :: (mid₂ ++ .handled cb c :: post)))
    (he₁ : e₁.isUnlink = true) (he₂ : e₂.isAddOrChange = true) (hq : Quiet mid)
    (hq₂ : Quiet mid₂) :
    cb = ⟨e₂, B, t₂ + 50⟩ ∧
      ((Obs.handled ⟨e₁, A, t₁ + 50⟩ .deleted ∈ mid ∧ t₁ + 50 ≤ t₂ ∧
          c = if t₂ < t₁ + 100 then .renamed A else .updated) ∨
        (NoStart mid ∧ t₂ ≤ t₁ + 50 ∧ c = handlingOf e₂ (slotOf pre) (t₂ + 50) ∧
          (∀ hd, Obs.handled ⟨e₁, A, t₁ + 50⟩ hd ∉ os) ∧
          Obs.cleanupOrphanedFiles ⟨e₁, A, t₁ + 50⟩ ∉ os)) := by
  have hi := h.inv
  have hl := h.lifecycle
  obtain ⟨rfl, hs₂⟩ := hi.first_start_after_event (show os =
    (pre ++ .collectionFileEvent e₁ A t₁ :: mid) ++ .collectionFileEvent e₂ B t₂ ::
      (mid₂ ++ .handled cb c :: post) by rw [hos]; simp) hq₂
  have hc := (hi.fired_at (show os = (pre ++ .collectionFileEvent e₁ A t₁ :: mid ++
    .collectionFileEvent e₂ B t₂ :: mid₂) ++ .handled ⟨e₂, B, t₂ + 50⟩ c :: post
    by rw [hos]; simp)).2
  rw [slotOf_append_noStart _ (by simpa [Obs.isHandled] using hs₂ :
    NoStart (.collectionFileEvent e₂ B t₂ :: mid₂))] at hc
  have hA : A ≠ "" := ne_empty_of_isCollectionFile
    (hi.armed pre (.collectionFileEvent e₁ A t₁) _ hos).1
  have ht : t₁ ≤ t₂ := hi.stamp_le (a := pre) (x := .collectionFileEvent e₁ A t₁)
    (b := mid) (y := .collectionFileEvent e₂ B t₂)
    (c := mid₂ ++ .handled ⟨e₂, B, t₂ + 50⟩ c :: post) hos rfl rfl
  refine ⟨rfl, ?_⟩
  rcases hi.gap_callback (show os = pre ++ .collectionFileEvent e₁ A t₁ :: (mid ++
      .collectionFileEvent e₂ B t₂ :: (mid₂ ++ .handled ⟨e₂, B, t₂ + 50⟩ c :: post))
      from hos) hq with hs | ⟨m₁, m₂, rfl, hs₁, hs₂'⟩
  · have hslot : slotOf (pre ++ .collectionFileEvent e₁ A t₁ :: mid) = slotOf pre :=
      slotOf_append_noStart _ (by simpa [Obs.isHandled] using hs)
    have hdue := (hi.armed (pre ++ .collectionFileEvent e₁ A t₁ :: mid)
      (.collectionFileEvent e₂ B t₂) (mid₂ ++ .handled ⟨e₂, B, t₂ + 50⟩ c :: post)
      (by rw [hos]; simp)).2
    rw [pendingOf_event_silent pre mid e₁ A t₁ hq hs] at hdue
    have never := hi.superseded_never_handled hos he₁ he₂ ht hs hs₂
    exact .inr ⟨hs, hdue _ rfl, by rw [hc, hslot], never,
      fun hm => let ⟨hd, hm'⟩ := hl.started_of_mem hm rfl; never hd hm'⟩
  · rw [handlingOf_eq_deleted.2 he₁] at hos hc ⊢
    have hslot : slotOf (pre ++ .collectionFileEvent e₁ A t₁ ::
        (m₁ ++ .handled ⟨e₁, A, t₁ + 50⟩ .deleted :: m₂)) = (some A, t₁ + 50) := by
      rw [show pre ++ .collectionFileEvent e₁ A t₁ ::
          (m₁ ++ .handled ⟨e₁, A, t₁ + 50⟩ .deleted :: m₂) =
        pre ++ .collectionFileEvent e₁ A t₁ :: m₁ ++ [.handled ⟨e₁, A, t₁ + 50⟩ .deleted] ++
          m₂ by simp, slotOf_append_noStart _ hs₂', slotOf_snoc]
      rfl
    have hle : t₁ + 50 ≤ t₂ := hi.stamp_le
      (a := pre ++ .collectionFileEvent e₁ A t₁ :: m₁) (x := .handled ⟨e₁, A, t₁ + 50⟩ .deleted)
      (b := m₂) (y := .collectionFileEvent e₂ B t₂)
      (c := mid₂ ++ .handled ⟨e₂, B, t₂ + 50⟩ c :: post) (by rw [hos]; simp) rfl rfl
    refine .inl ⟨by simp, hle, ?_⟩
    rw [hc, hslot, handlingOf_of_candidate he₂ hA]
    dsimp only
    split_ifs <;> first | rfl | omega

/-- A deletion and an addition 120 ms later: the deletion's callback ran in between, and the
addition is a plain update. -/
theorem deletion_then_late_add_updates :
    ∃ s, Run appEnv (Watcher.init 0) s
      [.collectionFileEvent .unlink postsFile 0, .handled ⟨.unlink, postsFile, 50⟩ .deleted,
        .cleanupOrphanedFiles ⟨.unlink, postsFile, 50⟩, .collectionFileEvent .add articlesFile 120,
        .handled ⟨.add, articlesFile, 170⟩ .updated] ∧
      Obs.handled ⟨.unlink, postsFile, 0 + 50⟩ .deleted ∈
        [.handled ⟨.unlink, postsFile, 50⟩ .deleted, .cleanupOrphanedFiles ⟨.unlink, postsFile, 50⟩] ∧
      0 + 50 ≤ 120 ∧ Handling.updated = if 120 < 0 + 100 then .renamed postsFile else .updated := by
  obtain ⟨s, h⟩ : ∃ s, Run appEnv (Watcher.init 0) s
      [.collectionFileEvent .unlink postsFile 0, .handled ⟨.unlink, postsFile, 50⟩ .deleted,
        .cleanupOrphanedFiles ⟨.unlink, postsFile, 50⟩,
        .collectionFileEvent .add articlesFile 120, .handled ⟨.add, articlesFile, 170⟩ .updated] :=
    Run.exists_of_exec [.watch .unlink postsFile, .tick 50, .fire,
      .resume (.callback ⟨.unlink, postsFile, 50⟩ .importCleanup) true,
      .tick 120, .watch .add articlesFile, .tick 170, .fire] (by decide)
  obtain ⟨-, hc | hc⟩ := rename_pair_classification h (show
    [Obs.collectionFileEvent .unlink postsFile 0, .handled ⟨.unlink, postsFile, 50⟩ .deleted,
      .cleanupOrphanedFiles ⟨.unlink, postsFile, 50⟩,
      .collectionFileEvent .add articlesFile 120, .handled ⟨.add, articlesFile, 170⟩ .updated] =
    [] ++ Obs.collectionFileEvent .unlink postsFile 0 ::
      ([Obs.handled ⟨.unlink, postsFile, 50⟩ .deleted,
        .cleanupOrphanedFiles ⟨.unlink, postsFile, 50⟩] ++
      Obs.collectionFileEvent .add articlesFile 120 ::
        ([] ++ Obs.handled ⟨.add, articlesFile, 170⟩ .updated :: [])) from rfl) rfl rfl
    (by simp [Obs.isCollectionFileEvent]) quiet_nil
  · exact ⟨s, h, hc⟩
  · exact absurd hc.2.1 (by decide)

/-- A deletion of `Posts.ts` and, 70 ms later, an addition of `Articles.ts`: the addition is
logged as a rename from `Posts.ts`, after the deletion's own callback has called
`cleanupOrphanedFiles`. -/
theorem rename_after_cleanup :
    ∃ s, Run appEnv (Watcher.init 0) s
      [.collectionFileEvent .unlink postsFile 0,
        .handled ⟨.unlink, postsFile, 50⟩ .deleted,
        .cleanupOrphanedFiles ⟨.unlink, postsFile, 50⟩,
        .collectionFileEvent .add articlesFile 70,
        .handled ⟨.add, articlesFile, 120⟩
          (.renamed postsFile)] :=
  Run.exists_of_exec [.watch .unlink postsFile, .tick 50, .fire,
    .resume (.callback ⟨.unlink, postsFile, 50⟩ .importCleanup) true,
    .tick 70, .watch .add articlesFile, .tick 120, .fire] (by decide)

end SveltyCms
