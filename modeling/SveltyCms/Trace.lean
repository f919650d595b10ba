import SveltyCms.Watcher
import Mathlib.Data.List.Basic

/-!
# What a trace says about the debounce

The debounce timer and the rename slot change only at two kinds of observation: a
collection-file event re-arms the timer, and the start of a callback disarms it and may
write the slot. `pendingOf` and `slotOf` replay a trace through those two changes and give
the timer and the slot it leaves; the run invariant says they are the state's.

`pendingOf_eq_some` reads the pending timer back as the last collection-file event, with
no event and no callback start after it. `slotOf_fst_eq_some` reads the rename candidate
back as the file of the last deletion callback, with no deletion and no rename after it.
`Each Q os` says that every observation of `os` satisfies `Q` with the part of the trace
before it; `each_append` is how a run extends it.
-/

namespace SveltyCms

/-! ## Observations the debounce reads -/

/-- The event re-armed the debounce timer. -/
def Obs.isCollectionFileEvent : Obs → Bool
  | .collectionFileEvent .. => true
  | _ => false

/-- A debounce callback started. -/
def Obs.isHandled : Obs → Bool
  | .handled .. => true
  | _ => false

/-- The time an event was registered or a callback started. -/
def Obs.stamp : Obs → Option Nat
  | .collectionFileEvent _ _ t => some t
  | .handled cb _ => some cb.currentTime
  | _ => none

theorem Obs.stamp_eq_none {o : Obs} (he : o.isCollectionFileEvent = false)
    (hh : o.isHandled = false) : o.stamp = none := by
  cases o <;> simp_all [Obs.stamp, Obs.isCollectionFileEvent, Obs.isHandled]

/-- No collection-file event happens in `os`. -/
def Quiet (os : List Obs) : Prop :=
  ∀ o ∈ os, o.isCollectionFileEvent = false

/-- No debounce callback starts in `os`. -/
def NoStart (os : List Obs) : Prop :=
  ∀ o ∈ os, o.isHandled = false

@[simp] theorem quiet_nil : Quiet [] := nofun

@[simp] theorem quiet_cons {o : Obs} {os : List Obs} :
    Quiet (o :: os) ↔ o.isCollectionFileEvent = false ∧ Quiet os := by
  simp [Quiet]

@[simp] theorem quiet_append {a b : List Obs} : Quiet (a ++ b) ↔ Quiet a ∧ Quiet b := by
  simp [Quiet, or_imp, forall_and]

@[simp] theorem noStart_nil : NoStart [] := nofun

@[simp] theorem noStart_cons {o : Obs} {os : List Obs} :
    NoStart (o :: os) ↔ o.isHandled = false ∧ NoStart os := by
  simp [NoStart]

@[simp] theorem noStart_append {a b : List Obs} : NoStart (a ++ b) ↔ NoStart a ∧ NoStart b := by
  simp [NoStart, or_imp, forall_and]

/-- A list with a collection-file event has a first one. -/
theorem exists_first_event : ∀ (os : List Obs), ¬Quiet os →
    ∃ os₁ e f t os₂, os = os₁ ++ .collectionFileEvent e f t :: os₂ ∧ Quiet os₁
  | [], h => absurd quiet_nil h
  | .collectionFileEvent e f t :: os, _ => ⟨[], e, f, t, os, rfl, quiet_nil⟩
  | .handled cb hd :: os, h | .cleanupOrphanedFiles cb :: os, h | .compile cb :: os, h
  | .clearCache cb :: os, h | .updateCollections cb :: os, h
  | .generateContentTypes cb :: os, h | .collectionsUpdated cb :: os, h
  | .processingError cb :: os, h | .syncError cb :: os, h | .rolesFileChanged cb :: os, h
  | .fullReload :: os, h | .rolesError :: os, h => by
    obtain ⟨os₁, e, f, t, os₂, rfl, hq⟩ :=
      exists_first_event os (by simpa [Obs.isCollectionFileEvent] using h)
    exact ⟨_ :: os₁, e, f, t, os₂, rfl, by simpa [Obs.isCollectionFileEvent] using hq⟩

/-! ## The pending timer -/

/-- How one observation changes the pending timer. -/
def pendingStep (p : Option Timer) : Obs → Option Timer
  | .collectionFileEvent e f t => some ⟨e, f, t + 50⟩
  | .handled _ _ => none
  | _ => p

/-- The timer a trace leaves pending. -/
def pendingOf (os : List Obs) : Option Timer :=
  os.foldl pendingStep none

@[simp] theorem pendingOf_nil : pendingOf [] = none :=
  rfl

@[simp] theorem pendingOf_snoc (os : List Obs) (o : Obs) :
    pendingOf (os ++ [o]) = pendingStep (pendingOf os) o :=
  List.foldl_append ..

theorem pendingStep_of_silent {p : Option Timer} {o : Obs}
    (he : o.isCollectionFileEvent = false) (hh : o.isHandled = false) : pendingStep p o = p := by
  cases o <;> simp_all [pendingStep, Obs.isCollectionFileEvent, Obs.isHandled]

theorem pendingOf_append_silent (os : List Obs) :
    ∀ {l : List Obs}, Quiet l → NoStart l → pendingOf (os ++ l) = pendingOf os
  | [], _, _ => by simp
  | o :: l, hq, hs => by
    simp only [quiet_cons, noStart_cons] at hq hs
    rw [← List.singleton_append, ← List.append_assoc,
      pendingOf_append_silent (os ++ [o]) hq.2 hs.2, pendingOf_snoc,
      pendingStep_of_silent hq.1 hs.1]

/-- After a callback start, the timer stays disarmed until the next event. -/
theorem pendingOf_append_quiet (os : List Obs) (h : pendingOf os = none) :
    ∀ {l : List Obs}, Quiet l → pendingOf (os ++ l) = none
  | [], _ => by simpa using h
  | o :: l, hq => by
    simp only [quiet_cons] at hq
    rw [← List.singleton_append, ← List.append_assoc]
    refine pendingOf_append_quiet (os ++ [o]) ?_ hq.2
    cases o <;> simp_all [pendingStep, Obs.isCollectionFileEvent]

theorem pendingOf_event_silent (pre mid : List Obs) (e : WatchEvent) (f : String) (t : Nat)
    (hq : Quiet mid) (hs : NoStart mid) :
    pendingOf (pre ++ .collectionFileEvent e f t :: mid) = some ⟨e, f, t + 50⟩ := by
  rw [← List.singleton_append, ← List.append_assoc, pendingOf_append_silent _ hq hs,
    pendingOf_snoc]
  rfl

/-- A pending timer is the last collection-file event, with nothing after it that would
re-arm or disarm it. -/
theorem pendingOf_eq_some {os : List Obs} {p : Timer} (h : pendingOf os = some p) :
    ∃ pre t mid, os = pre ++ .collectionFileEvent p.event p.file t :: mid ∧
      p.deadline = t + 50 ∧ Quiet mid ∧ NoStart mid := by
  induction os using List.reverseRecOn with
  | nil => cases h
  | append_singleton os o ih =>
    rw [pendingOf_snoc] at h
    cases he : o.isCollectionFileEvent
    · cases hh : o.isHandled
      · rw [pendingStep_of_silent he hh] at h
        obtain ⟨pre, t, mid, rfl, hd, hq, hs⟩ := ih h
        exact ⟨pre, t, mid ++ [o], by simp, hd, by simp [hq, he], by simp [hs, hh]⟩
      · cases o <;> simp [Obs.isHandled] at hh
        cases h
    · cases o <;> simp [Obs.isCollectionFileEvent] at he
      cases h
      exact ⟨os, _, [], rfl, rfl, quiet_nil, noStart_nil⟩

/-- A timer pending after a quiet stretch was pending before it, and no callback started
in the stretch. -/
theorem pendingOf_quiet_eq_some {X m : List Obs} {p : Timer} (hq : Quiet m)
    (h : pendingOf (X ++ m) = some p) : NoStart m ∧ pendingOf X = some p := by
  by_cases hs : NoStart m
  · exact ⟨hs, by rwa [pendingOf_append_silent X hq hs] at h⟩
  · simp only [NoStart, not_forall, Bool.not_eq_false, exists_prop] at hs
    obtain ⟨x, hx, hh⟩ := hs
    obtain ⟨m₁, m₂, rfl⟩ := List.append_of_mem hx
    simp only [quiet_append, quiet_cons] at hq
    have h₀ : pendingOf (X ++ m₁ ++ [x]) = none := by
      rw [pendingOf_snoc]
      cases x <;> first | rfl | simp [Obs.isHandled] at hh
    rw [show X ++ (m₁ ++ x :: m₂) = X ++ m₁ ++ [x] ++ m₂ by simp,
      pendingOf_append_quiet _ h₀ hq.2.2] at h
    cases h

/-- Once a callback has started, a pending timer comes from a later event. -/
theorem pendingOf_rearmed {X mid : List Obs} {p : Timer} (hX : pendingOf X = none)
    (h : pendingOf (X ++ mid) = some p) :
    ∃ mid₁ t mid₂, mid = mid₁ ++ .collectionFileEvent p.event p.file t :: mid₂ ∧
      p.deadline = t + 50 := by
  obtain ⟨P, t, M, he, hd, hq, hs⟩ := pendingOf_eq_some h
  rcases List.append_eq_append_iff.1 he with ⟨a, rfl, rfl⟩ | ⟨c, rfl, hc⟩
  · exact ⟨a, t, M, rfl, hd⟩
  · cases c with
    | nil => exact ⟨[], t, M, by simpa using hc.symm, hd⟩
    | cons x c =>
      obtain ⟨rfl, rfl⟩ := List.cons_eq_cons.1 hc
      simp only [List.append_eq, quiet_append, noStart_append] at hq hs
      rw [pendingOf_event_silent P c _ _ _ hq.1 hs.1] at hX
      cases hX

/-! ## The rename slot -/

/-- The observation writes `lastUnlinkFile`: a deletion or a rename callback started. -/
def Obs.writesSlot : Obs → Bool
  | .handled _ .deleted | .handled _ (.renamed _) => true
  | _ => false

/-- How one observation changes the slot `(lastUnlinkFile, lastUnlinkTime)`. -/
def slotStep (slot : Option String × Nat) : Obs → Option String × Nat
  | .handled cb .deleted => (some cb.file, cb.currentTime)
  | .handled _ (.renamed _) => (none, slot.2)
  | _ => slot

/-- The rename slot a trace leaves, from the initial `(null, 0)`. -/
def slotOf (os : List Obs) : Option String × Nat :=
  os.foldl slotStep (none, 0)

@[simp] theorem slotOf_nil : slotOf [] = (none, 0) :=
  rfl

@[simp] theorem slotOf_snoc (os : List Obs) (o : Obs) :
    slotOf (os ++ [o]) = slotStep (slotOf os) o :=
  List.foldl_append ..

theorem slotStep_of_not_handled {slot : Option String × Nat} {o : Obs}
    (h : o.isHandled = false) : slotStep slot o = slot := by
  cases o <;> simp_all [slotStep, Obs.isHandled]

theorem slotOf_append_noStart (os : List Obs) :
    ∀ {l : List Obs}, NoStart l → slotOf (os ++ l) = slotOf os
  | [], _ => by simp
  | o :: l, hs => by
    simp only [noStart_cons] at hs
    rw [← List.singleton_append, ← List.append_assoc, slotOf_append_noStart (os ++ [o]) hs.2,
      slotOf_snoc, slotStep_of_not_handled hs.1]

theorem slotStep_of_not_writesSlot {slot : Option String × Nat} {o : Obs}
    (h : o.writesSlot = false) : slotStep slot o = slot := by
  cases o with
  | handled cb hd => cases hd <;> simp_all [slotStep, Obs.writesSlot]
  | _ => rfl

/-- A rename candidate is the file of the last deletion callback, with no deletion and no
rename after it. -/
theorem slotOf_fst_eq_some {os : List Obs} {f : String} (h : (slotOf os).1 = some f) :
    ∃ pre cb mid, os = pre ++ .handled cb .deleted :: mid ∧ cb.file = f ∧
      ∀ o ∈ mid, o.writesSlot = false := by
  induction os using List.reverseRecOn with
  | nil => cases h
  | append_singleton os o ih =>
    rw [slotOf_snoc] at h
    cases hw : o.writesSlot
    · rw [slotStep_of_not_writesSlot hw] at h
      obtain ⟨pre, cb, mid, rfl, hf, hm⟩ := ih h
      exact ⟨pre, cb, mid ++ [o], by simp, hf, by simpa [or_imp, forall_and, hw] using hm⟩
    · cases o with
      | handled cb hd =>
        cases hd with
        | deleted => exact ⟨os, cb, [], rfl, by simpa [slotStep] using h, nofun⟩
        | renamed => cases h
        | _ => cases hw
      | _ => cases hw

/-! ## Properties of every observation with its past -/

/-- Every observation of `os` satisfies `Q` with the part of the trace before it. -/
def Each (Q : List Obs → Obs → Prop) (os : List Obs) : Prop :=
  ∀ pre o post, os = pre ++ o :: post → Q pre o

@[simp] theorem each_nil (Q : List Obs → Obs → Prop) : Each Q [] := by
  intro pre o post h
  simp at h

theorem each_append {Q : List Obs → Obs → Prop} {os l : List Obs} :
    Each Q (os ++ l) ↔ Each Q os ∧ Each (fun pre o => Q (os ++ pre) o) l := by
  constructor
  · intro h
    exact ⟨fun pre o post he => h pre o (post ++ l) (by simp [he]),
      fun pre o post he => h (os ++ pre) o post (by simp [he])⟩
  · rintro ⟨h₁, h₂⟩ pre o post he
    rcases List.append_eq_append_iff.1 he with ⟨a, rfl, hl⟩ | ⟨c, rfl, hc⟩
    · exact h₂ a o post hl
    · cases c with
      | nil => simpa using h₂ [] o post (by simpa using hc.symm)
      | cons x c =>
        obtain ⟨rfl, rfl⟩ := List.cons_eq_cons.1 hc
        exact h₁ pre o c rfl

theorem each_of_mem {Q : List Obs → Obs → Prop} {l : List Obs}
    (h : ∀ pre o, o ∈ l → Q pre o) : Each Q l :=
  fun pre o post he => h pre o (by simp [he])

@[simp] theorem each_cons {Q : List Obs → Obs → Prop} {o : Obs} {l : List Obs} :
    Each Q (o :: l) ↔ Q [] o ∧ Each (fun pre x => Q (o :: pre) x) l := by
  rw [← List.singleton_append, each_append]
  refine and_congr ⟨fun h => h [] o [] rfl, fun h pre x post he => ?_⟩ Iff.rfl
  obtain ⟨rfl, rfl, rfl⟩ : pre = [] ∧ x = o ∧ post = [] := by
    cases pre <;> simp_all
  exact h

end SveltyCms
