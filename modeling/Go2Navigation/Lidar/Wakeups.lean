import Go2Navigation.Lidar.BlockingRing

/-!
# Who is woken

All threads of a `BlockingRing` wait on one condition variable, and a success
notifies one of them.  A thread that adds may be woken when an item was added.
With many threads that loses notifications; the numbers of threads from which
on it does are exact.
-/

namespace Go2Navigation.Lidar.BlockingRing

open Go2Navigation.Foundation
open Go2Navigation.Foundation.StepSystem (run_singleton run_append)

universe u v

/-- How many threads there are of a kind. -/
def threads {Thread : Type v} [Fintype Thread] (adder : Thread → Bool)
    (kind : Bool) : ℕ :=
  (Finset.univ.filter fun thread => adder thread = kind).card

/-- How many of them wait. -/
def asleep {T : Type u} {Thread : Type v} [Fintype Thread]
    (adder : Thread → Bool) (kind : Bool) (point : Thread → ThreadPoint T) :
    ℕ :=
  census (fun thread place => adder thread == kind && place.waits) point

/-- How many of them do not. -/
def awake {T : Type u} {Thread : Type v} [Fintype Thread]
    (adder : Thread → Bool) (kind : Bool) (point : Thread → ThreadPoint T) :
    ℕ :=
  census (fun thread place => adder thread == kind && !place.waits) point

section Points

variable {T : Type u} {Thread : Type v} [Fintype Thread]
  {adder : Thread → Bool} {kind : Bool}
  {point point' : Thread → ThreadPoint T}

theorem asleep_pos_iff :
    0 < asleep adder kind point ↔
      ∃ thread, adder thread = kind ∧ (point thread).waits = true := by
  simp [asleep, census_pos_iff]

theorem asleep_lt_iff :
    asleep adder kind point < threads adder kind ↔
      ∃ thread, adder thread = kind ∧ (point thread).waits = false := by
  have all :
      threads adder kind =
        census (fun thread _ => adder thread == kind) point := by
    simp [threads, census]
  rw [all, asleep, census_lt_iff (by simp +contextual)]
  refine exists_congr fun thread => ?_
  simp +contextual

theorem asleep_add_awake :
    asleep adder kind point + awake adder kind point =
      threads adder kind := by
  have split :=
    Finset.card_filter_add_card_filter_not
      (s := Finset.univ.filter fun thread => adder thread = kind)
      fun thread => (point thread).waits = true
  simpa [asleep, awake, threads, census, Finset.filter_filter] using split

theorem threads_add (adder : Thread → Bool) :
    threads adder true + threads adder false = Fintype.card Thread := by
  have split :=
    Finset.card_filter_add_card_filter_not
      (s := (Finset.univ : Finset Thread)) fun thread => adder thread = true
  simpa [threads] using split

theorem threads_pos_iff :
    0 < threads adder kind ↔ ∃ thread, adder thread = kind := by
  simp [threads, Finset.card_pos, Finset.filter_nonempty_iff]

theorem asleep_eq_zero
    (awake : ∀ thread, (point thread).waits = false) :
    asleep adder kind point = 0 := by
  rw [← Nat.le_zero, ← Nat.not_lt, asleep_pos_iff]
  rintro ⟨thread, _, waits⟩
  rw [awake] at waits
  cases waits

variable [DecidableEq Thread]

/-- One thread moves. -/
theorem asleep_update (kind : Bool) (thread : Thread) (new : ThreadPoint T) :
    asleep adder kind (Function.update point thread new) +
        (if adder thread = kind ∧ (point thread).waits = true then 1 else 0) =
      asleep adder kind point +
        if adder thread = kind ∧ new.waits = true then 1 else 0 := by
  have moved :=
    @census_update Thread (ThreadPoint T) _
      (fun thread place => adder thread == kind && place.waits) point _
      thread new
  simpa [asleep] using moved

theorem asleep_update_of_awake {thread : Thread} {new : ThreadPoint T}
    (awake : (point thread).waits = false) (stays : new.waits = false) :
    asleep adder kind (Function.update point thread new) =
      asleep adder kind point := by
  have moved := @asleep_update _ _ _ adder point _ kind thread new
  simpa [awake, stays] using moved

theorem asleep_update_other {thread : Thread} {new : ThreadPoint T}
    (other : adder thread ≠ kind) :
    asleep adder kind (Function.update point thread new) =
      asleep adder kind point := by
  have moved := @asleep_update _ _ _ adder point _ kind thread new
  simpa [other] using moved

theorem asleep_update_waits {thread : Thread} {new : ThreadPoint T}
    (role : adder thread = kind) (awake : (point thread).waits = false)
    (waits : new.waits = true) :
    asleep adder kind (Function.update point thread new) =
      asleep adder kind point + 1 := by
  have moved := @asleep_update _ _ _ adder point _ kind thread new
  simpa [role, awake, waits] using moved

theorem asleep_update_wakes {thread : Thread} {new : ThreadPoint T}
    (role : adder thread = kind) (waits : (point thread).waits = true)
    (awake : new.waits = false) :
    asleep adder kind (Function.update point thread new) + 1 =
      asleep adder kind point := by
  have moved := @asleep_update _ _ _ adder point _ kind thread new
  simpa [role, waits, awake] using moved

/-- A thread that waits is woken. -/
theorem notified_update {thread : Thread} {new : ThreadPoint T}
    (waits : (point thread).waits = true) (awake : new.waits = false) :
    Occupancy.Notified (asleep adder true point) (asleep adder false point)
      (asleep adder true (Function.update point thread new))
      (asleep adder false (Function.update point thread new)) := by
  cases role : adder thread with
  | true =>
      have other : adder thread ≠ false := by simp [role]
      rw [← asleep_update_wakes role waits awake, asleep_update_other other]
      exact .filler _ _
  | false =>
      have other : adder thread ≠ true := by simp [role]
      rw [← asleep_update_wakes role waits awake, asleep_update_other other]
      exact .drainer _ _

theorem notified_of_notifyOne {notified : Option Thread}
    (notifies : notifyOne point notified = some point') :
    Occupancy.Notified (asleep adder true point) (asleep adder false point)
      (asleep adder true point') (asleep adder false point') := by
  cases notified with
  | none =>
      simp only [notifyOne] at notifies
      split at notifies
      · next awake =>
        cases notifies
        rw [asleep_eq_zero awake, asleep_eq_zero awake]
        exact .nobody
      · cases notifies
  | some thread =>
      simp only [notifyOne] at notifies
      split at notifies
      · next call waiting =>
        cases notifies
        exact notified_update (by simp [waiting]) rfl
      · cases notifies

theorem awake_of_notifyOne {notified : Option Thread} {thread : Thread}
    (awake : (point thread).waits = false)
    (notifies : notifyOne point notified = some point') :
    (point' thread).waits = false := by
  have stays :=
    @forall_notifyOne _ _ _ _ _ _ _
      (fun other place => other = thread → place.waits = false)
      (fun other same => same ▸ awake) (fun _ _ _ _ => rfl) notifies
  exact stays thread rfl

theorem exists_waiting_of_pos {kind : Bool}
    (some : 0 < asleep adder kind point) :
    ∃ thread call,
      point thread = .waiting call ∧
        asleep adder kind (Function.update point thread (.locking call)) + 1 =
          asleep adder kind point ∧
        asleep adder (!kind) (Function.update point thread (.locking call)) =
          asleep adder (!kind) point := by
  obtain ⟨thread, role, waits⟩ := asleep_pos_iff.mp some
  cases waiting : point thread with
  | waiting call =>
      refine ⟨thread, call, waiting, ?_, ?_⟩
      · exact asleep_update_wakes role waits rfl
      · exact asleep_update_other (by simp [role])
  | outside | locking | timedOut => simp [waiting] at waits

/-- Any thread that waits may be the one to be notified. -/
theorem exists_notifyOne_of_notified {fillers drainers : ℕ}
    (notified :
      Occupancy.Notified (asleep adder true point) (asleep adder false point)
        fillers drainers) :
    ∃ who point',
      notifyOne point who = some point' ∧
        asleep adder true point' = fillers ∧
        asleep adder false point' = drainers := by
  generalize adders : asleep adder true point = before at notified
  generalize removers : asleep adder false point = before' at notified
  cases notified with
  | nobody =>
      refine ⟨none, point, if_pos fun thread => ?_, adders, removers⟩
      by_contra waits
      have some : 0 < asleep adder (adder thread) point :=
        asleep_pos_iff.mpr ⟨thread, rfl, by simpa using waits⟩
      cases role : adder thread <;> rw [role] at some <;> omega
  | filler =>
      obtain ⟨thread, call, waiting, one, rest⟩ :=
        exists_waiting_of_pos (by omega : 0 < asleep adder true point)
      exact
        ⟨some thread, _, by simp only [notifyOne, waiting], by omega,
          rest.trans removers⟩
  | drainer =>
      obtain ⟨thread, call, waiting, one, rest⟩ :=
        exists_waiting_of_pos (by omega : 0 < asleep adder false point)
      exact
        ⟨some thread, _, by simp only [notifyOne, waiting],
          rest.trans adders, by omega⟩

end Points

section Steps

variable {T : Type u} {N : ℕ} {Thread : Type v} [Fintype Thread]
  {adder : Thread → Bool} {blocking next last : BlockingRing T N Thread}

/-- What of the ring and its threads decides who is woken. -/
def occupancy (adder : Thread → Bool) (blocking : BlockingRing T N Thread) :
    Occupancy :=
  ⟨blocking.ring.size, asleep adder true blocking.point,
    asleep adder false blocking.point⟩

theorem occupancy_start {ring : ℕ → T} :
    occupancy adder (start N Thread ring) = ⟨0, 0, 0⟩ := by
  have none (kind : Bool) :
      asleep adder kind (start N Thread ring).point = 0 :=
    asleep_eq_zero fun _ => rfl
  rw [occupancy, none, none]
  rfl

variable [DecidableEq Thread]

abbrev Step (N : ℕ) (adder : Thread → Bool) : Occupancy → Occupancy → Prop :=
  Occupancy.Step N (threads adder true) (threads adder false)

abbrev Steps (N : ℕ) (adder : Thread → Bool) : Occupancy → Occupancy → Prop :=
  Occupancy.Steps N (threads adder true) (threads adder false)

theorem occupancy_moveTo_waiting {thread : Thread} {new : ThreadPoint T}
    (awake : (blocking.point thread).waits = false)
    (waits : new.waits = true) :
    occupancy adder (blocking.moveTo thread new) =
      if adder thread then
        { occupancy adder blocking with
          fillers := asleep adder true blocking.point + 1 }
      else
        { occupancy adder blocking with
          drainers := asleep adder false blocking.point + 1 } := by
  cases role : adder thread with
  | true =>
      have other : adder thread ≠ false := by simp [role]
      simp only [occupancy, moveTo, asleep_update_waits role awake waits,
        asleep_update_other other, if_true]
  | false =>
      have other : adder thread ≠ true := by simp [role]
      simp [occupancy, moveTo, asleep_update_waits role awake waits,
        asleep_update_other other]

theorem step_moveTo_waiting {thread : Thread} {new : ThreadPoint T}
    (awake : (blocking.point thread).waits = false) (waits : new.waits = true)
    (level : blocking.ring.size = if adder thread then N else 0) :
    Step N adder (occupancy adder blocking)
      (occupancy adder (blocking.moveTo thread new)) := by
  have some :
      asleep adder (adder thread) blocking.point <
        threads adder (adder thread) :=
    asleep_lt_iff.mpr ⟨thread, rfl, awake⟩
  rw [occupancy_moveTo_waiting awake waits, occupancy, level]
  cases role : adder thread with
  | true =>
      rw [role] at some
      exact .fillerSleeps some
  | false =>
      rw [role] at some
      exact .drainerSleeps some

theorem occupancy_moveTo_of_awake {thread : Thread} {new : ThreadPoint T}
    (awake : (blocking.point thread).waits = false)
    (stays : new.waits = false) :
    occupancy adder (blocking.moveTo thread new) =
      occupancy adder blocking := by
  simp only [occupancy, moveTo, asleep_update_of_awake awake stays]

/-- A function ends and wakes a thread. -/
theorem occupancy_outside {thread : Thread} {notified : Option Thread}
    {ring : Ring T N} {point : Thread → ThreadPoint T}
    (awake : (blocking.point thread).waits = false)
    (notifies : notifyOne blocking.point notified = some point) :
    occupancy adder
        (⟨ring, Function.update point thread .outside⟩ :
          BlockingRing T N Thread) =
      ⟨ring.size, asleep adder true point, asleep adder false point⟩ := by
  have stays := awake_of_notifyOne awake notifies
  simp only [occupancy, asleep_update_of_awake stays ThreadPoint.waits_outside]

variable [Inhabited T] {items : List T} {label : BlockingLabel T Thread}

/-- The steps of the threads, seen from the numbers that wait. -/
theorem Moves.steps {returns : List (BlockingCall T × List T)}
    (moves : Moves adder blocking label next returns)
    (keeps : Keeps adder blocking.point) (wide : N ≤ 2 ^ 63)
    (represents : blocking.ring.Represents items) :
    Steps N adder (occupancy adder blocking) (occupancy adder next) := by
  cases moves with
  | @calls thread call outside role =>
      rw [occupancy_moveTo_of_awake (by simp [outside]) (by simp)]
  | @waits thread notified call locking unready =>
      refine .single (step_moveTo_waiting (by simp [locking]) (by simp) ?_)
      have role : call.adds = adder thread := by
        have role := keeps thread
        rwa [locking] at role
      have fits := represents.circular.fits
      rw [represents.size]
      cases adds : call.adds with
      | true =>
          rw [BlockingCall.ready_of_adds represents adds] at unready
          rw [← role, if_pos adds]
          omega
      | false =>
          rw [BlockingCall.ready_of_removes represents adds, not_not]
            at unready
          rw [← role, if_neg (by simp [adds]), unready, List.length_nil]
  | @finishes thread notified call ring point locking ready ran notifies =>
      have awake : (blocking.point thread).waits = false := by
        rcases locking with locking | ⟨_, timedOut⟩
        · simp [locking]
        · simp [timedOut]
      have role : call.adds = adder thread := by
        have role := keeps thread
        rcases locking with locking | ⟨rfl, timedOut⟩
        · rwa [locking] at role
        · rw [timedOut] at role
          exact role.symm
      have notified := @notified_of_notifyOne _ _ _ adder _ _ _ _ notifies
      obtain ⟨ring', items', ran', represents', _, counts⟩ :=
        represents.blocking wide ready
      cases ran.symm.trans ran'
      rw [occupancy_outside awake notifies, occupancy, represents.size,
        represents'.size]
      cases adds : call.adds with
      | true =>
          have room :=
            (BlockingCall.ready_of_adds represents adds).mp ready
          rw [BlockingCall.Counts, if_pos adds] at counts
          rw [counts]
          exact
            .single
              (.fill
                (asleep_lt_iff.mpr ⟨thread, role.symm.trans adds, awake⟩) room
                notified)
      | false =>
          rw [BlockingCall.Counts, if_neg (by simp [adds])] at counts
          rw [counts]
          exact
            .single
              (.drain
                (asleep_lt_iff.mpr ⟨thread, role.symm.trans adds, awake⟩)
                notified)
  | @givesUp thread notified point timedOut empty notifies =>
      rw [occupancy_outside (by simp [timedOut]) notifies]
      exact (notified_of_notifyOne notifies).steps
  | @wakes thread call waiting =>
      exact (notified_update (by simp [waiting]) rfl).steps
  | @timesOut thread waiting =>
      exact (notified_update (by simp [waiting]) rfl).steps

/-- A state that some interleaving reaches. -/
structure Sound (adder : Thread → Bool) (blocking : BlockingRing T N Thread) :
    Prop where
  keeps : Keeps adder blocking.point
  represents : ∃ items, blocking.ring.Represents items
  steps : Steps N adder ⟨0, 0, 0⟩ (occupancy adder blocking)

theorem sound_of_run (positive : 0 < N) (wide : N ≤ 2 ^ 63) {ring : ℕ → T}
    {labels : List (BlockingLabel T Thread)}
    (ran : (system adder).run (start N Thread ring) labels = some last) :
    Sound adder last := by
  refine
    @StepSystem.preserved_by_run _ _ (system adder) (Sound adder) ?_ _ _ _
      ⟨fun _ => ?_, ⟨[], .empty positive, rfl⟩, ?_⟩ ran
  · rintro state label next ⟨keeps, ⟨items, represents⟩, steps⟩ stepped
    have moves := moves stepped
    obtain ⟨_, represents', _⟩ := moves.called wide represents
    exact
      ⟨moves.keeps keeps, ⟨_, represents'⟩,
        steps.trans (moves.steps keeps wide represents)⟩
  · trivial
  · rw [occupancy_start]

/-! ## The numbers can change as they may -/

/-- No wait has timed out. -/
structure Calm (adder : Thread → Bool) (blocking : BlockingRing T N Thread) :
    Prop where
  keeps : Keeps adder blocking.point
  represents : ∃ items, blocking.ring.Represents items
  patient : ∀ thread, blocking.point thread ≠ .timedOut

theorem Calm.step (calm : Calm adder blocking) (wide : N ≤ 2 ^ 63)
    (stepped : (system adder).step blocking label = some next)
    (patient : ∀ thread, label ≠ .timesOut thread) : Calm adder next := by
  obtain ⟨items, represents⟩ := calm.represents
  have moves := moves stepped
  obtain ⟨items', represents', _⟩ := moves.called wide represents
  refine ⟨moves.keeps calm.keeps, ⟨items', represents'⟩, ?_⟩
  have moved {thread : Thread} {new : ThreadPoint T}
      {point : Thread → ThreadPoint T}
      (before : ∀ thread, point thread ≠ .timedOut)
      (patient : new ≠ .timedOut) :
      ∀ other, Function.update point thread new other ≠ .timedOut :=
    (Function.forall_update_iff point fun _ place => place ≠ .timedOut).mpr
      ⟨patient, fun other _ => before other⟩
  generalize blocking.returned label = returns at moves
  cases moves with
  | calls | waits | wakes => exact moved calm.patient nofun
  | finishes _ _ _ notifies | givesUp _ _ notifies =>
      have notified :=
        @forall_notifyOne _ _ _ _ _ _ _ (fun _ place => place ≠ .timedOut)
          calm.patient (fun _ _ _ => nofun) notifies
      exact moved notified nofun
  | timesOut => exact (patient _ rfl).elim

/-- A thread that does not wait can come to lock the mutex. -/
theorem Calm.exists_locking (calm : Calm adder blocking) (wide : N ≤ 2 ^ 63)
    {thread : Thread} (awake : (blocking.point thread).waits = false) :
    ∃ labels next call,
      (system adder).run blocking labels = some next ∧
        Calm adder next ∧
        next.point thread = .locking call ∧
        occupancy adder next = occupancy adder blocking := by
  cases place : blocking.point thread with
  | outside =>
      let call : BlockingCall T :=
        if adder thread then .pushBack default else .popFront
      have role : call.adds = adder thread := by
        simp only [call]
        cases adder thread <;> rfl
      have stepped :
          (system adder).step blocking (.calls thread call) =
            some (blocking.moveTo thread (.locking call)) := by
        simp only [system, BlockingRing.step, place, if_pos role]
      refine
        ⟨[.calls thread call], _, call, (run_singleton _ _ _).trans stepped,
          calm.step wide stepped (by simp), ?_, ?_⟩
      · exact Function.update_self _ _ _
      · exact occupancy_moveTo_of_awake awake rfl
  | locking call => exact ⟨[], blocking, call, rfl, calm, place, rfl⟩
  | waiting call => simp [place] at awake
  | timedOut => exact (calm.patient thread place).elim

/-- A thread does its call and wakes another. -/
theorem Calm.exists_finish (calm : Calm adder blocking) (wide : N ≤ 2 ^ 63)
    {thread : Thread} (awake : (blocking.point thread).waits = false)
    {level fillers drainers : ℕ}
    (ready :
      if adder thread then blocking.ring.size < N else 0 < blocking.ring.size)
    (counts :
      if adder thread then level = blocking.ring.size + 1
      else blocking.ring.size = level + 1)
    (notified :
      Occupancy.Notified (asleep adder true blocking.point)
        (asleep adder false blocking.point) fillers drainers) :
    ∃ labels next,
      (system adder).run blocking labels = some next ∧
        Calm adder next ∧
        occupancy adder next = ⟨level, fillers, drainers⟩ := by
  obtain ⟨labels, locked, call, ran, calmLocked, locking, same⟩ :=
    calm.exists_locking wide awake
  obtain ⟨items, represents⟩ := calmLocked.represents
  simp only [occupancy, Occupancy.mk.injEq] at same
  rw [← same.1, represents.size] at ready counts
  rw [← same.2.1, ← same.2.2] at notified
  have role : call.adds = adder thread := by
    have role := calmLocked.keeps thread
    rwa [locking] at role
  have able : call.ready locked.ring = true := by
    cases adds : call.adds with
    | true =>
        rw [← role, if_pos adds] at ready
        exact (BlockingCall.ready_of_adds represents adds).mpr ready
    | false =>
        rw [← role, if_neg (by simp [adds])] at ready
        exact
          (BlockingCall.ready_of_removes represents adds).mpr
            (List.ne_nil_of_length_pos ready)
  obtain ⟨ring, items', ranBody, represents', _, counted⟩ :=
    represents.blocking wide able
  obtain ⟨who, point, notifies, adders, removers⟩ :=
    exists_notifyOne_of_notified notified
  have stepped :
      (system adder).step locked (.locks thread who) =
        some ⟨ring, Function.update point thread .outside⟩ := by
    simp only [system, BlockingRing.step, locking, if_pos able]
    exact finish_eq_some_iff.mpr ⟨ring, point, ranBody, notifies, rfl⟩
  refine
    ⟨labels ++ [.locks thread who], _, ?_,
      calmLocked.step wide stepped (by simp), ?_⟩
  · rw [run_append, ran]
    exact (run_singleton _ _ _).trans stepped
  · rw [occupancy_outside (by simp [locking]) notifies, adders, removers,
      represents'.size]
    rw [BlockingCall.Counts, role] at counted
    congr 1
    cases kind : adder thread <;> simp [kind] at counts counted <;> omega

/-- A thread comes to wait. -/
theorem Calm.exists_wait (calm : Calm adder blocking) (wide : N ≤ 2 ^ 63)
    {thread : Thread} (awake : (blocking.point thread).waits = false)
    (level : blocking.ring.size = if adder thread then N else 0) :
    ∃ labels next,
      (system adder).run blocking labels = some next ∧
        Calm adder next ∧
        occupancy adder next =
          if adder thread then
            { occupancy adder blocking with
              fillers := asleep adder true blocking.point + 1 }
          else
            { occupancy adder blocking with
              drainers := asleep adder false blocking.point + 1 } := by
  obtain ⟨labels, locked, call, ran, calmLocked, locking, same⟩ :=
    calm.exists_locking wide awake
  obtain ⟨items, represents⟩ := calmLocked.represents
  have role : call.adds = adder thread := by
    have role := calmLocked.keeps thread
    rwa [locking] at role
  have sizes : locked.ring.size = blocking.ring.size :=
    congrArg Occupancy.level same
  rw [← sizes, represents.size, ← role] at level
  have unable : ¬call.ready locked.ring = true := by
    cases adds : call.adds with
    | true =>
        rw [BlockingCall.ready_of_adds represents adds]
        rw [if_pos adds] at level
        omega
    | false =>
        rw [BlockingCall.ready_of_removes represents adds, not_not]
        rw [if_neg (by simp [adds])] at level
        exact List.length_eq_zero_iff.mp level
  have stepped :
      (system adder).step locked (.locks thread none) =
        some (locked.moveTo thread (.waiting call)) := by
    simp only [system, BlockingRing.step, locking, if_neg unable]
  refine
    ⟨labels ++ [.locks thread none], _, ?_,
      calmLocked.step wide stepped (by simp), ?_⟩
  · rw [run_append, ran]
    exact (run_singleton _ _ _).trans stepped
  · rw [occupancy_moveTo_waiting (by simp [locking]) (by simp), same]
    simp only [occupancy, Occupancy.mk.injEq] at same
    rw [same.2.1, same.2.2]

theorem Calm.exists_wake (calm : Calm adder blocking) (wide : N ≤ 2 ^ 63)
    {kind : Bool} (some : 0 < asleep adder kind blocking.point) :
    ∃ labels next,
      (system adder).run blocking labels = .some next ∧
        Calm adder next ∧
        next.ring = blocking.ring ∧
        asleep adder kind next.point + 1 =
          asleep adder kind blocking.point ∧
        asleep adder (!kind) next.point =
          asleep adder (!kind) blocking.point := by
  obtain ⟨thread, call, waiting, one, rest⟩ := exists_waiting_of_pos some
  have stepped :
      (system adder).step blocking (.wakes thread) =
        .some (blocking.moveTo thread (.locking call)) := by
    simp only [system, BlockingRing.step, waiting]
  exact
    ⟨[.wakes thread], _, (run_singleton _ _ _).trans stepped,
      calm.step wide stepped (by simp), rfl, one, rest⟩

theorem Calm.exists_run (calm : Calm adder blocking) (wide : N ≤ 2 ^ 63)
    {changed : Occupancy}
    (step : Step N adder (occupancy adder blocking) changed) :
    ∃ labels next,
      (system adder).run blocking labels = some next ∧
        Calm adder next ∧ occupancy adder next = changed := by
  generalize before : occupancy adder blocking = counts at step
  cases step with
  | fill awake room notified =>
      simp only [occupancy, Occupancy.mk.injEq] at before
      obtain ⟨rfl, rfl, rfl⟩ := before
      obtain ⟨thread, role, awake⟩ := asleep_lt_iff.mp awake
      exact
        calm.exists_finish wide awake (by simpa [role] using room)
          (by simp [role]) notified
  | drain awake notified =>
      simp only [occupancy, Occupancy.mk.injEq] at before
      obtain ⟨level, rfl, rfl⟩ := before
      obtain ⟨thread, role, awake⟩ := asleep_lt_iff.mp awake
      exact
        calm.exists_finish wide awake (by simp [role, level])
          (by simp [role, level]) notified
  | fillerSleeps awake =>
      simp only [occupancy, Occupancy.mk.injEq] at before
      obtain ⟨level, rfl, rfl⟩ := before
      obtain ⟨thread, role, awake⟩ := asleep_lt_iff.mp awake
      have waits :=
        calm.exists_wait wide awake (by rw [role, if_pos rfl]; exact level)
      rw [role, if_pos rfl, occupancy, level] at waits
      exact waits
  | drainerSleeps awake =>
      simp only [occupancy, Occupancy.mk.injEq] at before
      obtain ⟨level, rfl, rfl⟩ := before
      obtain ⟨thread, role, awake⟩ := asleep_lt_iff.mp awake
      have waits :=
        calm.exists_wait wide awake (by simp [role, level])
      rw [if_neg (by simp [role]), occupancy, level] at waits
      exact waits
  | fillerWakes =>
      simp only [occupancy, Occupancy.mk.injEq] at before
      obtain ⟨rfl, adders, rfl⟩ := before
      obtain ⟨labels, next, ran, calm, ring, one, rest⟩ :=
        calm.exists_wake wide
          (by omega : 0 < asleep adder true blocking.point)
      refine ⟨labels, next, ran, calm, ?_⟩
      simp only [occupancy, Occupancy.mk.injEq]
      exact ⟨by rw [ring], by omega, rest⟩
  | drainerWakes =>
      simp only [occupancy, Occupancy.mk.injEq] at before
      obtain ⟨rfl, rfl, removers⟩ := before
      obtain ⟨labels, next, ran, calm, ring, one, rest⟩ :=
        calm.exists_wake wide
          (by omega : 0 < asleep adder false blocking.point)
      refine ⟨labels, next, ran, calm, ?_⟩
      simp only [occupancy, Occupancy.mk.injEq]
      exact ⟨by rw [ring], rest, by omega⟩

theorem Calm.exists_run_of_steps (calm : Calm adder blocking)
    (wide : N ≤ 2 ^ 63) {changed : Occupancy}
    (steps : Steps N adder (occupancy adder blocking) changed) :
    ∃ labels next,
      (system adder).run blocking labels = some next ∧
        Calm adder next ∧ occupancy adder next = changed := by
  induction steps with
  | refl => exact ⟨[], blocking, rfl, calm, rfl⟩
  | tail _ step induction =>
      obtain ⟨before, reached, ranBefore, calm, rfl⟩ := induction
      obtain ⟨after, next, ranAfter, calm, changed⟩ :=
        calm.exists_run wide step
      refine ⟨before ++ after, next, ?_, calm, changed⟩
      rw [run_append, ranBefore]
      exact ranAfter

theorem exists_run_of_steps (positive : 0 < N) (wide : N ≤ 2 ^ 63)
    (ring : ℕ → T) {changed : Occupancy}
    (steps : Steps N adder ⟨0, 0, 0⟩ changed) :
    ∃ labels next,
      (system adder).run (start N Thread ring) labels = some next ∧
        occupancy adder next = changed := by
  have calm : Calm adder (start N Thread ring) :=
    ⟨fun _ => trivial, ⟨[], .empty positive, rfl⟩, fun _ => nofun⟩
  have same :
      Steps N adder (occupancy adder (start N Thread ring)) changed := by
    rw [occupancy_start]
    exact steps
  obtain ⟨labels, next, ran, _, changed⟩ := calm.exists_run_of_steps wide same
  exact ⟨labels, next, ran, changed⟩

end Steps

/-! ## How many threads are too many -/

/--
While a thread waits for an item there is one awake for each item, and while
one waits for a free cell there is one awake for each cell.
-/
structure Served {T : Type u} {N : ℕ} {Thread : Type v} [Fintype Thread]
    (adder : Thread → Bool) (blocking : BlockingRing T N Thread) : Prop where
  items :
    (∃ thread,
        adder thread = false ∧ (blocking.point thread).waits = true) →
      blocking.ring.size ≤ awake adder false blocking.point
  room :
    (∃ thread,
        adder thread = true ∧ (blocking.point thread).waits = true) →
      N - blocking.ring.size ≤ awake adder true blocking.point

theorem heeded_iff_served {T : Type u} {N : ℕ} {Thread : Type v}
    [Fintype Thread] {adder : Thread → Bool}
    {blocking : BlockingRing T N Thread} :
    Occupancy.Heeded N (threads adder true) (threads adder false)
        (occupancy adder blocking) ↔
      Served adder blocking := by
  have adders := @asleep_add_awake _ _ _ adder true blocking.point
  have removers := @asleep_add_awake _ _ _ adder false blocking.point
  constructor
  · rintro ⟨items, room⟩
    simp only [occupancy] at items room
    constructor
    · intro waits
      have enough := items (asleep_pos_iff.mpr waits)
      omega
    · intro waits
      have enough := room (asleep_pos_iff.mpr waits)
      omega
  · rintro ⟨items, room⟩
    constructor <;> simp only [occupancy] <;> intro some
    · have enough := items (asleep_pos_iff.mp some)
      omega
    · have enough := room (asleep_pos_iff.mp some)
      omega

section Results

variable {T : Type u} [Inhabited T] {Thread : Type v} [Fintype Thread]
  [DecidableEq Thread]

/--
With a thread that adds and one that removes, all threads can come to wait for
one another exactly if there are more than twice as many as cells in the ring.
-/
theorem all_wait_iff (N : ℕ) (positive : 0 < N) (wide : N ≤ 2 ^ 63)
    (cells : ℕ → T) (adder : Thread → Bool)
    (someAdder : ∃ thread, adder thread = true)
    (someRemover : ∃ thread, adder thread = false) :
    (∃ labels reached,
        (system adder).run (start N Thread cells) labels = some reached ∧
          ∀ thread, (reached.point thread).waits = true) ↔
      2 * N < Fintype.card Thread := by
  have adders := threads_pos_iff.mpr someAdder
  have removers := threads_pos_iff.mpr someRemover
  have all := threads_add adder
  constructor
  · rintro ⟨labels, reached, ran, waits⟩
    by_contra few
    have lively :
        Occupancy.Lively N (threads adder true) (threads adder false)
          (occupancy adder reached) :=
      (Occupancy.lively_start adders removers (by omega)).steps adders
        removers (by omega) (sound_of_run positive wide ran).steps
    rcases lively.awake with some | some <;>
      obtain ⟨thread, _, awake⟩ := asleep_lt_iff.mp some <;>
      simp [waits] at awake
  · intro many
    obtain ⟨level, steps⟩ :=
      Occupancy.all_sleep positive adders removers
        (by omega : 2 * N < threads adder true + threads adder false)
    obtain ⟨labels, reached, ran, occupied⟩ :=
      exists_run_of_steps positive wide cells steps
    simp only [occupancy, Occupancy.mk.injEq] at occupied
    refine ⟨labels, reached, ran, fun thread => ?_⟩
    by_contra awake
    have some :
        asleep adder (adder thread) reached.point <
          threads adder (adder thread) :=
      asleep_lt_iff.mpr ⟨thread, rfl, by simpa using awake⟩
    cases role : adder thread <;> rw [role] at some <;> omega

/-- Three threads at a ring of one cell. -/
theorem all_wait_iff_three :
    (∃ labels reached,
        (system fun thread => decide (thread = 0)).run
              (start 1 (Fin 3) fun _ => 0) labels =
            some reached ∧
          ∀ thread, (reached.point thread).waits = true) ↔
      2 * 1 < Fintype.card (Fin 3) :=
  all_wait_iff 1 (by decide) (by decide) (fun _ => 0)
    (fun thread => decide (thread = 0)) ⟨0, rfl⟩ ⟨1, rfl⟩

/--
Waiting threads are served in all interleavings exactly if there are no more
threads of either kind than cells in the ring.
-/
theorem served_iff (N : ℕ) (positive : 0 < N) (wide : N ≤ 2 ^ 63)
    (cells : ℕ → T) (adder : Thread → Bool)
    (someAdder : ∃ thread, adder thread = true)
    (someRemover : ∃ thread, adder thread = false) :
    (∀ labels reached,
        (system adder).run (start N Thread cells) labels = some reached →
          Served adder reached) ↔
      threads adder true ≤ N ∧ threads adder false ≤ N := by
  have adders := threads_pos_iff.mpr someAdder
  have removers := threads_pos_iff.mpr someRemover
  constructor
  · intro always
    by_contra many
    obtain ⟨occupied, steps, unheeded⟩ :=
      Occupancy.unheeded positive adders removers
        (by omega : N < threads adder true ∨ N < threads adder false)
    obtain ⟨labels, reached, ran, rfl⟩ :=
      exists_run_of_steps positive wide cells steps
    exact unheeded (heeded_iff_served.mpr (always labels reached ran))
  · rintro ⟨fewAdders, fewRemovers⟩ labels reached ran
    have attended :=
      Occupancy.attended_start.steps fewAdders fewRemovers
        (sound_of_run positive wide ran).steps
    exact heeded_iff_served.mp attended.toHeeded

/-- One thread that adds and two that remove. -/
theorem served_iff_three :
    (∀ labels reached,
        (system fun thread => decide (thread = 0)).run
              (start 2 (Fin 3) fun _ => 0) labels =
            some reached →
          Served (fun thread => decide (thread = 0)) reached) ↔
      threads (fun thread : Fin 3 => decide (thread = 0)) true ≤ 2 ∧
        threads (fun thread : Fin 3 => decide (thread = 0)) false ≤ 2 :=
  served_iff 2 (by decide) (by decide) (fun _ => 0)
    (fun thread => decide (thread = 0)) ⟨0, rfl⟩ ⟨1, rfl⟩

end Results

end Go2Navigation.Lidar.BlockingRing
