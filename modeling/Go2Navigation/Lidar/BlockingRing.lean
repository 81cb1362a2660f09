import Go2Navigation.Foundation.Monitor
import Go2Navigation.Lidar.Ring

/-!
# The ring that threads share

A function of `BlockingRing` locks the mutex, waits on the one condition
variable while the ring is full or empty, calls the function of `Ring_SDK`
and notifies one waiting thread.  Each thread keeps to functions that add an
item or to functions that remove one.
-/

namespace Go2Navigation.Lidar

open Go2Navigation.Foundation

universe u v

/-- The member functions that wait. -/
inductive BlockingCall (T : Type u) where
  | pushFront (value : T)
  | emplaceBack (value : T)
  | pushBack (value : T)
  | popFront
  | tryPopFront
  | popBack
deriving DecidableEq

namespace BlockingCall

variable {T : Type u}

/-- Whether the function waits while the ring is full. -/
def adds : BlockingCall T → Bool
  | .pushFront _ | .emplaceBack _ | .pushBack _ => true
  | .popFront | .tryPopFront | .popBack => false

/-- What is called of `Super` after the wait. -/
def body : BlockingCall T → List (RingCall T)
  | .pushFront value => [.pushFront value]
  | .emplaceBack value | .pushBack value => [.pushBack value]
  | .popFront => [.popFront]
  | .tryPopFront => [.peekFront, .effPopFront]
  | .popBack => [.popBack]

/-- The predicate of the wait. -/
def ready {N : ℕ} (call : BlockingCall T) (ring : Ring T N) : Bool :=
  if call.adds then !ring.full else !ring.empty

end BlockingCall

/-- Where a thread is. -/
inductive ThreadPoint (T : Type u) where
  | outside
  | locking (call : BlockingCall T)
  | waiting (call : BlockingCall T)
  | timedOut
deriving DecidableEq

namespace ThreadPoint

variable {T : Type u}

/-- Whether the thread is asleep on the condition variable. -/
def waits : ThreadPoint T → Bool
  | .waiting _ => true
  | _ => false

@[simp]
theorem waits_outside : (outside : ThreadPoint T).waits = false :=
  rfl

@[simp]
theorem waits_locking (call : BlockingCall T) :
    (locking call).waits = false :=
  rfl

@[simp]
theorem waits_waiting (call : BlockingCall T) : (waiting call).waits = true :=
  rfl

@[simp]
theorem waits_timedOut : (timedOut : ThreadPoint T).waits = false :=
  rfl

end ThreadPoint

/-- `BlockingRing`, with its threads. -/
structure BlockingRing (T : Type u) (N : ℕ) (Thread : Type v) where
  ring : Ring T N
  point : Thread → ThreadPoint T

inductive BlockingLabel (T : Type u) (Thread : Type v) where
  | calls (thread : Thread) (call : BlockingCall T)
  | locks (thread : Thread) (notified : Option Thread)
  | wakes (thread : Thread)
  | timesOut (thread : Thread)
deriving DecidableEq

namespace BlockingRing

variable {T : Type u} [Inhabited T] {N : ℕ} {Thread : Type v}
  [Fintype Thread] [DecidableEq Thread]

/-- `notify_one`: any waiting thread, none only if there is none. -/
def notifyOne (point : Thread → ThreadPoint T) :
    Option Thread → Option (Thread → ThreadPoint T)
  | none =>
      if ∀ thread, (point thread).waits = false then some point else none
  | some thread =>
      match point thread with
      | .waiting call =>
          some (Function.update point thread (.locking call))
      | _ => none

/-- The end of a function; a failed assertion ends the program. -/
def finish (blocking : BlockingRing T N Thread) (thread : Thread)
    (body : List (RingCall T)) (notified : Option Thread) :
    Option (BlockingRing T N Thread) :=
  ((callSystem Ring.call).run blocking.ring body).bind fun ring =>
    (notifyOne blocking.point notified).map fun point =>
      ⟨ring, Function.update point thread .outside⟩

def moveTo (blocking : BlockingRing T N Thread) (thread : Thread)
    (point : ThreadPoint T) : BlockingRing T N Thread :=
  { blocking with point := Function.update blocking.point thread point }

/-- A thread with the mutex keeps it until it waits or is done. -/
def step (adder : Thread → Bool) (blocking : BlockingRing T N Thread) :
    BlockingLabel T Thread → Option (BlockingRing T N Thread)
  | .calls thread call =>
      match blocking.point thread with
      | .outside =>
          if call.adds = adder thread then
            some (blocking.moveTo thread (.locking call))
          else none
      | _ => none
  | .locks thread notified =>
      match blocking.point thread with
      | .locking call =>
          if call.ready blocking.ring then
            blocking.finish thread call.body notified
          else some (blocking.moveTo thread (.waiting call))
      | .timedOut =>
          if blocking.ring.empty then blocking.finish thread [] notified
          else
            blocking.finish thread BlockingCall.tryPopFront.body notified
      | _ => none
  | .wakes thread =>
      match blocking.point thread with
      | .waiting call => some (blocking.moveTo thread (.locking call))
      | _ => none
  | .timesOut thread =>
      match blocking.point thread with
      | .waiting .tryPopFront => some (blocking.moveTo thread .timedOut)
      | _ => none

/-- The call that is done with a step, and the items it returns. -/
def returned (blocking : BlockingRing T N Thread) :
    BlockingLabel T Thread → List (BlockingCall T × List T)
  | .locks thread _ =>
      let items :=
        (callSystem Ring.call).observations (answers Ring.call) blocking.ring
      match blocking.point thread with
      | .locking call =>
          if call.ready blocking.ring then [(call, items call.body)] else []
      | .timedOut =>
          [(.tryPopFront,
            if blocking.ring.empty then []
            else items BlockingCall.tryPopFront.body)]
      | _ => []
  | _ => []

def system (adder : Thread → Bool) :
    StepSystem (BlockingRing T N Thread) (BlockingLabel T Thread) :=
  ⟨step adder⟩

/-- No thread has called a function yet. -/
def start (N : ℕ) (Thread : Type v) (ring : ℕ → T) :
    BlockingRing T N Thread :=
  ⟨Ring.construct N ring, fun _ => .outside⟩

end BlockingRing

/-! ## What the functions do, one at a time -/

/-- The functions on a sequence of at most so many items, without a wait. -/
def serialCall {T : Type u} (capacity : ℕ) (items : List T) :
    BlockingCall T → Option (List T × List T)
  | .pushFront value =>
      if capacity ≤ items.length then none else some (value :: items, [])
  | .emplaceBack value | .pushBack value =>
      if capacity ≤ items.length then none else some (items ++ [value], [])
  | .popFront => items.head?.map fun item => (items.tail, [item])
  | .tryPopFront => some (items.tail, items.head?.toList)
  | .popBack => items.getLast?.map fun item => (items.dropLast, [item])

/-- These calls, one after the other, give these answers and leave the items. -/
inductive Serial {T : Type u} (capacity : ℕ) :
    List (BlockingCall T × List T) → List T → Prop where
  | nil : Serial capacity [] []
  | snoc {past : List (BlockingCall T × List T)} {items next answer : List T}
      {call : BlockingCall T} (before : Serial capacity past items)
      (called : serialCall capacity items call = some (next, answer)) :
      Serial capacity (past ++ [(call, answer)]) next

section Ring

variable {T : Type u} {N : ℕ} {ring : Ring T N} {items : List T}
  {call : BlockingCall T}

theorem BlockingCall.ready_of_adds (represents : ring.Represents items)
    (adds : call.adds = true) :
    call.ready ring = true ↔ items.length < N := by
  rw [ready, if_pos adds, Bool.not_eq_true', ← Bool.not_eq_true,
    represents.full_eq, Nat.not_le]

theorem BlockingCall.ready_of_removes (represents : ring.Represents items)
    (removes : call.adds = false) :
    call.ready ring = true ↔ items ≠ [] := by
  rw [ready, if_neg (by simp [removes]), Bool.not_eq_true',
    ← Bool.not_eq_true, represents.empty_eq]

/-- How many items there are after a call. -/
def BlockingCall.Counts (call : BlockingCall T) (before after : ℕ) : Prop :=
  if call.adds then after = before + 1 else before = after + 1

/-- The functions do alone what they call of a queue. -/
theorem serialCall_of_ready
    (room : call.adds = true → items.length < N)
    (some : call.adds = false → items ≠ []) :
    ∃ next,
      (callSystem (dequeCall N)).run items call.body = .some next ∧
        (callSystem (dequeCall N)).Respects RingCall.Guarded items
          call.body ∧
        serialCall N items call =
          .some
            (next,
              (callSystem (dequeCall N)).observations
                (answers (dequeCall N)) items call.body) ∧
        call.Counts items.length next.length := by
  cases call with
  | pushFront value | emplaceBack value | pushBack value =>
      have room : ¬N ≤ items.length := (room rfl).not_ge
      simp [BlockingCall.body, StepSystem.observations, StepSystem.Respects,
        RingCall.Guarded, callSystem, dequeCall, answers, serialCall,
        BlockingCall.Counts, BlockingCall.adds, room]
  | popFront | tryPopFront =>
      obtain ⟨item, rest, rfl⟩ := List.exists_cons_of_ne_nil (some rfl)
      simp [BlockingCall.body, StepSystem.run, StepSystem.observations,
        StepSystem.Respects, RingCall.Guarded, callSystem, dequeCall,
        answers, serialCall, BlockingCall.Counts, BlockingCall.adds]
  | popBack =>
      obtain ⟨front, item, rfl⟩ :=
        (List.eq_nil_or_concat' items).resolve_left (some rfl)
      simp [BlockingCall.body, StepSystem.observations, StepSystem.Respects,
        RingCall.Guarded, callSystem, dequeCall, answers, serialCall,
        BlockingCall.Counts, BlockingCall.adds]

/-- A function that is ready fails no assertion. -/
theorem Ring.Represents.blocking [Inhabited T]
    (represents : ring.Represents items) (wide : N ≤ 2 ^ 63)
    (ready : call.ready ring = true) :
    ∃ ring' next,
      (callSystem Ring.call).run ring call.body = some ring' ∧
        ring'.Represents next ∧
        serialCall N items call =
          some
            (next,
              (callSystem Ring.call).observations (answers Ring.call) ring
                call.body) ∧
        call.Counts items.length next.length := by
  obtain ⟨next, ran, guarded, called, counts⟩ :=
    serialCall_of_ready
      (fun adds => (BlockingCall.ready_of_adds represents adds).mp ready)
      (fun removes =>
        (BlockingCall.ready_of_removes represents removes).mp ready)
  rcases represents.calls wide guarded with ⟨related, same⟩
  rw [ran] at related
  generalize (callSystem Ring.call).run ring call.body = reached at related ⊢
  cases related with
  | some represents => exact ⟨_, next, rfl, represents, same ▸ called, counts⟩

end Ring

/-! ## The steps of the threads -/

/-- A thread is in a function of its kind. -/
def ThreadPoint.Keeps {T : Type u} (adds : Bool) : ThreadPoint T → Prop
  | .outside => True
  | .locking call | .waiting call => call.adds = adds
  | .timedOut => adds = false

namespace BlockingRing

variable {T : Type u} {N : ℕ} {Thread : Type v} [DecidableEq Thread]
  {adder : Thread → Bool} {point point' : Thread → ThreadPoint T}

/-- Each thread is in a function of its kind. -/
def Keeps (adder : Thread → Bool) (point : Thread → ThreadPoint T) : Prop :=
  ∀ thread, (point thread).Keeps (adder thread)

theorem Keeps.update (keeps : Keeps adder point) {thread : Thread}
    {new : ThreadPoint T} (fits : new.Keeps (adder thread)) :
    Keeps adder (Function.update point thread new) :=
  (Function.forall_update_iff point _).mpr ⟨fits, fun other _ => keeps other⟩

variable [Fintype Thread]

/-- What holds of all threads holds after one of them is notified. -/
theorem forall_notifyOne {notified : Option Thread}
    {holds : Thread → ThreadPoint T → Prop}
    (everywhere : ∀ thread, holds thread (point thread))
    (wakes :
      ∀ thread call, holds thread (.waiting call) →
        holds thread (.locking call))
    (notifies : notifyOne point notified = some point') :
    ∀ thread, holds thread (point' thread) := by
  cases notified with
  | none =>
      simp only [notifyOne] at notifies
      split at notifies
      · cases notifies
        exact everywhere
      · cases notifies
  | some thread =>
      simp only [notifyOne] at notifies
      split at notifies
      · next call waiting =>
        cases notifies
        have waits := everywhere thread
        rw [waiting] at waits
        exact
          (Function.forall_update_iff point _).mpr
            ⟨wakes thread call waits, fun other _ => everywhere other⟩
      · cases notifies

theorem exists_notifyOne (point : Thread → ThreadPoint T) :
    ∃ notified point', notifyOne point notified = some point' := by
  by_cases asleep : ∀ thread, (point thread).waits = false
  · exact ⟨none, point, if_pos asleep⟩
  · push Not at asleep
    obtain ⟨thread, waits⟩ := asleep
    cases waiting : point thread with
    | waiting call =>
        refine
          ⟨some thread, Function.update point thread (.locking call), ?_⟩
        simp only [notifyOne, waiting]
    | outside | locking | timedOut =>
        rw [waiting] at waits
        exact (waits rfl).elim

variable [Inhabited T] {blocking next last : BlockingRing T N Thread}
  {items : List T} {label : BlockingLabel T Thread}

/-- The steps, with what is returned. -/
inductive Moves (adder : Thread → Bool) (blocking : BlockingRing T N Thread) :
    BlockingLabel T Thread → BlockingRing T N Thread →
      List (BlockingCall T × List T) → Prop where
  | calls {thread : Thread} {call : BlockingCall T}
      (outside : blocking.point thread = .outside)
      (role : call.adds = adder thread) :
      Moves adder blocking (.calls thread call)
        (blocking.moveTo thread (.locking call)) []
  | waits {thread : Thread} {notified : Option Thread} {call : BlockingCall T}
      (locking : blocking.point thread = .locking call)
      (unready : ¬call.ready blocking.ring = true) :
      Moves adder blocking (.locks thread notified)
        (blocking.moveTo thread (.waiting call)) []
  | finishes {thread : Thread} {notified : Option Thread}
      {call : BlockingCall T} {ring : Ring T N}
      {point : Thread → ThreadPoint T}
      (locking :
        blocking.point thread = .locking call ∨
          call = .tryPopFront ∧ blocking.point thread = .timedOut)
      (ready : call.ready blocking.ring = true)
      (ran : (callSystem Ring.call).run blocking.ring call.body = some ring)
      (notifies : notifyOne blocking.point notified = some point) :
      Moves adder blocking (.locks thread notified)
        ⟨ring, Function.update point thread .outside⟩
        [(call,
          (callSystem Ring.call).observations (answers Ring.call)
            blocking.ring call.body)]
  | givesUp {thread : Thread} {notified : Option Thread}
      {point : Thread → ThreadPoint T}
      (timedOut : blocking.point thread = .timedOut)
      (empty : blocking.ring.empty = true)
      (notifies : notifyOne blocking.point notified = some point) :
      Moves adder blocking (.locks thread notified)
        ⟨blocking.ring, Function.update point thread .outside⟩
        [(.tryPopFront, [])]
  | wakes {thread : Thread} {call : BlockingCall T}
      (waiting : blocking.point thread = .waiting call) :
      Moves adder blocking (.wakes thread)
        (blocking.moveTo thread (.locking call)) []
  | timesOut {thread : Thread}
      (waiting : blocking.point thread = .waiting .tryPopFront) :
      Moves adder blocking (.timesOut thread)
        (blocking.moveTo thread .timedOut) []

theorem finish_eq_some_iff {thread : Thread} {body : List (RingCall T)}
    {notified : Option Thread} :
    blocking.finish thread body notified = some next ↔
      ∃ ring point,
        (callSystem Ring.call).run blocking.ring body = some ring ∧
          notifyOne blocking.point notified = some point ∧
          next = ⟨ring, Function.update point thread .outside⟩ := by
  simp only [finish, Option.bind_eq_some_iff, Option.map_eq_some_iff]
  constructor
  · rintro ⟨ring, ran, point, notifies, rfl⟩
    exact ⟨ring, point, ran, notifies, rfl⟩
  · rintro ⟨ring, point, ran, notifies, rfl⟩
    exact ⟨ring, ran, point, notifies, rfl⟩

theorem moves (stepped : (system adder).step blocking label = some next) :
    Moves adder blocking label next (blocking.returned label) := by
  change step adder blocking label = some next at stepped
  cases label with
  | calls thread call =>
      simp only [step] at stepped
      split at stepped
      · next outside =>
        split at stepped
        · next role =>
          cases stepped
          exact .calls outside role
        · cases stepped
      · cases stepped
  | locks thread notified =>
      simp only [step, returned] at stepped ⊢
      split at stepped
      · next call locking =>
        split at stepped
        · next ready =>
          rcases finish_eq_some_iff.mp stepped with
            ⟨ring, point, ran, notifies, rfl⟩
          simp only [if_pos ready]
          exact .finishes (.inl locking) ready ran notifies
        · next unready =>
          cases stepped
          simp only [if_neg unready]
          exact .waits locking unready
      · next timedOut =>
        split at stepped
        · next empty =>
          rcases finish_eq_some_iff.mp stepped with
            ⟨ring, point, ran, notifies, rfl⟩
          cases ran
          simp only [if_pos empty]
          exact .givesUp timedOut empty notifies
        · next nonempty =>
          rcases finish_eq_some_iff.mp stepped with
            ⟨ring, point, ran, notifies, rfl⟩
          simp only [if_neg nonempty]
          exact
            .finishes (.inr ⟨rfl, timedOut⟩)
              (by simpa [BlockingCall.ready, BlockingCall.adds] using nonempty)
              ran notifies
      · cases stepped
  | wakes thread =>
      simp only [step] at stepped
      split at stepped
      · next call waiting =>
        cases stepped
        exact .wakes waiting
      · cases stepped
  | timesOut thread =>
      simp only [step] at stepped
      split at stepped
      · next waiting =>
        cases stepped
        exact .timesOut waiting
      · cases stepped

/-! ## A ring that threads share is a queue -/

theorem Moves.keeps {returns : List (BlockingCall T × List T)}
    (moves : Moves adder blocking label next returns)
    (keeps : Keeps adder blocking.point) : Keeps adder next.point := by
  cases moves with
  | calls outside role => exact keeps.update role
  | @waits thread _ call locking unready =>
      have role := keeps thread
      rw [locking] at role
      exact keeps.update role
  | finishes _ _ _ notifies | givesUp _ _ notifies =>
      have notified : Keeps adder _ :=
        forall_notifyOne keeps (fun _ _ role => role) notifies
      exact notified.update trivial
  | @wakes thread call waiting =>
      have role := keeps thread
      rw [waiting] at role
      exact keeps.update role
  | @timesOut thread waiting =>
      have role := keeps thread
      rw [waiting] at role
      exact keeps.update role.symm

/-- A step returns what the function does alone, if it returns. -/
theorem Moves.called {returns : List (BlockingCall T × List T)}
    (moves : Moves adder blocking label next returns) (wide : N ≤ 2 ^ 63)
    (represents : blocking.ring.Represents items) :
    ∃ items',
      next.ring.Represents items' ∧
        (returns = [] ∧ items' = items ∨
          ∃ call answer,
            returns = [(call, answer)] ∧
              serialCall N items call = some (items', answer)) := by
  cases moves with
  | calls | waits | wakes | timesOut =>
      exact ⟨items, represents, .inl ⟨rfl, rfl⟩⟩
  | finishes _ ready ran _ =>
      obtain ⟨ring, items', ran', represents', called, _⟩ :=
        represents.blocking wide ready
      cases ran.symm.trans ran'
      exact ⟨items', represents', .inr ⟨_, _, rfl, called⟩⟩
  | givesUp _ empty _ =>
      obtain rfl := represents.empty_eq.mp empty
      exact ⟨[], represents, .inr ⟨_, _, rfl, rfl⟩⟩

theorem Moves.serial {returns : List (BlockingCall T × List T)}
    (moves : Moves adder blocking label next returns) (wide : N ≤ 2 ^ 63)
    {past : List (BlockingCall T × List T)} (serial : Serial N past items)
    (represents : blocking.ring.Represents items) :
    ∃ items',
      Serial N (past ++ returns) items' ∧ next.ring.Represents items' := by
  obtain ⟨items', represents', ⟨rfl, rfl⟩ | ⟨call, answer, rfl, called⟩⟩ :=
    moves.called wide represents
  · rw [List.append_nil]
    exact ⟨_, serial, represents'⟩
  · exact ⟨_, serial.snoc called, represents'⟩

/-- No assertion ends the program. -/
theorem exists_locks (represents : blocking.ring.Represents items)
    (wide : N ≤ 2 ^ 63) {thread : Thread}
    (awake :
      blocking.point thread ≠ .outside ∧
        (blocking.point thread).waits = false) :
    ∃ notified next,
      (system adder).step blocking (.locks thread notified) =
        some next := by
  obtain ⟨notified, point, notifies⟩ := exists_notifyOne blocking.point
  refine ⟨notified, ?_⟩
  have finishes {ring : Ring T N} {body : List (RingCall T)}
      (ran : (callSystem Ring.call).run blocking.ring body = some ring) :
      ∃ next, blocking.finish thread body notified = some next :=
    ⟨_, finish_eq_some_iff.mpr ⟨ring, point, ran, notifies, rfl⟩⟩
  cases place : blocking.point thread with
  | outside => exact (awake.1 place).elim
  | waiting call => simp [place] at awake
  | locking call =>
      simp only [system, step, place]
      split
      · next ready =>
        obtain ⟨ring, _, ran, _⟩ := represents.blocking wide ready
        exact finishes ran
      · exact ⟨_, rfl⟩
  | timedOut =>
      simp only [system, step, place]
      split
      · exact finishes rfl
      · next nonempty =>
        have ready : BlockingCall.tryPopFront.ready blocking.ring = true := by
          simpa [BlockingCall.ready, BlockingCall.adds] using nonempty
        obtain ⟨ring, _, ran, _⟩ := represents.blocking wide ready
        exact finishes ran

/-- What has been returned in a schedule. -/
def history (adder : Thread → Bool) (blocking : BlockingRing T N Thread)
    (labels : List (BlockingLabel T Thread)) :
    List (BlockingCall T × List T) :=
  (system adder).observations returned blocking labels

theorem serial_of_run (positive : 0 < N) (wide : N ≤ 2 ^ 63) {ring : ℕ → T}
    {labels : List (BlockingLabel T Thread)}
    (ran : (system adder).run (start N Thread ring) labels = some last) :
    ∃ items,
      Serial N (history adder (start N Thread ring) labels) items ∧
        last.ring.Represents items := by
  refine
    @StepSystem.related_to_run _ _ (system adder)
      (fun past reached =>
        ∃ items,
          Serial N (history adder (start N Thread ring) past) items ∧
            reached.ring.Represents items)
      _ _ _ ⟨[], .nil, .empty positive, rfl⟩ ?_ ran
  rintro past reached label next ranPast ⟨items, serial, represents⟩ stepped
  rw [history, StepSystem.observations_snoc _ _ ranPast]
  exact (moves stepped).serial wide serial represents

/--
However the threads of a `BlockingRing` interleave, the functions return what
they would if they were called one after the other on a queue of at most `N`
items, and no assertion fails.
-/
theorem blocking_ring_serial {T : Type u} [Inhabited T] {Thread : Type v}
    [Fintype Thread] [DecidableEq Thread] (N : ℕ) (positive : 0 < N)
    (wide : N ≤ 2 ^ 63) (cells : ℕ → T) (adder : Thread → Bool)
    (labels : List (BlockingLabel T Thread))
    (reached : BlockingRing T N Thread)
    (ran : (system adder).run (start N Thread cells) labels = some reached) :
    (∃ items,
        Serial N (history adder (start N Thread cells) labels) items ∧
          reached.ring.Represents items) ∧
      ∀ thread,
        reached.point thread ≠ .outside →
          (reached.point thread).waits = false →
            ∃ notified next,
              (system adder).step reached (.locks thread notified) =
                some next := by
  obtain ⟨items, serial, represents⟩ := serial_of_run positive wide ran
  exact
    ⟨⟨items, serial, represents⟩,
      fun thread inside awake =>
        exists_locks represents wide ⟨inside, awake⟩⟩

/-- A thread waits for an item and is notified of it. -/
theorem blocking_ring_serial_handed_over :
    ∃ reached,
      (system id).run (start 1 Bool fun _ => 0)
            [.calls false .popFront, .locks false none,
              .calls true (.pushBack 5), .locks true (some false),
              .locks false none] =
          some reached ∧
        (∃ items,
            Serial 1
                (history id (start 1 Bool fun _ => 0)
                  [.calls false .popFront, .locks false none,
                    .calls true (.pushBack 5), .locks true (some false),
                    .locks false none])
                items ∧
              reached.ring.Represents items) ∧
          ∀ thread,
            reached.point thread ≠ .outside →
              (reached.point thread).waits = false →
                ∃ notified next,
                  (system id).step reached (.locks thread notified) =
                    some next :=
  ⟨_, rfl,
    blocking_ring_serial 1 (by decide) (by decide) (fun _ => 0) id _ _ rfl⟩

end BlockingRing

end Go2Navigation.Lidar
