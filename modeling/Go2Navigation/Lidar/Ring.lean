import Go2Navigation.Foundation.Circular
import Go2Navigation.Foundation.Steps
import Mathlib.Algebra.Group.Nat.Defs

/-!
# The ring of packets

`Ring_SDK` keeps a sequence in a `std::array`.  A failed assertion ends the
program; the two `eff_pop` functions assert nothing.
-/

namespace Go2Navigation.Lidar

open Go2Navigation.Foundation

universe u

/-- `Ring_SDK`; the cells below `N` are those of the array. -/
structure Ring (T : Type u) (N : ℕ) where
  ring : ℕ → T
  begin : ℕ
  size : ℕ

/-- What is left of a number in a `size_t`. -/
def sizeT (number : ℕ) : ℕ := number % 2 ^ 64

/-- The member functions, with their arguments. -/
inductive RingCall (T : Type u) where
  | clear
  | effClear
  | pushBack (item : T)
  | peekBack
  | popBack
  | effPopBack
  | pushFront (item : T)
  | peekFront
  | popFront
  | effPopFront
  | at (index : ℕ)
deriving DecidableEq

namespace Ring

variable {T : Type u} {N : ℕ}

/-- The constructor; the array has its own contents. -/
def construct (N : ℕ) (ring : ℕ → T) : Ring T N := ⟨ring, 0, 0⟩

def empty (r : Ring T N) : Bool := r.size = 0

def full (r : Ring T N) : Bool := N ≤ r.size

def effClear (r : Ring T N) : Ring T N := ⟨r.ring, 0, 0⟩

def effPopBack (r : Ring T N) : Ring T N :=
  { r with size := sizeT (r.size + 18446744073709551615) }

def effPopFront (r : Ring T N) : Ring T N :=
  { r with
    size := sizeT (r.size + 18446744073709551615)
    begin := sizeT (r.begin + 1) % N }

def backCell (r : Ring T N) : ℕ :=
  sizeT (r.begin + r.size + 18446744073709551615) % N

def pushBack (item : T) (r : Ring T N) : Ring T N :=
  { r with
    ring := Function.update r.ring (sizeT (r.begin + r.size) % N) item
    size := sizeT (r.size + 1) }

def pushFront (item : T) (r : Ring T N) : Ring T N :=
  let begin := sizeT (r.begin + N + 18446744073709551615) % N
  ⟨Function.update r.ring begin item, begin, sizeT (r.size + 1)⟩

variable [Inhabited T]

/-- The item is exchanged with a new one. -/
def popBack (r : Ring T N) : Ring T N :=
  let popped := r.effPopBack
  { popped with
    ring :=
      Function.update r.ring (sizeT (r.begin + popped.size) % N) default }

def popFront (r : Ring T N) : Ring T N :=
  { r.effPopFront with ring := Function.update r.ring r.begin default }

/-- A call, with the items it returns; `none` where its assertion fails. -/
def call (r : Ring T N) : RingCall T → Option (Ring T N × List T)
  | .clear => some (⟨fun _ => default, 0, 0⟩, [])
  | .effClear => some (r.effClear, [])
  | .pushBack item => if r.full then none else some (r.pushBack item, [])
  | .peekBack =>
      if r.empty then none else some (r, [r.ring r.backCell])
  | .popBack =>
      if r.empty then none
      else
        some (r.popBack,
          [r.ring (sizeT (r.begin + r.effPopBack.size) % N)])
  | .effPopBack => some (r.effPopBack, [])
  | .pushFront item => if r.full then none else some (r.pushFront item, [])
  | .peekFront => if r.empty then none else some (r, [r.ring r.begin])
  | .popFront =>
      if r.empty then none else some (r.popFront, [r.ring r.begin])
  | .effPopFront => some (r.effPopFront, [])
  | .at index =>
      if index < r.size then
        some (r, [r.ring (sizeT (r.begin + index) % N)])
      else none

end Ring

/-! ## What the ring is for -/

/-- The calls on a sequence of at most so many items. -/
def dequeCall {T : Type u} (capacity : ℕ) (items : List T) :
    RingCall T → Option (List T × List T)
  | .clear | .effClear => some ([], [])
  | .pushBack item =>
      if capacity ≤ items.length then none else some (items ++ [item], [])
  | .pushFront item =>
      if capacity ≤ items.length then none else some (item :: items, [])
  | .peekBack => items.getLast?.map fun item => (items, [item])
  | .popBack => items.getLast?.map fun item => (items.dropLast, [item])
  | .effPopBack => some (items.dropLast, [])
  | .peekFront => items.head?.map fun item => (items, [item])
  | .popFront => items.head?.map fun item => (items.tail, [item])
  | .effPopFront => some (items.tail, [])
  | .at index => items[index]?.map fun item => (items, [item])

/-- A component which answers calls. -/
def callSystem {State Call Item : Type u}
    (call : State → Call → Option (State × List Item)) :
    StepSystem State Call :=
  ⟨fun state label => (call state label).map Prod.fst⟩

def answers {State Call Item : Type u}
    (call : State → Call → Option (State × List Item))
    (state : State) (label : Call) : List Item :=
  (call state label).elim [] Prod.snd

/-- Nothing is popped unasked from an empty sequence. -/
def RingCall.Guarded {T : Type u} (items : List T) : RingCall T → Prop
  | .effPopBack | .effPopFront => items ≠ []
  | _ => True

namespace Ring

variable {T : Type u} {N : ℕ}

/-- The ring holds these items, the first of them at `begin`. -/
structure Represents (r : Ring T N) (items : List T) : Prop where
  circular : Circular r.ring N r.begin items
  size : r.size = items.length

theorem sizeT_of_lt {number : ℕ} (small : number < 2 ^ 64) :
    sizeT number = number :=
  Nat.mod_eq_of_lt small

theorem sizeT_pred {number : ℕ} (small : number < 2 ^ 64)
    (some : 0 < number) :
    sizeT (number + 18446744073709551615) = number - 1 := by
  rw [sizeT]
  omega

namespace Represents

variable {r : Ring T N} {items : List T} {item : T}

theorem begin_lt (represents : r.Represents items) :
    r.begin < N ∧ r.size ≤ N := by
  rw [represents.size]
  exact ⟨represents.circular.inside, represents.circular.fits⟩

theorem full_eq (represents : r.Represents items) :
    r.full = true ↔ N ≤ items.length := by
  rw [full, represents.size, decide_eq_true_iff]

theorem empty_eq (represents : r.Represents items) :
    r.empty = true ↔ items = [] := by
  rw [empty, represents.size, decide_eq_true_iff, List.length_eq_zero_iff]

theorem pushBack (represents : r.Represents items) (wide : N ≤ 2 ^ 63)
    (room : items.length < N) (item : T) :
    (r.pushBack item).Represents (items ++ [item]) := by
  have small := represents.begin_lt
  have size := represents.size
  constructor
  · rw [Ring.pushBack, sizeT_of_lt (by omega), size]
    exact represents.circular.snoc room item
  · rw [List.length_append, List.length_singleton, ← size]
    exact sizeT_of_lt (by omega)

theorem pushFront (represents : r.Represents items) (wide : N ≤ 2 ^ 63)
    (room : items.length < N) (item : T) :
    (r.pushFront item).Represents (item :: items) := by
  have small := represents.begin_lt
  have size := represents.size
  constructor
  · rw [Ring.pushFront, sizeT_pred (by omega) (by omega)]
    exact represents.circular.cons room item
  · rw [List.length_cons, ← size]
    exact sizeT_of_lt (by omega)

theorem effPopFront (represents : r.Represents (item :: items))
    (wide : N ≤ 2 ^ 63) : r.effPopFront.Represents items := by
  have small := represents.begin_lt
  have size := represents.size
  rw [List.length_cons] at size
  constructor
  · rw [Ring.effPopFront, sizeT_of_lt (by omega : r.begin + 1 < 2 ^ 64)]
    exact represents.circular.tail
  · rw [Ring.effPopFront, sizeT_pred (by omega) (by omega), size,
      Nat.add_sub_cancel]

theorem effPopBack (represents : r.Represents (items ++ [item]))
    (wide : N ≤ 2 ^ 63) : r.effPopBack.Represents items := by
  have small := represents.begin_lt
  have size := represents.size
  rw [List.length_append, List.length_singleton] at size
  constructor
  · rw [Ring.effPopBack]
    exact represents.circular.init
  · rw [Ring.effPopBack, sizeT_pred (by omega) (by omega), size,
      Nat.add_sub_cancel]

theorem peekBack (represents : r.Represents (items ++ [item]))
    (wide : N ≤ 2 ^ 63) : r.ring r.backCell = item := by
  have small := represents.begin_lt
  have size := represents.size
  rw [List.length_append, List.length_singleton] at size
  rw [backCell, sizeT_pred (by omega) (by omega), size, ← Nat.add_assoc,
    Nat.add_sub_cancel]
  exact represents.circular.last

variable [Inhabited T]

theorem popFront (represents : r.Represents (item :: items))
    (wide : N ≤ 2 ^ 63) : r.popFront.Represents items := by
  have kept := represents.effPopFront wide
  have small := represents.begin_lt
  have circular := represents.circular.update_head default
  rw [← sizeT_of_lt (by omega : r.begin + 1 < 2 ^ 64)] at circular
  exact ⟨circular, kept.size⟩

theorem popBack (represents : r.Represents (items ++ [item]))
    (wide : N ≤ 2 ^ 63) :
    r.popBack.Represents items ∧
      r.ring (sizeT (r.begin + r.effPopBack.size) % N) = item := by
  have kept := represents.effPopBack wide
  have small := represents.begin_lt
  have fits := kept.circular.fits
  have inside := represents.circular.inside
  have cell :
      sizeT (r.begin + r.effPopBack.size) = r.begin + items.length := by
    rw [kept.size, sizeT_of_lt (by omega)]
  constructor
  · constructor
    · rw [Ring.popBack, cell, Ring.effPopBack]
      exact represents.circular.update_last default
    · exact kept.size
  · rw [cell]
    exact represents.circular.last

/-- Every call does to the ring what it does to the sequence. -/
theorem call (represents : r.Represents items) (wide : N ≤ 2 ^ 63)
    (call : RingCall T) (guarded : call.Guarded items) :
    Option.Rel
      (fun left right => left.1.Represents right.1 ∧ left.2 = right.2)
      (r.call call) (dequeCall N items call) := by
  have positive := Nat.zero_lt_of_lt represents.circular.inside
  cases call with
  | clear => exact .some ⟨⟨.empty positive, rfl⟩, rfl⟩
  | effClear => exact .some ⟨⟨.empty positive, rfl⟩, rfl⟩
  | pushBack item =>
      rw [Ring.call, dequeCall]
      by_cases room : N ≤ items.length
      · rw [if_pos (represents.full_eq.mpr room), if_pos room]
        exact .none
      · rw [if_neg (mt represents.full_eq.mp room), if_neg room]
        exact .some ⟨represents.pushBack wide (by omega) item, rfl⟩
  | pushFront item =>
      rw [Ring.call, dequeCall]
      by_cases room : N ≤ items.length
      · rw [if_pos (represents.full_eq.mpr room), if_pos room]
        exact .none
      · rw [if_neg (mt represents.full_eq.mp room), if_neg room]
        exact .some ⟨represents.pushFront wide (by omega) item, rfl⟩
  | peekBack =>
      rw [Ring.call, dequeCall]
      rcases List.eq_nil_or_concat' items with rfl | ⟨front, item, rfl⟩
      · rw [if_pos (represents.empty_eq.mpr rfl)]
        exact .none
      · rw [if_neg (mt represents.empty_eq.mp (by simp)),
          represents.peekBack wide, List.getLast?_append]
        exact .some ⟨represents, rfl⟩
  | popBack =>
      rw [Ring.call, dequeCall]
      rcases List.eq_nil_or_concat' items with rfl | ⟨front, item, rfl⟩
      · rw [if_pos (represents.empty_eq.mpr rfl)]
        exact .none
      · rcases represents.popBack wide with ⟨popped, read⟩
        rw [if_neg (mt represents.empty_eq.mp (by simp)), read,
          List.getLast?_append, List.dropLast_concat]
        exact .some ⟨popped, rfl⟩
  | effPopBack =>
      rcases List.eq_nil_or_concat' items with rfl | ⟨front, item, rfl⟩
      · exact (guarded rfl).elim
      · rw [Ring.call, dequeCall, List.dropLast_concat]
        exact .some ⟨represents.effPopBack wide, rfl⟩
  | peekFront =>
      rw [Ring.call, dequeCall]
      rcases items with _ | ⟨item, rest⟩
      · rw [if_pos (represents.empty_eq.mpr rfl)]
        exact .none
      · rw [if_neg (mt represents.empty_eq.mp (by simp)),
          represents.circular.head]
        exact .some ⟨represents, rfl⟩
  | popFront =>
      rw [Ring.call, dequeCall]
      rcases items with _ | ⟨item, rest⟩
      · rw [if_pos (represents.empty_eq.mpr rfl)]
        exact .none
      · rw [if_neg (mt represents.empty_eq.mp (by simp)),
          represents.circular.head]
        exact .some ⟨represents.popFront wide, rfl⟩
  | effPopFront =>
      rcases items with _ | ⟨item, rest⟩
      · exact (guarded rfl).elim
      · exact .some ⟨represents.effPopFront wide, rfl⟩
  | «at» index =>
      have small := represents.begin_lt
      rw [Ring.call, dequeCall, represents.size]
      by_cases within : index < items.length
      · have fits := represents.circular.fits
        rw [if_pos within, sizeT_of_lt (by omega),
          List.getElem?_eq_getElem within,
          represents.circular.holds index items[index]
            (List.getElem?_eq_getElem within)]
        exact .some ⟨represents, rfl⟩
      · rw [if_neg within, List.getElem?_eq_none (by omega)]
        exact .none

end Represents

end Ring

/-- Calls which agree one by one agree in any sequence. -/
theorem callSystem_rel {State OtherState Call Item : Type u}
    {call : State → Call → Option (State × List Item)}
    {otherCall : OtherState → Call → Option (OtherState × List Item)}
    {related : State → OtherState → Prop} {state : State}
    {otherState : OtherState} {label : Call}
    (same :
      Option.Rel
        (fun left right => related left.1 right.1 ∧ left.2 = right.2)
        (call state label) (otherCall otherState label)) :
    Option.Rel related ((callSystem call).step state label)
        ((callSystem otherCall).step otherState label) ∧
      answers call state label = answers otherCall otherState label := by
  simp only [callSystem, answers]
  generalize call state label = left at same ⊢
  generalize otherCall otherState label = right at same ⊢
  cases same with
  | some both => exact ⟨.some both.1, both.2⟩
  | none => exact ⟨.none, rfl⟩

theorem Ring.Represents.calls {T : Type u} [Inhabited T] {N : ℕ}
    {r : Ring T N} {items : List T} (represents : r.Represents items)
    (wide : N ≤ 2 ^ 63) {calls : List (RingCall T)}
    (guarded :
      (callSystem (dequeCall N)).Respects RingCall.Guarded items calls) :
    Option.Rel Ring.Represents ((callSystem Ring.call).run r calls)
        ((callSystem (dequeCall N)).run items calls) ∧
      (callSystem Ring.call).observations (answers Ring.call) r calls =
        (callSystem (dequeCall N)).observations (answers (dequeCall N)) items
          calls := by
  have simulated :
      ∀ (r : Ring T N) items label,
        r.Represents items → RingCall.Guarded items label →
          Option.Rel Ring.Represents ((callSystem Ring.call).step r label)
              ((callSystem (dequeCall N)).step items label) ∧
            answers Ring.call r label = answers (dequeCall N) items label :=
    fun r items label represents guarded =>
      callSystem_rel (represents.call wide label guarded)
  exact StepSystem.simulated_run simulated represents guarded

/--
The ring is a double-ended queue of at most `N` items: in every sequence of
calls, of which those that assert nothing do not pop from an empty queue, it
fails where the queue does and returns the same items.
-/
theorem ring_deque {T : Type u} [Inhabited T] (N : ℕ) (positive : 0 < N)
    (wide : N ≤ 2 ^ 63) (cells : ℕ → T) (calls : List (RingCall T))
    (guarded :
      (callSystem (dequeCall N)).Respects RingCall.Guarded [] calls) :
    Option.Rel Ring.Represents
        ((callSystem Ring.call).run (Ring.construct N cells) calls)
        ((callSystem (dequeCall N)).run [] calls) ∧
      (callSystem Ring.call).observations (answers Ring.call)
          (Ring.construct N cells) calls =
        (callSystem (dequeCall N)).observations (answers (dequeCall N)) []
          calls := by
  have represents : (Ring.construct N cells).Represents [] :=
    ⟨.empty positive, rfl⟩
  exact represents.calls wide guarded

/-- Across the end of an array of three cells. -/
theorem ring_deque_around :
    Option.Rel Ring.Represents
        ((callSystem Ring.call).run (Ring.construct 3 fun _ => 0)
          [.pushBack 1, .pushBack 2, .popFront, .pushFront 3, .pushFront 4,
            .peekBack, .effPopFront, .at 1, .pushBack 5, .pushBack 6])
        ((callSystem (dequeCall 3)).run ([] : List ℕ)
          [.pushBack 1, .pushBack 2, .popFront, .pushFront 3, .pushFront 4,
            .peekBack, .effPopFront, .at 1, .pushBack 5, .pushBack 6]) ∧
      (callSystem Ring.call).observations (answers Ring.call)
          (Ring.construct 3 fun _ => 0)
          [.pushBack 1, .pushBack 2, .popFront, .pushFront 3, .pushFront 4,
            .peekBack, .effPopFront, .at 1, .pushBack 5, .pushBack 6] =
        (callSystem (dequeCall 3)).observations (answers (dequeCall 3)) []
          [.pushBack 1, .pushBack 2, .popFront, .pushFront 3, .pushFront 4,
            .peekBack, .effPopFront, .at 1, .pushBack 5, .pushBack 6] :=
  ring_deque 3 (by decide) (by decide) (fun _ => 0) _
    (by simp [StepSystem.Respects, callSystem, dequeCall, RingCall.Guarded])

/-! ## Packets taken off the front -/

/-- `PopFrontOriginPacketBuffer`. -/
def popFrontOriginPacketBuffer {T : Type u} {N : ℕ} :
    ℕ → Ring T N → Ring T N
  | 0, r => r
  | num + 1, r => popFrontOriginPacketBuffer num r.effPopFront

section PopFront

variable {T : Type u} {N : ℕ} {r : Ring T N} {items : List T}

theorem Ring.Represents.popFrontPackets
    (represents : r.Represents items) (wide : N ≤ 2 ^ 63) {num : ℕ}
    (enough : num ≤ items.length) :
    (popFrontOriginPacketBuffer num r).Represents (items.drop num) := by
  induction num generalizing r items with
  | zero => exact represents
  | succ num induction =>
      rcases items with _ | ⟨item, rest⟩
      · exact (Nat.not_succ_le_zero num enough).elim
      · exact
          induction (represents.effPopFront wide)
            (Nat.le_of_succ_le_succ enough)

theorem popFrontOriginPacketBuffer_add (first second : ℕ) (r : Ring T N) :
    popFrontOriginPacketBuffer (first + second) r =
      popFrontOriginPacketBuffer second
        (popFrontOriginPacketBuffer first r) := by
  induction first generalizing r with
  | zero => rw [Nat.zero_add]; rfl
  | succ first induction =>
      rw [Nat.succ_add]
      exact induction _

/-- The size wraps below zero. -/
theorem size_popFront_empty {missing : ℕ} (small : missing < 2 ^ 64)
    (some : 0 < missing) (empty : r.size = 0) :
    (popFrontOriginPacketBuffer missing r).size = 2 ^ 64 - missing := by
  induction missing with
  | zero => omega
  | succ missing induction =>
      rw [popFrontOriginPacketBuffer_add missing 1]
      rcases Nat.eq_zero_or_pos missing with rfl | more
      · simp only [popFrontOriginPacketBuffer, Ring.effPopFront, empty,
          sizeT]
        omega
      · have before := induction (by omega) more
        simp only [popFrontOriginPacketBuffer, Ring.effPopFront,
          sizeT] at before ⊢
        omega

end PopFront

/--
`PopFrontOriginPacketBuffer` takes off exactly the packets it is asked for as
long as there are that many; otherwise the ring is full from then on.
-/
theorem pop_front_packets_iff {T : Type u} (N : ℕ) (wide : N ≤ 2 ^ 63)
    (r : Ring T N) (items : List T) (represents : r.Represents items)
    (num : ℕ) (int : num < 2 ^ 31) :
    ((popFrontOriginPacketBuffer num r).Represents (items.drop num) ↔
        num ≤ items.length) ∧
      ((popFrontOriginPacketBuffer num r).full = true ↔
        items.length < num ∨ num = 0 ∧ items.length = N) := by
  have fits := represents.circular.fits
  have inside := represents.circular.inside
  rcases Nat.lt_or_ge items.length num with few | enough
  · have emptied := represents.popFrontPackets wide (Nat.le_refl _)
    have size :
        (popFrontOriginPacketBuffer num r).size =
          2 ^ 64 - (num - items.length) := by
      obtain ⟨missing, rfl⟩ := Nat.exists_eq_add_of_lt few
      rw [Nat.add_assoc, popFrontOriginPacketBuffer_add,
        size_popFront_empty (by omega) (by omega)
          (by rw [emptied.size, List.drop_length, List.length_nil]),
        Nat.add_sub_cancel_left]
    rw [Ring.full, size, decide_eq_true_iff]
    refine ⟨⟨fun wrapped => ?_, fun enough => ?_⟩, by omega⟩
    · have length := wrapped.size
      rw [size, List.length_drop] at length
      omega
    · omega
  · have popped := represents.popFrontPackets wide enough
    rw [popped.full_eq, List.length_drop]
    exact ⟨iff_of_true popped enough, by omega⟩

/-- One packet more than there are. -/
theorem pop_front_packets_iff_missing :
    ((popFrontOriginPacketBuffer 2
          (Ring.pushBack 7 (Ring.construct 3 fun _ => 0))).Represents
        ([7].drop 2) ↔
        2 ≤ [7].length) ∧
      ((popFrontOriginPacketBuffer 2
          (Ring.pushBack 7 (Ring.construct 3 fun _ => 0))).full = true ↔
        [7].length < 2 ∨ 2 = 0 ∧ [7].length = 3) :=
  pop_front_packets_iff 3 (by decide) _ [7]
    (Ring.Represents.pushBack ⟨.empty (by decide), rfl⟩ (by decide)
      (by decide) 7)
    2 (by decide)

end Go2Navigation.Lidar
