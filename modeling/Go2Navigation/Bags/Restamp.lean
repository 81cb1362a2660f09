import Go2Navigation.Foundation.Stamp
import Mathlib.Data.List.Forall2

/-!
# Re-stamping a bag

The loop of `restamp_bag.py` over the messages of a bag, and the clock
domain of the bag it writes.  The replay consumes three stamped streams; the
script rewrites two of them.  The result is on one clock exactly if the third
stream was on the record clock already.
-/

namespace Go2Navigation.Bags

open Go2Navigation.Foundation

inductive MessageType where
  | pointCloud2
  | odometry
  | imu
deriving DecidableEq

/-- The topics which the script rewrites. -/
def restamp (topic : String) : Option MessageType :=
  if topic = "/lidar_points" then some .pointCloud2
  else if topic = "/utlidar/robot_odom" then some .odometry
  else none

/-- The stamped sensor topics which the replay launch file requires. -/
def replayed (topic : String) : Option MessageType :=
  if topic = "/lidar_points" then some .pointCloud2
  else if topic = "/utlidar/robot_odom" then some .odometry
  else if topic = "/utlidar/imu" then some .imu
  else none

/-- A message with a header: its stamp, and all its other fields. -/
structure StampedMessage (Fields : Type) where
  stamp : Stamp
  fields : Fields

/-- Serialisation of the three types; deserialising fails on other data. -/
structure Cdr (Data : Type) (Fields : MessageType → Type) where
  deserialize :
    (type : MessageType) → Data → Option (StampedMessage (Fields type))
  serialize : (type : MessageType) → StampedMessage (Fields type) → Data

/-- Serialising and deserialising is the identity on messages. -/
def Cdr.Lossless
    {Data : Type} {Fields : MessageType → Type} (cdr : Cdr Data Fields) :
    Prop :=
  ∀ type msg, cdr.deserialize type (cdr.serialize type msg) = some msg

/-- What `read_next` returns: topic, data and receive time in nanoseconds. -/
structure BagMessage (Data : Type) where
  topic : String
  data : Data
  time : ℤ

/-- `ns_to_time`; the stamp rejects seconds outside 32 bits. -/
def nsToTime (ns : ℤ) : Option Stamp :=
  let sec := ns / 1000000000
  if -2 ^ 31 ≤ sec ∧ sec < 2 ^ 31 then
    some ⟨sec, (ns % 1000000000).toNat⟩
  else none

/-- What the script has written and counted. -/
structure Progress (Data : Type) where
  written : List (BagMessage Data)
  nRe : ℕ
  nPass : ℕ

variable {Data : Type} {Fields : MessageType → Type}

/-- One iteration of the main loop; `none` where the script raises. -/
def loopBody
    (cdr : Cdr Data Fields) (progress : Progress Data)
    (message : BagMessage Data) : Option (Progress Data) :=
  match restamp message.topic with
  | some type => do
      let msg ← cdr.deserialize type message.data
      let stamp ← nsToTime message.time
      let data := cdr.serialize type { msg with stamp := stamp }
      some
        { written := progress.written ++ [{ message with data := data }]
          nRe := progress.nRe + 1
          nPass := progress.nPass }
  | none =>
      some
        { written := progress.written ++ [message]
          nRe := progress.nRe
          nPass := progress.nPass + 1 }

/-- The main loop over a whole bag. -/
def restampBag
    (cdr : Cdr Data Fields) (messages : List (BagMessage Data)) :
    Option (Progress Data) :=
  messages.foldlM (loopBody cdr) ⟨[], 0, 0⟩

/--
A bag as `rosbag2` returns it: receive times fit a stamp, and the messages of
the replayed topics are of their types.
-/
structure Bag (cdr : Cdr Data Fields) where
  messages : List (BagMessage Data)
  times :
    ∀ message ∈ messages,
      0 ≤ message.time ∧ message.time < 2 ^ 31 * 10 ^ 9
  decodes :
    ∀ message ∈ messages, ∀ type, replayed message.topic = some type →
      ∃ msg, cdr.deserialize type message.data = some msg

/-- The replay consumes every stream which the script rewrites. -/
theorem replayed_of_restamp
    {topic : String} {type : MessageType}
    (rewritten : restamp topic = some type) :
    replayed topic = some type := by
  rw [restamp] at rewritten
  rw [replayed]
  split_ifs at rewritten ⊢ <;> assumption

/-- The one stream which the replay consumes and the script does not rewrite. -/
theorem replayed_of_passed
    {topic : String} {type : MessageType}
    (passed : restamp topic = none)
    (consumed : replayed topic = some type) :
    topic = "/utlidar/imu" ∧ type = .imu := by
  rw [restamp] at passed
  rw [replayed] at consumed
  split_ifs at passed consumed with _ _ imuTopic
  exact ⟨imuTopic, (Option.some.inj consumed).symm⟩

/-! ## What is asked of the written bag -/

/-- A stamp in normal form which denotes a receive time. -/
def OnRecordClock (stamp : Stamp) (time : ℤ) : Prop :=
  stamp.nanosec < 10 ^ 9 ∧ stamp.nanoseconds = time

/-- What a written message must keep of the message it was written for. -/
structure Reclocked
    (cdr : Cdr Data Fields) (message written : BagMessage Data) : Prop where
  topic : written.topic = message.topic
  time : written.time = message.time
  verbatim : restamp message.topic = none → written.data = message.data
  stamped :
    ∀ type, replayed message.topic = some type →
      ∃ before after,
        cdr.deserialize type message.data = some before ∧
          cdr.deserialize type written.data = some after ∧
            after.fields = before.fields ∧
              OnRecordClock after.stamp message.time

/-- The stamp of a message of a replayed topic, in nanoseconds. -/
def stampOf (cdr : Cdr Data Fields) (message : BagMessage Data) :
    Option ℤ := do
  let type ← replayed message.topic
  let msg ← cdr.deserialize type message.data
  some msg.stamp.nanoseconds

/-- The stamps of all replayed streams, in the order of the bag. -/
def stamps (cdr : Cdr Data Fields) (messages : List (BagMessage Data)) :
    List ℤ :=
  messages.filterMap (stampOf cdr)

/-- The written bag is the input bag on one clock. -/
structure OnOneClock
    (cdr : Cdr Data Fields) (messages written : List (BagMessage Data)) :
    Prop where
  reclocked : List.Forall₂ (Reclocked cdr) messages written
  interleaved :
    (messages.Pairwise fun earlier later => earlier.time ≤ later.time) →
      (stamps cdr written).Pairwise (· ≤ ·)

/-- Every message of the IMU stream carries its receive time already. -/
def Bag.ImuOnRecordClock {cdr : Cdr Data Fields} (bag : Bag cdr) : Prop :=
  ∀ message ∈ bag.messages, message.topic = "/utlidar/imu" →
    ∀ msg, cdr.deserialize .imu message.data = some msg →
      OnRecordClock msg.stamp message.time

/-! ## The loop -/

/-- A receive time which fits a stamp is split into seconds and nanoseconds. -/
theorem nsToTime_of_fits {ns : ℤ} (nonneg : 0 ≤ ns)
    (fits : ns < 2 ^ 31 * 10 ^ 9) :
    ∃ stamp, nsToTime ns = some stamp ∧ OnRecordClock stamp ns := by
  have secFits :
      -2 ^ 31 ≤ ns / 1000000000 ∧ ns / 1000000000 < 2 ^ 31 := by
    omega
  refine
    ⟨⟨ns / 1000000000, (ns % 1000000000).toNat⟩, if_pos secFits, ?_, ?_⟩
  · simp only
    omega
  · simp only [Stamp.nanoseconds]
    omega

/-- What one iteration writes for a message. -/
def Rewritten
    (cdr : Cdr Data Fields) (message written : BagMessage Data) : Prop :=
  match restamp message.topic with
  | some type =>
      ∃ msg stamp,
        cdr.deserialize type message.data = some msg ∧
          nsToTime message.time = some stamp ∧
            written =
              { message with
                data := cdr.serialize type { msg with stamp := stamp } }
  | none => written = message

/-- One iteration writes and counts one message. -/
theorem loopBody_of_rewritten
    {cdr : Cdr Data Fields} {message written : BagMessage Data}
    (rewritten : Rewritten cdr message written)
    (progress : Progress Data) :
    ∃ next,
      loopBody cdr progress message = some next ∧
        next.written = progress.written ++ [written] ∧
          next.nRe + next.nPass = progress.nRe + progress.nPass + 1 := by
  rw [Rewritten] at rewritten
  rw [loopBody]
  cases typeEq : restamp message.topic with
  | none =>
      rw [typeEq] at rewritten
      simp only at rewritten
      subst rewritten
      exact ⟨_, rfl, rfl, rfl⟩
  | some type =>
      rw [typeEq] at rewritten
      rcases rewritten with ⟨msg, stamp, msgEq, stampEq, rfl⟩
      simp only [msgEq, stampEq, Option.bind_eq_bind, Option.bind_some]
      exact ⟨_, rfl, rfl, Nat.add_right_comm _ _ _⟩

/-- The loop writes one message for each, in order, and counts them all. -/
theorem foldlM_loopBody
    {cdr : Cdr Data Fields} {messages : List (BagMessage Data)}
    (writable :
      ∀ message ∈ messages, ∃ written, Rewritten cdr message written)
    (progress : Progress Data) :
    ∃ written last,
      List.Forall₂ (Rewritten cdr) messages written ∧
        messages.foldlM (loopBody cdr) progress = some last ∧
          last.written = progress.written ++ written ∧
            last.nRe + last.nPass =
              progress.nRe + progress.nPass + messages.length := by
  induction messages generalizing progress with
  | nil =>
      exact ⟨[], progress, .nil, rfl, (List.append_nil _).symm, rfl⟩
  | cons message rest induction =>
      rcases writable message List.mem_cons_self with ⟨first, rewritten⟩
      rcases loopBody_of_rewritten rewritten progress with
        ⟨next, stepped, nextWritten, nextCount⟩
      have restWritable :
          ∀ later ∈ rest, ∃ written, Rewritten cdr later written :=
        fun later member => writable later (List.mem_cons_of_mem _ member)
      rcases induction restWritable next with
        ⟨written, last, restRewritten, looped, lastWritten, lastCount⟩
      refine
        ⟨first :: written, last, .cons rewritten restRewritten, ?_, ?_, ?_⟩
      · rw [List.foldlM_cons, stepped]
        exact looped
      · rw [lastWritten, nextWritten, List.append_assoc,
          List.singleton_append]
      · rw [lastCount, nextCount, List.length_cons]
        omega

/-- Every message of a bag can be written. -/
theorem Bag.writable
    {cdr : Cdr Data Fields} (bag : Bag cdr) :
    ∀ message ∈ bag.messages, ∃ written,
      Rewritten cdr message written := by
  intro message member
  simp only [Rewritten]
  cases typeEq : restamp message.topic with
  | none => exact ⟨message, rfl⟩
  | some type =>
      rcases bag.decodes message member type (replayed_of_restamp typeEq)
        with ⟨msg, msgEq⟩
      rcases bag.times message member with ⟨nonneg, fits⟩
      rcases nsToTime_of_fits nonneg fits with ⟨stamp, stampEq, _⟩
      exact ⟨_, msg, stamp, msgEq, stampEq, rfl⟩

/-! ## The clock of the written bag -/

/-- A rewritten message carries its receive time. -/
theorem reclocked_of_restamp
    {cdr : Cdr Data Fields} (lossless : cdr.Lossless) (bag : Bag cdr)
    {message written : BagMessage Data}
    (member : message ∈ bag.messages)
    (rewritten : Rewritten cdr message written)
    {type : MessageType} (typeEq : restamp message.topic = some type) :
    Reclocked cdr message written := by
  rw [Rewritten, typeEq] at rewritten
  rcases rewritten with ⟨msg, stamp, msgEq, stampEq, rfl⟩
  rcases bag.times message member with ⟨nonneg, fits⟩
  rcases nsToTime_of_fits nonneg fits with
    ⟨split, splitEq, onRecordClock⟩
  rw [stampEq] at splitEq
  rcases Option.some.inj splitEq with rfl
  refine ⟨rfl, rfl, ?_, ?_⟩
  · intro passed
    rw [typeEq] at passed
    cases passed
  · intro consumed consumedEq
    rw [replayed_of_restamp typeEq] at consumedEq
    cases consumedEq
    exact ⟨msg, _, msgEq, lossless type _, rfl, onRecordClock⟩

/-- A message passed on is as it should be exactly if it was on the record clock. -/
theorem reclocked_of_passed_iff
    {cdr : Cdr Data Fields} (bag : Bag cdr)
    {message : BagMessage Data} (member : message ∈ bag.messages)
    (passed : restamp message.topic = none) :
    Reclocked cdr message message ↔
      (message.topic = "/utlidar/imu" →
        ∀ msg, cdr.deserialize .imu message.data = some msg →
          OnRecordClock msg.stamp message.time) := by
  constructor
  · intro reclocked imuTopic msg msgEq
    have consumed : replayed message.topic = some .imu := by
      rw [imuTopic]
      decide
    rcases reclocked.stamped .imu consumed with
      ⟨before, after, _, afterEq, _, onRecordClock⟩
    rw [msgEq] at afterEq
    rwa [Option.some.inj afterEq]
  · intro onRecordClock
    refine ⟨rfl, rfl, fun _ => rfl, ?_⟩
    intro type consumed
    rcases replayed_of_passed passed consumed with ⟨imuTopic, rfl⟩
    rcases bag.decodes message member .imu consumed with ⟨msg, msgEq⟩
    exact
      ⟨msg, msg, msgEq, msgEq, rfl, onRecordClock imuTopic msg msgEq⟩

/--
A written message keeps what it should exactly if it is not of the IMU
stream, or its stamp was its receive time already.
-/
theorem reclocked_iff
    {cdr : Cdr Data Fields} (lossless : cdr.Lossless) (bag : Bag cdr)
    {message written : BagMessage Data}
    (member : message ∈ bag.messages)
    (rewritten : Rewritten cdr message written) :
    Reclocked cdr message written ↔
      (message.topic = "/utlidar/imu" →
        ∀ msg, cdr.deserialize .imu message.data = some msg →
          OnRecordClock msg.stamp message.time) := by
  cases typeEq : restamp message.topic with
  | none =>
      rw [Rewritten, typeEq] at rewritten
      rw [show written = message from rewritten]
      exact reclocked_of_passed_iff bag member typeEq
  | some type =>
      have reclocked :=
        reclocked_of_restamp lossless bag member rewritten typeEq
      refine iff_of_true reclocked ?_
      intro imuTopic
      rw [imuTopic] at typeEq
      have passed : restamp "/utlidar/imu" = none := by decide
      rw [passed] at typeEq
      cases typeEq

theorem Reclocked.stampOf_eq
    {cdr : Cdr Data Fields} {message written : BagMessage Data}
    (reclocked : Reclocked cdr message written) {stamp : ℤ}
    (stampEq : stampOf cdr written = some stamp) : stamp = message.time := by
  rw [stampOf, reclocked.topic] at stampEq
  rcases Option.bind_eq_some_iff.mp stampEq with
    ⟨type, consumed, decoded⟩
  rcases Option.bind_eq_some_iff.mp decoded with ⟨msg, msgEq, stampIs⟩
  rcases reclocked.stamped type consumed with
    ⟨before, after, _, afterEq, _, onRecordClock⟩
  rw [msgEq] at afterEq
  rw [← Option.some.inj stampIs, Option.some.inj afterEq]
  exact onRecordClock.2

/-- Every stamp of the written streams is a receive time. -/
theorem mem_stamps
    {cdr : Cdr Data Fields} {messages written : List (BagMessage Data)}
    (reclocked : List.Forall₂ (Reclocked cdr) messages written)
    {stamp : ℤ} (member : stamp ∈ stamps cdr written) :
    ∃ message ∈ messages, stamp = message.time := by
  induction reclocked with
  | nil => cases member
  | cons first _ induction =>
      rw [stamps, List.filterMap_cons] at member
      split at member
      · rcases induction member with ⟨message, later, timeEq⟩
        exact ⟨message, List.mem_cons_of_mem _ later, timeEq⟩
      · rename_i stampEq
        rcases List.mem_cons.mp member with rfl | later
        · exact ⟨_, List.mem_cons_self, first.stampOf_eq stampEq⟩
        · rcases induction later with ⟨message, inRest, timeEq⟩
          exact ⟨message, List.mem_cons_of_mem _ inRest, timeEq⟩

/-- Stamps equal to receive times interleave as the receive times do. -/
theorem interleaved_of_reclocked
    {cdr : Cdr Data Fields} {messages written : List (BagMessage Data)}
    (reclocked : List.Forall₂ (Reclocked cdr) messages written)
    (ordered :
      messages.Pairwise fun earlier later => earlier.time ≤ later.time) :
    (stamps cdr written).Pairwise (· ≤ ·) := by
  induction reclocked with
  | nil => exact List.Pairwise.nil
  | cons first rest induction =>
      rcases List.pairwise_cons.mp ordered with ⟨firstLe, restOrdered⟩
      rw [stamps, List.filterMap_cons]
      split
      · exact induction restOrdered
      · rename_i stampEq
        refine List.pairwise_cons.mpr ⟨?_, induction restOrdered⟩
        intro stamp member
        rcases mem_stamps rest member with ⟨message, later, rfl⟩
        rw [first.stampOf_eq stampEq]
        exact firstLe message later

/-- Message by message, a written bag is as it should be. -/
theorem forall_reclocked_iff
    {cdr : Cdr Data Fields} (lossless : cdr.Lossless) (bag : Bag cdr)
    {messages written : List (BagMessage Data)}
    (rewritten : List.Forall₂ (Rewritten cdr) messages written)
    (members : ∀ message ∈ messages, message ∈ bag.messages) :
    List.Forall₂ (Reclocked cdr) messages written ↔
      ∀ message ∈ messages, message.topic = "/utlidar/imu" →
        ∀ msg, cdr.deserialize .imu message.data = some msg →
          OnRecordClock msg.stamp message.time := by
  induction rewritten with
  | nil => simp
  | cons first _ induction =>
      have firstMember := members _ List.mem_cons_self
      have restMembers := fun message inRest =>
        members message (List.mem_cons_of_mem _ inRest)
      rw [List.forall₂_cons, List.forall_mem_cons,
        reclocked_iff lossless bag firstMember first,
        induction restMembers]

/--
The script puts a bag on one clock exactly if every message of the IMU stream
was on the record clock already.
-/
theorem restampBag_onOneClock_iff
    {cdr : Cdr Data Fields} (lossless : cdr.Lossless) (bag : Bag cdr) :
    (∃ last,
        restampBag cdr bag.messages = some last ∧
          OnOneClock cdr bag.messages last.written) ↔
      bag.ImuOnRecordClock := by
  rcases foldlM_loopBody bag.writable ⟨[], 0, 0⟩ with
    ⟨written, last, rewritten, looped, lastWritten, _⟩
  rw [List.nil_append] at lastWritten
  have reclockedIff :
      List.Forall₂ (Reclocked cdr) bag.messages written ↔
        bag.ImuOnRecordClock :=
    forall_reclocked_iff lossless bag rewritten fun _ member => member
  constructor
  · rintro ⟨other, otherEq, oneClock⟩
    rw [restampBag, looped] at otherEq
    rw [← Option.some.inj otherEq, lastWritten] at oneClock
    exact reclockedIff.mp oneClock.reclocked
  · intro onRecordClock
    have reclocked := reclockedIff.mpr onRecordClock
    refine ⟨last, looped, ?_⟩
    rw [lastWritten]
    exact ⟨reclocked, interleaved_of_reclocked reclocked⟩

/-! ## A bag with an IMU stream -/

/-- A serialisation which archives a message under its type. -/
def archive : Cdr (MessageType × StampedMessage String) fun _ => String where
  deserialize type data := if data.1 = type then some data.2 else none
  serialize type msg := (type, msg)

theorem archive_lossless : archive.Lossless := by
  intro type msg
  exact if_pos rfl

/-- One message of a replayed stream, stamped by its sender. -/
def recorded (topic : String) (type : MessageType) (stamp : Stamp)
    (time : ℤ) : BagMessage (MessageType × StampedMessage String) :=
  ⟨topic, (type, ⟨stamp, "payload"⟩), time⟩

/-- A cloud on the Orin clock, and odometry and IMU stamped otherwise. -/
def recordedMessages (imuStamp : Stamp) :
    List (BagMessage (MessageType × StampedMessage String)) :=
  [ recorded "/lidar_points" .pointCloud2 ⟨8568, 0⟩ 8568500000000,
    recorded "/utlidar/robot_odom" .odometry ⟨1780508524, 0⟩
      8568600000000,
    recorded "/utlidar/imu" .imu imuStamp 8568700000000 ]

def recordedBag (imuStamp : Stamp) : Bag archive where
  messages := recordedMessages imuStamp
  times := by
    simp [recordedMessages, recorded]
  decodes := by
    intro message member type consumed
    simp only [recordedMessages, recorded, List.mem_cons,
      List.not_mem_nil, or_false] at member
    rcases member with rfl | rfl | rfl <;>
      cases consumed <;> exact ⟨_, rfl⟩

/-- With an IMU stream on the record clock the written bag is on one clock. -/
theorem restampBag_onOneClock_synced :
    ∃ last,
      restampBag archive (recordedMessages ⟨8568, 700000000⟩) =
          some last ∧
        OnOneClock archive (recordedMessages ⟨8568, 700000000⟩)
          last.written := by
  apply
    (restampBag_onOneClock_iff archive_lossless
      (recordedBag ⟨8568, 700000000⟩)).mpr
  intro message member imuTopic msg msgEq
  simp only [recordedBag, recordedMessages, recorded, List.mem_cons,
    List.not_mem_nil, or_false] at member
  rcases member with rfl | rfl | rfl
  · cases msgEq
  · cases msgEq
  · cases msgEq
    exact ⟨by decide, by decide⟩

/-- An IMU stream on the clock of its sender keeps it. -/
theorem not_restampBag_onOneClock :
    ¬ ∀ bag : Bag archive, ∃ last,
      restampBag archive bag.messages = some last ∧
        OnOneClock archive bag.messages last.written := by
  intro oneClock
  rcases oneClock (recordedBag ⟨1780508524, 0⟩) with
    ⟨last, lastEq, written⟩
  rcases Option.some.inj lastEq with rfl
  rcases written.reclocked with _ | ⟨_, _ | ⟨_, _ | ⟨imu, _⟩⟩⟩
  rcases imu.stamped .imu rfl with
    ⟨before, after, _, afterEq, _, onRecordClock⟩
  rcases Option.some.inj afterEq with rfl
  exact absurd onRecordClock.2 (by decide)

end Go2Navigation.Bags
