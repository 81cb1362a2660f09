import Go2Navigation.Lidar.Frame

/-!
# Handing frames to the callbacks

`MultiSend` gives each frame to `point_cloud_cb_`, or copies the points of
several frames behind one another and gives them at once, as the frame
frequency asks for.  The packets of a frame go to `pkt_cb_` in any case.
-/

namespace Go2Navigation.Lidar

open Go2Navigation.Foundation

/-- What is given to a callback. -/
inductive Callback (Packet Point : Type) where
  /-- `point_cloud_cb_`, with the points and the number of packets. -/
  | pointCloud (points : List Point) (packetNum : ℕ)
  /-- `pkt_cb_`. -/
  | packets (packets : List Packet)
deriving DecidableEq

/-- `multi_send_rate_count_`, and the fields of the frame for several. -/
structure MultiFrame (Point : Type) where
  multiSendRateCount : ℕ
  multiPoints : ℕ → Point
  multiPointsNum : ℕ
  multiPacketNum : ℕ

namespace MultiFrame

variable {Packet Point : Type}

/-- `MultiFrameUpdate`. -/
def multiFrameUpdate (multi : MultiFrame Point) : MultiFrame Point :=
  { multi with multiPointsNum := 0, multiPacketNum := 0 }

/-- The points a subscriber is given of several frames. -/
def cloud (multi : MultiFrame Point) : List Point :=
  (List.range multi.multiPointsNum).map multi.multiPoints

/-- `MultiSend`. -/
def multiSend
    (multiRate : Option ℕ) (frame : Frame Packet Point)
    (multi : MultiFrame Point) :
    MultiFrame Point × List (Callback Packet Point) :=
  match multiRate with
  | none => (multi, [.pointCloud frame.cloud frame.packetNum])
  | some rate =>
      let perMultiFrameIndex := (multi.multiSendRateCount + 1) % rate
      let grown : MultiFrame Point :=
        { multiSendRateCount := multi.multiSendRateCount + 1
          multiPoints :=
            store multi.multiPoints multi.multiPointsNum frame.cloud
          multiPointsNum := multi.multiPointsNum + frame.pointsNum
          multiPacketNum := multi.multiPacketNum + frame.packetNum }
      if perMultiFrameIndex = 0 then
        (grown.multiFrameUpdate,
          [.pointCloud grown.cloud grown.multiPacketNum])
      else (grown, [])

end MultiFrame

/-! ## What the callbacks should be given -/

/-- A frame as it is shown: its points and its packets. -/
structure ShownFrame (Packet Point : Type) where
  points : List Point
  packets : List Packet
deriving DecidableEq

variable {Packet Point : Type}

/-- What is given for a frame, after those before it. -/
def callbacksFor
    (multiRate : Option ℕ) (earlier : List (ShownFrame Packet Point))
    (shown : ShownFrame Packet Point) : List (Callback Packet Point) :=
  match multiRate with
  | none =>
      [.pointCloud shown.points shown.packets.length, .packets shown.packets]
  | some rate =>
      let frames := earlier ++ [shown]
      if frames.length % rate = 0 then
        -- as many frames as the rate, and those before were given already
        let last := frames.drop (frames.length - rate)
        [.pointCloud (last.flatMap ShownFrame.points)
            (last.flatMap ShownFrame.packets).length,
          .packets shown.packets]
      else [.packets shown.packets]

/-- What is given for frames, one after the other. -/
def callbacks (multiRate : Option ℕ) :
    List (ShownFrame Packet Point) → List (ShownFrame Packet Point) →
      List (Callback Packet Point)
  | _, [] => []
  | earlier, shown :: rest =>
      callbacksFor multiRate earlier shown ++
        callbacks multiRate (earlier ++ [shown]) rest

theorem callbacks_snoc (multiRate : Option ℕ)
    (earlier frames : List (ShownFrame Packet Point))
    (shown : ShownFrame Packet Point) :
    callbacks multiRate earlier (frames ++ [shown]) =
      callbacks multiRate earlier frames ++
        callbacksFor multiRate (earlier ++ frames) shown := by
  induction frames generalizing earlier with
  | nil => simp [callbacks]
  | cons first rest induction =>
      simp only [List.cons_append, callbacks, induction, List.append_assoc,
        List.nil_append]

/-- The frames since the last ones that were given together. -/
def heldBack (rate : ℕ) (frames : List (ShownFrame Packet Point)) :
    List (ShownFrame Packet Point) :=
  frames.drop (frames.length - frames.length % rate)

theorem succ_mod_eq (count rate : ℕ) :
    (count + 1) % rate =
      if count % rate + 1 = rate then 0 else count % rate + 1 := by
  rcases Nat.eq_zero_or_pos rate with rfl | positive
  · simp
  · have below := Nat.mod_lt count positive
    conv_lhs => rw [← Nat.div_add_mod count rate, Nat.add_assoc,
      Nat.mul_add_mod]
    split
    · next full => rw [full, Nat.mod_self]
    · exact Nat.mod_eq_of_lt (by omega)

/-- Another frame is held back until there are as many as the rate. -/
theorem heldBack_snoc (rate : ℕ)
    (earlier : List (ShownFrame Packet Point))
    (shown : ShownFrame Packet Point) :
    ((earlier ++ [shown]).length % rate = 0 →
        (earlier ++ [shown]).drop ((earlier ++ [shown]).length - rate) =
            heldBack rate earlier ++ [shown] ∧
          heldBack rate (earlier ++ [shown]) = []) ∧
      ((earlier ++ [shown]).length % rate ≠ 0 →
        heldBack rate (earlier ++ [shown]) =
          heldBack rate earlier ++ [shown]) := by
  have below := Nat.mod_le earlier.length rate
  have next := succ_mod_eq earlier.length rate
  have length : (earlier ++ [shown]).length = earlier.length + 1 := by simp
  rw [heldBack, heldBack, length]
  constructor
  · intro together
    have full : earlier.length % rate + 1 = rate := by
      by_contra short
      rw [if_neg short] at next
      omega
    constructor
    · rw [show earlier.length + 1 - rate =
          earlier.length - earlier.length % rate by omega]
      exact List.drop_append_of_le_length (Nat.sub_le _ _)
    · rw [together, Nat.sub_zero, ← length]
      exact List.drop_length
  · intro alone
    have short : earlier.length % rate + 1 ≠ rate := by
      intro full
      rw [if_pos full] at next
      exact alone next
    rw [if_neg short] at next
    rw [next, Nat.add_sub_add_right]
    exact List.drop_append_of_le_length (Nat.sub_le _ _)

namespace MultiFrame

/-- The points of the frames held back stand at the front. -/
structure Gathers
    (rate : ℕ) (frames : List (ShownFrame Packet Point))
    (multi : MultiFrame Point) : Prop where
  count : multi.multiSendRateCount = frames.length
  points :
    Holds multi.multiPoints 0
      ((heldBack rate frames).flatMap ShownFrame.points)
  pointsNum :
    multi.multiPointsNum =
      ((heldBack rate frames).flatMap ShownFrame.points).length
  packetNum :
    multi.multiPacketNum =
      ((heldBack rate frames).flatMap ShownFrame.packets).length

variable {multi : MultiFrame Point} {frame : Frame Packet Point}
  {multiRate : Option ℕ} {earlier : List (ShownFrame Packet Point)}
  {shown : ShownFrame Packet Point}

/-- `MultiSend` gives what it should and holds back what it should. -/
theorem multiSend_callbacksFor
    (gathers : ∀ rate, multiRate = some rate → multi.Gathers rate earlier)
    (points : frame.cloud = shown.points)
    (packets : frame.packetNum = shown.packets.length) :
    (multi.multiSend multiRate frame).2 ++ [.packets shown.packets] =
        callbacksFor multiRate earlier shown ∧
      ∀ rate, multiRate = some rate →
        (multi.multiSend multiRate frame).1.Gathers rate
          (earlier ++ [shown]) := by
  cases multiRate with
  | none => exact ⟨by simp [multiSend, callbacksFor, points, packets], by simp⟩
  | some rate =>
      have before := gathers rate rfl
      have size : frame.pointsNum = shown.points.length := by
        rw [← points, Frame.cloud, List.length_map, List.length_range]
      rcases heldBack_snoc rate earlier shown with ⟨together, alone⟩
      have stored :
          Holds (store multi.multiPoints multi.multiPointsNum frame.cloud) 0
            ((heldBack rate earlier ++ [shown]).flatMap
              ShownFrame.points) := by
        rw [List.flatMap_append, List.flatMap_singleton]
        refine (before.points.store (.inl ?_)).append ?_
        · rw [Nat.zero_add, before.pointsNum]
        · rw [Nat.zero_add, ← before.pointsNum, points]
          exact holds_store
      have pointsNum :
          multi.multiPointsNum + frame.pointsNum =
            ((heldBack rate earlier ++ [shown]).flatMap
              ShownFrame.points).length := by
        rw [List.flatMap_append, List.flatMap_singleton, List.length_append,
          before.pointsNum, size]
      have packetNum :
          multi.multiPacketNum + frame.packetNum =
            ((heldBack rate earlier ++ [shown]).flatMap
              ShownFrame.packets).length := by
        rw [List.flatMap_append, List.flatMap_singleton, List.length_append,
          before.packetNum, packets]
      have count : (earlier ++ [shown]).length =
          multi.multiSendRateCount + 1 := by
        rw [before.count, List.length_append, List.length_singleton]
      by_cases full : (earlier ++ [shown]).length % rate = 0
      · rcases together full with ⟨last, nothing⟩
        have index := full
        rw [count] at index
        constructor
        · simp only [multiSend, callbacksFor, if_pos index, if_pos full, last,
            MultiFrame.cloud, pointsNum, packetNum, stored.map_range]
          rfl
        · intro other same
          cases same
          simp only [multiSend, if_pos index]
          refine ⟨count.symm, ?_, ?_, ?_⟩
          · rw [nothing]
            exact holds_nil
          · rw [nothing]
            rfl
          · rw [nothing]
            rfl
      · have grown := alone full
        have index := full
        rw [count] at index
        constructor
        · simp only [multiSend, callbacksFor, if_neg index, if_neg full]
          rfl
        · intro other same
          cases same
          simp only [multiSend, if_neg index]
          exact
            ⟨count.symm, by rwa [grown], by rw [grown, pointsNum],
              by rw [grown, packetNum]⟩

end MultiFrame

end Go2Navigation.Lidar
