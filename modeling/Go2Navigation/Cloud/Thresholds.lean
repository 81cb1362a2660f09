import Go2Navigation.Cloud.Reads

/-!
# The thresholds of the ring filter

The two thresholds are signed parameters, converted to sixteen bits at the
comparison.  Each wraps on its own.  They keep their meaning exactly if
wrapping does not move a bound which matters, and leaves nothing where
nothing is asked for.
-/

namespace Go2Navigation.Cloud

/-- The records whose ring value the thresholds ask for, in order. -/
def askedRecords
    (cloud : PointCloud2) (field : PointField) (ringMin ringMax : ℤ) :
    List (List UInt8) :=
  ((List.range cloud.points).filter fun index =>
    decide
      (Between ringMin ringMax
        (cloud.flatRing field.offset.toNat index))).map cloud.flatRecord

/--
On every message whose reads are inside the data, the points whose ring value
lies between the thresholds are kept, and no others.
-/
def KeepsAsked (ringMin ringMax : ℤ) : Prop :=
  ∀ (input : ReceivedCloud) (name : String) (field : PointField),
    (input.cloud.fields.find? fun field => field.name == name) =
        some field →
      ScanPreprocessor.ReadsOnlyData ⟨name, ringMin, ringMax⟩
          input.cloud →
        ScanPreprocessor.onCloud ⟨name, ringMin, ringMax⟩ input.cloud =
          some
            (ScanPreprocessor.published input.cloud
              (askedRecords input.cloud field ringMin ringMax))

/--
If some ring value is asked for, each threshold is a ring value, or wraps to
the end of the range beyond which it lies.  If none is, the wrapped
thresholds are out of order.
-/
def Representable (ringMin ringMax : ℤ) : Prop :=
  if ringMin ≤ ringMax ∧ ringMin ≤ 65535 ∧ 0 ≤ ringMax then
    (0 ≤ ringMin ∨ ringMin % 65536 = 0) ∧
      (ringMax ≤ 65535 ∨ ringMax % 65536 = 65535)
  else ringMax % 65536 < ringMin % 65536

/-- A representable pair keeps its meaning. -/
theorem between_of_representable
    {ringMin ringMax : ℤ} (representable : Representable ringMin ringMax)
    {ring : ℕ} (small : ring ≤ 65535) :
    Between (ringMin % 65536) (ringMax % 65536) ring ↔
      Between ringMin ringMax ring := by
  rw [Representable] at representable
  rw [Between, Between]
  split_ifs at representable <;> omega

/--
A pair which keeps its meaning at the two ends of the range, and at its own
wrapped lower threshold, is representable.
-/
theorem representable_of_between
    {ringMin ringMax : ℤ}
    (same :
      ∀ ring ≤ 65535,
        (Between (ringMin % 65536) (ringMax % 65536) ring ↔
          Between ringMin ringMax ring)) :
    Representable ringMin ringMax := by
  rw [Representable]
  split_ifs with asked
  · have first := same 0 (Nat.zero_le _)
    have last := same 65535 le_rfl
    rw [Between, Between] at first last
    omega
  · have wrapped :=
      same (ringMin % 65536).toNat (by omega)
    rw [Between, Between] at wrapped
    omega

/-! ## What the loop keeps -/

/-- What is published, as long as the reads are inside the data. -/
theorem ReceivedCloud.onCloud_eq
    (input : ReceivedCloud) {node : ScanPreprocessor} {field : PointField}
    (found :
      (input.cloud.fields.find? fun field =>
          field.name == node.ringField) =
        some field)
    (inside : node.ReadsOnlyData input.cloud) :
    node.onCloud input.cloud =
      some
        (ScanPreprocessor.published input.cloud
          (node.keptRecords input.cloud field)) := by
  have insideField := inside field found
  apply ScanPreprocessor.onCloud_of_readsInside found ?_ insideField
  intro index visited
  exact input.address_of_earlier insideField index visited.le

theorem keepsAsked_of_representable
    {ringMin ringMax : ℤ}
    (representable : Representable ringMin ringMax) :
    KeepsAsked ringMin ringMax := by
  intro input name field found inside
  have sameTest :
      ∀ index,
        ScanPreprocessor.keeps ⟨name, ringMin, ringMax⟩
            (input.cloud.flatRing field.offset.toNat index) =
          decide
            (Between ringMin ringMax
              (input.cloud.flatRing field.offset.toNat index)) := by
    intro index
    rw [Bool.eq_iff_iff, decide_eq_true_eq, keeps_iff_wrapped]
    exact
      between_of_representable representable
        (PointCloud2.flatRing_le _ _ _)
  rw [input.onCloud_eq found inside]
  simp only [ScanPreprocessor.keptRecords, ScanPreprocessor.keptIndices,
    askedRecords, sameTest]

/-! ## A point for each ring value -/

/-- One point, which consists of its ring value. -/
def onePoint (ring : ℕ) : ReceivedCloud where
  cloud :=
    { header := ⟨⟨0, 0⟩, "hesai_lidar"⟩
      height := 1
      width := 1
      fields := [ringOnly]
      isBigendian := false
      pointStep := 2
      rowStep := 2
      data := [UInt8.ofNat (ring % 256), UInt8.ofNat (ring / 256)]
      isDense := true }
  fits := (by decide : 2 < 2 ^ 63)

theorem onePoint_flatRing {ring : ℕ} (small : ring ≤ 65535) :
    (onePoint ring).cloud.flatRing 0 0 = ring := by
  have low : ring % 256 % 256 = ring % 256 := Nat.mod_mod _ _
  have high : ring / 256 % 256 = ring / 256 := Nat.mod_eq_of_lt (by omega)
  change
    (UInt8.ofNat (ring % 256)).toNat +
        256 * (UInt8.ofNat (ring / 256)).toNat = ring
  rw [UInt8.toNat_ofNat', UInt8.toNat_ofNat', low, high]
  omega

theorem onePoint_readsOnlyData
    (node : ScanPreprocessor) (ring : ℕ) :
    node.ReadsOnlyData (onePoint ring).cloud := by
  intro field found index visited
  have member := List.mem_of_find?_eq_some found
  have fieldEq : field = ringOnly := List.mem_singleton.mp member
  have indexEq : index = 0 := Nat.lt_one_iff.mp visited
  subst fieldEq indexEq
  have twoBytes : 0 * 2 + 2 ≤ 2 := by decide
  exact ⟨twoBytes, fun _ => twoBytes⟩

/-- The width published of one point tells whether it was kept. -/
theorem width_singleton (test : ℕ → Bool) :
    UInt32.ofNat ([0].filter test).length = if test 0 then 1 else 0 := by
  cases kept : test 0 with
  | false => simp [kept]
  | true => simp [kept]

/-- What is kept of single points decides every ring value. -/
theorem between_of_keepsAsked
    {ringMin ringMax : ℤ} (keepsAsked : KeepsAsked ringMin ringMax)
    {ring : ℕ} (small : ring ≤ 65535) :
    Between (ringMin % 65536) (ringMax % 65536) ring ↔
      Between ringMin ringMax ring := by
  let node : ScanPreprocessor := ⟨"ring", ringMin, ringMax⟩
  have found :
      ((onePoint ring).cloud.fields.find? fun field =>
          field.name == node.ringField) =
        some ringOnly := rfl
  have inside := onePoint_readsOnlyData node ring
  have asked := keepsAsked (onePoint ring) "ring" ringOnly found inside
  rw [(onePoint ring).onCloud_eq found inside, Option.some.injEq] at asked
  have points : List.range (onePoint ring).cloud.points = [0] := rfl
  have offset : ringOnly.offset.toNat = 0 := rfl
  have sameWidth := congrArg PointCloud2.width asked
  simp only [ScanPreprocessor.published, ScanPreprocessor.keptRecords,
    ScanPreprocessor.keptIndices, askedRecords, List.length_map, points,
    offset, width_singleton, onePoint_flatRing small,
    decide_eq_true_eq] at sameWidth
  have sameTest :
      node.keeps ring = true ↔ Between ringMin ringMax ring := by
    by_cases keeps : node.keeps ring = true
    · rw [if_pos keeps] at sameWidth
      refine iff_of_true keeps ?_
      by_contra outside
      rw [if_neg outside] at sameWidth
      cases sameWidth
    · rw [if_neg keeps] at sameWidth
      refine iff_of_false keeps ?_
      intro between
      rw [if_pos between] at sameWidth
      cases sameWidth
  exact (keeps_iff_wrapped node ring).symm.trans sameTest

/--
The thresholds keep what they ask for, on every message whose reads are
inside the data, exactly if they are representable.
-/
theorem keepsAsked_iff_representable (ringMin ringMax : ℤ) :
    KeepsAsked ringMin ringMax ↔ Representable ringMin ringMax :=
  ⟨fun keepsAsked =>
      representable_of_between fun _ small =>
        between_of_keepsAsked keepsAsked small,
    keepsAsked_of_representable⟩

/-- A lower threshold below every ring drops the point of ring 7. -/
theorem not_keepsAsked : ¬ KeepsAsked (-1) 15 := by
  intro keepsAsked
  have kept : Between (-1) 15 7 := by decide
  have wrapped := (between_of_keepsAsked keepsAsked (by decide)).mpr kept
  exact absurd wrapped (by decide)

end Go2Navigation.Cloud
