import Go2Navigation.Bridge.Utils

/-!
# The command message

`SportModeCmd` with its declared fixed-size arrays, and the one function
which builds every command the bridge sends.  Array elements are written
through an unchecked subscript, so the writes are kept as data: the member,
the index and the value of each, in program order.
-/

namespace Go2Navigation.Bridge

open Go2Navigation.Numeric

structure BmsCmd where
  off : UInt8
  reserve : Vector UInt8 3
deriving DecidableEq

structure PathPoint where
  tFromStart : Binary32
  x : Binary32
  y : Binary32
  yaw : Binary32
  vx : Binary32
  vy : Binary32
  vyaw : Binary32
deriving DecidableEq

/-- The message as declared by `unitree_go/SportModeCmd`. -/
structure SportModeCmd where
  mode : UInt8
  gaitType : UInt8
  speedLevel : UInt8
  footRaiseHeight : Binary32
  bodyHeight : Binary32
  position : Vector Binary32 2
  euler : Vector Binary32 3
  velocity : Vector Binary32 2
  yawSpeed : Binary32
  bmsCmd : BmsCmd
  pathPoint : Vector PathPoint 30
deriving DecidableEq

/-- The literal `0.0F`. -/
def zeroF : Binary32 := .finite 0

/-- A freshly constructed message: every member is zero. -/
def SportModeCmd.zero : SportModeCmd where
  mode := 0
  gaitType := 0
  speedLevel := 0
  footRaiseHeight := zeroF
  bodyHeight := zeroF
  position := Vector.replicate 2 zeroF
  euler := Vector.replicate 3 zeroF
  velocity := Vector.replicate 2 zeroF
  yawSpeed := zeroF
  bmsCmd := ⟨0, Vector.replicate 3 0⟩
  pathPoint :=
    Vector.replicate 30 ⟨zeroF, zeroF, zeroF, zeroF, zeroF, zeroF, zeroF⟩

/-- The fixed-size float arrays of the message. -/
inductive ArrayMember where
  | position
  | euler
  | velocity
deriving DecidableEq

/-- One assignment through `operator[]`. -/
structure ElementWrite where
  member : ArrayMember
  index : ℕ
  value : Binary32

/--
Perform one element assignment.  An index past the declared length names no
element of that array, so the write changes none.
-/
def SportModeCmd.writeElement
    (cmd : SportModeCmd) (write : ElementWrite) : SportModeCmd :=
  match write.member with
  | .position =>
      { cmd with
        position := cmd.position.setIfInBounds write.index write.value }
  | .euler =>
      { cmd with euler := cmd.euler.setIfInBounds write.index write.value }
  | .velocity =>
      { cmd with
        velocity := cmd.velocity.setIfInBounds write.index write.value }

/-- The element assignments of `make_velocity_command`, in program order. -/
def makeVelocityCommandWrites
    (linearX linearY : Binary32) : List ElementWrite :=
  [ ⟨.position, 0, zeroF⟩,
    ⟨.position, 1, zeroF⟩,
    ⟨.position, 2, zeroF⟩,
    ⟨.euler, 0, zeroF⟩,
    ⟨.euler, 1, zeroF⟩,
    ⟨.euler, 2, zeroF⟩,
    ⟨.velocity, 0, linearX⟩,
    ⟨.velocity, 1, linearY⟩ ]

def makeVelocityCommand
    (linearX linearY yawSpeed : Binary32) : SportModeCmd :=
  let sdkMsg : SportModeCmd :=
    { SportModeCmd.zero with
      mode := kVelocityMoveMode
      gaitType := 0
      speedLevel := 0
      footRaiseHeight := zeroF
      bodyHeight := zeroF }
  let sdkMsg :=
    (makeVelocityCommandWrites linearX linearY).foldl
      SportModeCmd.writeElement sdkMsg
  { sdkMsg with yawSpeed := yawSpeed }

/-- The three velocity components of a command. -/
def SportModeCmd.velocities (cmd : SportModeCmd) :
    Binary32 × Binary32 × Binary32 :=
  (cmd.velocity[0], cmd.velocity[1], cmd.yawSpeed)

@[simp]
theorem makeVelocityCommand_velocities
    (linearX linearY yawSpeed : Binary32) :
    (makeVelocityCommand linearX linearY yawSpeed).velocities =
      (linearX, linearY, yawSpeed) :=
  rfl

/-- A zero-velocity stop. -/
def SportModeCmd.IsStop (cmd : SportModeCmd) : Prop :=
  cmd.velocities = (zeroF, zeroF, zeroF)

instance (cmd : SportModeCmd) : Decidable cmd.IsStop :=
  inferInstanceAs (Decidable (cmd.velocities = _))

/-- The message published by every stop. -/
def stopCommand : SportModeCmd :=
  makeVelocityCommand zeroF zeroF zeroF

theorem stopCommand_isStop : stopCommand.IsStop :=
  makeVelocityCommand_velocities zeroF zeroF zeroF

end Go2Navigation.Bridge
