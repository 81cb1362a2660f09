import Go2Navigation.Foundation.Stamp
import Mathlib.Analysis.Real.Sqrt
import Mathlib.Analysis.SpecialFunctions.Complex.Arg

/-!
# Messages and operations of the transform broadcasters

The messages are generic in the type of their numbers, so that one
translation of the nodes serves exact real arithmetic and arithmetic with a
non-finite value.  The quaternion operations belong to another package and
are a parameter; their documented meaning over the real numbers is stated
where it is used.
-/

namespace Go2Navigation.Attitude

open Go2Navigation.Foundation

universe u

/-- A literal of the source. -/
def literal {K : Type u} [RatCast K] (value : ℚ) : K :=
  (value : K)

structure Vector3 (K : Type u) where
  x : K
  y : K
  z : K

structure QuaternionMsg (K : Type u) where
  x : K
  y : K
  z : K
  w : K

/-- The fields of `nav_msgs/Odometry` which the nodes read. -/
structure Odometry (K : Type u) where
  stamp : Stamp
  position : Vector3 K
  orientation : QuaternionMsg K

/-- The fields of `sensor_msgs/Imu` which the nodes read. -/
structure Imu (K : Type u) where
  stamp : Stamp
  orientation : QuaternionMsg K
  orientationCovariance : Vector K 9
  angularVelocity : Vector3 K
  linearAcceleration : Vector3 K

/-- `orientation_covariance[0]`, negative where there is no orientation. -/
def Imu.orientationFlag {K : Type u} (msg : Imu K) : K :=
  msg.orientationCovariance[0]

/-- `geometry_msgs/TransformStamped`. -/
structure TransformStamped (K : Type u) where
  stamp : Stamp
  frameId : String
  childFrameId : String
  translation : Vector3 K
  rotation : QuaternionMsg K

/-- The functions of `<cmath>` which the nodes call. -/
class Transcendental (K : Type u) where
  sqrt : K → K
  atan2 : K → K → K

noncomputable instance : Transcendental ℝ where
  sqrt := Real.sqrt
  atan2 y x := Complex.arg ⟨x, y⟩

/-- The angles of `getRPY`. -/
structure RollPitchYaw (K : Type u) where
  roll : K
  pitch : K
  yaw : K

/--
The operations of `tf2` which the nodes call.  `getRPY` is
`Matrix3x3(q).getRPY`, and `setRPY` takes roll, pitch and yaw.
-/
structure Tf2 (K : Type u) where
  length2 : QuaternionMsg K → K
  normalize : QuaternionMsg K → QuaternionMsg K
  inverse : QuaternionMsg K → QuaternionMsg K
  mul : QuaternionMsg K → QuaternionMsg K → QuaternionMsg K
  getRPY : QuaternionMsg K → RollPitchYaw K
  setRPY : K → K → K → QuaternionMsg K

end Go2Navigation.Attitude
