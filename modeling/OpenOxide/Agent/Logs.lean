import Mathlib.Data.List.Basic

/-!
# Container logs

The agent gets the log of a container as a sequence of frames.  The header of a
frame names its stream and the length of its payload, and a payload falls into
lines.
-/

namespace OpenOxide.Agent

def fromBeBytes (first second third last : UInt8) : Nat :=
  ((first.toNat * 256 + second.toNat) * 256 + third.toNat) * 256 + last.toNat

section

/- `String::from_utf8_lossy`, and `trim_end` of its result. -/
variable (decode : List UInt8 → String)

def linesOf (isStderr : Bool) (bytes : List UInt8) : List (Bool × String) :=
  ((bytes.splitOn 10).filter (!·.isEmpty)).map fun line =>
    (isStderr, decode line)

def looksMultiplexed : List UInt8 → Bool
  | streamType :: first :: second :: third :: _ :: _ :: _ :: _ :: _ =>
    streamType ≤ 2 && first == 0 && second == 0 && third == 0
  | _ => false

/-- The loop of `demux_log_stream` over what is left of the body. -/
def demuxFrames : List UInt8 → List (Bool × String)
  | streamType :: _ :: _ :: _ :: first :: second :: third :: last :: body =>
    let length := fromBeBytes first second third last
    if body.take length = [] then []
    else
      linesOf decode (streamType == 2) (body.take length) ++
        demuxFrames (body.drop length)
  | _ => []
termination_by body => body.length
decreasing_by
  simp
  omega

def demuxLogStream (body : List UInt8) : List (Bool × String) :=
  if looksMultiplexed body then demuxFrames decode body
  else linesOf decode false body

end

/-- A frame as Docker writes it. -/
structure LogFrame where
  streamType : UInt8
  payload : List UInt8
  known : streamType ≤ 2
  fits : payload.length < 4294967296

namespace LogFrame

def bytes (frame : LogFrame) : List UInt8 :=
  let length := frame.payload.length
  [frame.streamType, 0, 0, 0, .ofNat (length / 16777216),
    .ofNat (length / 65536), .ofNat (length / 256), .ofNat length] ++
    frame.payload

def lines (decode : List UInt8 → String) (frame : LogFrame) :
    List (Bool × String) :=
  linesOf decode (frame.streamType == 2) frame.payload

end LogFrame

variable {decode : List UInt8 → String}

theorem fromBeBytes_ofNat {length : Nat} (fits : length < 4294967296) :
    fromBeBytes (.ofNat (length / 16777216)) (.ofNat (length / 65536))
      (.ofNat (length / 256)) (.ofNat length) = length := by
  simp only [fromBeBytes, UInt8.toNat_ofNat']
  omega

theorem demuxFrames_bytes (frames : List LogFrame) :
    demuxFrames decode (frames.flatMap LogFrame.bytes) =
      (frames.takeWhile (!·.payload.isEmpty)).flatMap
        (LogFrame.lines decode) := by
  induction frames with
  | nil => simp [demuxFrames]
  | cons frame frames induction =>
    rw [List.flatMap_cons, LogFrame.bytes, List.append_assoc]
    simp only [List.cons_append, List.nil_append, demuxFrames,
      fromBeBytes_ofNat frame.fits, List.take_left', List.drop_left']
    by_cases empty : frame.payload = []
    · simp [empty]
    · simp [empty, induction, LogFrame.lines]

theorem demuxLogStream_bytes (frames : List LogFrame) :
    demuxLogStream decode (frames.flatMap LogFrame.bytes) =
      demuxFrames decode (frames.flatMap LogFrame.bytes) := by
  cases frames with
  | nil => simp [demuxLogStream, looksMultiplexed, demuxFrames, linesOf]
  | cons frame frames =>
    apply if_pos
    simp [LogFrame.bytes, looksMultiplexed, frame.known]

/-- The lines of all frames are there if and only if no frame from the first
one with an empty payload on has any. -/
theorem demux_lossless_iff (decode : List UInt8 → String)
    (frames : List LogFrame) :
    demuxLogStream decode (frames.flatMap LogFrame.bytes) =
        frames.flatMap (LogFrame.lines decode) ↔
      ∀ frame ∈ frames.dropWhile (!·.payload.isEmpty),
        frame.lines decode = [] := by
  rw [demuxLogStream_bytes, demuxFrames_bytes, ← List.flatMap_eq_nil_iff,
    ← List.append_right_eq_self, ← List.flatMap_append,
    List.takeWhile_append_dropWhile, eq_comm]

/-- A line after a frame without a payload is lost. -/
theorem line_after_empty_frame_lost :
    let frames : List LogFrame :=
      [⟨1, [], by decide, by decide⟩, ⟨1, [97], by decide, by decide⟩]
    let decode (bytes : List UInt8) :=
      String.ofList (bytes.map fun byte => Char.ofNat byte.toNat)
    demuxLogStream decode (frames.flatMap LogFrame.bytes) = [] ∧
      frames.flatMap (LogFrame.lines decode) = [(false, "a")] := by
  refine ⟨?_, by decide +kernel⟩
  rw [demuxLogStream_bytes, demuxFrames_bytes]
  rfl

end OpenOxide.Agent
