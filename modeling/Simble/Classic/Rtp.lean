import Mathlib.Tactic.IntervalCases
import Simble.Lib.Pieces
import Simble.Octets

/-! The media payloads of A2DP (`classic/rtp.rs`): SBC frames packed into RTP payloads or split
over several, and what a sink makes of those that arrive. -/
namespace Simble.Rtp
open Simble.Lib

/-! ## Payloads -/

structure SbcPayloadHeader where
  fragmented : Bool
  start : Bool
  last : Bool
  frameCount : UInt8
deriving DecidableEq, Repr

namespace SbcPayloadHeader

def unfragmented (frames : UInt8) : SbcPayloadHeader := ⟨false, false, false, frames &&& 0x0F⟩

def toByte (header : SbcPayloadHeader) : UInt8 :=
  (bit header.fragmented <<< 7) ||| (bit header.start <<< 6) ||| (bit header.last <<< 5) |||
    (header.frameCount &&& 0x0F)

def fromByte (byte : UInt8) : SbcPayloadHeader :=
  ⟨byte &&& 0x80 ≠ 0, byte &&& 0x40 ≠ 0, byte &&& 0x20 ≠ 0, byte &&& 0x0F⟩

theorem fromByte_toByte {header : SbcPayloadHeader} (small : header.frameCount < 16) :
    fromByte header.toByte = header := by
  obtain ⟨fragmented, start, last, frameCount⟩ := header
  have bounded : frameCount.toNat < 16 := small
  have same : frameCount = UInt8.ofNat frameCount.toNat := by simp
  generalize frameCount.toNat = value at bounded same
  subst same
  interval_cases value <;> cases fragmented <;> cases start <;> cases last <;> decide

end SbcPayloadHeader

def sbcMaxFramesPerPayload : UInt8 := 15

structure SbcPayload where
  header : SbcPayloadHeader
  data : Bytes
deriving DecidableEq, Repr

namespace SbcPayload

def parse : Bytes → Option SbcPayload
  | [] => none
  | first :: rest => some ⟨.fromByte first, rest⟩

def unfragmented (frames : List Bytes) : SbcPayload :=
  ⟨.unfragmented (UInt8.ofNat frames.length), frames.flatten⟩

def toBytes (payload : SbcPayload) : Bytes := payload.header.toByte :: payload.data

theorem parse_toBytes {payload : SbcPayload} (small : payload.header.frameCount < 16) :
    parse payload.toBytes = some payload := by
  rw [toBytes, parse, SbcPayloadHeader.fromByte_toByte small]

end SbcPayload

/-! ## Packing -/

/-- What the loop of `packetize_sbc` carries along. -/
structure Packer where
  payloads : List Bytes := []
  batch : List Bytes := []
  batchLen : Nat := 0

def fragmentHeader (count index : Nat) : SbcPayloadHeader where
  fragmented := true
  start := index = 0
  last := index = count - 1
  frameCount := UInt8.ofNat (min (count - index) 0x0F)

section
variable (budget : ℕ+)

def fragments (frame : Bytes) : List Bytes :=
  let chunks := pieces budget frame
  chunks.zipIdx.map fun (chunk, index) => (fragmentHeader chunks.length index).toByte :: chunk

namespace Packer
variable (packer : Packer)

def flush : Packer :=
  if packer.batch = [] then packer
  else ⟨packer.payloads ++ [(SbcPayload.unfragmented packer.batch).toBytes], [], 0⟩

def add (frame : Bytes) : Packer :=
  if frame.length > budget then
    let packer := packer.flush
    { packer with payloads := packer.payloads ++ fragments budget frame }
  else
    let wouldOverflow := packer.batchLen + frame.length > budget ∨
      UInt8.ofNat packer.batch.length ≥ sbcMaxFramesPerPayload
    let packer := if wouldOverflow then packer.flush else packer
    { packer with batchLen := packer.batchLen + frame.length, batch := packer.batch ++ [frame] }

end Packer
end

def packetizeSbc (frames : List Bytes) (maxPayload : Nat) : List Bytes :=
  if positive : 0 < maxPayload - 1 then
    (frames.foldl (Packer.add ⟨maxPayload - 1, positive⟩) {}).flush.payloads
  else []

/-! ## Reassembly -/

/-- The frame that is being put together, if there is one in progress. -/
structure SbcReassembler where
  partialFrame : Bytes := []
  inProgress : Bool := false
deriving DecidableEq, Repr

namespace SbcReassembler

def push (reassembler : SbcReassembler) (payload : Bytes) : SbcReassembler × Option Bytes :=
  match SbcPayload.parse payload with
  | none => (reassembler, none)
  | some ⟨header, data⟩ =>
    if ¬ header.fragmented then ({}, some data)
    else if ¬ header.start ∧ ¬ reassembler.inProgress then (reassembler, none)
    else
      let partialFrame := (if header.start then [] else reassembler.partialFrame) ++ data
      if header.last then ({}, some partialFrame) else (⟨partialFrame, true⟩, none)

def after (reassembler : SbcReassembler) (payloads : List Bytes) : SbcReassembler :=
  payloads.foldl (fun reassembler payload => (reassembler.push payload).1) reassembler

def outputs (reassembler : SbcReassembler) : List Bytes → List Bytes
  | [] => []
  | payload :: rest =>
    (reassembler.push payload).2.toList ++ (reassembler.push payload).1.outputs rest

theorem outputs_append (reassembler : SbcReassembler) (payloads others : List Bytes) :
    reassembler.outputs (payloads ++ others) =
      reassembler.outputs payloads ++ (reassembler.after payloads).outputs others := by
  induction payloads generalizing reassembler with
  | nil => rfl
  | cons payload payloads ih =>
    rw [List.cons_append, outputs, ih, outputs, List.append_assoc]
    rfl

end SbcReassembler

end Simble.Rtp
