import IpmiRs.Library.Bytes
import IpmiRs.Rmcp.Sol

/-! The frames of a SOL payload and their bytes. The control bits of both
directions share a byte; those that only a console sends are not read back. -/
namespace IpmiRs.Rmcp
open Library.Bytes

/-- No control bit is set that only a console sends. -/
def SolFlags.FromBmc (flags : SolFlags) : Prop :=
  flags.generateBreak = false ∧ flags.flushInbound = false ∧ flags.flushOutbound = false

theorem SolFlags.encode_decode {value : UInt8} {flags : SolFlags} (decoded : decode value = .ok flags) :
    flags.encode = value := by
  have table : ∀ byte : UInt8, byte &&& 0x83 = 0 →
      SolFlags.encode {
        nack := byte &&& 0x40 != 0
        transferUnavailable := byte &&& 0x20 != 0
        inactive := byte &&& 0x10 != 0
        overrun := byte &&& 0x08 != 0
        breakDetected := byte &&& 0x04 != 0 } = byte := by
    apply forall_of_table
    decide +kernel
  unfold decode at decoded
  split at decoded
  · cases decoded
  · rename_i reserved
    cases decoded
    exact table value (not_not.mp reserved)

theorem SolFlags.decode_encode {flags : SolFlags} (bmc : flags.FromBmc) : decode flags.encode = .ok flags := by
  obtain ⟨nack, unavailable, inactive, overrun, breakDetected, generateBreak, inbound, outbound⟩ := flags
  obtain ⟨rfl, rfl, rfl⟩ := bmc
  cases nack <;> cases unavailable <;> cases inactive <;> cases overrun <;> cases breakDetected <;> rfl

/-- A sequence has four bits. -/
theorem no_high_bits (sequence : UInt8) : sequence &&& 0xf0 ≠ 0 ↔ 15 < sequence := by
  revert sequence
  apply forall_of_table
  decide +kernel

namespace SolFrame

/-- A header that both directions refuse. -/
def Invalid (frame : SolFrame) : Prop :=
  15 < frame.sequence ∨ 15 < frame.ack ∨ MAX_SOL_DATA < frame.data.length ∨
    (frame.sequence = 0 ∧ frame.data ≠ []) ∨ (frame.ack = 0 ∧ frame.accepted ≠ 0)

theorem encode_eq_ok {frame : SolFrame} {bytes : List UInt8} :
    frame.encode = .ok bytes ↔ ¬frame.Invalid ∧
      [frame.sequence, frame.ack, frame.accepted, frame.flags.encode] ++ frame.data = bytes := by
  unfold encode
  constructor
  · intro encoded
    split at encoded
    · cases encoded
    · rename_i valid
      exact ⟨valid, Except.ok.inj encoded⟩
  · rintro ⟨valid, rfl⟩
    exact if_neg valid

theorem decode_eq_ok {bytes : List UInt8} {frame : SolFrame} :
    decode bytes = .ok frame ↔ ∃ flags, bytes = [frame.sequence, frame.ack, frame.accepted, flags] ++ frame.data ∧
      SolFlags.decode flags = .ok frame.flags ∧ ¬frame.Invalid := by
  constructor
  · intro decoded
    unfold decode at decoded
    split at decoded
    · rename_i sequence ack accepted flags data
      split at decoded
      · cases decoded
      rename_i short
      split at decoded
      · cases decoded
      rename_i low
      split at decoded
      · cases decoded
      rename_i known control
      split at decoded
      · cases decoded
      rename_i consistent
      cases decoded
      refine ⟨flags, rfl, control, ?_⟩
      rw [no_high_bits, no_high_bits] at low
      rintro (high | high | long | data | ack)
      · exact low (.inl high)
      · exact low (.inr high)
      · exact short long
      · exact consistent (.inr data)
      · exact consistent (.inl ack)
    · cases decoded
  · rintro ⟨flags, rfl, control, valid⟩
    have short : ¬MAX_SOL_DATA < frame.data.length := fun long => valid (.inr (.inr (.inl long)))
    have low : ¬(frame.sequence &&& 0xf0 ≠ 0 ∨ frame.ack &&& 0xf0 ≠ 0) := by
      rw [no_high_bits, no_high_bits]
      rintro (high | high)
      · exact valid (.inl high)
      · exact valid (.inr (.inl high))
    have consistent : ¬((frame.ack = 0 ∧ frame.accepted ≠ 0) ∨ (frame.sequence = 0 ∧ frame.data ≠ [])) := by
      rintro (ack | data)
      · exact valid (.inr (.inr (.inr (.inr ack))))
      · exact valid (.inr (.inr (.inr (.inl data))))
    change (if MAX_SOL_DATA < frame.data.length then _ else if _ then _ else _) = _
    rw [if_neg short, if_neg low, control]
    exact if_neg consistent

end SolFrame

/-- SOL frames and their bytes are one: what is decoded is encoded as the same bytes, what is encoded without
a control bit of the console alone is decoded as the same frame, and no frame that is decoded is refused. -/
theorem sol_frames_coded :
    (∀ bytes frame, SolFrame.decode bytes = .ok frame → frame.encode = .ok bytes) ∧
    (∀ (frame : SolFrame) (bytes : List UInt8), frame.encode = .ok bytes → frame.flags.FromBmc →
      SolFrame.decode bytes = .ok frame) ∧
    ∀ (frame : SolFrame) (error : SolFrameError), frame.encode = .error error →
      ∀ bytes, SolFrame.decode bytes ≠ .ok frame := by
  have back : ∀ bytes frame, SolFrame.decode bytes = .ok frame → frame.encode = .ok bytes := by
    intro bytes frame decoded
    obtain ⟨flags, rfl, control, valid⟩ := SolFrame.decode_eq_ok.mp decoded
    exact SolFrame.encode_eq_ok.mpr ⟨valid, by rw [SolFlags.encode_decode control]⟩
  refine ⟨back, ?_, ?_⟩
  · intro frame bytes encoded bmc
    obtain ⟨valid, rfl⟩ := SolFrame.encode_eq_ok.mp encoded
    exact SolFrame.decode_eq_ok.mpr ⟨frame.flags.encode, rfl, SolFlags.decode_encode bmc, valid⟩
  · intro frame error refused bytes decoded
    rw [back bytes frame decoded] at refused
    cases refused

/-- A frame with characters that refuses the rest of another one and reports a break. -/
theorem sol_frames_coded_refusing :
    SolFrame.decode [5, 4, 2, 0x44, 0x41, 0x42, 0x43] =
      .ok ⟨5, 4, 2, { nack := true, breakDetected := true }, [0x41, 0x42, 0x43]⟩ :=
  sol_frames_coded.2.1 _ _ rfl ⟨rfl, rfl, rfl⟩

end IpmiRs.Rmcp
