import IpmiRs.Kontron.FruBudget
import IpmiRs.Rmcp.SequenceMeter

/-! A Kontron FRU write over RMCP is never cut short for want of sequences. -/
namespace IpmiRs.Kontron
open Connection App Library Library.Runs Library.Stateful Storage Rmcp

/-- Whatever was sent, polled and received before in the session. -/
def Reachable (session : RmcpConnection) : Prop :=
  ∀ active, session.active = some active →
    ∃ ops, active.ipmbState = after IpmbState.step .default ops

/-- The sequences held back for requests to come. -/
def reservation (session : RmcpConnection) : Option Nat :=
  session.active.bind fun active => active.ipmbState.reservedSequences

theorem rmcp_price (change : KontronFruChange) (price : Nat)
    (costs : rmcpMeter.price (targetDeviceId change.device.target).targetAddress = price) :
    Priced rmcpMeter change.device price ∧ price ≤ change.perCommand := by
  unfold Priced
  rw [← costs]
  simp only [rmcpMeter, KontronFruChange.perCommand, IpmiCommand.targetAddress,
    getFruInventoryAreaInfo, targetDeviceId]
  cases change.device.target with
  | none => exact ⟨rfl, Nat.le_refl _⟩
  | some destination =>
    simp only [IpmbState.route, Option.isSome_some, ↓reduceIte]
    split <;> simp [IpmbState.Route.needed]

/-- From the identity check before the first FRU write on, no command of a
change is refused for want of sequences, the read-back included while it takes
no more commands than the read before the writes did. On every return the
reservation is as it was found. -/
theorem kontron_fru_write_never_strands (digests : Digests) (provider : CryptoProvider)
    (world : List (Exchange RmcpIpmiError) → Conditions) (change : KontronFruChange)
    (session : RmcpConnection) (reachable : Reachable session) :
    let ended := (applyKontronFruChange (rmcp digests provider world) change).eval session
    (∃ log, ended.2.calls = session.calls ++ log ∧
      NeverStranded (.send .ipmbSequenceExhausted) change log) ∧
    reservation ended.2 = reservation session := by
  have sound : rmcpMeter.sound session := by
    intro active same
    obtain ⟨ops, state⟩ := reachable active same
    rw [state]
    exact run_sound ops
  obtain ⟨costs, cheap⟩ := rmcp_price change _ rfl
  have ends := (applyKontronFruChange_ends (rmcp_metered digests provider world) sound costs rfl
    cheap).evaluated
  intro ended
  cases result : ended.1 with
  | ok value =>
    obtain ⟨reached, held⟩ := ends.1 value result
    exact ⟨reached.2, held⟩
  | error error =>
    obtain ⟨reached, held⟩ := ends.2 error result
    exact ⟨reached.2, held⟩

/-! ### A change that is applied -/

/-- A header and two areas of empty fields; the manufacturing date is the
board's first byte after its language. -/
private def emptyImage (minutes checksum : UInt8) : List UInt8 :=
  [1, 0, 0, 1, 3, 0, 0, 0xfb,
    1, 2, 0x19, minutes, 0, 0, 0xc0, 0xc0, 0xc0, 0xc0, 0xc0, 0xc1, 0, 0, 0, checksum,
    1, 2, 0x19, 0xc0, 0xc0, 0xc0, 0xc0, 0xc0, 0xc0, 0xc0, 0xc1, 0, 0, 0, 0, 0xe3]

private def kontronId : List UInt8 := [0x20, 1, 0, 0, 2, 0, 0x98, 0x3a, 0, 1, 0]

private def dateChange : KontronFruChange where
  device := ⟨0, none, .zero⟩
  identity := (DeviceId.fromData kontronId).get (by decide)
  info := ⟨40, .byte⟩
  backup := ⟨emptyImage 0 0x63, ⟨8, 24, by decide⟩, ⟨24, 40, by decide⟩, by decide, by decide⟩
  proposed := emptyImage 1 0x62
  sameLength := rfl

/-- The answers to the calls of the change, each with what it answers. -/
private def answers : List (UInt8 × UInt8 × List UInt8) :=
  let reads (image : List UInt8) : List (UInt8 × UInt8 × List UInt8) :=
    [(0x0a, 0x10, [0, 40, 0, 0]), (0x0a, 0x11, [0, 16] ++ image.take 16),
      (0x0a, 0x11, [0, 16] ++ (image.drop 16).take 16), (0x0a, 0x11, [0, 8] ++ image.drop 32)]
  [(0x06, 0x01, 0 :: kontronId), (0x0a, 0x10, [0, 40, 0, 0])] ++ reads (emptyImage 0 0x63) ++
    [(0x06, 0x01, 0 :: kontronId), (0x0a, 0x12, [0, 16])] ++ reads (emptyImage 1 0x62)

/-- A BMC that gives the answers, each in one datagram. -/
private def answering (calls : List (Exchange RmcpIpmiError)) : Conditions :=
  let sending : Sending := ⟨false, 0, none, true⟩
  let datagram (answer : UInt8 × UInt8 × List UInt8) : List UInt8 :=
    let reply : ExpectedReply :=
      ⟨UInt8.ofNat calls.length, answer.1 + 2, answer.2.1, 0x81, .zero, 0x20, .zero⟩
    let payload := ipmbRequest reply answer.2.2
    [6, 0, 0xff, 7, 0, 0, 0, 0, 0, 0, 0, 0, 0, UInt8.ofNat payload.length] ++ payload
  ⟨1000, sending, sending,
    [⟨0, 0, sending, ⟨(answers[calls.length]?.map datagram).toList, .timeout⟩, sending⟩]⟩

/-- A date is changed over a session outside any authentication: twelve calls,
the eighth of them the write. -/
theorem kontron_fru_write_never_strands_date :
    let provider : CryptoProvider := ⟨fun _ _ _ => .error .unavailable,
      fun _ _ _ => .error .unavailable, fun _ _ _ => .error .unavailable⟩
    let ended := (applyKontronFruChange (rmcp ⟨id, none⟩ provider answering) dateChange).eval
      ⟨some (.v1_5 .new), []⟩
    (ended.1.isOk = true ∧ ended.2.calls.length = 12) ∧
    (∃ log, ended.2.calls = [] ++ log ∧ NeverStranded (.send .ipmbSequenceExhausted) dateChange log) ∧
    reservation ended.2 = none :=
  ⟨by decide +kernel, kontron_fru_write_never_strands ⟨id, none⟩ _ answering dateChange
    ⟨some (.v1_5 .new), []⟩ (by rintro active ⟨⟩; exact ⟨[], rfl⟩)⟩

end IpmiRs.Kontron
