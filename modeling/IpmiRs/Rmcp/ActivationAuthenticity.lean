import IpmiRs.Rmcp.ActivationPolicy
import IpmiRs.Rmcp.HandshakeAuthenticity

/-! Whom an activation accepts. A suite policy is answered with an RMCP+
session of the suite it stands for, or with none, and an RMCP+ session is one
with a BMC that showed that it knows the password. -/
namespace IpmiRs.Rmcp
open App App.Auth Connection Library Library.Checksum Library.Stateful

/-! ### The suite -/

/-- The records advertise the suite of the ID. -/
def Advertised (records : List CipherRecord) (id : UInt8) : Prop :=
  ∃ authentication integrity confidentiality,
    CipherRecord.standard id authentication integrity confidentiality ∈ records

theorem any_suite {records : List CipherRecord} {suite : CipherSuite} {id : UInt8}
    (own : ∀ value, CipherSuite.fromId value = some suite ↔ value = id) :
    records.any (·.suite == some suite) = true ↔ Advertised records id := by
  rw [List.any_eq_true]
  constructor
  · rintro ⟨record, member, same⟩
    cases record with
    | oem body seven => cases same
    | standard value authentication integrity confidentiality =>
      obtain rfl := (own value).mp (eq_of_beq same)
      exact ⟨authentication, integrity, confidentiality, member⟩
  · rintro ⟨authentication, integrity, confidentiality, member⟩
    refine ⟨_, member, ?_⟩
    rw [CipherRecord.suite, (own id).mpr rfl, beq_self_eq_true]

/-- The best suite is 17 if it is advertised, and else 3 if that is. -/
theorem bestOf_eq_some {records : List CipherRecord} {suite : CipherSuite} :
    bestOf records = some suite ↔
      suite = .id17 ∧ Advertised records 17 ∨
        suite = .id3 ∧ ¬Advertised records 17 ∧ Advertised records 3 := by
  unfold bestOf
  by_cases seventeenth : Advertised records 17
  · rw [if_pos ((any_suite fun _ => fromId_id17).mpr seventeenth)]
    simp [seventeenth, eq_comm]
  · rw [if_neg fun some => seventeenth ((any_suite fun _ => fromId_id17).mp some)]
    by_cases third : Advertised records 3
    · rw [if_pos ((any_suite fun _ => fromId_id3).mpr third)]
      simp [seventeenth, third, eq_comm]
    · rw [if_neg fun some => third ((any_suite fun _ => fromId_id3).mp some)]
      simp [seventeenth, third]

/-- The suite is the one that a policy stands for, by what the calls listed. -/
structure Suits (policy : Option CipherSuitePolicy) (listing : List (Exchange RmcpIpmiError))
    (suite : CipherSuite) : Prop where
  exact : ∀ asked, policy = some (.exact asked) → suite = asked
  bestAvailable : policy = some .bestAvailable → ∃ records, Listed 0 listing (listBytes records) ∧
    (suite = .id17 ∧ Advertised records 17 ∨ suite = .id3 ∧ ¬Advertised records 17 ∧ Advertised records 3)
  default : policy = none → suite = .id3

theorem Chosen.suits {policy : Option CipherSuitePolicy} {listing : List (Exchange RmcpIpmiError)}
    {suite : CipherSuite} (chosen : Chosen policy listing suite) : Suits policy listing suite := by
  cases chosen with
  | exact implemented =>
    refine ⟨fun asked same => ?_, fun same => ?_, fun same => ?_⟩
    · cases same
      rfl
    · cases same
    · cases same
  | bestAvailable records listed honest best =>
    refine ⟨fun asked same => ?_, fun _ => ⟨records, listed, bestOf_eq_some.mp best⟩, fun same => ?_⟩
    · cases same
    · cases same
  | default =>
    refine ⟨fun asked same => ?_, fun same => ?_, fun _ => rfl⟩
    · cases same
    · cases same

/-! ### The session -/

/-- The session is one with a BMC that opened it with the suite and the privilege of the configuration, showed that
it knows the password, and confirmed the keys that the session has. -/
def Authenticated (config : SessionConfig) (met : HandshakeConditions) (suite : CipherSuite) (s : V2State) : Prop :=
  ∃ (username : Username) (bmc : ManagedSystem) (hash : HashAlgorithm) (keys : Keys) (proof : List UInt8),
    handshakeUsername config.username = .ok username ∧ bmc.Opened met suite (some config.privilege) ∧
    bmc.Knows met username suite config.backend.provider (config.password.getD []) hash ∧
    bmc.Derives met username config.backend.provider (config.password.getD []) config.kg hash keys proof ∧
    bmc.Confirms met config.backend.provider hash keys ∧ s = bmc.session met suite config.kg keys

/-- The suite policy is answered with RMCP+, and an RMCP+ session is authenticated with the suite of the policy. -/
theorem Established.authenticated {requireRmcpPlus rmcpPlus : Bool} {policy : Option CipherSuitePolicy}
    {config : SessionConfig} {met : ActivationConditions} {calls : List (Exchange RmcpIpmiError)} {active : Active}
    (established : Established requireRmcpPlus rmcpPlus policy config met calls active) :
    (policy.isSome = true → ∃ s, active = .v2_0 s) ∧
      ∀ s, active = .v2_0 s → ∃ first listing suite, calls = first :: listing ∧ Suits policy listing suite ∧
        Authenticated config met.handshake suite s := by
  cases established with
  | rmcpPlus discovered asked supported chosen named handshake =>
    refine ⟨fun _ => ⟨_, rfl⟩, ?_⟩
    rintro s ⟨⟩
    obtain ⟨bmc, hash, keys, proof, opened, knows, derives, confirms, -, session, -⟩ := activate_accepts handshake
    exact ⟨_, _, _, rfl, chosen.suits, _, bmc, hash, keys, proof, named, opened, knows, derives, confirms, session⟩
  | legacy discovered free plain supported begun =>
    refine ⟨fun some => ?_, fun s same => ?_⟩
    · rw [free] at some
      cases some
    · cases same

/-- An activation that returns has answered a suite policy with RMCP+, and an RMCP+ session that it returns has the
suite that the policy stands for and is one with a BMC that knows the password. One that fails leaves no session, or
has refused a suite or backend before it touched the connection. -/
theorem activation_authenticates (digests : Digests) (requireRmcpPlus rmcpPlus : Bool)
    (policy : Option CipherSuitePolicy) (config : SessionConfig) (met : ActivationConditions) (c : RmcpConnection) :
    Ends (activateWithSelection digests requireRmcpPlus rmcpPlus policy config met) c
      (fun _ t => ∃ active, t = { c with active := some active } ∧
        (policy.isSome = true → ∃ s, active = .v2_0 s) ∧
        ∀ s, active = .v2_0 s → ∃ first listing suite,
          activationCalls digests requireRmcpPlus rmcpPlus policy config met = first :: listing ∧
          Suits policy listing suite ∧ Authenticated config met.handshake suite s)
      (fun _ t => t = { c with active := none } ∨ t = c ∧
        ((∃ suite, policy = some (.exact suite) ∧ suite ≠ .id3 ∧ suite ≠ .id17) ∨
          config.backend.available = false)) := by
  refine (activateWithSelection_ends digests requireRmcpPlus rmcpPlus
    fun implemented => activateInactive_ends digests requireRmcpPlus rmcpPlus implemented).mono ?_ ?_
  · rintro _ t ⟨active, rfl, established, -⟩
    exact ⟨active, rfl, established.authenticated⟩
  · rintro error t (⟨rfl, ⟨suite, exact, third, seventeenth, -⟩ | ⟨-, absent, -⟩⟩ | rfl)
    · exact .inr ⟨rfl, .inl ⟨suite, exact, third, seventeenth⟩⟩
    · exact .inr ⟨rfl, .inr absent⟩
    · exact .inl rfl

/-! ### A BMC with suites 3 and 17 -/

/-- A digest of a sum, and no encryption. -/
def sumProvider : CryptoProvider where
  mac hash key message := .ok (.replicate hash.digestLen (total (key ++ message)))
  cbcEncrypt _ _ plain := .ok plain
  cbcDecrypt _ _ sealed := .ok sealed

def sentAtOnce : Sending := ⟨false, 0, none, true⟩

/-- A reply of the BMC to a command before the session. -/
def repliedBefore (place command : UInt8) (data : List UInt8) : Conditions :=
  let body := [0x20, place, command, 0] ++ data
  let payload := [0x81, 0x1c, 0x63] ++ body ++ [-total body]
  ⟨1000, sentAtOnce, sentAtOnce, [⟨0, 0, sentAtOnce, ⟨[[6, 0, 0xff, 7, 0, 0, 0, 0, 0, 0, 0, 0, 0,
    UInt8.ofNat payload.length] ++ payload], .timeout⟩, sentAtOnce⟩]⟩

/-- A handshake for suite 17 with a BMC that sends some key exchange code. -/
def heldWith (code : UInt8) : HandshakeConditions where
  deadline := 1000
  consoleSessionId := firstSequence
  random := ⟨.replicate 16 3, List.length_replicate⟩
  requestSending := sentAtOnce
  openSession := ⟨[handshakeDatagram .rmcpPlusOpenSessionResponse ([0, 0, 4, 0, 1, 0, 0, 0, 1, 0, 0, 0] ++
    [0, 0, 0, 8, 3, 0, 0, 0] ++ [1, 0, 0, 8, 4, 0, 0, 0] ++ [2, 0, 0, 8, 1, 0, 0, 0])], .timeout⟩
  rakp1Sending := sentAtOnce
  rakp2 := ⟨[handshakeDatagram .rakpMessage2 ([0x0D, 0, 0, 0, 1, 0, 0, 0] ++ .replicate 16 7 ++ .replicate 16 9 ++
    .replicate 32 code)], .timeout⟩
  rakp3Sending := sentAtOnce
  rakp4 := ⟨[handshakeDatagram .rakpMessage4 ([0x0A, 0, 0, 0, 1, 0, 0, 0] ++ .replicate 16 1)], .timeout⟩

/-- It answers the ping, tells that it has both versions, and lists suites 3 and 17. -/
def metBmc (code : UInt8) : ActivationConditions where
  bound := true
  cancelled := false
  pinged := true
  pong := ⟨[[6, 0, 0xff, 6, 0, 0, 0x11, 0xbe, 0x40, 0xc8, 0, 16, 0, 0, 0x11, 0xbe, 0, 0, 0, 0, 0x81, 0, 0, 0, 0, 0,
    0, 0]], .timeout⟩
  world calls :=
    if calls.length = 0 then repliedBefore 0 0x38 [1, 0x80, 0, 3, 0, 0, 0, 0]
    else repliedBefore 4 0x54 [1, 0xC0, 3, 0x01, 0x41, 0x81, 0xC0, 17, 0x03, 0x44, 0x81]
  handshake := heldWith code

def bestConfig : SessionConfig := ⟨none, some [1, 2, 3], none, .administrator, .bestAvailable, ⟨sumProvider, true⟩⟩

def zeroDigests : Digests := ⟨fun _ => .replicate 16 0, none⟩

def activated (code : UInt8) : Except RmcpActivationError Unit × RmcpConnection :=
  (activateWithSelection zeroDigests true true (some .bestAvailable) bestConfig
    (metBmc code)).eval ⟨none, []⟩

/-- The session is one with a BMC that knows the password; one that does not is refused. -/
theorem activation_authenticates_best_available :
    (∃ suite s, (activated 60).2.active = some (.v2_0 s) ∧ Authenticated bestConfig (heldWith 60) suite s) ∧
      (activated 61).1 = .error (.v2_0 .serverAuthenticationFailed) := by
  have accepted (met : ActivationConditions) (returned : ((activateWithSelection zeroDigests true true
      (some .bestAvailable) bestConfig met).eval ⟨none, []⟩).1 = .ok ()) :
      ∃ suite s, ((activateWithSelection zeroDigests true true (some .bestAvailable) bestConfig met).eval
        ⟨none, []⟩).2.active = some (.v2_0 s) ∧ Authenticated bestConfig met.handshake suite s := by
    obtain ⟨active, reached, plus, authenticated⟩ := (activation_authenticates zeroDigests true true
      (some .bestAvailable) bestConfig met ⟨none, []⟩).evaluated.1 () returned
    obtain ⟨s, rfl⟩ := plus rfl
    obtain ⟨_, _, suite, -, -, own⟩ := authenticated s rfl
    exact ⟨suite, s, congrArg RmcpConnection.active reached, own⟩
  have returned : (activated 60).1 = .ok () := by decide +kernel
  unfold activated at returned ⊢
  exact ⟨accepted _ returned, by decide +kernel⟩

end IpmiRs.Rmcp
