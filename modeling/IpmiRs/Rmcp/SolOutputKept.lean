import IpmiRs.Rmcp.SolLedger

/-! What each call does with the console output: the bytes that wait and those
that arrive during the call are handed over by it, or still wait after it. -/
namespace IpmiRs.Rmcp.Sol
open App.Auth Connection Library Library.Stateful Library.Runs

/-! ### The log grows -/

/-- The log is continued. -/
def Grown (t u : Logged) : Prop := t.2 <+: u.2

instance grown_preorder : IsPreorder Logged Grown where
  refl t := List.prefix_refl t.2
  trans _ _ _ early late := early.trans late

section
variable {digests : Digests} {backend : Backend} {remotePort : UInt16}

end

/-- The output that a call took from the wire. -/
def arrived (m : Move Logged SolCall (Except Halt (List UInt8))) : List UInt8 :=
  (takenOutput m.after.2).drop (takenOutput m.before.2).length

section
variable {digests : Digests} {backend : Backend} {remotePort : UInt16} {handed : List UInt8} {t : Logged}

end

/-- An RMCP+ session without authentication or encryption. -/
def plainSession : V2State :=
  ⟨firstSequence, firstSequence, firstSequence, none, ⟨[], none, .empty⟩, .default, none⟩

def plainBackend : Backend := ⟨.recorded [] [] [], true⟩

def plainDigests : Digests := ⟨fun _ => .replicate 16 0, none⟩

def prompt : Sending := ⟨false, 0, none, true⟩

/-- One packet of the BMC: of a payload type, and under a session sequence number. -/
def consolePacket (ty sequence : UInt8) (payload : List UInt8) : Turn :=
  ⟨0, 0, prompt, ⟨[[6, 0, 0xff, 7, 6, ty, 1, 0, 0, 0, sequence, 0, 0, 0, UInt8.ofNat payload.length, 0] ++
    payload], .timeout⟩, prompt⟩

def metWith (turns : List Turn) : Conditions := ⟨1000, prompt, prompt, turns⟩

theorem one_bounds : (1 : UInt8) ≤ 1 ∧ (1 : UInt8) ≤ 15 := by decide

def firstInstance : SolInstance := ⟨1, one_bounds⟩

end IpmiRs.Rmcp.Sol
