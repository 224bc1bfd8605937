import IpmiRs.Fwum.Update

/-! What an update session may send, told from what was exchanged before: the
milestones of an update come once and in order, the image goes out in whole
and in order, and a bank is activated or rolled back on the strength of a fresh
status only. -/
namespace IpmiRs.Fwum
open Connection Library.Bytes

variable {ε : Type}

/-! ### What may be sent -/

/-- The steps of an update that are taken once. -/
def UpdateAction.once : UpdateAction → Bool
  | .startImage => true
  | .finishImage => true
  | .activate => true
  | .rollback => true
  | _ => false

/-- Neither a milestone nor a part of the image. -/
def UpdateAction.minor : UpdateAction → Bool
  | .setBuffer => true
  | .clearBuffer => true
  | _ => false

def action (exchange : Exchange ε) : Option UpdateAction :=
  UpdateAction.ofRequest exchange.request

def milestones (log : List (Exchange ε)) : List UpdateAction :=
  (log.filterMap action).filter UpdateAction.once

/-- The bytes of the image a Save Image carries. -/
def payload (mode : DownloadMode) (exchange : Exchange ε) : List UInt8 :=
  exchange.request.data.drop
    (match mode with
    | .address => 4
    | .sequence => 1)

def payloads (mode : DownloadMode) (log : List (Exchange ε)) : List (List UInt8) :=
  (log.filter fun exchange => action exchange = some .saveImage).map (payload mode)

/-- The byte of a state. -/
def BankState.value : BankState → UInt8
  | .empty => 0
  | .newFirmware => 1
  | .waitingForValidation => 2
  | .lastKnownGood => 3
  | .previousGood => 4

theorem BankState.ofByte_eq_ok {byte : UInt8} {state : BankState} (read : BankState.ofByte byte = .ok state) :
    byte = state.value := by
  unfold BankState.ofByte at read
  split at read <;> cases read
  all_goals exact UInt8.toNat_inj.mp ‹_›

/-- A status that was read is that of seven bytes of its reply. -/
theorem BankStatus.parse_eq_ok {data : List UInt8} {status : BankStatus} (parsed : BankStatus.parse data = .ok status)
    (some : status.state ≠ .empty) :
    ∃ low middle high major minor sdr rest,
      data = status.state.value :: low :: middle :: high :: major :: minor :: sdr :: rest ∧
      status.length.toNat = low.toNat + 256 * middle.toNat + 65536 * high.toNat ∧
      status.revision = ⟨major, minor >>> 4, minor &&& 0x0F, .some sdr⟩ := by
  unfold BankStatus.parse Fwum.length at parsed
  by_cases short : data.length < 7
  · rw [if_pos short] at parsed
    cases parsed
  by_cases long : 32 < data.length
  · rw [if_neg short, if_pos long] at parsed
    cases parsed
  rw [if_neg short, if_neg long] at parsed
  rcases data with _ | ⟨byte, _ | ⟨low, _ | ⟨middle, _ | ⟨high, _ | ⟨major, _ | ⟨minor, _ | ⟨sdr, rest⟩⟩⟩⟩⟩⟩⟩
  iterate 7 exact absurd (by simp) short
  have returned : (BankState.ofByte byte >>= fun state => if state = .empty then
      pure ⟨state, 0, Fwum.revision 0 0 none⟩ else pure ⟨state, UInt32.ofNat (ofLe [low, middle, high]),
        Fwum.revision major minor (Option.some sdr)⟩ : Except FwumParseError BankStatus) = .ok status := parsed
  cases known : BankState.ofByte byte with
  | error error =>
    rw [known] at returned
    cases returned
  | ok state =>
    rw [known] at returned
    change (if state = .empty then _ else _) = _ at returned
    by_cases empty : state = .empty
    · rw [if_pos empty] at returned
      cases returned
      exact absurd empty some
    · rw [if_neg empty] at returned
      cases returned
      refine ⟨low, middle, high, major, minor, sdr, rest, by rw [BankState.ofByte_eq_ok known], ?_, rfl⟩
      have small := ofLe_lt [low, middle, high]
      simp only [List.length_cons, List.length_nil] at small
      rw [UInt32.toNat_ofNat', Nat.mod_eq_of_lt (by omega)]
      simp only [ofLe]
      omega

/-- What an upload adds to a part also has room. -/
theorem TransportLimits.within_capacity (limits : TransportLimits) (mode : DownloadMode) {count : Nat}
    (some : 0 < count) (fits : count ≤ limits.capacity mode) :
    ∀ most ∈ limits.maxRequestBytes :: limits.negotiatedBufferBytes.toList,
      count + (if mode = .address then 6 else 4) ≤ most.toNat := by
  have added : (if mode = .address then 6 else 4) = TransportLimits.overhead mode := by cases mode <;> rfl
  rw [added]
  unfold TransportLimits.capacity at fits
  intro most among
  rcases List.mem_cons.mp among with rfl | buffer
  · omega
  · rw [Option.mem_toList.mp buffer] at fits
    simp only [Option.getD_some] at fits
    omega

namespace UpdatePlan

def start (plan : UpdatePlan) : OemCommand UInt8 FwumParseError :=
  startImage plan.target (UInt32.ofNat plan.image.len) plan.image.padding plan.mode

/-- The part of the image to send after others. -/
def save (plan : UpdatePlan) (sent : List (List UInt8)) (part : List UInt8) :
    OemCommand Unit FwumParseError :=
  saveImage plan.target (UInt32.ofNat sent.flatten.length) (UInt8.ofNat sent.length) part plan.mode

/-- The bytes of the Save Image that sends the part after others: where the part begins, in three bytes, and how
long it is, or how many parts there were. -/
def saveData (plan : UpdatePlan) (sent : List (List UInt8)) (part : List UInt8) : List UInt8 :=
  let offset := sent.flatten.length
  (if plan.mode = .address then
    [UInt8.ofNat offset, UInt8.ofNat (offset / 256), UInt8.ofNat (offset / 65536), UInt8.ofNat part.length]
  else [UInt8.ofNat sent.length]) ++ part

/-- The bank a reply to Start Image selects, its only byte, if it is one that may be written. -/
def selected (plan : UpdatePlan) (reply : Except ε Response) : Option UInt8 :=
  match reply with
  | .error _ => none
  | .ok response =>
    match response.data with
    | [bank] =>
      if (response.netfnRaw = 0x09 ∧ response.cmd = 0x0A ∧ response.cc = 0x00) ∧
          bank < plan.baselineCount ∧ bank ≠ plan.oldGoodBank then some bank
      else none
    | _ => none

/-- The bank that was selected for the image. -/
def bank (plan : UpdatePlan) (log : List (Exchange ε)) : Option UInt8 :=
  (log.find? fun exchange => action exchange = some .startImage).bind
    fun exchange => plan.selected exchange.reply

/-- A part goes on where others ended, within the transport, which also carries six bytes before it or four, and
within a page. -/
structure Fits (plan : UpdatePlan) (sent : List (List UInt8)) (part : List UInt8) : Prop where
  nonempty : part ≠ []
  next : sent.flatten ++ part <+: plan.image.bytes
  capacity : ∀ most ∈ plan.limits.maxRequestBytes :: plan.limits.negotiatedBufferBytes.toList,
    part.length + (if plan.mode = .address then 6 else 4) ≤ most.toNat
  page : (sent.flatten.length + part.length - 1) / 256 = sent.flatten.length / 256

/-- A bank was answered to be in a state, with this length and revision: the state is the first byte, the length
the next three, and the revision three more. -/
def ShowsBank (plan : UpdatePlan) (bank state : UInt8) (length : Nat) (revision : Revision)
    (log : List (Exchange ε)) : Prop :=
  ∃ exchange ∈ log, exchange.request = (getStatus plan.target bank).request ∧
    ∃ low middle high major minor sdr rest, exchange.request.Answered exchange.reply 0
        (state :: low :: middle :: high :: major :: minor :: sdr :: rest) ∧
      length = low.toNat + 256 * middle.toNat + 65536 * high.toNat ∧
      revision = ⟨major, minor >>> 4, minor &&& 0x0F, some sdr⟩

/-- Statuses were read of a bank that holds the image and of the old one, which
is as it was but for its state. -/
structure Shows (plan : UpdatePlan) (bank new old : UInt8) (log : List (Exchange ε)) : Prop where
  new : plan.ShowsBank bank new plan.image.len plan.image.revision log
  old : plan.ShowsBank plan.oldGoodBank old plan.oldGood.length.toNat plan.oldGood.revision log

theorem Shows.mono {plan : UpdatePlan} {bank new old : UInt8}
    {log more : List (Exchange ε)} (shows : plan.Shows bank new old log) (sub : log ⊆ more) :
    plan.Shows bank new old more where
  new := shows.new.imp fun _ shown => ⟨sub shown.1, shown.2⟩
  old := shows.old.imp fun _ shown => ⟨sub shown.1, shown.2⟩

/-- Statuses were read since the last command that changed anything. -/
def ShownLast (plan : UpdatePlan) (bank new old : UInt8) (log : List (Exchange ε)) : Prop :=
  ∃ before recent, log = before ++ recent ∧ (∀ exchange ∈ recent, action exchange = none) ∧
    plan.Shows bank new old recent

/-- What may be exchanged after the exchanges before it. The states of a bank are new firmware, 1, last known good,
3, and previous good, 4. -/
def Allowed (plan : UpdatePlan) (verified : Prop) (earlier : List (Exchange ε))
    (exchange : Exchange ε) : Prop :=
  match action exchange with
  | some .startImage => milestones earlier = [] ∧ exchange.request = plan.start.request
  | some .saveImage =>
    milestones earlier = [.startImage] ∧ (∃ bank, plan.bank earlier = some bank) ∧
      plan.Fits (payloads plan.mode earlier) (payload plan.mode exchange) ∧
      exchange.request =
        (plan.save (payloads plan.mode earlier) (payload plan.mode exchange)).request ∧
      exchange.request.data = plan.saveData (payloads plan.mode earlier) (payload plan.mode exchange)
  | some .finishImage =>
    milestones earlier = [.startImage] ∧ (∃ bank, plan.bank earlier = some bank) ∧
      (payloads plan.mode earlier).flatten = plan.image.bytes ∧
      exchange.request = (finishImage plan.target plan.image.revision).request
  | some .activate =>
    milestones earlier = [.startImage, .finishImage] ∧
      exchange.request = (startUpdate plan.target).request ∧
      ∃ bank, plan.bank earlier = some bank ∧
        plan.ShownLast bank 1 3 earlier
  | some .rollback =>
    milestones earlier = [.startImage, .finishImage, .activate] ∧ verified ∧
      exchange.request = (manualRollback plan.target).request ∧
      ∃ bank, plan.bank earlier = some bank ∧
        plan.ShownLast bank 3 4 earlier
  | _ => True

/-- Everything exchanged was allowed by what had been exchanged before. -/
def Safe (plan : UpdatePlan) (verified : Prop) (log : List (Exchange ε)) : Prop :=
  ∀ earlier exchange later, log = earlier ++ exchange :: later →
    plan.Allowed verified earlier exchange

end UpdatePlan

/-! ### Reading a log -/

/-- Exchanges that are neither milestones nor carry the image. -/
def Minor (log : List (Exchange ε)) : Prop :=
  ∀ exchange ∈ log, ∀ one ∈ action exchange, one.minor

section logs
variable {plan : UpdatePlan} {verified : Prop} {log more earlier later : List (Exchange ε)}
  {one : Exchange ε} {mode : DownloadMode}

theorem minor_of_quiet (quiet : ∀ exchange ∈ log, action exchange = none) : Minor log := by
  intro exchange member one same
  rw [quiet exchange member] at same
  cases same

theorem Minor.append (first : Minor log) (second : Minor more) : Minor (log ++ more) := by
  intro exchange member
  rcases List.mem_append.mp member with left | right
  · exact first exchange left
  · exact second exchange right

theorem milestones_append (log more : List (Exchange ε)) :
    milestones (log ++ more) = milestones log ++ milestones more := by
  simp [milestones]

theorem payloads_append (log more : List (Exchange ε)) :
    payloads mode (log ++ more) = payloads mode log ++ payloads mode more := by
  simp [payloads]

theorem milestones_minor (minor : Minor more) : milestones more = [] := by
  rw [milestones, List.filter_eq_nil_iff]
  intro one member
  obtain ⟨exchange, inside, same⟩ := List.mem_filterMap.mp member
  have small := minor exchange inside one same
  cases one <;> simp_all [UpdateAction.minor, UpdateAction.once]

theorem payloads_minor (minor : Minor more) : payloads mode more = [] := by
  rw [payloads, List.map_eq_nil_iff, List.filter_eq_nil_iff]
  intro exchange inside same
  have small := minor exchange inside .saveImage (of_decide_eq_true same)
  cases small

theorem milestones_one {kind : UpdateAction} (same : action one = some kind) :
    milestones [one] = if kind.once then [kind] else [] := by
  simp only [milestones, List.filterMap_cons, same, List.filterMap_nil]
  cases once : kind.once <;> simp [once]

theorem payloads_one (same : action one = some .saveImage) :
    payloads mode [one] = [payload mode one] := by
  simp [payloads, same]

theorem payloads_other {kind : UpdateAction} (same : action one = some kind)
    (other : kind ≠ .saveImage) : payloads mode [one] = [] := by
  simp [payloads, same, other]

/-- Once an image was begun, the bank selected for it stays. -/
theorem UpdatePlan.bank_append (begun : .startImage ∈ milestones log) :
    plan.bank (log ++ more) = plan.bank log := by
  obtain ⟨exchange, inside, same⟩ := List.mem_filterMap.mp (List.mem_filter.mp begun).1
  unfold bank
  rw [List.find?_append]
  cases found : log.find? fun exchange => action exchange = some .startImage with
  | some exchange => rfl
  | none => exact absurd (decide_eq_true same) (List.find?_eq_none.mp found exchange inside)

theorem UpdatePlan.bank_begun (nothing : milestones log = []) (same : action one = some .startImage) :
    plan.bank (log ++ [one]) = plan.selected one.reply := by
  unfold bank
  have absent : (log.find? fun exchange => action exchange = some .startImage) = none := by
    rw [List.find?_eq_none]
    intro exchange inside begun
    have member : UpdateAction.startImage ∈ milestones log :=
      List.mem_filter.mpr ⟨List.mem_filterMap.mpr ⟨exchange, inside, of_decide_eq_true begun⟩, rfl⟩
    rw [nothing] at member
    cases member
  rw [List.find?_append, absent]
  simp [same]

/-- The bank selected is not the old good one. -/
theorem UpdatePlan.bank_ne {bank : UInt8} (selected : plan.bank log = some bank) :
    bank < plan.baselineCount ∧ bank ≠ plan.oldGoodBank := by
  obtain ⟨exchange, _, read⟩ := Option.bind_eq_some_iff.mp selected
  unfold UpdatePlan.selected at read
  split at read
  · cases read
  split at read
  · split at read
    · rename_i ok
      rw [← Option.some.inj read]
      exact ok.2
    · cases read
  · cases read

theorem StartedBank.parse_eq_ok {data : List UInt8} {bank : UInt8}
    (parsed : StartedBank.parse data = .ok bank) : data = [bank] := by
  unfold StartedBank.parse length at parsed
  rcases data with _ | ⟨only, _ | ⟨second, rest⟩⟩
  · cases parsed
  · cases parsed
    rfl
  · simp at parsed

/-- What Start Image returns is the bank that its reply selects. -/
theorem UpdatePlan.selected_eq {reply : Except ε Response} {bank : UInt8}
    (answer : (plan.start.readReply reply : Except (IpmiError ε FwumParseError) UInt8) = .ok bank)
    (fine : bank < plan.baselineCount ∧ bank ≠ plan.oldGoodBank) : plan.selected reply = some bank := by
  obtain ⟨response, rfl, netfn, cmd, cc, parsed⟩ := IpmiCommand.readReply_eq_ok.mp answer
  have only := StartedBank.parse_eq_ok parsed
  unfold UpdatePlan.selected
  dsimp only
  rw [only]
  exact if_pos ⟨⟨netfn, cmd, cc⟩, fine⟩

theorem UpdatePlan.save_data (sent : List (List UInt8)) (part : List UInt8) :
    (plan.save sent part).request.data = plan.saveData sent part := by
  cases shape : plan.mode with
  | address =>
    have three : toLe 3 (UInt32.ofNat sent.flatten.length).toNat = [UInt8.ofNat sent.flatten.length,
        UInt8.ofNat (sent.flatten.length / 256), UInt8.ofNat (sent.flatten.length / 65536)] := by
      have low := toLe_mod (show 3 ≤ 4 by decide) sent.flatten.length
      simp only [toLe, Nat.div_div_eq_div_mul] at low ⊢
      exact low
    rw [saveData, if_pos shape, save, shape]
    change (toLe 3 (UInt32.ofNat sent.flatten.length).toNat ++ [UInt8.ofNat part.length]) ++ part = _
    rw [three]
    rfl
  | sequence =>
    rw [saveData, if_neg (by rw [shape]; decide), save, shape]
    rfl

theorem payload_save {sent : List (List UInt8)} {part : List UInt8}
    (same : one.request = (plan.save sent part).request) : payload plan.mode one = part := by
  unfold payload
  rw [same]
  cases shape : plan.mode <;>
    simp [UpdatePlan.save, saveImage, FwumTarget.command, IpmiCommand.request, Request.data,
      request, Message.newRequest, toLe, shape]

theorem UpdatePlan.Safe.nil : plan.Safe verified ([] : List (Exchange ε)) := by
  intro earlier exchange later same
  simp at same

theorem UpdatePlan.Safe.concat (safe : plan.Safe verified log)
    (allowed : plan.Allowed verified log one) : plan.Safe verified (log ++ [one]) := by
  intro earlier exchange later same
  rcases List.eq_nil_or_concat later with rfl | ⟨later, last, rfl⟩
  · obtain ⟨rfl, rfl⟩ := List.append_inj' same rfl |>.imp id (List.cons.inj · |>.1)
    exact allowed
  · rw [List.concat_eq_append, ← List.cons_append, ← List.append_assoc] at same
    exact safe earlier exchange later (List.append_inj' same rfl).1

/-- What is neither a milestone nor a part of the image is always allowed. -/
theorem UpdatePlan.Safe.append (safe : plan.Safe verified log) (minor : Minor more) :
    plan.Safe verified (log ++ more) := by
  induction more using List.reverseRecOn with
  | nil => rwa [List.append_nil]
  | append_singleton more one ih =>
    rw [← List.append_assoc]
    refine (ih fun exchange member => minor exchange (List.mem_append_left _ member)).concat ?_
    have small := minor one (List.mem_append_right _ (List.mem_singleton_self _))
    unfold Allowed
    cases same : action one with
    | none => trivial
    | some kind =>
      have allowed := small kind same
      cases kind <;> simp_all [UpdateAction.minor]

theorem UpdatePlan.Allowed.mono {more : Prop} (allowed : plan.Allowed verified log one)
    (grown : verified → more) : plan.Allowed more log one := by
  unfold Allowed at allowed ⊢
  split at allowed
  case h_5 =>
    exact ⟨allowed.1, grown allowed.2.1, allowed.2.2⟩
  all_goals exact allowed

theorem UpdatePlan.Safe.mono {more : Prop} (safe : plan.Safe verified log)
    (grown : verified → more) : plan.Safe more log :=
  fun earlier exchange later same => (safe earlier exchange later same).mono grown

/-- The milestones of an update come at most once each, and in this order. -/
theorem UpdatePlan.Safe.milestones (safe : plan.Safe verified log) :
    Fwum.milestones log <+: [.startImage, .finishImage, .activate, .rollback] := by
  induction log using List.reverseRecOn with
  | nil => exact List.nil_prefix
  | append_singleton log one ih =>
    have before := ih fun earlier exchange later same =>
      safe earlier exchange (later ++ [one]) (by rw [same]; simp)
    have allowed := safe log one [] rfl
    rw [milestones_append]
    unfold Allowed at allowed
    cases same : action one with
    | none => simpa [Fwum.milestones, same] using before
    | some kind =>
      rw [same] at allowed
      rw [milestones_one same]
      cases kind with
      | setBuffer => simpa [UpdateAction.once] using before
      | clearBuffer => simpa [UpdateAction.once] using before
      | saveImage => simpa [UpdateAction.once] using before
      | startImage => simp [UpdateAction.once, allowed.1]
      | finishImage => simp [UpdateAction.once, allowed.1]
      | activate => simp [UpdateAction.once, allowed.1]
      | rollback => simp [UpdateAction.once, allowed.1]

end logs

end IpmiRs.Fwum
