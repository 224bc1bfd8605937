import IpmiRs.Rmcp.CipherPolicy

/-! The lists of cipher suite records that are accepted, and the suite that is
taken from them. It depends on the records alone, not on their order nor on
how they are cut into pages. -/
namespace IpmiRs.Rmcp
open Connection App.Auth Library Library.Stateful

/-- A record of a suite or of an OEM. -/
inductive CipherRecord where
  | standard (id authentication integrity confidentiality : UInt8)
  | oem (body : List UInt8) (seven : body.length = 7)
  deriving DecidableEq

namespace CipherRecord

def bytes : CipherRecord → List UInt8
  | .standard id authentication integrity confidentiality =>
    [0xC0, id, authentication, integrity, confidentiality]
  | .oem body _ => 0xC1 :: body

/-- The suite that a record advertises. -/
def suite : CipherRecord → Option CipherSuite
  | .standard id _ _ _ => CipherSuite.fromId id
  | .oem _ _ => none

/-- A record of suite 3 has RAKP-HMAC-SHA1, HMAC-SHA1-96 and AES-CBC-128, and one of suite 17 RAKP-HMAC-SHA256,
HMAC-SHA256-128 and AES-CBC-128, beside the tag bits of the algorithms. -/
def Honest : CipherRecord → Prop
  | .standard id authentication integrity confidentiality =>
    (id = 3 → [authentication &&& 0x3F, integrity &&& 0x3F, confidentiality &&& 0x3F] = [0x01, 0x01, 0x01]) ∧
    (id = 17 → [authentication &&& 0x3F, integrity &&& 0x3F, confidentiality &&& 0x3F] = [0x03, 0x04, 0x01])
  | .oem _ _ => True

end CipherRecord

theorem fromId_id3 {id : UInt8} : CipherSuite.fromId id = some .id3 ↔ id = 3 := by
  constructor
  · intro known
    unfold CipherSuite.fromId at known
    split at known <;> cases known
    exact UInt8.toNat_inj.mp ‹_›
  · rintro rfl
    rfl

theorem fromId_id17 {id : UInt8} : CipherSuite.fromId id = some .id17 ↔ id = 17 := by
  constructor
  · intro known
    unfold CipherSuite.fromId at known
    split at known <;> cases known
    exact UInt8.toNat_inj.mp ‹_›
  · rintro rfl
    rfl

/-- These are the algorithms that the suites have. -/
theorem CipherRecord.honest_iff {id authentication integrity confidentiality : UInt8} :
    (CipherRecord.standard id authentication integrity confidentiality).Honest ↔
      ∀ suite, CipherSuite.fromId id = some suite → suite = .id3 ∨ suite = .id17 →
        [authentication &&& 0x3F, integrity &&& 0x3F, confidentiality &&& 0x3F] = suite.intoSuite := by
  constructor
  · rintro ⟨third, seventeenth⟩ suite known (rfl | rfl)
    · exact third (fromId_id3.mp known)
    · exact seventeenth (fromId_id17.mp known)
  · intro own
    exact ⟨fun third => own .id3 (fromId_id3.mpr third) (.inl rfl),
      fun seventeenth => own .id17 (fromId_id17.mpr seventeenth) (.inr rfl)⟩

/-- The bytes of a list of records. -/
def listBytes (records : List CipherRecord) : List UInt8 := records.flatMap CipherRecord.bytes

/-- The best of the suites that are advertised. -/
def bestOf (records : List CipherRecord) : Option CipherSuite :=
  if records.any (·.suite == some .id17) then some .id17
  else if records.any (·.suite == some .id3) then some .id3
  else none

/-! ### What is accepted -/

/-- An honest record is passed, and its suite noted. -/
theorem selectLoop_record {record : CipherRecord} (honest : record.Honest) (rest : List UInt8)
    (found3 found17 : Bool) :
    selectLoop (record.bytes ++ rest) found3 found17 =
      selectLoop rest (found3 || record.suite == some .id3) (found17 || record.suite == some .id17) := by
  cases record with
  | standard id authentication integrity confidentiality =>
    change selectLoop (0xC0 :: id :: authentication :: integrity :: confidentiality :: rest) _ _ = _
    rw [selectLoop, if_pos rfl]
    dsimp only [CipherRecord.suite]
    cases known : CipherSuite.fromId id with
    | none => simp
    | some suite =>
      dsimp only
      split
      · rename_i used
        rw [if_neg (not_not.mpr (CipherRecord.honest_iff.mp honest suite known used))]
        rfl
      · rename_i other
        obtain ⟨not3, not17⟩ := not_or.mp other
        have unused3 : (suite == CipherSuite.id3) = false := beq_false_of_ne not3
        have unused17 : (suite == CipherSuite.id17) = false := beq_false_of_ne not17
        simp [unused3, unused17]
  | oem body seven =>
    match body, seven with
    | [_, _, _, _, _, _, _], _ =>
      change selectLoop (0xC1 :: _ :: _ :: _ :: _ :: _ :: _ :: _ :: rest) _ _ = _
      rw [selectLoop, if_neg (by decide), if_pos rfl]
      simp [CipherRecord.suite]

/-- What is accepted begins with an honest record. -/
theorem selectLoop_ok {data : List UInt8} {found3 found17 : Bool} {best : Option CipherSuite}
    (selected : selectLoop data found3 found17 = .ok best) :
    data = [] ∨ ∃ (record : CipherRecord) (rest : List UInt8), data = record.bytes ++ rest ∧ record.Honest := by
  cases data with
  | nil => exact .inl rfl
  | cons marker rest =>
    right
    unfold selectLoop at selected
    split at selected
    · rename_i standard
      subst standard
      split at selected
      · rename_i id authentication integrity confidentiality rest
        refine ⟨.standard id authentication integrity confidentiality, rest, rfl, CipherRecord.honest_iff.mpr ?_⟩
        intro suite known used
        rw [known] at selected
        dsimp only at selected
        rw [if_pos used] at selected
        split at selected
        · cases selected
        · rename_i own
          exact not_not.mp own
      · cases selected
    split at selected
    · rename_i oem
      subst oem
      split at selected
      · rename_i first second third fourth fifth sixth seventh rest
        exact ⟨.oem [first, second, third, fourth, fifth, sixth, seventh] rfl, rest, rfl, trivial⟩
      · cases selected
    · cases selected

theorem CipherRecord.bytes_pos (record : CipherRecord) : 0 < record.bytes.length := by
  cases record <;> exact Nat.succ_pos _

/-- What is made of a list of records, after suites that were found before it. -/
def bestAfter (found3 found17 : Bool) (records : List CipherRecord) : Option CipherSuite :=
  if found17 || records.any (·.suite == some .id17) then some .id17
  else if found3 || records.any (·.suite == some .id3) then some .id3
  else none

theorem selectLoop_listBytes {records : List CipherRecord} (honest : ∀ record ∈ records, record.Honest)
    (found3 found17 : Bool) :
    selectLoop (listBytes records) found3 found17 = .ok (bestAfter found3 found17 records) := by
  induction records generalizing found3 found17 with
  | nil => simp [listBytes, selectLoop, bestAfter]
  | cons record records ih =>
    obtain ⟨first, others⟩ := List.forall_mem_cons.mp honest
    rw [listBytes, List.flatMap_cons, selectLoop_record first]
    refine (ih others _ _).trans (congrArg Except.ok ?_)
    rw [bestAfter, bestAfter, List.any_cons, List.any_cons, Bool.or_assoc, Bool.or_assoc]

theorem records_of_selectLoop (n : Nat) {data : List UInt8} (length : data.length = n) {found3 found17 : Bool}
    {best : Option CipherSuite} (selected : selectLoop data found3 found17 = .ok best) :
    ∃ records, data = listBytes records ∧ ∀ record ∈ records, record.Honest := by
  induction n using Nat.strong_induction_on generalizing data found3 found17 with
  | h n ih =>
    rcases selectLoop_ok selected with rfl | ⟨record, rest, rfl, honest⟩
    · exact ⟨[], rfl, fun _ none => absurd none List.not_mem_nil⟩
    · rw [selectLoop_record honest] at selected
      have shorter : rest.length < n := by
        have some := record.bytes_pos
        rw [List.length_append] at length
        omega
      obtain ⟨records, rfl, others⟩ := ih rest.length shorter rfl selected
      exact ⟨record :: records, rfl, List.forall_mem_cons.mpr ⟨honest, others⟩⟩

/-- A list is accepted if it is one of honest records, and the best of their suites is taken. -/
theorem selectBest_eq_ok {data : List UInt8} {best : Option CipherSuite} :
    selectBest data = .ok best ↔
      ∃ records, data = listBytes records ∧ (∀ record ∈ records, record.Honest) ∧ best = bestOf records := by
  constructor
  · intro selected
    obtain ⟨records, rfl, honest⟩ := records_of_selectLoop _ rfl selected
    refine ⟨records, rfl, honest, ?_⟩
    exact Except.ok.inj (selected.symm.trans (selectLoop_listBytes honest false false))
  · rintro ⟨records, rfl, honest, rfl⟩
    exact selectLoop_listBytes honest false false

/-- Neither the order of records nor how often they are repeated matters. -/
theorem bestOf_congr {records others : List CipherRecord} (same : ∀ record, record ∈ records ↔ record ∈ others) :
    bestOf records = bestOf others := by
  have each : ∀ p : CipherRecord → Bool, records.any p = others.any p := by
    intro p
    rw [Bool.eq_iff_iff, List.any_eq_true, List.any_eq_true]
    exact exists_congr fun record => and_congr_left fun _ => same record
  rw [bestOf, bestOf, each, each]

/-! ### Pages -/

section
variable {σ ε : Type}

/-- A channel that answers with the pages of a list, whatever channel number stands before them. -/
def ServesList (con : IpmiConnection σ ε) (list : List UInt8) : Prop :=
  ∀ (s : σ) (index : Nat) (within : index ≤ 63), ∃ channel,
    (cipherSuitePage index within).command.request.Answered
      (con.transact (cipherSuitePage index within).command.request s).1 0
      (channel :: (list.drop (16 * index)).take 16)

variable {con : IpmiConnection σ ε} {list : List UInt8} {index : Nat}

/-- A page that is served is taken as it is. -/
theorem page_served (serves : ServesList con list) (s : σ) (within : index ≤ 63) :
    Ends (ExceptT.adapt ActivationError.getChannelCipherSuites
        (con.sendRecv (cipherSuitePage index within).command)) s
      (fun block _ => block = (list.drop (16 * index)).take 16) (fun _ _ => False) := by
  obtain ⟨channel, answered⟩ := serves s index within
  have parsed : (cipherSuitePage index within).command.parse (channel :: (list.drop (16 * index)).take 16) =
      .ok ((list.drop (16 * index)).take 16) := by
    refine if_neg ?_
    rintro (none | long)
    · cases none
    · rw [List.length_cons, List.length_take] at long
      omega
  have returned := IpmiCommand.readReply_answered answered parsed
  refine Ends.adapt (Ends.call (fun _ other => ?_) (fun _ failed => ?_))
  · cases returned.symm.trans other
    rfl
  · cases returned.symm.trans failed

/-- What a page adds to the pages before it, and whether it is the last. -/
theorem page_last (reached : 16 * index ≤ list.length) :
    list.take (16 * index) ++ (list.drop (16 * index)).take 16 = list.take (16 * (index + 1)) ∧
      (((list.drop (16 * index)).take 16).length < 16 ↔ list.length < 16 * (index + 1)) := by
  refine ⟨?_, ?_⟩
  · rw [← List.take_add]
    rfl
  · rw [List.length_take, List.length_drop]
    omega

theorem cipherSuitePages_served (serves : ServesList con list) (s : σ) (left index : Nat)
    (place : left + index = 63) (reached : 16 * index ≤ list.length) :
    Ends (cipherSuitePages con left index place (list.take (16 * index))) s
      (fun records _ => list.length < 1024 ∧ records = list)
      (fun error _ => 1024 ≤ list.length ∧ error = .invalidCipherSuiteList .incompleteList) := by
  induction left generalizing index s with
  | zero =>
    obtain ⟨grown, last⟩ := page_last reached
    refine Ends.bind (page_served serves s _) (fun _ _ never => never.elim) ?_
    rintro _ t rfl
    split
    · rename_i short
      have short := last.mp short
      rw [grown]
      exact Ends.pure ⟨by omega, List.take_of_length_le short.le⟩
    · rename_i full
      have full := mt last.mpr full
      exact Ends.throw ⟨by omega, rfl⟩
  | succ left ih =>
    obtain ⟨grown, last⟩ := page_last reached
    refine Ends.bind (page_served serves s _) (fun _ _ never => never.elim) ?_
    rintro _ t rfl
    split
    · rename_i short
      have short := last.mp short
      rw [grown]
      exact Ends.pure ⟨by omega, List.take_of_length_le short.le⟩
    · rename_i full
      have full := mt last.mpr full
      rw [grown]
      exact ih t (index + 1) _ (by omega)

/-- What is made of a list that is read whole. -/
def choose (data : List UInt8) : Except (ActivationError ε) CipherSuite :=
  match selectBest data with
  | .error error => .error (.invalidCipherSuiteList error)
  | .ok none => .error .noSupportedCipherSuite
  | .ok (some suite) => .ok suite

theorem bestAvailable_served (serves : ServesList con list) (s : σ) :
    ((bestAvailable con).eval s).1 =
      if list.length < 1024 then choose list else .error (.invalidCipherSuiteList .incompleteList) := by
  refine Ends.result (P := fun result _ => result =
    if list.length < 1024 then choose list else .error (.invalidCipherSuiteList .incompleteList)) ?_
  have pages := cipherSuitePages_served serves s 63 0 rfl (Nat.zero_le _)
  refine Ends.bind (E := fun error _ => .error error =
    if list.length < 1024 then choose list else .error (.invalidCipherSuiteList .incompleteList)) pages ?_ ?_
  · rintro _ t ⟨long, rfl⟩
    exact (if_neg (Nat.not_lt.mpr long)).symm
  · rintro records t ⟨short, rfl⟩
    rw [if_pos short, choose]
    cases selectBest records with
    | error error => exact Ends.throw rfl
    | ok best =>
      cases best with
      | none => exact Ends.throw rfl
      | some suite => exact Ends.pure rfl

end

/-- The choice of a suite depends only on the records that are advertised. What is accepted is an exact list
of records in which suites 3 and 17 have their own algorithms; 17 is taken if it is there, else 3; neither
order nor repetition matters. A channel that serves a list in pages has the same choice made of it as of the
whole list, and a list that fills all pages is refused. -/
theorem cipher_suite_selected :
    (∀ (data : List UInt8) (best : Option CipherSuite), selectBest data = .ok best ↔
      ∃ records, data = listBytes records ∧ (∀ record ∈ records, record.Honest) ∧ best = bestOf records) ∧
    (∀ records others : List CipherRecord, (∀ record, record ∈ records ↔ record ∈ others) →
      bestOf records = bestOf others) ∧
    ∀ (σ ε : Type) (con : IpmiConnection σ ε) (list : List UInt8) (s : σ), ServesList con list →
      ((bestAvailable con).eval s).1 =
        if list.length < 1024 then choose list else .error (.invalidCipherSuiteList .incompleteList) :=
  ⟨fun _ _ => selectBest_eq_ok, fun _ _ same => bestOf_congr same,
    fun _ _ _ _ s serves => bestAvailable_served serves s⟩

/-- A channel that advertises a list. -/
def advertising (list : List UInt8) : IpmiConnection Unit Unit where
  transact request _ :=
    let index := (request.data[2]?.getD 0 &&& 0x3F).toNat
    (.ok (request.answer 0 (0x0E :: (list.drop (16 * index)).take 16)), ())

theorem advertising_serves (list : List UInt8) : ServesList (advertising list) list := by
  intro s index within
  refine ⟨0x0E, ?_⟩
  have asked : ((0x80 ||| UInt8.ofNat index) &&& 0x3F).toNat = index := by
    rw [UInt8.toNat_and, UInt8.toNat_or, UInt8.toNat_ofNat', Nat.mod_eq_of_lt (by omega)]
    change (2 ^ 7 ||| index) &&& (2 ^ 6 - 1) = index
    rw [Nat.and_two_pow_sub_one_eq_mod, Nat.or_mod_two_pow, Nat.mod_eq_of_lt (show index < 2 ^ 6 by omega)]
    exact Nat.zero_or index
  have answered := Request.answered_answer (ε := Unit) (cipherSuitePage index within).command.request 0
    (0x0E :: (list.drop (16 * index)).take 16)
  change Request.Answered _ (.ok (Request.answer _ 0 (0x0E ::
    (list.drop (16 * ((0x80 ||| UInt8.ofNat index) &&& 0x3F).toNat)).take 16))) 0 _
  rw [asked]
  exact answered

/-- A list of an OEM record and those of suites 3, 1 and 17, which goes over the end of a page, and the suite
that is chosen of it. -/
theorem cipher_suite_selected_two_pages :
    ((bestAvailable (advertising (listBytes [.oem [1, 2, 3, 4, 5, 6, 7] rfl, .standard 3 0x01 0x41 0x81,
      .standard 1 0x01 0x00 0x00, .standard 17 0x03 0x44 0x81]))).eval ()).1 = .ok .id17 :=
  (cipher_suite_selected.2.2 _ _ _ _ () (advertising_serves _)).trans (by decide)

end IpmiRs.Rmcp
