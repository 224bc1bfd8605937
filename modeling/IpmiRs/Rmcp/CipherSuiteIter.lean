import IpmiRs.Rmcp.CipherSelection

/-! The iterator over cipher suite records, `ChannelCipherSuites::parse_full_data`, beside
the choice among the same records. An OEM record ends it, an unknown suite lets it
go on in the middle of a record. -/
namespace IpmiRs.Rmcp
open App.Auth

/-- The iterator of `parse_full_data`: the bytes that are left, and whether it failed. -/
structure SuiteIter where
  inner : List UInt8
  failed : Bool

namespace SuiteIter

def next (iter : SuiteIter) : Option CipherSuite × SuiteIter :=
  if iter.failed then (none, iter)
  else
    match iter.inner with
    | [] => (none, iter)
    | startOfRecord :: inner =>
      if startOfRecord = 0xC0 then
        match inner with
        | [] => (none, ⟨[], false⟩)
        | id :: inner =>
          match CipherSuite.fromId id with
          | none => (none, ⟨inner, false⟩)
          | some suite =>
            match inner with
            | _ :: _ :: _ :: inner => (some suite, ⟨inner, false⟩)
            -- What there is of the algorithms has been taken.
            | _ => (none, ⟨[], false⟩)
      else (none, ⟨inner, true⟩)

/-- What the call of `next` after so many calls yields. -/
def yields (iter : SuiteIter) : Nat → Option CipherSuite
  | 0 => iter.next.1
  | n + 1 => iter.next.2.yields n

end SuiteIter

/-- `ChannelCipherSuites::parse_full_data` -/
def parseFullData (data : List UInt8) : SuiteIter := ⟨data, false⟩

/-! ### Where the iterator ends -/

/-- Bytes in the middle of a record from which the iterator goes on to yield a suite. -/
inductive Restarts : List UInt8 → Prop
  | here {id : UInt8} {suite : CipherSuite} (known : CipherSuite.fromId id = some suite)
      (first second third : UInt8) (rest : List UInt8) : Restarts (0xC0 :: id :: first :: second :: third :: rest)
  | later {id : UInt8} {rest : List UInt8} (unknown : CipherSuite.fromId id = none) (restarts : Restarts rest) :
      Restarts (0xC0 :: id :: rest)

/-- The iterator goes over all the records that advertise a known suite before any other, and does not start
again in the middle of the first other one. -/
def Uninterrupted (records : List CipherRecord) : Prop :=
  (∀ record ∈ records.dropWhile (·.suite.isSome), record.suite = none) ∧
    ∀ id authentication integrity confidentiality more,
      records.dropWhile (·.suite.isSome) = .standard id authentication integrity confidentiality :: more →
      ¬Restarts (authentication :: integrity :: confidentiality :: listBytes more)

theorem SuiteIter.yields_failed (inner : List UInt8) (n : Nat) : SuiteIter.yields ⟨inner, true⟩ n = none := by
  induction n with
  | zero => rfl
  | succ n ih => exact ih

theorem SuiteIter.yields_nil (n : Nat) : SuiteIter.yields ⟨[], false⟩ n = none := by
  induction n with
  | zero => rfl
  | succ n ih => exact ih

theorem SuiteIter.yields_later {inner rest : List UInt8} (ends : SuiteIter.next ⟨inner, false⟩ = (none, ⟨rest, false⟩)) :
    (∀ n, SuiteIter.yields ⟨inner, false⟩ n = none) ↔ ∀ n, SuiteIter.yields ⟨rest, false⟩ n = none := by
  constructor
  · intro all n
    have later := all (n + 1)
    rwa [SuiteIter.yields, ends] at later
  · intro all n
    cases n with
    | zero => rw [SuiteIter.yields, ends]
    | succ n =>
      rw [SuiteIter.yields, ends]
      exact all n

/-- A record that is cut off is used up. -/
theorem SuiteIter.yields_cut {id : UInt8} {suite : CipherSuite} (known : CipherSuite.fromId id = some suite)
    {rest : List UInt8} (short : rest.length < 3) :
    (∀ i, SuiteIter.yields ⟨0xC0 :: id :: rest, false⟩ i = none) ↔ ¬Restarts (0xC0 :: id :: rest) := by
  have ends : SuiteIter.next ⟨0xC0 :: id :: rest, false⟩ = (none, ⟨[], false⟩) := by
    match rest, short with
    | [], _ => simp [SuiteIter.next, known]
    | [_], _ => simp [SuiteIter.next, known]
    | [_, _], _ => simp [SuiteIter.next, known]
  refine (yields_later ends).trans (iff_of_true yields_nil fun restarts => ?_)
  cases restarts with
  | here found first second third rest =>
    simp only [List.length_cons] at short
    omega
  | later unknown _ => cases known.symm.trans unknown

/-- A resumed iterator yields a suite only where it starts again. -/
theorem SuiteIter.yields_none_iff (n : Nat) {bytes : List UInt8} (length : bytes.length = n) :
    (∀ i, SuiteIter.yields ⟨bytes, false⟩ i = none) ↔ ¬Restarts bytes := by
  induction n using Nat.strong_induction_on generalizing bytes with
  | h n ih =>
    match bytes with
    | [] => exact iff_of_true yields_nil (fun restarts => nomatch restarts)
    | start :: inner =>
      by_cases standard : start = 0xC0
      · subst standard
        match inner with
        | [] =>
          have ends : SuiteIter.next ⟨[0xC0], false⟩ = (none, ⟨[], false⟩) := rfl
          exact (yields_later ends).trans (iff_of_true yields_nil (fun restarts => nomatch restarts))
        | id :: inner =>
          cases known : CipherSuite.fromId id with
          | none =>
            have ends : SuiteIter.next ⟨0xC0 :: id :: inner, false⟩ = (none, ⟨inner, false⟩) := by
              simp [SuiteIter.next, known]
            have shorter : inner.length < n := by
              rw [List.length_cons, List.length_cons] at length
              omega
            rw [yields_later ends, ih inner.length shorter rfl]
            refine not_congr ⟨.later known, fun restarts => ?_⟩
            cases restarts with
            | here found => cases known.symm.trans found
            | later _ restarts => exact restarts
          | some suite =>
            match inner with
            | first :: second :: third :: rest =>
              have yielded : SuiteIter.yields ⟨0xC0 :: id :: first :: second :: third :: rest, false⟩ 0 = some suite := by
                simp [SuiteIter.yields, SuiteIter.next, known]
              refine iff_of_false (fun none => ?_) (not_not.mpr (.here known first second third rest))
              cases (none 0).symm.trans yielded
            | [] => exact yields_cut known (Nat.zero_lt_succ _)
            | [_] => exact yields_cut known (Nat.one_lt_succ_succ _)
            | [_, _] => exact yields_cut known (Nat.lt_succ_self _)
      · have failed : ∀ i, SuiteIter.yields ⟨start :: inner, false⟩ i = none := by
          intro i
          have ends : SuiteIter.next ⟨start :: inner, false⟩ = (none, ⟨inner, true⟩) := by
            simp [SuiteIter.next, standard]
          cases i with
          | zero => rw [SuiteIter.yields, ends]
          | succ i =>
            rw [SuiteIter.yields, ends]
            exact yields_failed inner i
        refine iff_of_true failed fun restarts => ?_
        cases restarts <;> exact standard rfl

/-! ### Beside the choice of a suite -/

/-- What the iterator makes of the first record. -/
theorem SuiteIter.next_known {record : CipherRecord} {suite : CipherSuite} (known : record.suite = some suite)
    (rest : List UInt8) : SuiteIter.next ⟨record.bytes ++ rest, false⟩ = (some suite, ⟨rest, false⟩) := by
  cases record with
  | standard id authentication integrity confidentiality =>
    have found : CipherSuite.fromId id = some suite := known
    simp [CipherRecord.bytes, SuiteIter.next, found]
  | oem => cases known

theorem SuiteIter.next_other {record : CipherRecord} (other : record.suite = none) (rest : List UInt8) :
    SuiteIter.yields ⟨record.bytes ++ rest, false⟩ 0 = none := by
  cases record with
  | standard id authentication integrity confidentiality =>
    have unknown : CipherSuite.fromId id = none := other
    simp [CipherRecord.bytes, SuiteIter.yields, SuiteIter.next, unknown]
  | oem => rfl

/-- Whether it ever yields a suite once the first record is another one. -/
theorem SuiteIter.yields_other {record : CipherRecord} (other : record.suite = none) (rest : List UInt8) :
    (∀ i, SuiteIter.yields ⟨record.bytes ++ rest, false⟩ i = none) ↔
      ∀ id authentication integrity confidentiality,
        record = .standard id authentication integrity confidentiality →
        ¬Restarts (authentication :: integrity :: confidentiality :: rest) := by
  cases record with
  | standard id authentication integrity confidentiality =>
    have unknown : CipherSuite.fromId id = none := other
    have ends : SuiteIter.next ⟨(CipherRecord.standard id authentication integrity confidentiality).bytes ++ rest,
        false⟩ = (none, ⟨authentication :: integrity :: confidentiality :: rest, false⟩) := by
      simp [CipherRecord.bytes, SuiteIter.next, unknown]
    rw [yields_later ends, yields_none_iff _ rfl]
    constructor
    · rintro never _ _ _ _ ⟨⟩
      exact never
    · intro never
      exact never id authentication integrity confidentiality rfl
  | oem body seven =>
    have ends : SuiteIter.next ⟨(CipherRecord.oem body seven).bytes ++ rest, false⟩ =
        (none, ⟨body ++ rest, true⟩) := rfl
    refine iff_of_true (fun i => ?_) (fun _ _ _ _ same => by cases same)
    cases i with
    | zero => rw [SuiteIter.yields, ends]
    | succ i =>
      rw [SuiteIter.yields, ends]
      exact yields_failed _ i

/-- The iterator yields the known suites of a list in order, and then nothing, if nothing interrupts it. -/
theorem yields_iff_uninterrupted (records : List CipherRecord) :
    (∀ i, (parseFullData (listBytes records)).yields i = (records.filterMap (·.suite))[i]?) ↔
      Uninterrupted records := by
  induction records with
  | nil =>
    refine iff_of_true (fun i => SuiteIter.yields_nil i) ⟨fun _ none => absurd none List.not_mem_nil, ?_⟩
    rintro _ _ _ _ _ ⟨⟩
  | cons record records ih =>
    have bytes : parseFullData (listBytes (record :: records)) = ⟨record.bytes ++ listBytes records, false⟩ := rfl
    rw [bytes]
    cases known : record.suite with
    | some suite =>
      have ends := SuiteIter.next_known known (listBytes records)
      have same : Uninterrupted (record :: records) ↔ Uninterrupted records := by
        unfold Uninterrupted
        rw [List.dropWhile_cons_of_pos (by rw [known]; rfl)]
      rw [same, ← ih, List.filterMap_cons_some known]
      constructor
      · intro all i
        have later := all (i + 1)
        rwa [SuiteIter.yields, ends, List.getElem?_cons_succ] at later
      · intro all i
        cases i with
        | zero => rw [SuiteIter.yields, ends, List.getElem?_cons_zero]
        | succ i =>
          rw [SuiteIter.yields, ends, List.getElem?_cons_succ]
          exact all i
    | none =>
      have stays : (record :: records).dropWhile (·.suite.isSome) = record :: records :=
        List.dropWhile_cons_of_neg (by rw [known]; simp)
      have others := SuiteIter.yields_other known (listBytes records)
      rw [Uninterrupted, stays, List.filterMap_cons_none known]
      constructor
      · intro all
        have empty : records.filterMap (·.suite) = [] := by
          have first := (all 0).symm.trans (SuiteIter.next_other known (listBytes records))
          rwa [List.getElem?_eq_none_iff, Nat.le_zero, List.length_eq_zero_iff] at first
        rw [empty] at all
        refine ⟨List.forall_mem_cons.mpr ⟨known, List.filterMap_eq_nil_iff.mp empty⟩, ?_⟩
        rintro id authentication integrity confidentiality more ⟨rfl, rfl⟩
        exact others.mp (fun i => all i) id authentication integrity confidentiality rfl
      · rintro ⟨unknown, goesOn⟩ i
        have empty : records.filterMap (·.suite) = [] :=
          List.filterMap_eq_nil_iff.mpr (List.forall_mem_cons.mp unknown).2
        rw [empty]
        refine others.mpr ?_ i
        rintro id authentication integrity confidentiality rfl
        exact goesOn id authentication integrity confidentiality records rfl

/-- The bytes of records tell the records. -/
theorem CipherRecord.bytes_inj {first second : CipherRecord} {rest others : List UInt8}
    (same : first.bytes ++ rest = second.bytes ++ others) : first = second ∧ rest = others := by
  cases first with
  | standard =>
    cases second with
    | standard =>
      simp only [bytes, List.cons_append, List.nil_append, List.cons.injEq] at same
      obtain ⟨-, rfl, rfl, rfl, rfl, rfl⟩ := same
      exact ⟨rfl, rfl⟩
    | oem => exact absurd (List.cons.inj same).1 (by decide)
  | oem body seven =>
    cases second with
    | standard => exact absurd (List.cons.inj same).1 (by decide)
    | oem other wide =>
      obtain ⟨rfl, rfl⟩ := List.append_inj (List.cons.inj same).2 (seven.trans wide.symm)
      exact ⟨rfl, rfl⟩

theorem listBytes_inj {records others : List CipherRecord} (same : listBytes records = listBytes others) :
    records = others := by
  induction records generalizing others with
  | nil =>
    cases others with
    | nil => rfl
    | cons record others =>
      have some := record.bytes_pos
      have none := congrArg List.length same
      rw [listBytes, listBytes, List.flatMap_cons, List.length_append, List.flatMap_nil, List.length_nil] at none
      omega
  | cons record records ih =>
    cases others with
    | nil =>
      have some := record.bytes_pos
      have none := congrArg List.length same
      rw [listBytes, listBytes, List.flatMap_cons, List.length_append, List.flatMap_nil, List.length_nil] at none
      omega
    | cons other others =>
      obtain ⟨rfl, rest⟩ := CipherRecord.bytes_inj same
      rw [ih rest]

/-- The suite that is taken is one of the known suites of the list. -/
theorem bestOf_mem {records : List CipherRecord} {suite : CipherSuite} (best : bestOf records = some suite) :
    suite ∈ records.filterMap (·.suite) := by
  unfold bestOf at best
  rw [List.mem_filterMap]
  split at best
  · rename_i found
    cases best
    obtain ⟨record, among, advertised⟩ := List.any_eq_true.mp found
    exact ⟨record, among, eq_of_beq advertised⟩
  split at best
  · rename_i found
    cases best
    obtain ⟨record, among, advertised⟩ := List.any_eq_true.mp found
    exact ⟨record, among, eq_of_beq advertised⟩
  · cases best

/-- On a list of records from which a suite is taken, the iterator yields the known suites in order, that one
among them, and then nothing any more, if and only if it is not interrupted: no known suite comes after an
OEM record or an unknown suite, and an unknown suite that comes first is not followed by what the iterator
takes for a record. -/
theorem suites_iterated_iff {records : List CipherRecord} {suite : CipherSuite}
    (selected : selectBest (listBytes records) = .ok (some suite)) :
    suite ∈ records.filterMap (·.suite) ∧
      ((∀ i, (parseFullData (listBytes records)).yields i = (records.filterMap (·.suite))[i]?) ↔
        Uninterrupted records) := by
  obtain ⟨others, same, -, best⟩ := selectBest_eq_ok.mp selected
  cases listBytes_inj same
  exact ⟨bestOf_mem best.symm, yields_iff_uninterrupted records⟩

/-- Suites 3 and 17 in a list that ends in an OEM record. -/
theorem suites_iterated_iff_oem :
    let records := [.standard 3 1 1 1, .standard 17 3 4 1, .oem [1, 2, 3, 4, 5, 6, 7] rfl]
    selectBest (listBytes records) = .ok (some .id17) ∧ .id17 ∈ records.filterMap (·.suite) ∧
      ((∀ i, (parseFullData (listBytes records)).yields i = (records.filterMap (·.suite))[i]?) ↔
        Uninterrupted records) :=
  ⟨by decide +kernel, suites_iterated_iff (by decide +kernel)⟩

/-- A suite behind an OEM record. -/
def hiddenSuite : List CipherRecord := [.oem [1, 2, 3, 4, 5, 6, 7] rfl, .standard 3 1 1 1]

/-- An unknown suite between two known ones, with an authentication byte that starts a record. -/
def misreadSuite : List CipherRecord :=
  [.standard 17 3 4 1, .standard 0x80 0xC0 5 1, .standard 0x81 0 0 0, .standard 3 1 1 1]

/-- An OEM record hides the suite after it, and after an unknown suite the iterator goes on to yield one that
no record advertises. -/
theorem suites_not_iterated :
    (selectBest (listBytes hiddenSuite) = .ok (some .id3) ∧ hiddenSuite.filterMap (·.suite) = [.id3] ∧
      (parseFullData (listBytes hiddenSuite)).yields 0 = none) ∧
    selectBest (listBytes misreadSuite) = .ok (some .id17) ∧
    misreadSuite.filterMap (·.suite) = [.id17, .id3] ∧
    (parseFullData (listBytes misreadSuite)).yields 1 = none ∧
    (parseFullData (listBytes misreadSuite)).yields 2 = some .id5 := by
  decide +kernel

end IpmiRs.Rmcp
