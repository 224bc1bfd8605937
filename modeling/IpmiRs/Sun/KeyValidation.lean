import IpmiRs.Sun.Base64Decoding

/-! Which public keys are accepted: those with a supported algorithm, and a blob
of just the fields that the algorithm has. -/
namespace IpmiRs.Sun
open Library Library.Bytes Library.Checked Library.Chunks

/-- A field of a blob: its length, and its bytes. -/
def field (bytes : List UInt8) : List UInt8 := toBe 4 bytes.length ++ bytes

/-- The curves that are supported. -/
def curves : List (List UInt8) := [ascii "nistp256", ascii "nistp384", ascii "nistp521"]

/-- The fields that the keys of an algorithm have behind its name. -/
inductive KeyFields : (algorithm : List UInt8) → List (List UInt8) → Prop
  | ed25519 {key : List UInt8} (length : key.length = 32) : KeyFields (ascii "ssh-ed25519") [key]
  | rsa {exponent modulus : List UInt8} (some : exponent ≠ []) (long : 32 ≤ modulus.length) :
      KeyFields (ascii "ssh-rsa") [exponent, modulus]
  | ecdsa {curve point : List UInt8} (known : curve ∈ curves) (some : point ≠ []) :
      KeyFields (ascii "ecdsa-sha2-" ++ curve) [curve, point]
  | skEd25519 {key application : List UInt8} (length : key.length = 32) (some : application ≠ []) :
      KeyFields (ascii "sk-ssh-ed25519@openssh.com") [key, application]
  | skEcdsa {point application : List UInt8} (some : point ≠ []) (more : application ≠ []) :
      KeyFields (ascii "sk-ecdsa-sha2-nistp256@openssh.com") [ascii "nistp256", point, application]

/-- A key that can be uploaded, up to a newline at its end. -/
structure AcceptedKey (key : List UInt8) : Prop where
  some : stripNewline key ≠ []
  short : (stripNewline key).length ≤ 16384
  printable : ∀ b ∈ stripNewline key, 0x20 ≤ b ∧ b < 0x7F
  valid : ∃ algorithm fields comment, algorithm ∈ algorithms ∧ KeyFields algorithm fields ∧
    splitWhitespace (stripNewline key) =
      algorithm :: Base64.encode ((algorithm :: fields).flatMap field) :: comment

/-! ### The fields of a blob -/

theorem length_field (bytes : List UInt8) : (field bytes).length = 4 + bytes.length := by
  rw [field, List.length_append, length_toBe]

/-- What is read is a field, and the place after it. -/
theorem sshField_iff {front blob value : List UInt8} {after : Nat} :
    sshField (front ++ blob) front.length = some (value, after) ↔
      value.length < 256 ^ 4 ∧ (∃ rest, blob = field value ++ rest) ∧ after = (front ++ field value).length := by
  unfold sshField
  constructor
  · intro read
    simp only [Option.bind_eq_bind, Option.bind_eq_some_iff, Option.some.injEq, Prod.mk.injEq] at read
    obtain ⟨header, measured, value, found, rfl, rfl⟩ := read
    obtain ⟨_, _, whole, length, four⟩ := range_eq_some_iff.mp measured
    obtain ⟨rfl, rfl⟩ := List.append_inj whole length.symm
    obtain ⟨start, rest, whole, length, ends⟩ := range_eq_some_iff.mp found
    have wide : header.length = 4 := Nat.add_left_cancel four
    have long : value.length = ofBe header := Nat.add_left_cancel ends
    rw [← List.append_assoc] at whole
    obtain ⟨-, rfl⟩ := List.append_inj whole (by rw [List.length_append, wide, length])
    have measure : toBe 4 value.length = header := by rw [long, toBe_ofBe wide]
    refine ⟨?_, ⟨rest, ?_⟩, ?_⟩
    · have bound := ofBe_lt header
      rwa [wide, ← long] at bound
    · rw [field, measure, List.append_assoc]
    · rw [List.length_append, length_field, ← long, Nat.add_assoc]
  · rintro ⟨small, ⟨rest, rfl⟩, rfl⟩
    have header : range (front ++ (field value ++ rest)) front.length (front.length + 4) =
        some (toBe 4 value.length) := by
      refine range_eq_some_iff.mpr ⟨front, value ++ rest, ?_, rfl, ?_⟩
      · rw [field, List.append_assoc]
      · rw [length_toBe]
    have body : range (front ++ (field value ++ rest)) (front.length + 4) (front.length + 4 + value.length) =
        some value := by
      refine range_eq_some_iff.mpr ⟨front ++ toBe 4 value.length, rest, ?_, ?_, rfl⟩
      · rw [field, List.append_assoc, List.append_assoc]
      · rw [List.length_append, length_toBe]
    rw [header, Option.bind_eq_bind, Option.bind_some, ofBe_toBe_of_lt small]
    dsimp only
    rw [body, Option.bind_some, List.length_append, length_field, Nat.add_assoc]

/-- Fields that pass tests, one after the other. -/
def fieldsWhere (blob : List UInt8) (cursor : Nat) : List (List UInt8 → Bool) → Option Nat
  | [] => some cursor
  | test :: tests => do
    let cursor ← fieldWhere blob cursor test
    fieldsWhere blob cursor tests

/-- A blob is read to its end if it is fields that pass the tests, and nothing else. -/
theorem fieldsWhere_iff {tests : List (List UInt8 → Bool)} {front blob : List UInt8} :
    fieldsWhere (front ++ blob) front.length tests = some (front ++ blob).length ↔
      ∃ fields, List.Forall₂ (fun test value => test value = true ∧ value.length < 256 ^ 4) tests fields ∧
        blob = fields.flatMap field := by
  induction tests generalizing front blob with
  | nil =>
    rw [fieldsWhere, Option.some.injEq]
    constructor
    · intro ended
      refine ⟨[], .nil, List.eq_nil_of_length_eq_zero ?_⟩
      rw [List.length_append] at ended
      omega
    · rintro ⟨_, ⟨⟩, rfl⟩
      rw [List.flatMap_nil, List.append_nil]
  | cons test tests ih =>
    rw [fieldsWhere, fieldWhere]
    constructor
    · intro read
      simp only [Option.bind_eq_bind, Option.bind_eq_some_iff] at read
      obtain ⟨next, ⟨⟨value, after⟩, found, passed⟩, later⟩ := read
      obtain ⟨small, ⟨rest, rfl⟩, rfl⟩ := sshField_iff.mp found
      split at passed
      · rename_i holds
        cases passed
        rw [← List.append_assoc] at later
        obtain ⟨fields, passed, rfl⟩ := ih.mp later
        exact ⟨value :: fields, .cons ⟨holds, small⟩ passed, rfl⟩
      · cases passed
    · rintro ⟨_, passed, rfl⟩
      cases passed with
      | @cons _ value _ fields holds passed =>
        have found : sshField (front ++ (value :: fields).flatMap field) front.length =
            some (value, (front ++ field value).length) := sshField_iff.mpr ⟨holds.2, ⟨fields.flatMap field, rfl⟩, rfl⟩
        rw [found, Option.bind_eq_bind, Option.bind_eq_bind, Option.bind_some]
        dsimp only
        rw [if_pos holds.1, Option.bind_some, List.flatMap_cons, ← List.append_assoc]
        exact ih.mpr ⟨fields, passed, rfl⟩

/-- The tests of the fields that an algorithm has behind its name. -/
def fieldTests (algorithm : List UInt8) : Option (List (List UInt8 → Bool)) :=
  if algorithm = ascii "ssh-ed25519" then some [(·.length == 32)]
  else if algorithm = ascii "ssh-rsa" then some [(!·.isEmpty), (32 ≤ ·.length)]
  else if (ascii "ecdsa-sha2-").isPrefixOf algorithm then some [(· == algorithm.drop 11), (!·.isEmpty)]
  else if algorithm = ascii "sk-ssh-ed25519@openssh.com" then some [(·.length == 32), (!·.isEmpty)]
  else if algorithm = ascii "sk-ecdsa-sha2-nistp256@openssh.com" then
    some [(· == ascii "nistp256"), (!·.isEmpty), (!·.isEmpty)]
  else none

theorem keyFields_eq (algorithm blob : List UInt8) (cursor : Nat) :
    keyFields algorithm blob cursor = (fieldTests algorithm).bind (fieldsWhere blob cursor) := by
  unfold keyFields fieldTests
  split_ifs
  all_goals simp [fieldsWhere]

theorem fieldTests_ecdsa {curve : List UInt8} (known : curve ∈ curves) :
    ascii "ecdsa-sha2-" ++ curve ∈ algorithms ∧
      fieldTests (ascii "ecdsa-sha2-" ++ curve) = some [(· == curve), (!·.isEmpty)] := by
  simp only [curves, List.mem_cons, List.not_mem_nil, or_false] at known
  rcases known with rfl | rfl | rfl
  · exact ⟨by decide +kernel, rfl⟩
  · exact ⟨by decide +kernel, rfl⟩
  · exact ⟨by decide +kernel, rfl⟩

/-- An algorithm is one of those with fields, and the tests are those of its fields. -/
theorem keyFields_iff {algorithm : List UInt8} {fields : List (List UInt8)} :
    KeyFields algorithm fields ↔ algorithm ∈ algorithms ∧ ∃ tests, fieldTests algorithm = some tests ∧
      List.Forall₂ (fun test value => test value = true) tests fields := by
  constructor
  · intro has
    cases has with
    | ed25519 length => exact ⟨by decide +kernel, _, rfl, by simpa using length⟩
    | rsa some long => exact ⟨by decide +kernel, _, rfl, by simpa using ⟨some, long⟩⟩
    | ecdsa known some =>
      obtain ⟨supported, tests⟩ := fieldTests_ecdsa known
      exact ⟨supported, _, tests, by simpa using some⟩
    | skEd25519 length some => exact ⟨by decide +kernel, _, rfl, by simpa using ⟨length, some⟩⟩
    | skEcdsa some more => exact ⟨by decide +kernel, _, rfl, by simpa using ⟨some, more⟩⟩
  · rintro ⟨supported, tests, tested, passed⟩
    have ecdsa : ∀ curve ∈ curves, ∀ tests, fieldTests (ascii "ecdsa-sha2-" ++ curve) = some tests →
        List.Forall₂ (fun test value => test value = true) tests fields →
        KeyFields (ascii "ecdsa-sha2-" ++ curve) fields := by
      intro curve known tests tested passed
      rw [(fieldTests_ecdsa known).2] at tested
      obtain rfl := Option.some.inj tested
      match fields, passed with
      | [_, _], .cons same (.cons filled .nil) =>
        obtain rfl := beq_iff_eq.mp same
        exact .ecdsa known (by simpa using filled)
    simp only [algorithms, List.mem_cons, List.not_mem_nil, or_false] at supported
    rcases supported with rfl | rfl | rfl | rfl | rfl | rfl | rfl
    · obtain rfl : [_, _] = tests := Option.some.inj tested
      match fields, passed with
      | [_, _], .cons filled (.cons long .nil) => exact .rsa (by simpa using filled) (by simpa using long)
    · obtain rfl : [_] = tests := Option.some.inj tested
      match fields, passed with
      | [_], .cons length .nil => exact .ed25519 (by simpa using length)
    · exact ecdsa (ascii "nistp256") (by decide +kernel) tests tested passed
    · exact ecdsa (ascii "nistp384") (by decide +kernel) tests tested passed
    · exact ecdsa (ascii "nistp521") (by decide +kernel) tests tested passed
    · obtain rfl : [_, _] = tests := Option.some.inj tested
      match fields, passed with
      | [_, _], .cons length (.cons filled .nil) => exact .skEd25519 (by simpa using length) (by simpa using filled)
    · obtain rfl : [_, _, _] = tests := Option.some.inj tested
      match fields, passed with
      | [_, _, _], .cons curve (.cons filled (.cons more .nil)) =>
        obtain rfl := beq_iff_eq.mp curve
        exact .skEcdsa (by simpa using filled) (by simpa using more)

theorem length_le_of_mem_flatMap {fields : List (List UInt8)} {value : List UInt8} (member : value ∈ fields) :
    value.length ≤ (fields.flatMap field).length := by
  obtain ⟨before, after, rfl⟩ := List.append_of_mem member
  rw [List.flatMap_append, List.flatMap_cons, List.length_append, List.length_append, length_field]
  omega

/-- A blob is the name of the algorithm, and its fields. -/
theorem blob_iff {algorithm blob : List UInt8} (supported : algorithm ∈ algorithms) (short : blob.length < 256 ^ 4) :
    (∃ cursor, sshField blob 0 = some (algorithm, cursor) ∧ keyFields algorithm blob cursor = some blob.length) ↔
      ∃ fields, KeyFields algorithm fields ∧ blob = (algorithm :: fields).flatMap field := by
  have named := @sshField_iff [] blob algorithm
  simp only [List.nil_append, List.length_nil] at named
  constructor
  · rintro ⟨cursor, name, read⟩
    obtain ⟨-, ⟨rest, rfl⟩, rfl⟩ := named.mp name
    rw [keyFields_eq] at read
    obtain ⟨tests, tested, read⟩ := Option.bind_eq_some_iff.mp read
    obtain ⟨fields, passed, rfl⟩ := fieldsWhere_iff.mp read
    exact ⟨fields, keyFields_iff.mpr ⟨supported, tests, tested, passed.imp fun _ _ holds => holds.1⟩, rfl⟩
  · rintro ⟨fields, has, rfl⟩
    obtain ⟨-, tests, tested, passed⟩ := keyFields_iff.mp has
    have small : ∀ value ∈ algorithm :: fields, value.length < 256 ^ 4 := fun value member =>
      Nat.lt_of_le_of_lt (length_le_of_mem_flatMap member) short
    rw [List.forall_mem_cons] at small
    refine ⟨_, named.mpr ⟨small.1, ⟨_, rfl⟩, rfl⟩, ?_⟩
    rw [keyFields_eq, tested, Option.bind_some, List.flatMap_cons]
    refine fieldsWhere_iff.mpr ⟨fields, ?_, rfl⟩
    rw [List.forall₂_iff_get] at passed ⊢
    exact ⟨passed.1, fun i inside within => ⟨passed.2 i inside within, small.2 _ (List.get_mem _ _)⟩⟩

/-! ### Validation -/

theorem length_of_mem_splitOnPPrepend {p : UInt8 → Bool} {text piece front : List UInt8}
    (member : piece ∈ List.splitOnPPrepend p text front) : piece.length ≤ front.length + text.length := by
  induction text generalizing front with
  | nil =>
    rw [List.splitOnPPrepend_nil, List.mem_singleton] at member
    rw [member, List.length_reverse]
    exact Nat.le_add_right _ _
  | cons b text ih =>
    rw [List.length_cons]
    by_cases separates : p b = true
    · rw [List.splitOnPPrepend_cons_pos separates, List.mem_cons] at member
      rcases member with rfl | later
      · rw [List.length_reverse]
        exact Nat.le_add_right _ _
      · have short := ih later
        rw [List.length_nil] at short
        omega
    · rw [List.splitOnPPrepend_cons_neg (Bool.eq_false_of_not_eq_true separates)] at member
      have short := ih member
      rw [List.length_cons] at short
      omega

/-- A part of a text is no longer than it. -/
theorem length_of_mem_splitWhitespace {text piece : List UInt8} (member : piece ∈ splitWhitespace text) :
    piece.length ≤ text.length := by
  have short : piece.length ≤ [].length + text.length := length_of_mem_splitOnPPrepend (List.mem_filter.mp member).1
  rwa [List.length_nil, Nat.zero_add] at short

theorem printable_iff (key : List UInt8) :
    (key.all (· < 0x80) = true ∧ key.any (fun b => b < 0x20 || b == 0x7F) = false) ↔
      ∀ b ∈ key, 0x20 ≤ b ∧ b < 0x7F := by
  have table : ∀ b : UInt8, (b < 0x80 ∧ (b < 0x20 || b == 0x7F) = false) ↔ 0x20 ≤ b ∧ b < 0x7F := by
    apply forall_of_table
    decide +kernel
  rw [List.all_eq_true, List.any_eq_false, ← forall₂_and]
  refine forall₂_congr fun b _ => ?_
  rw [← table b, decide_eq_true_iff, Bool.not_eq_true]

/-- What is encoded in a part of a key has a length that fits a field. -/
theorem blob_short {key blob : List UInt8} (short : key.length ≤ 16384)
    (member : Base64.encode blob ∈ splitWhitespace key) : blob.length < 256 ^ 4 := by
  have within := length_of_mem_splitWhitespace member
  rw [Base64.length_encode] at within
  omega

/-- What is encoded in a key of a supported algorithm is long enough to be decoded. -/
theorem length_encode_blob {algorithm : List UInt8} (supported : algorithm ∈ algorithms) (fields : List (List UInt8)) :
    16 ≤ (Base64.encode ((algorithm :: fields).flatMap field)).length := by
  have named : ∀ algorithm ∈ algorithms, 7 ≤ algorithm.length := by decide +kernel
  have long := named algorithm supported
  rw [Base64.length_encode, List.flatMap_cons, List.length_append, length_field]
  omega

/-- Exactly the keys that are accepted can be uploaded. -/
theorem validatePublicKey_iff (key : List UInt8) : validatePublicKey key = .ok () ↔ AcceptedKey key := by
  unfold validatePublicKey
  dsimp only
  constructor
  · intro accepted
    split at accepted
    · cases accepted
    rename_i sound
    simp only [not_or, not_not, Nat.not_lt] at sound
    obtain ⟨filled, short, ascii, controls⟩ := sound
    have printable := (printable_iff _).mp ⟨ascii, Bool.eq_false_of_not_eq_true controls⟩
    split at accepted
    · cases accepted
    rename_i algorithm parts parted
    split at accepted
    · cases accepted
    rename_i supported
    rw [not_not] at supported
    split at accepted
    · cases accepted
    rename_i encoded comment
    split at accepted
    · cases accepted
    rename_i blob decoded
    split at accepted
    · cases accepted
    rename_i name cursor named
    split at accepted
    · cases accepted
    rename_i same
    rw [not_not] at same
    subst same
    split at accepted
    · cases accepted
    rename_i read
    rw [not_not] at read
    obtain ⟨-, rfl⟩ := (decodeBase64_iff _ _).mp decoded
    have small : blob.length < 256 ^ 4 := by
      refine blob_short short ?_
      rw [parted]
      exact List.mem_cons_of_mem _ List.mem_cons_self
    obtain ⟨fields, has, rfl⟩ := (blob_iff supported small).mp ⟨cursor, named, read⟩
    exact ⟨filled, short, printable, name, fields, comment, supported, has, parted⟩
  · rintro ⟨filled, short, printable, algorithm, fields, comment, supported, has, parted⟩
    obtain ⟨ascii, controls⟩ := (printable_iff _).mpr printable
    rw [if_neg, parted]
    · have decoded := (decodeBase64_iff _ _).mpr ⟨length_encode_blob supported fields, rfl⟩
      have small : ((algorithm :: fields).flatMap field).length < 256 ^ 4 := by
        refine blob_short short ?_
        rw [parted]
        exact List.mem_cons_of_mem _ List.mem_cons_self
      obtain ⟨cursor, named, read⟩ := (blob_iff supported small).mpr ⟨fields, has, rfl⟩
      dsimp only
      rw [if_neg (not_not.mpr supported), decoded]
      dsimp only
      rw [named]
      dsimp only
      rw [if_neg (not_not.mpr rfl), if_neg (not_not.mpr read)]
      rfl
    · simp only [not_or, not_not, Nat.not_lt]
      exact ⟨filled, short, ascii, Bool.eq_false_iff.mp controls⟩

example : (validatePublicKey (ascii
    "ssh-ed25519 AAAAC3NzaC1lZDI1NTE5AAAAIBERERERERERERERERERERERERERERERERERERERERER a\n")).isOk = true := by
  decide +kernel

end IpmiRs.Sun
