import IpmiRs.Library.FirstOccurrence
import IpmiRs.Storage.FruLocators

/-! Which FRUs are found in a list of records, `storage/fru/mod.rs`, and which
ones the records list by the layout of the specification. The logical flag and
the channel of a FRU locator are read from other bits than these. -/
namespace IpmiRs.Storage
open Connection Library Library.Bytes Library.FirstOccurrence

/-- The BMC's own inventory device. -/
def FruDevice.BUILTIN : FruDevice where
  id := 0
  target := none
  lun := .zero

/-- The types of the devices behind a management controller that hold an inventory. -/
def InventoryType (deviceType deviceTypeModifier : UInt8) : Prop :=
  deviceType = 0x10 ∧ (deviceTypeModifier = 0x00 ∨ deviceTypeModifier = 0x02) ∨
    (0x08 ≤ deviceType ∧ deviceType ≤ 0x0f) ∧ deviceTypeModifier = 0x02

instance (deviceType deviceTypeModifier : UInt8) :
    Decidable (InventoryType deviceType deviceTypeModifier) :=
  inferInstanceAs (Decidable (_ ∨ _))

/-- The device that the loop takes from a record. -/
def LocatorContents.device : LocatorContents → Option FruDevice
  | .fruDeviceLocator locator =>
    match locator.recordKey.fruDevice with
    | .physical _ => none
    | .logical fruDeviceId =>
      if ¬InventoryType locator.deviceType locator.deviceTypeModifier then none
      else
        let key := locator.recordKey
        (Channel.new (key.channelNumber &&& 0x0f)).map fun channel =>
          ⟨fruDeviceId, some (key.deviceAccessAddress <<< 1, channel), key.lun⟩
  | .mcDeviceLocator mc =>
    if mc.deviceCapabilities.fruInventoryDevice then
      (Channel.new mc.key.channel).map fun channel =>
        ⟨0, some (mc.key.i2cAddress <<< 1, channel), .zero⟩
    else none
  | .other _ => none

/-- `discover_fru_devices` -/
def discoverFruDevices (records : List LocatorContents) : List FruDevice :=
  records.foldl (fun devices record =>
    match record.device with
    | none => devices
    | some device => if devices.contains device then devices else devices ++ [device])
    [FruDevice.BUILTIN]

/-- The device that a record lists by the layout of the specification. -/
def listedDevice (ty : UInt8) (body : List UInt8) : Option FruDevice :=
  match ty.toNat with
  | 0x11 =>
    if bits body[2]! 7 7 = 1 ∧ InventoryType body[5]! body[6]! then
      (Channel.new (UInt8.ofNat (bits body[3]! 7 4))).map fun channel =>
        ⟨body[1]!, some (UInt8.ofNat (2 * bits body[0]! 7 1), channel),
          .fromLowBits (UInt8.ofNat (bits body[2]! 4 3))⟩
    else none
  | 0x12 =>
    if bits body[3]! 3 3 = 1 then
      (Channel.new (UInt8.ofNat (bits body[1]! 3 0))).map fun channel =>
        ⟨0, some (UInt8.ofNat (2 * bits body[0]! 7 1), channel), .zero⟩
    else none
  | _ => none

/-- A FRU locator of an inventory device is read as it is specified: it is
listed and the four bits below the specified channel say the same channel, or
it is not listed and is passed over. -/
def ReadAsSpecified (ty : UInt8) (body : List UInt8) : Prop :=
  ty = 0x11 → InventoryType body[5]! body[6]! →
    let passedOver := bits body[1]! 7 7 = 1 ∨ Channel.new (UInt8.ofNat (bits body[3]! 3 0)) = none
    let unlisted := bits body[2]! 7 7 = 0 ∨ Channel.new (UInt8.ofNat (bits body[3]! 7 4)) = none
    passedOver ∧ unlisted ∨
      ¬passedOver ∧ ¬unlisted ∧ bits body[3]! 3 0 = bits body[3]! 7 4

/-- A record of an SDR with the bytes it was parsed from. -/
structure LocatorRecord where
  ty : UInt8
  body : List UInt8
  contents : LocatorContents
  parsed : LocatorContents.parse ty body = .ok contents

/-- The built-in device and then what the records list, each device once and in
the order in which they list them first. -/
def DiscoveredAsListed (records : List LocatorRecord) : Prop :=
  ∃ devices, discoverFruDevices (records.map LocatorRecord.contents) = FruDevice.BUILTIN :: devices ∧
    FirstOccurrences (records.filterMap fun record => listedDevice record.ty record.body) devices

section discovery

/-- No record lists the built-in device, which has no target. -/
theorem device_ne_builtin {contents : LocatorContents} {device : FruDevice}
    (found : contents.device = some device) : device ≠ FruDevice.BUILTIN := by
  rintro rfl
  cases contents with
  | other contents => cases found
  | mcDeviceLocator mc =>
    simp only [LocatorContents.device] at found
    split at found
    · obtain ⟨channel, -, same⟩ := Option.map_eq_some_iff.mp found
      cases same
    · cases found
  | fruDeviceLocator locator =>
    simp only [LocatorContents.device] at found
    split at found
    · cases found
    · split at found
      · cases found
      · obtain ⟨channel, -, same⟩ := Option.map_eq_some_iff.mp found
        cases same

/-- The loop pushes the devices of the records. -/
theorem discoverFruDevices_eq (records : List LocatorContents) :
    discoverFruDevices records =
      FruDevice.BUILTIN :: (records.filterMap LocatorContents.device).foldl pushNew [] := by
  have pushed : discoverFruDevices records =
      (records.filterMap LocatorContents.device).foldl pushNew [FruDevice.BUILTIN] := by
    rw [discoverFruDevices, List.foldl_filterMap]
    congr 1
    funext devices record
    cases record.device <;> rfl
  have absent : FruDevice.BUILTIN ∉ records.filterMap LocatorContents.device := by
    intro listed
    obtain ⟨contents, -, found⟩ := List.mem_filterMap.mp listed
    exact device_ne_builtin found rfl
  rw [pushed, foldl_pushNew_cons absent]

/-- The built-in device comes first and then each of the devices that the loop
takes, once and in their order. -/
theorem discovered (records : List LocatorContents) :
    ∃ devices, discoverFruDevices records = FruDevice.BUILTIN :: devices ∧
      FirstOccurrences (records.filterMap LocatorContents.device) devices :=
  ⟨_, discoverFruDevices_eq records, FirstOccurrences.nil.foldl _⟩

theorem value_of_new {value : UInt8} {channel : Channel} (known : Channel.new value = some channel) :
    channel.value = value := by
  unfold Channel.new at known
  split at known
  · rename_i zero
    cases known
    exact zero.symm
  · split at known
    · rename_i current
      cases known
      exact current.symm
    · split at known
      · rename_i system
        cases known
        exact system.symm
      · split at known <;> cases known
        rfl

/-- A channel has one number. -/
theorem new_inj {first second : UInt8} (known : Channel.new first ≠ none)
    (same : Channel.new first = Channel.new second) : first = second := by
  obtain ⟨channel, named⟩ := Option.ne_none_iff_exists'.mp known
  rw [← value_of_new named, value_of_new (same ▸ named)]

/-- The bits of a locator that are read as they are specified. -/
theorem locator_bits (byte : UInt8) :
    (byte >>> 1) <<< 1 = UInt8.ofNat (2 * bits byte 7 1) ∧
      LogicalUnit.fromLowBits (byte >>> 3) = .fromLowBits (UInt8.ofNat (bits byte 4 3)) ∧
      byte &&& 0x0f = UInt8.ofNat (bits byte 3 0) ∧
      (byte &&& 0x80 = 0x80 ↔ bits byte 7 7 = 1) ∧
      (hasBit byte 0b00001000 = true ↔ bits byte 3 3 = 1) := by
  revert byte
  apply forall_of_table
  decide +kernel

/-- A management controller is always taken as it is listed. -/
theorem mc_listed {body : List UInt8} {mc : McDeviceLocatorRecord}
    (parsed : McDeviceLocatorRecord.parse body = .ok mc) :
    (LocatorContents.mcDeviceLocator mc).device = listedDevice 0x12 body := by
  unfold McDeviceLocatorRecord.parse at parsed
  simp only [bind, Except.bind, pure, Except.pure, throw, throwThe, MonadExceptOf.throw] at parsed
  split at parsed
  · cases parsed
  · split at parsed
    · cases parsed
    · cases parsed
      simp only [LocatorContents.device, (locator_bits body[1]!).2.2.1, (locator_bits body[0]!).1,
        (locator_bits body[3]!).2.2.2.2]
      rfl

/-- What the loop takes from a FRU locator. -/
theorem fru_device {body : List UInt8} {locator : FruDeviceLocator}
    (parsed : FruDeviceLocator.parse body = .ok locator) :
    (LocatorContents.fruDeviceLocator locator).device =
      if bits body[1]! 7 7 = 1 ∨ ¬InventoryType body[5]! body[6]! then none
      else (Channel.new (UInt8.ofNat (bits body[3]! 3 0))).map fun channel =>
        ⟨body[1]!, some (UInt8.ofNat (2 * bits body[0]! 7 1), channel),
          .fromLowBits (UInt8.ofNat (bits body[2]! 4 3))⟩ := by
  unfold FruDeviceLocator.parse at parsed
  simp only [bind, Except.bind, pure, Except.pure, throw, throwThe, MonadExceptOf.throw] at parsed
  split at parsed
  · cases parsed
  · split at parsed
    · cases parsed
    · cases parsed
      have physical := (locator_bits body[1]!).2.2.2.1
      by_cases high : body[1]! &&& 0x80 = 0x80
      · rw [if_pos (Or.inl (physical.mp high))]
        simp only [LocatorContents.device, if_pos high]
      · have low : ¬bits body[1]! 7 7 = 1 := fun bit => high (physical.mpr bit)
        simp only [LocatorContents.device, if_neg high, low, false_or, (locator_bits _).1,
          (locator_bits body[2]!).2.1, (locator_bits body[3]!).2.2.1]

/-- Two guarded values agree if both are missing or both are there and the same. -/
theorem guarded_eq_iff {α β : Type} {f : α → β} (injective : Function.Injective f) (skipped listed : Prop)
    [Decidable skipped] [Decidable listed] (x y : Option α) :
    (if skipped then none else x.map f) = (if listed then y.map f else none) ↔
      (skipped ∨ x = none) ∧ (¬listed ∨ y = none) ∨
        ¬(skipped ∨ x = none) ∧ ¬(¬listed ∨ y = none) ∧ x = y := by
  by_cases skip : skipped <;> by_cases list : listed <;> cases x <;> cases y <;>
    simp [skip, list, injective.eq_iff]

/-- A FRU locator is taken as it is listed if and only if it is read as specified. -/
theorem fru_listed_iff {body : List UInt8} {locator : FruDeviceLocator}
    (parsed : FruDeviceLocator.parse body = .ok locator) :
    (LocatorContents.fruDeviceLocator locator).device = listedDevice 0x11 body ↔
      ReadAsSpecified 0x11 body := by
  have unmarked : bits body[2]! 7 7 = 0 ↔ ¬bits body[2]! 7 7 = 1 := by
    have small : bits body[2]! 7 7 < 2 := Nat.mod_lt _ (by decide)
    omega
  have nibbles : ∀ byte : UInt8, UInt8.ofNat (bits byte 3 0) = UInt8.ofNat (bits byte 7 4) →
      bits byte 3 0 = bits byte 7 4 := by
    apply forall_of_table
    decide +kernel
  have listed : listedDevice 0x11 body =
      if bits body[2]! 7 7 = 1 ∧ InventoryType body[5]! body[6]! then
        (Channel.new (UInt8.ofNat (bits body[3]! 7 4))).map fun channel =>
          (⟨body[1]!, some (UInt8.ofNat (2 * bits body[0]! 7 1), channel),
            .fromLowBits (UInt8.ofNat (bits body[2]! 4 3))⟩ : FruDevice)
      else none := rfl
  rw [fru_device parsed, listed]
  unfold ReadAsSpecified
  by_cases inventory : InventoryType body[5]! body[6]!
  · have injective : Function.Injective fun channel : Channel =>
        (⟨body[1]!, some (UInt8.ofNat (2 * bits body[0]! 7 1), channel),
          .fromLowBits (UInt8.ofNat (bits body[2]! 4 3))⟩ : FruDevice) := by
      intro first second same
      cases same
      rfl
    simp only [inventory, and_true, not_true_eq_false, or_false, true_imp_iff, unmarked]
    rw [guarded_eq_iff injective]
    refine or_congr_right (and_congr_right fun taken => and_congr_right fun _ => ?_)
    constructor
    · exact fun same => nibbles _ (new_inj (fun missing => taken (.inr missing)) same)
    · intro same
      rw [same]
  · rw [if_pos (.inr inventory), if_neg fun both => inventory both.2]
    exact ⟨fun _ _ there => absurd there inventory, fun _ => rfl⟩

/-- The loop takes from a record what it lists if and only if the record is read as specified. -/
theorem device_listed_iff (record : LocatorRecord) :
    record.contents.device = listedDevice record.ty record.body ↔
      ReadAsSpecified record.ty record.body := by
  obtain ⟨ty, body, contents, parsed⟩ := record
  unfold LocatorContents.parse at parsed
  split at parsed
  · rename_i fru
    have same : ty = 0x11 := UInt8.toNat_inj.mp fru
    subst same
    cases located : FruDeviceLocator.parse body with
    | error error =>
      rw [located] at parsed
      cases parsed
    | ok locator =>
      rw [located] at parsed
      cases parsed
      exact fru_listed_iff located
  · rename_i mc
    have same : ty = 0x12 := UInt8.toNat_inj.mp mc
    subst same
    cases located : McDeviceLocatorRecord.parse body with
    | error error =>
      rw [located] at parsed
      cases parsed
    | ok locator =>
      rw [located] at parsed
      cases parsed
      refine iff_of_true (mc_listed located) fun other => ?_
      exact absurd (show (0x12 : UInt8) = 0x11 from other) (by decide)
  · rename_i noFru noMc
    cases kept : RecordContents.parse ty body with
    | error error =>
      rw [kept] at parsed
      cases parsed
    | ok record =>
      rw [kept] at parsed
      cases parsed
      refine iff_of_true ?_ fun same => absurd (congrArg UInt8.toNat same) noFru
      unfold listedDevice
      split
      · exact absurd ‹_› noFru
      · exact absurd ‹_› noMc
      · rfl

/-- Discovery lists what the records list, whichever of them a list leaves out,
if and only if every FRU locator among them is read as specified. -/
theorem discovered_as_listed_iff (records : List LocatorRecord) :
    (∀ part, part.Sublist records → DiscoveredAsListed part) ↔
      ∀ record ∈ records, ReadAsSpecified record.ty record.body := by
  constructor
  · intro all record among
    obtain ⟨devices, found, listed⟩ := all [record] (List.singleton_sublist.mpr among)
    obtain ⟨others, found', first⟩ := discovered [record.contents]
    have same : others = devices := (List.cons.inj (found'.symm.trans found)).2
    rw [← device_listed_iff]
    apply Option.ext
    intro device
    have taken := first.mem device
    rw [same, listed.mem device, List.mem_filterMap, List.mem_filterMap] at taken
    simpa using taken.symm
  · intro read part among
    obtain ⟨devices, found, first⟩ := discovered (part.map LocatorRecord.contents)
    refine ⟨devices, found, ?_⟩
    have same : (part.map LocatorRecord.contents).filterMap LocatorContents.device =
        part.filterMap fun record => listedDevice record.ty record.body := by
      rw [List.filterMap_map]
      exact List.filterMap_congr fun record member =>
        (device_listed_iff record).mpr (read record (among.subset member))
    rwa [same] at first

/-- A logical device with the ID 0x81 is passed over, and one on channel 7 is
found on the primary channel. -/
theorem discovered_otherwise :
    ∃ passed misplaced : LocatorRecord,
      (passed.ty = 0x11 ∧ passed.body = [0x40, 0x81, 0x88, 0, 0, 0x10, 0, 0, 0, 0, 0xC0] ∧
        discoverFruDevices [passed.contents] = [FruDevice.BUILTIN] ∧
        listedDevice passed.ty passed.body = some ⟨0x81, some (0x40, .primary), .one⟩ ∧
        ¬DiscoveredAsListed [passed]) ∧
      misplaced.ty = 0x11 ∧ misplaced.body = [0x40, 1, 0x88, 0x70, 0, 0x10, 0, 0, 0, 0, 0xC0] ∧
      discoverFruDevices [misplaced.contents] =
        [FruDevice.BUILTIN, ⟨1, some (0x40, .primary), .one⟩] ∧
      listedDevice misplaced.ty misplaced.body =
        some ⟨1, some (0x40, .numbered ⟨7, by decide⟩), .one⟩ := by
  refine ⟨⟨_, _, _, rfl⟩, ⟨_, _, _, rfl⟩, ⟨rfl, rfl, by decide, by decide, ?_⟩, rfl, rfl, by decide,
    by decide⟩
  rintro ⟨devices, found, first⟩
  have none : devices = [] := 
    (List.cons.inj (found.symm.trans (show _ = [FruDevice.BUILTIN] by decide))).2
  have listed := (first.mem ⟨0x81, some (0x40, .primary), .one⟩).mpr (by decide)
  rw [none] at listed
  cases listed

end discovery

end IpmiRs.Storage
