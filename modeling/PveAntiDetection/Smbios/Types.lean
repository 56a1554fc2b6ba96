import PveAntiDetection.Lib.Packed

/-!
# The SMBIOS structures of `smbios.h`

One enumeration for each `struct smbios_type_N`: its constructors are the members behind the
4-byte header, and its `PackedStruct` instance lists them with their sizes in the order of the
declaration.  Array members that are assigned element by element are listed element by element.
-/

set_option autoImplicit false

namespace Smbios

open PackedStruct

/-- `sizeof (struct smbios_structure_header)`: type, length and handle. -/
def headerSize : Nat := 4

/-- A structure whose size fits the length byte of the header. -/
class SmbiosStruct (F : Type) extends PackedStruct F where
  fits : headerSize + sizeofAll F < 256

/-- `struct smbios_type_0` — BIOS Information. The two `bios_characteristics_extension_bytes` are
listed one by one. -/
inductive SmbiosType0 where
  | vendorStr | biosVersionStr | biosStartingAddressSegment | biosReleaseDateStr | biosRomSize
  | biosCharacteristics | biosCharacteristicsExtensionByte0 | biosCharacteristicsExtensionByte1
  | systemBiosMajorRelease | systemBiosMinorRelease | embeddedControllerMajorRelease
  | embeddedControllerMinorRelease
  deriving DecidableEq

instance : SmbiosStruct SmbiosType0 where
  layout :=
    [(.vendorStr, 1), (.biosVersionStr, 1), (.biosStartingAddressSegment, 2),
     (.biosReleaseDateStr, 1), (.biosRomSize, 1), (.biosCharacteristics, 8),
     (.biosCharacteristicsExtensionByte0, 1), (.biosCharacteristicsExtensionByte1, 1),
     (.systemBiosMajorRelease, 1), (.systemBiosMinorRelease, 1),
     (.embeddedControllerMajorRelease, 1), (.embeddedControllerMinorRelease, 1)]
  complete := by intro f; cases f <;> decide
  nodup := by decide
  fits := by decide

/-- `struct smbios_type_1` — System Information. -/
inductive SmbiosType1 where
  | manufacturerStr | productNameStr | versionStr | serialNumberStr | uuid | wakeUpType
  | skuNumberStr | familyStr
  deriving DecidableEq

instance : SmbiosStruct SmbiosType1 where
  layout :=
    [(.manufacturerStr, 1), (.productNameStr, 1), (.versionStr, 1), (.serialNumberStr, 1),
     (.uuid, 16), (.wakeUpType, 1), (.skuNumberStr, 1), (.familyStr, 1)]
  complete := by intro f; cases f <;> decide
  nodup := by decide
  fits := by decide

/-- `struct smbios_type_2` — Base Board. -/
inductive SmbiosType2 where
  | manufacturerStr | productStr | versionStr | serialNumberStr | assetTagNumberStr
  | featureFlags | locationStr | chassisHandle | boardType | containedElementCount
  deriving DecidableEq

instance : SmbiosStruct SmbiosType2 where
  layout :=
    [(.manufacturerStr, 1), (.productStr, 1), (.versionStr, 1), (.serialNumberStr, 1),
     (.assetTagNumberStr, 1), (.featureFlags, 1), (.locationStr, 1), (.chassisHandle, 2),
     (.boardType, 1), (.containedElementCount, 1)]
  complete := by intro f; cases f <;> decide
  nodup := by decide
  fits := by decide

/-- `struct smbios_type_3` — System Enclosure (v2.7). -/
inductive SmbiosType3 where
  | manufacturerStr | type | versionStr | serialNumberStr | assetTagNumberStr | bootUpState
  | powerSupplyState | thermalState | securityStatus | oemDefined | height | numberOfPowerCords
  | containedElementCount | containedElementRecordLength | skuNumberStr
  deriving DecidableEq

instance : SmbiosStruct SmbiosType3 where
  layout :=
    [(.manufacturerStr, 1), (.type, 1), (.versionStr, 1), (.serialNumberStr, 1),
     (.assetTagNumberStr, 1), (.bootUpState, 1), (.powerSupplyState, 1), (.thermalState, 1),
     (.securityStatus, 1), (.oemDefined, 4), (.height, 1), (.numberOfPowerCords, 1),
     (.containedElementCount, 1), (.containedElementRecordLength, 1), (.skuNumberStr, 1)]
  complete := by intro f; cases f <;> decide
  nodup := by decide
  fits := by decide

/-- `struct smbios_type_4` — Processor Information (v2.6). The last three members are the SMBIOS 3.0
tail. -/
inductive SmbiosType4 where
  | socketDesignationStr | processorType | processorFamily | processorManufacturerStr
  | processorId0 | processorId1 | processorVersionStr | voltage | externalClock | maxSpeed
  | currentSpeed | status | processorUpgrade | l1CacheHandle | l2CacheHandle | l3CacheHandle
  | serialNumberStr | assetTagNumberStr | partNumberStr | coreCount | coreEnabled | threadCount
  | processorCharacteristics | processorFamily2 | coreCount2 | coreEnabled2 | threadCount2
  deriving DecidableEq

instance : SmbiosStruct SmbiosType4 where
  layout :=
    [(.socketDesignationStr, 1), (.processorType, 1), (.processorFamily, 1),
     (.processorManufacturerStr, 1), (.processorId0, 4), (.processorId1, 4),
     (.processorVersionStr, 1), (.voltage, 1), (.externalClock, 2), (.maxSpeed, 2),
     (.currentSpeed, 2), (.status, 1), (.processorUpgrade, 1), (.l1CacheHandle, 2),
     (.l2CacheHandle, 2), (.l3CacheHandle, 2), (.serialNumberStr, 1), (.assetTagNumberStr, 1),
     (.partNumberStr, 1), (.coreCount, 1), (.coreEnabled, 1), (.threadCount, 1),
     (.processorCharacteristics, 2), (.processorFamily2, 2), (.coreCount2, 2),
     (.coreEnabled2, 2), (.threadCount2, 2)]
  complete := by intro f; cases f <;> decide
  nodup := by decide
  fits := by decide

/-- `struct smbios_type_7` — Cache Information. -/
inductive SmbiosType7 where
  | socketDesignation | cacheConfiguration | maxCacheSize | installedSize | supportedSramType
  | currentSramType | cacheSpeed | errorCorrection | systemCacheType | associativity
  deriving DecidableEq

instance : SmbiosStruct SmbiosType7 where
  layout :=
    [(.socketDesignation, 1), (.cacheConfiguration, 2), (.maxCacheSize, 2), (.installedSize, 2),
     (.supportedSramType, 2), (.currentSramType, 2), (.cacheSpeed, 1), (.errorCorrection, 1),
     (.systemCacheType, 1), (.associativity, 1)]
  complete := by intro f; cases f <;> decide
  nodup := by decide
  fits := by decide

/-- `struct smbios_type_8` — Port Connector Information. -/
inductive SmbiosType8 where
  | internalReferenceStr | internalConnectorType | externalReferenceStr | externalConnectorType
  | portType
  deriving DecidableEq

instance : SmbiosStruct SmbiosType8 where
  layout :=
    [(.internalReferenceStr, 1), (.internalConnectorType, 1), (.externalReferenceStr, 1),
     (.externalConnectorType, 1), (.portType, 1)]
  complete := by intro f; cases f <;> decide
  nodup := by decide
  fits := by decide

/-- `struct smbios_type_9` — System Slots (v2.1+). -/
inductive SmbiosType9 where
  | slotDesignation | slotType | slotDataBusWidth | currentUsage | slotLength | slotId
  | slotCharacteristics1 | slotCharacteristics2 | segmentGroupNumber | busNumber | deviceNumber
  deriving DecidableEq

instance : SmbiosStruct SmbiosType9 where
  layout :=
    [(.slotDesignation, 1), (.slotType, 1), (.slotDataBusWidth, 1), (.currentUsage, 1),
     (.slotLength, 1), (.slotId, 2), (.slotCharacteristics1, 1), (.slotCharacteristics2, 1),
     (.segmentGroupNumber, 2), (.busNumber, 1), (.deviceNumber, 1)]
  complete := by intro f; cases f <;> decide
  nodup := by decide
  fits := by decide

/-- `struct smbios_type_11` — OEM strings. -/
inductive SmbiosType11 where
  | count
  deriving DecidableEq

instance : SmbiosStruct SmbiosType11 where
  layout :=
    [(.count, 1)]
  complete := by intro f; cases f; decide
  nodup := by decide
  fits := by decide

/-- `struct smbios_type_16` — Physical Memory Array (v2.7). -/
inductive SmbiosType16 where
  | location | use | errorCorrection | maximumCapacity | memoryErrorInformationHandle
  | numberOfMemoryDevices | extendedMaximumCapacity
  deriving DecidableEq

instance : SmbiosStruct SmbiosType16 where
  layout :=
    [(.location, 1), (.use, 1), (.errorCorrection, 1), (.maximumCapacity, 4),
     (.memoryErrorInformationHandle, 2), (.numberOfMemoryDevices, 2),
     (.extendedMaximumCapacity, 8)]
  complete := by intro f; cases f <;> decide
  nodup := by decide
  fits := by decide

/-- `struct smbios_type_17` — Memory Device (v2.8). -/
inductive SmbiosType17 where
  | physicalMemoryArrayHandle | memoryErrorInformationHandle | totalWidth | dataWidth | size
  | formFactor | deviceSet | deviceLocatorStr | bankLocatorStr | memoryType | typeDetail
  | speed | manufacturerStr | serialNumberStr | assetTagNumberStr | partNumberStr | attributes
  | extendedSize | configuredClockSpeed | minimumVoltage | maximumVoltage | configuredVoltage
  deriving DecidableEq

instance : SmbiosStruct SmbiosType17 where
  layout :=
    [(.physicalMemoryArrayHandle, 2), (.memoryErrorInformationHandle, 2), (.totalWidth, 2),
     (.dataWidth, 2), (.size, 2), (.formFactor, 1), (.deviceSet, 1), (.deviceLocatorStr, 1),
     (.bankLocatorStr, 1), (.memoryType, 1), (.typeDetail, 2), (.speed, 2),
     (.manufacturerStr, 1), (.serialNumberStr, 1), (.assetTagNumberStr, 1), (.partNumberStr, 1),
     (.attributes, 1), (.extendedSize, 4), (.configuredClockSpeed, 2), (.minimumVoltage, 2),
     (.maximumVoltage, 2), (.configuredVoltage, 2)]
  complete := by intro f; cases f <;> decide
  nodup := by decide
  fits := by decide

/-- `struct smbios_type_19` — Memory Array Mapped Address (v2.7). -/
inductive SmbiosType19 where
  | startingAddress | endingAddress | memoryArrayHandle | partitionWidth
  | extendedStartingAddress | extendedEndingAddress
  deriving DecidableEq

instance : SmbiosStruct SmbiosType19 where
  layout :=
    [(.startingAddress, 4), (.endingAddress, 4), (.memoryArrayHandle, 2), (.partitionWidth, 1),
     (.extendedStartingAddress, 8), (.extendedEndingAddress, 8)]
  complete := by intro f; cases f <;> decide
  nodup := by decide
  fits := by decide

/-- `struct smbios_type_20` — Memory Device Mapped Address. -/
inductive SmbiosType20 where
  | startingAddress | endingAddress | memoryDeviceHandle | memoryArrayMappedAddressHandle
  | partitionRowPosition | interleavePosition | interleaveDataDepth
  deriving DecidableEq

instance : SmbiosStruct SmbiosType20 where
  layout :=
    [(.startingAddress, 4), (.endingAddress, 4), (.memoryDeviceHandle, 2),
     (.memoryArrayMappedAddressHandle, 2), (.partitionRowPosition, 1), (.interleavePosition, 1),
     (.interleaveDataDepth, 1)]
  complete := by intro f; cases f <;> decide
  nodup := by decide
  fits := by decide

/-- `struct smbios_type_22` — Portable Battery. -/
inductive SmbiosType22 where
  | location | manufacturer | manufacturerDate | serialNumber | deviceName | deviceChemistry
  | designCapacity | designVoltage | sbdsVersionNumber | maximumErrorInBatteryData
  | sbdsSerialNumber | sbdsManufactureDate | sbdsDeviceChemistry | designCapacityMultiplier
  | oemSpecific
  deriving DecidableEq

instance : SmbiosStruct SmbiosType22 where
  layout :=
    [(.location, 1), (.manufacturer, 1), (.manufacturerDate, 1), (.serialNumber, 1),
     (.deviceName, 1), (.deviceChemistry, 1), (.designCapacity, 2), (.designVoltage, 2),
     (.sbdsVersionNumber, 1), (.maximumErrorInBatteryData, 1), (.sbdsSerialNumber, 2),
     (.sbdsManufactureDate, 2), (.sbdsDeviceChemistry, 1), (.designCapacityMultiplier, 1),
     (.oemSpecific, 4)]
  complete := by intro f; cases f <;> decide
  nodup := by decide
  fits := by decide

/-- `struct smbios_type_26` — Voltage Probe. -/
inductive SmbiosType26 where
  | description | locationAndStatus | maxValue | minValue | resolution | tolerance | accuracy
  | oemDefined | nominalValue
  deriving DecidableEq

instance : SmbiosStruct SmbiosType26 where
  layout :=
    [(.description, 1), (.locationAndStatus, 1), (.maxValue, 2), (.minValue, 2),
     (.resolution, 2), (.tolerance, 2), (.accuracy, 2), (.oemDefined, 4), (.nominalValue, 2)]
  complete := by intro f; cases f <;> decide
  nodup := by decide
  fits := by decide

/-- `struct smbios_type_27` — Cooling Device. -/
inductive SmbiosType27 where
  | temperatureProbeHandle | deviceTypeAndStatus | coolingUnitGroup | oemDefined | nominalSpeed
  | description
  deriving DecidableEq

instance : SmbiosStruct SmbiosType27 where
  layout :=
    [(.temperatureProbeHandle, 2), (.deviceTypeAndStatus, 1), (.coolingUnitGroup, 1),
     (.oemDefined, 4), (.nominalSpeed, 2), (.description, 1)]
  complete := by intro f; cases f <;> decide
  nodup := by decide
  fits := by decide

/-- `struct smbios_type_28` — Temperature Probe. -/
inductive SmbiosType28 where
  | description | locationAndStatus | maximumValue | minimumValue | resolution | tolerance
  | accuracy | oemDefined | nominalValue
  deriving DecidableEq

instance : SmbiosStruct SmbiosType28 where
  layout :=
    [(.description, 1), (.locationAndStatus, 1), (.maximumValue, 2), (.minimumValue, 2),
     (.resolution, 2), (.tolerance, 2), (.accuracy, 2), (.oemDefined, 4), (.nominalValue, 2)]
  complete := by intro f; cases f <;> decide
  nodup := by decide
  fits := by decide

/-- `struct smbios_type_29` — Electrical Current Probe. -/
inductive SmbiosType29 where
  | description
  deriving DecidableEq

instance : SmbiosStruct SmbiosType29 where
  layout :=
    [(.description, 1)]
  complete := by intro f; cases f; decide
  nodup := by decide
  fits := by decide

/-- `struct smbios_type_32` — System Boot Information. -/
inductive SmbiosType32 where
  | reserved | bootStatus
  deriving DecidableEq

instance : SmbiosStruct SmbiosType32 where
  layout :=
    [(.reserved, 6), (.bootStatus, 1)]
  complete := by intro f; cases f <;> decide
  nodup := by decide
  fits := by decide

/-- `struct smbios_type_37` — Memory Channel. -/
inductive SmbiosType37 where
  deriving DecidableEq

instance : SmbiosStruct SmbiosType37 where
  layout := []
  complete := by intro f; cases f
  nodup := by decide
  fits := by decide

/-- `struct smbios_type_39` — System Power Supply. -/
inductive SmbiosType39 where
  | deviceName
  deriving DecidableEq

instance : SmbiosStruct SmbiosType39 where
  layout :=
    [(.deviceName, 1)]
  complete := by intro f; cases f; decide
  nodup := by decide
  fits := by decide

/-- `struct smbios_type_41` — Onboard Devices Extended Information. -/
inductive SmbiosType41 where
  | referenceDesignationStr | deviceType | deviceTypeInstance | segmentGroupNumber | busNumber
  | deviceNumber
  deriving DecidableEq

instance : SmbiosStruct SmbiosType41 where
  layout :=
    [(.referenceDesignationStr, 1), (.deviceType, 1), (.deviceTypeInstance, 1),
     (.segmentGroupNumber, 2), (.busNumber, 1), (.deviceNumber, 1)]
  complete := by intro f; cases f <;> decide
  nodup := by decide
  fits := by decide

/-- `struct smbios_type_127` — End-of-table. -/
inductive SmbiosType127 where
  deriving DecidableEq

instance : SmbiosStruct SmbiosType127 where
  layout := []
  complete := by intro f; cases f
  nodup := by decide
  fits := by decide

/-! ## Sizes -/

/-- `offsetof (struct smbios_type_N, f)`. -/
def memberOffset {F : Type} [DecidableEq F] [PackedStruct F] (f : F) : Nat :=
  headerSize + offsetof f

/-- `offsetofend (struct smbios_type_N, f)`. -/
def offsetofend {F : Type} [DecidableEq F] [PackedStruct F] (f : F) : Nat :=
  memberOffset f + sizeofField f

/-- `sizeof (struct smbios_type_N)`. -/
def sizeofStruct (F : Type) [PackedStruct F] : Nat := headerSize + sizeofAll F

/-- `SMBIOS_TYPE_4_LEN_V28`. -/
def SMBIOS_TYPE_4_LEN_V28 : Nat := offsetofend SmbiosType4.processorFamily2

/-- `SMBIOS_TYPE_4_LEN_V30`. -/
def SMBIOS_TYPE_4_LEN_V30 : Nat := offsetofend SmbiosType4.threadCount2

section
variable {F : Type} [DecidableEq F] [PackedStruct F]

theorem headerSize_le_memberOffset (f : F) : headerSize ≤ memberOffset f := Nat.le_add_right _ _

theorem offsetofend_le_sizeofStruct (f : F) : offsetofend f ≤ sizeofStruct F := by
  have := offsetof_add_sizeof_le f
  simp only [offsetofend, memberOffset, sizeofStruct]
  omega

theorem memberOffset_disjoint {f g : F} (hne : f ≠ g) :
    offsetofend f ≤ memberOffset g ∨ offsetofend g ≤ memberOffset f := by
  have := members_disjoint hne
  simp only [offsetofend, memberOffset]
  omega

/-- Every byte behind the header belongs to a member. -/
theorem exists_member_of_lt {p : Nat} (hlo : headerSize ≤ p) (hhi : p < sizeofStruct F) :
    ∃ f : F, memberOffset f ≤ p ∧ p < offsetofend f := by
  obtain ⟨f, h1, h2⟩ := exists_member_at (F := F) (p := p - headerSize)
    (by simp only [sizeofStruct] at hhi; omega)
  refine ⟨f, ?_, ?_⟩
  · simp only [memberOffset]
    omega
  · simp only [offsetofend, memberOffset]
    omega
end

/-! The sizes of the packed structures, as the C compiler computes them. -/

example : SMBIOS_TYPE_4_LEN_V28 = 42 ∧ SMBIOS_TYPE_4_LEN_V30 = 48 := by decide

example : sizeofStruct SmbiosType0 = 24 ∧ sizeofStruct SmbiosType17 = 40 ∧
    sizeofStruct SmbiosType22 = 26 := by decide

end Smbios
