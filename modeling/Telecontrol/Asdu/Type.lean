import Telecontrol.Element.Kind

/-!
# Type identification

The first octet of an application service data unit says which information objects follow.

* `AsduType` lists the standard types, and `AsduType.profile` gives each its code, its name in
  the standard and the kinds of elements that one of its element sets consists of;
* `AsduType.ofCode?` finds the type of a code, and `ofCode?_code` says that no two types
  share one;
* `TypeIdentification` classifies every octet as the code of a standard type, a reserved or a
  private code.
-/

namespace Telecontrol

/-- The standard types; `Time24` and `Time56` mark those with a time tag of three and of seven
octets. -/
inductive AsduType
  | singlePoint
  | singlePointTime24
  | doublePoint
  | doublePointTime24
  | stepPosition
  | stepPositionTime24
  | bitstring
  | bitstringTime24
  | measuredNormalized
  | measuredNormalizedTime24
  | measuredScaled
  | measuredScaledTime24
  | measuredFloat
  | measuredFloatTime24
  | integratedTotals
  | integratedTotalsTime24
  | protectionEventTime24
  | protectionStartTime24
  | outputCircuitTime24
  /-- Packed single-point information with status change detection. -/
  | statusChanges
  | measuredNormalizedNoQuality
  | singlePointTime56
  | doublePointTime56
  | stepPositionTime56
  | bitstringTime56
  | measuredNormalizedTime56
  | measuredScaledTime56
  | measuredFloatTime56
  | integratedTotalsTime56
  | protectionEventTime56
  | protectionStartTime56
  | outputCircuitTime56
  | singleCommand
  | doubleCommand
  | regulatingStep
  | setpointNormalized
  | setpointScaled
  | setpointFloat
  | bitstringCommand
  | singleCommandTime56
  | doubleCommandTime56
  | regulatingStepTime56
  | setpointNormalizedTime56
  | setpointScaledTime56
  | setpointFloatTime56
  | bitstringCommandTime56
  | endOfInitialization
  | interrogation
  | counterInterrogation
  | read
  | clockSynchronization
  | testCommand
  | resetProcess
  | delayAcquisition
  | testCommandTime56
  | parameterNormalized
  | parameterScaled
  | parameterFloat
  | parameterActivation
  | fileReady
  | sectionReady
  /-- Call directory, select file, call file, call section. -/
  | selectCall
  /-- Last section, last segment. -/
  | lastSection
  /-- Acknowledge file, acknowledge section. -/
  | acknowledgeFile
  | segment
  | directory
  /-- Query log, request archive file. -/
  | queryLog
  deriving DecidableEq, Repr

/-- What the standard fixes for a type. -/
structure TypeProfile where
  code : UInt8
  /-- The name of the type in the standard. -/
  mnemonic : String
  /-- The kinds of the elements of one element set, in wire order. -/
  layout : List ElementKind

namespace AsduType

/-- The row of each type in the table of the standard. -/
def profile : AsduType → TypeProfile
  | singlePoint => ⟨1, "M_SP_NA_1", [.siq]⟩
  | singlePointTime24 => ⟨2, "M_SP_TA_1", [.siq, .time24]⟩
  | doublePoint => ⟨3, "M_DP_NA_1", [.diq]⟩
  | doublePointTime24 => ⟨4, "M_DP_TA_1", [.diq, .time24]⟩
  | stepPosition => ⟨5, "M_ST_NA_1", [.vti, .qds]⟩
  | stepPositionTime24 => ⟨6, "M_ST_TA_1", [.vti, .qds, .time24]⟩
  | bitstring => ⟨7, "M_BO_NA_1", [.bsi, .qds]⟩
  | bitstringTime24 => ⟨8, "M_BO_TA_1", [.bsi, .qds, .time24]⟩
  | measuredNormalized => ⟨9, "M_ME_NA_1", [.nva, .qds]⟩
  | measuredNormalizedTime24 => ⟨10, "M_ME_TA_1", [.nva, .qds, .time24]⟩
  | measuredScaled => ⟨11, "M_ME_NB_1", [.sva, .qds]⟩
  | measuredScaledTime24 => ⟨12, "M_ME_TB_1", [.sva, .qds, .time24]⟩
  | measuredFloat => ⟨13, "M_ME_NC_1", [.float, .qds]⟩
  | measuredFloatTime24 => ⟨14, "M_ME_TC_1", [.float, .qds, .time24]⟩
  | integratedTotals => ⟨15, "M_IT_NA_1", [.bcr]⟩
  | integratedTotalsTime24 => ⟨16, "M_IT_TA_1", [.bcr, .time24]⟩
  | protectionEventTime24 => ⟨17, "M_EP_TA_1", [.sep, .time16, .time24]⟩
  | protectionStartTime24 => ⟨18, "M_EP_TB_1", [.spe, .qdp, .time16, .time24]⟩
  | outputCircuitTime24 => ⟨19, "M_EP_TC_1", [.oci, .qdp, .time16, .time24]⟩
  | statusChanges => ⟨20, "M_PS_NA_1", [.scd, .qds]⟩
  | measuredNormalizedNoQuality => ⟨21, "M_ME_ND_1", [.nva]⟩
  | singlePointTime56 => ⟨30, "M_SP_TB_1", [.siq, .time56]⟩
  | doublePointTime56 => ⟨31, "M_DP_TB_1", [.diq, .time56]⟩
  | stepPositionTime56 => ⟨32, "M_ST_TB_1", [.vti, .qds, .time56]⟩
  | bitstringTime56 => ⟨33, "M_BO_TB_1", [.bsi, .qds, .time56]⟩
  | measuredNormalizedTime56 => ⟨34, "M_ME_TD_1", [.nva, .qds, .time56]⟩
  | measuredScaledTime56 => ⟨35, "M_ME_TE_1", [.sva, .qds, .time56]⟩
  | measuredFloatTime56 => ⟨36, "M_ME_TF_1", [.float, .qds, .time56]⟩
  | integratedTotalsTime56 => ⟨37, "M_IT_TB_1", [.bcr, .time56]⟩
  | protectionEventTime56 => ⟨38, "M_EP_TD_1", [.sep, .time16, .time56]⟩
  | protectionStartTime56 => ⟨39, "M_EP_TE_1", [.spe, .qdp, .time16, .time56]⟩
  | outputCircuitTime56 => ⟨40, "M_EP_TF_1", [.oci, .qdp, .time16, .time56]⟩
  | singleCommand => ⟨45, "C_SC_NA_1", [.sco]⟩
  | doubleCommand => ⟨46, "C_DC_NA_1", [.dco]⟩
  | regulatingStep => ⟨47, "C_RC_NA_1", [.rco]⟩
  | setpointNormalized => ⟨48, "C_SE_NA_1", [.nva, .qos]⟩
  | setpointScaled => ⟨49, "C_SE_NB_1", [.sva, .qos]⟩
  | setpointFloat => ⟨50, "C_SE_NC_1", [.float, .qos]⟩
  | bitstringCommand => ⟨51, "C_BO_NA_1", [.bsi]⟩
  | singleCommandTime56 => ⟨58, "C_SC_TA_1", [.sco, .time56]⟩
  | doubleCommandTime56 => ⟨59, "C_DC_TA_1", [.dco, .time56]⟩
  | regulatingStepTime56 => ⟨60, "C_RC_TA_1", [.rco, .time56]⟩
  | setpointNormalizedTime56 => ⟨61, "C_SE_TA_1", [.nva, .qos, .time56]⟩
  | setpointScaledTime56 => ⟨62, "C_SE_TB_1", [.sva, .qos, .time56]⟩
  | setpointFloatTime56 => ⟨63, "C_SE_TC_1", [.float, .qos, .time56]⟩
  | bitstringCommandTime56 => ⟨64, "C_BO_TA_1", [.bsi, .time56]⟩
  | endOfInitialization => ⟨70, "M_EI_NA_1", [.coi]⟩
  | interrogation => ⟨100, "C_IC_NA_1", [.qoi]⟩
  | counterInterrogation => ⟨101, "C_CI_NA_1", [.qcc]⟩
  | read => ⟨102, "C_RD_NA_1", []⟩
  | clockSynchronization => ⟨103, "C_CS_NA_1", [.time56]⟩
  | testCommand => ⟨104, "C_TS_NA_1", [.fbp]⟩
  | resetProcess => ⟨105, "C_RP_NA_1", [.qrp]⟩
  | delayAcquisition => ⟨106, "C_CD_NA_1", [.time16]⟩
  | testCommandTime56 => ⟨107, "C_TS_TA_1", [.tsc, .time56]⟩
  | parameterNormalized => ⟨110, "P_ME_NA_1", [.nva, .qpm]⟩
  | parameterScaled => ⟨111, "P_ME_NB_1", [.sva, .qpm]⟩
  | parameterFloat => ⟨112, "P_ME_NC_1", [.float, .qpm]⟩
  | parameterActivation => ⟨113, "P_AC_NA_1", [.qpa]⟩
  | fileReady => ⟨120, "F_FR_NA_1", [.nof, .lof, .frq]⟩
  | sectionReady => ⟨121, "F_SR_NA_1", [.nof, .nos, .lof, .srq]⟩
  | selectCall => ⟨122, "F_SC_NA_1", [.nof, .nos, .scq]⟩
  | lastSection => ⟨123, "F_LS_NA_1", [.nof, .nos, .lsq, .chs]⟩
  | acknowledgeFile => ⟨124, "F_AF_NA_1", [.nof, .nos, .afq]⟩
  | segment => ⟨125, "F_SG_NA_1", [.nof, .nos, .segment]⟩
  | directory => ⟨126, "F_DR_TA_1", [.nof, .lof, .sof, .time56]⟩
  | queryLog => ⟨127, "F_SC_NB_1", [.nof, .time56, .time56]⟩

/-- Every standard type, by ascending code. -/
def all : List AsduType :=
  [.singlePoint, .singlePointTime24, .doublePoint, .doublePointTime24, .stepPosition,
    .stepPositionTime24, .bitstring, .bitstringTime24, .measuredNormalized,
    .measuredNormalizedTime24, .measuredScaled, .measuredScaledTime24, .measuredFloat,
    .measuredFloatTime24, .integratedTotals, .integratedTotalsTime24, .protectionEventTime24,
    .protectionStartTime24, .outputCircuitTime24, .statusChanges, .measuredNormalizedNoQuality,
    .singlePointTime56, .doublePointTime56, .stepPositionTime56, .bitstringTime56,
    .measuredNormalizedTime56, .measuredScaledTime56, .measuredFloatTime56,
    .integratedTotalsTime56, .protectionEventTime56, .protectionStartTime56,
    .outputCircuitTime56, .singleCommand, .doubleCommand, .regulatingStep, .setpointNormalized,
    .setpointScaled, .setpointFloat, .bitstringCommand, .singleCommandTime56,
    .doubleCommandTime56, .regulatingStepTime56, .setpointNormalizedTime56,
    .setpointScaledTime56, .setpointFloatTime56, .bitstringCommandTime56, .endOfInitialization,
    .interrogation, .counterInterrogation, .read, .clockSynchronization, .testCommand,
    .resetProcess, .delayAcquisition, .testCommandTime56, .parameterNormalized,
    .parameterScaled, .parameterFloat, .parameterActivation, .fileReady, .sectionReady,
    .selectCall, .lastSection, .acknowledgeFile, .segment, .directory, .queryLog]

/-- The type identification octet of a type. -/
def code (t : AsduType) : UInt8 := t.profile.code

/-- The name of a type in the standard. -/
def mnemonic (t : AsduType) : String := t.profile.mnemonic

/-- The kinds of the elements of one element set, in wire order. -/
def layout (t : AsduType) : List ElementKind := t.profile.layout

/-- The standard type with a given code. -/
def ofCode? (code : UInt8) : Option AsduType := all.find? fun t => t.code == code

/-- Every type is found by its code. -/
theorem ofCode?_code (t : AsduType) : ofCode? t.code = some t := by
  cases t <;> rfl

theorem code_of_ofCode? {code : UInt8} {t : AsduType} (h : ofCode? code = some t) :
    t.code = code := by
  simpa using List.find?_some h

/-- The type carries information from a controlled to a controlling station. -/
def isMonitoring (t : AsduType) : Bool := t.code ≤ 44 || t.code == 70

/-- The type carries a command to a controlled station. -/
def isControl (t : AsduType) : Bool :=
  (45 ≤ t.code && t.code ≤ 69) || (100 ≤ t.code && t.code ≤ 109)

/-- The type sets or activates a parameter. -/
def isParameter (t : AsduType) : Bool := 110 ≤ t.code && t.code ≤ 119

/-- The type belongs to the transfer of files. -/
def isFileTransfer (t : AsduType) : Bool := 120 ≤ t.code && t.code ≤ 127

/-- The element sets of the type end with a time tag. -/
def hasTimeTag (t : AsduType) : Bool :=
  t.layout.getLast? == some .time24 || t.layout.getLast? == some .time56

end AsduType

/-- A type identification octet, classified. -/
inductive TypeIdentification
  | standard (type : AsduType)
  /-- A code below 128 that no standard type has. -/
  | reserved (code : UInt8)
  /-- A code from 128 on, free for private use. -/
  | privateUse (code : UInt8)
  deriving DecidableEq, Repr

namespace TypeIdentification

/-- The class of a type identification octet. -/
def ofOctet (octet : UInt8) : TypeIdentification :=
  match AsduType.ofCode? octet with
  | some type => .standard type
  | none => if 128 ≤ octet then .privateUse octet else .reserved octet

/-- The type identification octet. -/
def octet : TypeIdentification → UInt8
  | standard type => type.code
  | reserved code | privateUse code => code

/-- The standard type, if it is one. -/
def type? : TypeIdentification → Option AsduType
  | standard type => some type
  | _ => none

/-- The name of the code: the name in the standard, or its class and number. -/
def text : TypeIdentification → String
  | standard type => type.mnemonic
  | reserved code => s!"RESERVED_{code}"
  | privateUse code => s!"PRIVATE_{code}"

@[simp] theorem ofOctet_code (type : AsduType) : ofOctet type.code = .standard type := by
  simp [ofOctet, AsduType.ofCode?_code]

/-- Classification keeps the octet. -/
@[simp] theorem octet_ofOctet (octet : UInt8) : (ofOctet octet).octet = octet := by
  unfold ofOctet
  split
  · next type h => exact AsduType.code_of_ofCode? h
  · split <;> rfl

end TypeIdentification

end Telecontrol
