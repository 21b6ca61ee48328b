/-!
# Kinds of information elements

The building blocks of information objects. Every kind but the file segment has a fixed
width in octets (`ElementKind.width?`); a segment is preceded by one octet with its length.
-/

namespace Telecontrol

/-- The kinds of information elements. -/
inductive ElementKind
  /-- Single point with quality. -/
  | siq
  /-- Double point with quality. -/
  | diq
  /-- Step position with transient indication. -/
  | vti
  /-- Bit string of 32 bits. -/
  | bsi
  /-- Normalized value. -/
  | nva
  /-- Scaled value. -/
  | sva
  /-- Short floating point number. -/
  | float
  /-- Quality descriptor. -/
  | qds
  /-- Binary counter reading. -/
  | bcr
  /-- Single event of protection equipment. -/
  | sep
  /-- Start events of protection equipment. -/
  | spe
  /-- Output circuit information of protection equipment. -/
  | oci
  /-- Quality descriptor for events of protection equipment. -/
  | qdp
  /-- Status and status change detection. -/
  | scd
  /-- Single command. -/
  | sco
  /-- Double command. -/
  | dco
  /-- Regulating step command. -/
  | rco
  /-- Qualifier of set-point command. -/
  | qos
  /-- Qualifier of interrogation. -/
  | qoi
  /-- Qualifier of counter interrogation. -/
  | qcc
  /-- Qualifier of parameter of measured values. -/
  | qpm
  /-- Qualifier of parameter activation. -/
  | qpa
  /-- Qualifier of reset process command. -/
  | qrp
  /-- Cause of initialization. -/
  | coi
  /-- Fixed test bit pattern. -/
  | fbp
  /-- Test sequence counter. -/
  | tsc
  /-- Elapsed time. -/
  | time16
  /-- Three-octet time tag. -/
  | time24
  /-- Seven-octet time tag. -/
  | time56
  /-- Name of file. -/
  | nof
  /-- Name of section. -/
  | nos
  /-- Length of file or section. -/
  | lof
  /-- File ready qualifier. -/
  | frq
  /-- Section ready qualifier. -/
  | srq
  /-- Select and call qualifier. -/
  | scq
  /-- Last section or segment qualifier. -/
  | lsq
  /-- Checksum. -/
  | chs
  /-- Acknowledge file or section qualifier. -/
  | afq
  /-- Status of file. -/
  | sof
  /-- Segment of a file, preceded by its length. -/
  | segment
  deriving DecidableEq, Repr

namespace ElementKind

/-- The abbreviation of the kind in diagnostics. -/
def name : ElementKind → String
  | siq => "Siq"
  | diq => "Diq"
  | vti => "Vti"
  | bsi => "Bsi"
  | nva => "Nva"
  | sva => "Sva"
  | float => "Float"
  | qds => "Qds"
  | bcr => "Bcr"
  | sep => "Sep"
  | spe => "Spe"
  | oci => "Oci"
  | qdp => "Qdp"
  | scd => "Scd"
  | sco => "Sco"
  | dco => "Dco"
  | rco => "Rco"
  | qos => "Qos"
  | qoi => "Qoi"
  | qcc => "Qcc"
  | qpm => "Qpm"
  | qpa => "Qpa"
  | qrp => "Qrp"
  | coi => "Coi"
  | fbp => "Fbp"
  | tsc => "Tsc"
  | time16 => "Time16"
  | time24 => "Time24"
  | time56 => "Time56"
  | nof => "Nof"
  | nos => "Nos"
  | lof => "Lof"
  | frq => "Frq"
  | srq => "Srq"
  | scq => "Scq"
  | lsq => "Lsq"
  | chs => "Chs"
  | afq => "Afq"
  | sof => "Sof"
  | segment => "Segment"

/-- Every kind. -/
def all : List ElementKind :=
  [.siq, .diq, .vti, .bsi, .nva, .sva, .float, .qds, .bcr, .sep, .spe, .oci, .qdp, .scd, .sco,
    .dco, .rco, .qos, .qoi, .qcc, .qpm, .qpa, .qrp, .coi, .fbp, .tsc, .time16, .time24,
    .time56, .nof, .nos, .lof, .frq, .srq, .scq, .lsq, .chs, .afq, .sof, .segment]

/-- The octets of an element of the kind; `none` for the segment. -/
def width? : ElementKind → Option Nat
  | segment => none
  | time56 => some 7
  | bcr => some 5
  | bsi | float | scd => some 4
  | time24 | lof => some 3
  | nva | sva | fbp | tsc | time16 | nof => some 2
  | _ => some 1

end ElementKind

end Telecontrol
