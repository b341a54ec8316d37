import AccessPolicy.Unicode.PropertyRow

/-!
# Yes-or-no properties

Properties that a character has or lacks, such as `Alphabetic` or `White_Space`.
-/

namespace AccessPolicy.Unicode

/-- Binary properties by short and long name. -/
def binaryRows : List PropertyRow := [
  ⟨["ahex", "asciihexdigit"],
    ["bWJHFbAF"]⟩,
  ⟨["alpha", "alphabetic"],
    ["cNZGZbVAKAEAFWBbEBrPELOEHABAdIAbDRBBCDBAGABCBABTBdEBfIIgJBbLCAGbObNNBABBBBBAIbAEDb",
     "DKFcDBGOdXBHEHECKCCAQbVNdWYbGJBEAFXCSTYHKFXBGHAIbPKLDGGcXBPBCEONSBHCBCVBGBADDDHCBC",
     "BBAIAEBBEMBKAECBFEBCVBGBBBBBBEEEBCBEAHDBARFLCBIBCBVBGBBBEDIBCBBDAPDVDECBHCBCVBGBBB",
     "EDHCBCBJBEBBENAQBBFDCBDDBBABBDBDCDLEEDCBCDAGAbOMBCBWBPDHBCBCIBBCBBCDbCDBHBCBWBJBED",
     "HBCBCIBFCBDNCMMBCBbOCHBCBCBAFDHEWFBCBRDXBIBACGIFBABHSBNcFFGGAbZBBABEBXBABSBCCEBAGA",
     "ODbGAcLHBbJESEPBbJcPcCBACEQcLKDCbLBAFACbQBmUBDCGBABDCbOBDCbGBDCGBABDCOBcEBDCcObLPQ",
     "dHCFDxVCQBZFcWDKHTLUMTMMBCBBMbZCSOAEAcPdKHbQFcRKbEBLEIXbDCELbREZcCbBEcKCTbYAXBLCbX",
     "bZBOBHbZbPCDKbRBKOcCWCKbJCKFbQCCbPDBFBBDAFhJTbHLkRCFCbLCFCHBABABABbECcABGBADCBGDDC",
     "FEMFCBGeMANAQMdXAEACJBADEGABABABDBKCDFEEARbObfHbZcrUiUGDDBMbLBAFACcDHAQWJGBGBGBGBG",
     "BGBGBGBbFbVAsBCZIHECEEdHGCBdLBDFbQBdPRbFbWPtSjtNcMbguEcPbTCkIDPKBUbUFHDeIbNICdYCdD",
     "UUBbGYbZMcPBAbSFDABCKbGFbINbCDbYBLPAQPKEBcCJNSWDcQBABAYCCPCDLFCFCFJGBGBbQBNGeSVqnR",
     "MWEbWmnCoBCeBbMGMEFLBMBEBABBBBBeDbHnYScLCcBbOLeMEBfEbKZGZLdKDFCFCFCCbJLBZBSBBBOCNb",
     "IeScRcAkHbCDbWbVbFNbDFbQFbDCbJEHBEbQgBSbJEbJEbNIbZMKBOBGBBBKBOBGBBDbZMlYJVKHYFBbPB",
     "IcRFCABbRBBDACWKWJbEcNSBBKVKZGZbMcDGBcMDBBFHBCBbCbQbCDbCbJHBbBbBcBKVKSNReGcUcDbYNb",
     "YNbNbIbBDAFWjQbPBBDBQFbYCDbCKAIVbQRbUUbBWJcRbREKcEJANYXbYRDIbIDAJcLBDJBKABAbJRBbHC",
     "AGDcKGBABDBOBJHcEXDBHCBCVBGBBBEDHCBCBDAGAFGbCJBACABbLBJBACABDBBDABAbScNBCBDUCbEcNC",
     "BBAhCcBCGZFbIcKBADAcHcBCAcTbACNVGhDcEdZcLbFHCACHBBBbDBBCBCDdPHCbTCFBABBbBbYCJRcTFA",
     "ScUdZHdKbGbFIBbSBGBAbXbDCVBNcVGBBBbRDABBBCBACBYFBBBbKBBBDBAXbRkAWJQBbODCeHAdBbjLdY",
     "eGRhNdxKdSPbpFRFZfxQFwKkdDbUcpDvWHbERdARbDSbVQDbFUFSqQbSiDcLbGYCYbScWEcEHQcMBBAMGJ",
     "kxXbPbFdTeKmwRDBGBBBlEPAbDCCAODIpFdkUeCFMDIHJEAiwFdGBcSBBCACBCDBLBABGBcMBDCHBGBbBB",
     "DBEBADGBnBCYBYBbEBYBbEBYBbEBYBbEBYBHcsYbEGFiFGBQCGBBBEFcJbHAeIbSKGQAmJbDSbRsQbBiUb",
     "DCAhZbEBVIBiQGBDBBBOBhOcHcPDADAbuIDBbABBBACABJBDBABAGAEABABABCBBBACABABABABABBBACD",
     "BGBDBDBABJBQFCBEBQyEZGZGZfmKclfBbGgmNCioBClbKPxXdqWuVcfYhhYFmoN"]⟩,
  ⟨["bidic", "bidicontrol"],
    ["ciEAjvLBbAEcDD"]⟩,
  ⟨["bidim", "bidimirrored"],
    ["bOBSABAbCABAbDABAbTAPAfmSDcuNBdqQBKBcCBOBgVAhKDDFDADBDDBDBABAEIFABRFDJBBABHBbFCDFA",
     "JBCSFBJECBEXCPIDUBHBbpTNcWACDBBBCFDFCDNpNVCFBNIAHFDAEEBBCEEABCCBKFCBMSBDCABACABDFB",
     "GCYBLBEDBBCBEbQCHBbNFABADEFCEADEBAjWAtVDDBBBOBCJbRHqLJCHdacRFFBgGBSABAbCABAbDABABB",
     "BBddpNAcFAcFAcFAcFA"]⟩,
  ⟨["ci", "caseignorable"],
    ["bNAGALAbJABAcTAEABAEACBtJhJEBEAJBBAjRGhZAFAbXbSBABBBBBAbSALFKKBAbJAKUQAdXHBJBDbHAB",
     "AbEbAdNKcGKEACAYXbRCbSAHBFIbPcFcDABAEHEADGKBNAPAcGAEDIAUBbAACBcFAEBEBCCDAbEBDALBcF",
     "AEEBBEAUBWFBAcGACABDIAHBLBbEAcJAMAbYADAcDABCFCBDHBLBbDAcGACAGAFBUBbCBcFBEDIAUBbDAc",
     "UAHCBAdMACGLIdUACIJABGcVBbBABABAcDNBEBBFKBbJJAdYDBFBBCBZBECQDNACBGAPAdQAxKCbkKCbDB",
     "bEBbEBcMBBGIACKDAFAbTEbZAcNBbIAeOCEBJAGCiLBCAcGABGBABACHGJCAbNAIbTCLUDbWABEBAFAbOI",
     "MBbGDCBBCcEABBDABCcGHCBcMFdECBMBGEAGADBbYcKNAbIdWrDABCLCNCNCNBMEIBKACACEbXEBJBANAQ",
     "MbZbGejRBeJCeVAPAdSbFbVAsBAbKDDEFAdPFdPCbqbUAbwCFkKAdUDBJBAbCDdCBObHdAAXCdYDDBIADA",
     "EAZBFAfVBbARNAbMHZKbUCbWACDCBRAVBcOFCBCBMAIAbJALAbZABCCBFBBAbBAOBFBBAdWEJCeRACAEAb",
     "dzSAfRQwBPDAMPbIACAgNAHAGALAbJABAbVAbTBcPAVCtTAiSAfTEbnPFBbPBIwKCBBFDbOCEAgJBwBDbM",
     "AbAEBAmDBYAcAFcSKbXDeTAcCObPACBKCbXDCBCAEAKAbYCbKEBHcKAMBcAIKDCAdRCCABBGACAgBADHVB",
     "cFBDAbLGDEcSFNABABAOBdHHCCBAXAdGFBAEBBBjEDGBBBbBBdHHCABBeCABACFBAdXABACDBEjZIBBjWB",
     "BAEAfODCBEAbGJbOFCDIAJFCCbUMBBhQABCBAhTGBFBAdEVCGBBBBeSFDABBBGBAcUBDABAcNAkVBLBcAE",
     "FABAXAhxDQGOqyYLDCdsAEcHGJDtOCbOBsOAcLQcMBBBNBygADBGBBeuGBBDgyUbTCWuYCJPCGbEDfSCcy",
     "DcCEbXIAOAWEBOcaIGBQCGBBBEFcJbHAgENoEAcJDtNEjUBjJACAHBFAJArWGeFHebFEbsxxPAbEdReYjF"]⟩,
  ⟨["cased"],
    ["cNZGZbVAKAEAFWBbEBhMBDEhZCbIHBbEEdSAbQDCBCDBAGABCBABTBdEBfIIgJBbLJbOefFbLBAFACbQBD",
     "zWdHCFdfUKFbQCCcMhJcMkRCFCbLCFCHBABABABbECcABGBADCBGDDCFEMFCBGeMANAQMdXAEACJBADEGA",
     "BABABDBFEACDFEEARbFDBbfLbZcrUiUGDDBMbLBAFAbtwCbTSbDfCdXDDBcYUFBCbfPbQBNGdBbeaIGMEb",
     "nTZGZbtTdBdSbJEbJeMKBOBGBBBKBOBGBBrJACCBbPBIbuZbYNbYdPVKVefIcLbgiQcLbGYCYbmiEdGBcS",
     "BBCACBCDBLBABGBcMBDCHBGBbBBDBEBADGBnBCYBYBbEBYBbEBYBbEBYBbEBYBHcsYJBTGFkBcJdgKcPda",
     "AZGZGZ"]⟩,
  ⟨["cwcf", "changeswhencasefolded"],
    ["cNZdMAKWBHbGABABABABABABABABABABABABABABABABABABABABABABABABABABABACABABABABABABAB",
     "ABBBABABABABABABABABABABABABABABABABABABABABABABBBABABABBBABBBCCDBBBCDBBBBABABBBAC",
     "ABBBCBABBDAHBBBBBBABABABABABABABACABABABABABABABABACBBABCBABABABABABABABABABABABAB",
     "ABABABABABABABABABABABABABABABABAHBBBCABDBABABABAjMAbQABADAIAGABCBABBBQBIWAMCDBBAB",
     "ABABABABABABABABABABABBCBBABBCbYbWABABABABABABABABABABABABABABABABAJABABABABABABAB",
     "ABABABABABABABABABABABABABABABABABABABABBBABABABABABACABABABABABABABABABABABABABAB",
     "ABABABABABABABABABABABABABABABABABABABABABABABABABABABABABABABABABACbLbWAefGbLBAFA",
     "bfEFdfUJGbQCCmIABABABABABABABABABABABABABABABABABABABABABABABABABABABABABABABABABA",
     "BABABABABABABABABABABABABABABABABABABABABABABABABABABABABABABABABABABABABABABABABA",
     "FBCABABABABABABABABABABABABABABABABABABABABABABABABABABABABABABABABABABABABABABABA",
     "BABABABABABABABABAJHIFKHIHIFLABABABAIHQbVCCCFFCCFLDMEFCCFlLADBGAbTPTAbfMZcsUbVbWAB",
     "CCABABABDBACAICBABABABABABABABABABABABABABABABABABABABABABABABABABABABABABABABABAB",
     "ABABABABABABABABABABABABABABABAIABAEAbtyJABABABABABABABABABABABABABABABABABABABABA",
     "BABATABABABABABABABABABABABABABAfFABABABABABABADABABABABABABABABABABABABABABABABAB",
     "ABABABABABABABABABABABABABAKABABBBABABABAEABACABADABABABABABABABABABABEBEBABABABAB",
     "ABABABDBABBBABABABABABABABAYAbiGdBbeaIGMEbnTZbuZbNfGbJgAKBOBGBBcqCbYgBVegObFbgjWbF",
     "cMYbuhZbH"]⟩,
  ⟨["cwcm", "changeswhencasemapped"],
    ["cNZGZcGAKWBbEBcLBdFBbBCNCBBAEdOBRGbABBBABBDBBDBECABBCAHACABBDFFAKBgKAbQDCBDCBAGABC",
     "BABTBbUDbGBEBfCIgJBbLKbMefGbLBAFACbQCCzWdHCFdfUKFbQCChDADAQAeJfZCABeNCFCbLCFCHBABA",
     "BABbECcABGBADCBGDDCFEMFCBGlLADBGAbBARbFDBbfLbZcrUeIBBBBHdXHDDBMbLBAFAbtwCbTSbBfENC",
     "cJJODCCEBYBbSYBbhCAbCdBbeaIGMEbnTZGZbtTdBdSbJEbJeMKBOBGBBBKBOBGBBcoPbYNbYdPVKVefIc",
     "LbgiQcLbGYCYbugYcP"]⟩,
  ⟨["cwl", "changeswhenlowercased"],
    ["cNZdXWBGbHABABABABABABABABABABABABABABABABABABABABABABABABABABABACABABABABABABABAC",
     "ABABABABABABABABABABABABABABABABABABABABABABABBBABADBBABBBCCDBBBCDBBBBABABBBACABBB",
     "CBABBDAHBBBBBBABABABABABABABACABABABABABABABABACBBABCBABABABABABABABABABABABABABAB",
     "ABABABABABABABABABABABABABABAHBBBCABDBABABABAlDABADAIAGABCBABBBQBIbJAIABABABABABAB",
     "ABABABABABAFACABBCbYbWABABABABABABABABABABABABABABABABAJABABABABABABABABABABABABAB",
     "ABABABABABABABABABABABABABABBBABABABABABACABABABABABABABABABABABABABABABABABABABAB",
     "ABABABABABABABABABABABABABABABABABABABABABABABABABABABACbLehDbLBAFAbbUdHdgLAGbQCCm",
     "IABABABABABABABABABABABABABABABABABABABABABABABABABABABABABABABABABABABABABABABABA",
     "BABABABABABABABABABABABABABABABABABABABABABABABABABABABABABABABABABAJABABABABABABA",
     "BABABABABABABABABABABABABABABABABABABABABABABABABABABABABABABABABABABABABABABABABA",
     "BAJHIFKHIHIFLABABABAIHYHIHIHIELELDMELElLADBGAbTPTAbfMZcsUbVbWABCCABABABDBACAICBABA",
     "BABABABABABABABABABABABABABABABABABABABABABABABABABABABABABABABABABABABABABABABABA",
     "BABABABABABAIABAEAbtyJABABABABABABABABABABABABABABABABABABABABABABATABABABABABABAB",
     "ABABABABABABAfFABABABABABABADABABABABABABABABABABABABABABABABABABABABABABABABABABA",
     "BABABABAKABABBBABABABAEABACABADABABABABABABABABABABEBEBABABABABABABABDBABBBABABABA",
     "BABABABAYAbhaHZbuZbNfGbJgAKBOBGBBcqCbYgBVegObFbgjWbFcMYbuhZbH"]⟩,
  ⟨["cwt", "changeswhentitlecased"],
    ["dTZcGAbPXBHBABABABABABABABABABABABABABABABABABABABABABABABABABABABACABABABABABABAB",
     "BBABABABABABABABABABABABABABABABABABABABABABABACABABCCABACADAFACADCCACABABACAEACAD",
     "ABACADABAEABBBBBABABABABABABABABBBABABABABABABABABCBABADABABABABABABABABABABABABAB",
     "ABABABABABABADABABABABABABABABAIACBBAEABABABABFBBBABBDBBDBECABBCAHACABBDFFAKBgKAbR",
     "ABADADCSAbBbIBBDCBABABABABABABABABABABABEBACACAcAbVBABABABABABABABABABABABABABABAB",
     "ABAJABABABABABABABABABABABABABABABABABABABABABABABABABABACABABABABABABBBABABABABAB",
     "ABABABABABABABABABABABABABABABABABABABABABABABABABABABABABABABABABABABABABABABABAB",
     "ABAbXbMfmEFdfUIBAjEADAQAeKABABABABABABABABABABABABABABABABABABABABABABABABABABABAB",
     "ABABABABABABABABABABABABABABABABABABABABABABABABABABABABABABABABABABABABABABABABAB",
     "ABABABABABGFABABABABABABABABABABABABABABABABABABABABABABABABABABABABABABABABABABAB",
     "ABABABABABABABABABABABABIIFKHIHIFKHIHINCHIHIHIEBBGADCBBIDCBIHKCBBnEAbHPEAbgLZctQbV",
     "BADBBABABAGACAKABABABABABABABABABABABABABABABABABABABABABABABABABABABABABABABABABA",
     "BABABABABABABABABABABABABABABABAIABAEAMbLBAFAbtwDABABABABABABABABABABABABABABABABA",
     "BABABABABABATABABABABABABABABABABABABABAfFABABABABABABADABABABABABABABABABABABABAB",
     "ABABABABABABABABABABABABABABABABABAKABACABABABABAEAEABBCABABABABABABABABABALABABAB",
     "ABABABABAEABACABABABABABABABAbAAbhCAbCdBbeaIGMEboZZbvHbNfGbJfZKBOBGBBcrBbYeVVegObF",
     "bgjWbFcHYbuiGbH"]⟩,
  ⟨["cwu", "changeswhenuppercased"],
    ["dTZcGAbPXBHBABABABABABABABABABABABABABABABABABABABABABABABABABABABACABABABABABABAB",
     "BBABABABABABABABABABABABABABABABABABABABABABABACABABCCABACADAFACADCCACABABACAEACAD",
     "ABACADABAFBBBBBBABABABABABABABBBABABABABABABABABBBBBADABABABABABABABABABABABABABAB",
     "ABABABABABADABABABABABABABABAIACBBAEABABABABFBBBABBDBBDBECABBCAHACABBDFFAKBgKAbRAB",
     "ADADCSAbBbIBBDCBABABABABABABABABABABABEBACACAcAbVBABABABABABABABABABABABABABABABAB",
     "AJABABABABABABABABABABABABABABABABABABABABABABABABABABACABABABABABABBBABABABABABAB",
     "ABABABABABABABABABABABABABABABABABABABABABABABABABABABABABABABABABABABABABABABABAB",
     "AbXbMehCbQCCbdGFdfUIBAjEADAQAeKABABABABABABABABABABABABABABABABABABABABABABABABABA",
     "BABABABABABABABABABABABABABABABABABABABABABABABABABABABABABABABABABABABABABABABABA",
     "BABABABABABABABGFABABABABABABABABABABABABABABABABABABABABABABABABABABABABABABABABA",
     "BABABABABABABABABABABABABABABIIFKHIHIFKHIHINCcABBEABADCBBEADDCBIHKCBBEAmZAbHPEAbgL",
     "ZctQbVBADBBABABAGACAKABABABABABABABABABABABABABABABABABABABABABABABABABABABABABABA",
     "BABABABABABABABABABABABABABABABABABABAIABAEAMbLBAFAbtwDABABABABABABABABABABABABABA",
     "BABABABABABABABABATABABABABABABABABABABABABABAfFABABABABABABADABABABABABABABABABAB",
     "ABABABABABABABABABABABABABABABABABABABABAKABACABABABABAEAEABBCABABABABABABABABABAL",
     "ABABABABABABABAEABACABABABABABABABAbAAbhCAbCdBbeaIGMEboZZbvHbNfGbJfZKBOBGBBcrBbYeV",
     "VegObFbgjWbFcHYbuiGbH"]⟩,
  ⟨["dash"],
    ["bTAcaUAbZAfkJAbnPAdbDFcJAbNAPApAAeoIACAbFBEAbCArEATAeHAczwABbLAKAgNAflOAmGA"]⟩,
  ⟨["di", "defaultignorablecodepoint"],
    ["gRAzXAbbOAegWBckHBdHEdaPEbAEbXPgkYAczmPPjFAgEAdBIctlNDhwXHbtkzLgbN"]⟩,
  ⟨["dep", "deprecated"],
    ["mRAbyVAdkTABAdcJBdiJFbaVBbzryKA"]⟩,
  ⟨["dia", "diacritic"],
    ["dQABAcTAGAEACBtJgCBHFFRBEAJBjTEiBAcDbSBABBBBBAfBHEBfEBEBDCcPbAdNKcGKbIBeWHbPJQbBcJ",
     "AQADDbCAcWAQAeGAQAeGAQAbVCcIAQAHAePAeGAQAeGAQAeFBQAeUAeHAMFBAeDANEcXBbBABABAEBcOCB",
     "BcKAeIABBbOBEEZGBAKBbbDCbkMBbEAfSKJAnJClGAUHCAbWOCKDOCLcUAPAbMIcCBcGALBcOBcMFdEYEA",
     "GACCbYcKbWbJFLbLKrDABCLCNCNCNBexKCmFAtMFeBDdRAbsmKAMBBAbCBdEBObHdYCdYAGBMAbLAfVAbB",
     "RcFDbKAdRAMAbKAfTCcNDbZAdWEJCeYBbdzSAbdPPkKABAbVAbTBcPAbdKAbtNFBbPBIyNCEAgJBvZFbMA",
     "bAEpGACCcSKbXDhKAbPAcUBeQBcKAcYAJCeABgWBdCBQAYGDEdLCBBNBdRADAeTBjRBeWAeOBeLAkJBjYB",
     "EAgAAdFASAdDAqFAjYABBdDAcNAnVBXAhyAOqzPAdsAEcHGvSBvAQdCBygCDBGBBltHbTCWuYCDFIHCGbE",
     "DfmWcJhMGoLAcJDbdMBbcIGeFCBC"]⟩,
  ⟨["emoji"],
    ["bJAGAFJeHAEAlyRAMAiIAWAdMFPBoDBMAgKAZKEChRAiXBKAJAcGDBEJACACBCAEACABBCADADBICFABAF",
     "LLBCABBBASACBSFBABBDBFACBEBLBFBCAFBBABBUBFFBDCAEACACFBACABABAGADAGAKBPACAEABAECBAL",
     "BbWCJAOAOAoIBrVCTBbZAEAbvUAMAxDABAgmrQAhUAgEBMBOACJcXZBBXAUACIVBgSbHCeHCBBCCdECCBk",
     "CBcKLFBXHBCHMACDCAEBNBCAIBJAFCMCICCABAEAGADAGdHbWcRFHCDDJDABBDACJiTLEAkXbUBJBhCeIM",
     "DKDcEBAEPCLEJ"]⟩,
  ⟨["ecomp", "emojicomponent"],
    ["bJAGAFJmbJAiFAdftRAdoiWZtNEceADbsvuQdR"]⟩,
  ⟨["emod", "emojimodifier"],
    ["hhiXE"]⟩,
  ⟨["ebase", "emojimodifierbase"],
    ["olHAiLAQDgsjVAcICCACCeNBCKVSDAECBCHABAYAhTBEAVAEBgSCDEdFAQCJALAwDACAIHGAJJCCcEAcJB",
     "BBBARCBMiVCbQI"]⟩,
  ⟨["epres", "emojipresentation"],
    ["nhQBhXDDACAuBBVBbYLbRATANAIBRBFBIAFAVAHBBAEACAHAEBbCAbJABAECBAcJCYAOAbhBBbZAEAgplE",
     "AhUAhIACJcXZBAYAUACEBCVBgSbGMIBcRBVMbQEEMQDADcSBABhECcKNDBXSAbABNAdIdGbWcRGADCCDDD",
     "LBHIiTLEAkXbUBJBhCeIMDKDcEBAEPCLEJ"]⟩,
  ⟨["extpict", "extendedpictographic"],
    ["gNAEAlyRAMAiIAWAdMFPBoDBMAgKAZKEChRAiXBKAJAcGDBEJACACBCAEACABBCADADBICFABAFLLBCABB",
     "BASACBSFBABBDBFACBEBLBFBCAFBBABBUBFFBDCAEACACFBACABABAGADAGAKBPACAEABAECBALBbWCJAO",
     "AOAoIBrVCTBbZAEAbvUAMAxDABAgmrQAbNDdWLPBPAOBbLJeIBMBOACJTcDbBOKAUACIBDJWGhFCeHCBBC",
     "CdECCBDFjTBcKLFBXHBCHMACDCAEBNBCAIBJAFCMCICCABAEAGADAGdHbWcRFHCQDABFCMiKbLMDcEHKFb",
     "OHbEBMDCNJbMMbUBJBhCdKHOfPjWbnH"]⟩,
  ⟨["ext", "extender"],
    ["hBAuQBbhUAqZAyGAfHAdLAbcYAeXAdnFAcEAxNApIAcQAhkJAbREdZBdPCbqbUAcgSAblAAWAfHAeEAVBb",
     "fzVAdbKBcfBAbBAEAbvBAlHAeMBtECbvJAbgAAbdiEBbtKBBAOBbqxKBbuFAbgUC"]⟩,
  ⟨["grbase", "graphemebase"],
    ["bGdQbHMBwVeIHCFEGBABTBiPHgJBbLCbXCCbUABACACAJbAEFRJLABbTVPBdWIAGBCAEbFCABbDbDdKLAO",
     "bQJGDXEAJADAHOBYFABKFbFQbPcFcCBABDIDBCHJCbCBBBHCBCVBGBADDDABBGBCBBANBBCEXFABFEBCVB",
     "GBBBBBBECYDBAHJCCBAMABIBCBVBGBBBEDDIABBDAPBELHAIBBHCBCVBGBBBEDACAGBCBPBBCERLABFDCB",
     "DDBBABBDBDCDLFABBDCBCDAVUGCBHBCBWBPDADDTCBBCBEJHJBKBCBWBJBEDBCABBXCBBEJBCOKBCBbOCA",
     "BBFCBCBBECBJEZCBBRDXBIBACGJBGGHJCCMbVBBLHIMbLBBABEBXBABJBBJACEBAJJCDbGXCbABABABNBb",
     "JSAFACEbXHBFBMbLbSEAGACBCYCDDPEMBBCFBOBbNBAFACoMBDCGBABDCbOBDCbGBDCGBABDCOBcEBDCcO",
     "FbCDZGdHCFCzSDdKHRNSDBJROMBCPbZCAHHBBLIDJGJGKFJGdKHECbHBAFcRKbEEDCCEBBFHADbPCELbRE",
     "ZGKDcECBDcDBAJABBIFNJGJGNdIbVKDDHBbCJLCbFEBGcDBACCBANbVIBFODcJFbQCKLANAHDBFBCCAFhJ",
     "cMkRCFCbLCFCHBABABABbECcABOBNCFBSCCBIBKFXHbWQBCbABMDbHcKfJEzPWKVcrRCoMDBFbSBAFACcD",
     "HBPWJGBGBGBGBGBGBGBGbHdPbIZBdKMiFbAcFGPBdHEdWFbQBdPBdHJbVBbriQDcCJnJUbUEAKbFCdBCFI",
     "iMUQBCBDBYCEEJGcDIcPKLYMBbLIYLAMbDGbVBBEBCBBMBKEGBYBbOGBCBLCBHBACJCbFBbYBADBCECABA",
     "YQCHLFCFCFJGBGBcHEeMBBBDDJGqnRMWEbWmnCoBCeBbMGMEFABXBEBABBBBByZbGPQJWbIBSBDEEBfEEg",
     "ACbEDFCFCFCCDGBGNBCLBZBSBBBOCNbIeSFCEbSDdJBMDAbVbSfBbCDbWQbAEbJJbDFbLKbDBbKENbQgBC",
     "JGbJEbJEbNIbZLLBOBGBBBKBOBGBBDbZMlYJVKHYFBbPBIcRFCABbRBBDACWBcTIIbWSBBFbGDbAFbAbMc",
     "DETCbUPDBCBbCKIHIHcLbGbKGLJcBDbCCbAFZHDMGdCcUcDbYNbYHbPMJGbLIXIBiAbEBbPDACBQFIIbNb",
     "NIVLIWREDbMbBUWJABcBPGEbDBBCAMbWEBCBBDOYHJJbJFAJRIbIBCLbZJABHEBBPBTLRBbBDBEFBBcLGB",
     "ABDBOBKGbUBCNJIBBHCBCVBGBBBEDABABDCBCBDAMGbCJBACABbLBABBPABBDABCBBbNcDIBDABUBABCbE",
     "bVBBGABBBACACDIJgKbUBBGDCACbAbKbYIBBACDLJGMTbQBABBIBGJGTbCbADABBEAJWhDbUJACAdWdEMH",
     "CACHBBBXBEBBGDBCJJcSHCbPIDBDbBAKbNGBEHJAGBDbTNACINcUHJdJADABAdKbHOJGIBbLOABFKbCDbF",
     "ZAHACAcXGBBBbLVAJJGFBBBbKEBBABAHJGbREJjMSCDJOBbJIBDWdIAPbXNbjMdYeGBELhNdxKdUNbpFRF",
     "ZfxQFwKkdDbDMCDJcoSvWHbEBJEdCBJGbDHAKbVHOKJBGBUFSqQcFhQdMFYCYbScWFcDLMcMDOEJkxXbPb",
     "FdTeKmwRDBGBBBlEPAbDCCAODIpFdkUeCFMDIHJCACAfvKjSDqTGWPQdReLcIjLKbMCcHFCWBHbDEcIVcN",
     "DAeSTMTMdIJYfFdGBcSBBCACBCDBLBABGBcMBDCHBGBbBBDBEBADGBnBClFCvPcDDbYHBNBGbrWbEGFkBc",
     "JfQbSKGCJEBmIbDSbREJFArWbBEJiGbDCKEAhKbEBCBBBGCEJBiQGBDBBBOBhOCIbWcPHAEJEBbeFcPcYc",
     "IhMDBbABBBACABJBDBABAGAEABABABCBBBACABABABABABBBACDBGBDBDBABJBQFCBEBQcABkKbREdVMOC",
     "OBOBbKKgRcEbCNbREIHBOFfYblWDQDMDiJGLEAPLEcDIJGbNIbDCLEBOIbNnFINCMDKDcEBAEPCLEJHfQB",
     "dYbnPclfBbGgmNCioBClbKPxXdqWuVcfYhhYFmoN"]⟩,
  ⟨["grext", "graphemeextend"],
    ["bdOeHkPGkDbSBABBBBBAcUKbWUQAdXGCFCBBDbJAbEbAdNKcGIJAYDBIBCBEbRCcHIbQXBbFcDABAEHEAD",
     "GKBbDAcGABACDIAJAKBbAACBcFAEBEBCCDAbEBDALBcFAEEBBEAUBWFBAcGABBBDIAHCKBbEAcHABAMAJA",
     "bOADAcDABCFCBDHBLBbDAcGACBBADCBDHBLBbCBcFBBACDIAJAKBbDAcUAEACCBAIAdDACGMHdUACILGcV",
     "BbBABABAcDNBEBBFKBbJJAdYDBFBBCBZBECQDNACBGAPAbbBCbkKDbCCbDBbEBcMBBGIACKJAbTCBAeNBb",
     "IAeOCEBJAGCiLBCAcGABGBABACHGJCAbWbTCLUDbWJECbMIMBbGDCFcEABBDABEcEHCBfWCBMBGEAGADBh",
     "QcLuEAhNbGeoCCfLAdSbFvIFeBBbsqEDBJbGBdCBkMADAEAZBFAfVBbARNAbMHZKBAbSCbWACDCBCAbKAc",
     "PFCBCBMAIAbVAbZABCCBFBBAbQBIAjEACAEAbdzSAbcJPQPoCBxHAiSAfTEcmGCBBFDbOCEAgJBwBDcNEm",
     "FBcZFcSKbXDeTAcCObPACBKCbXDCBHAcJCbKEBHcKAMBcAIBAIDCAdRCCDGACAgBADHVBcFBBABAMAJAOG",
     "DEcPACFBACABCECBAOBdHHCCBAXAdDACFBACABBBBjBACDGBBBbBBdHHCABBeCABACHdXABACDBEjZIBBj",
     "LAKDEAfODCBEAbGJbOFCDIAJFCCbUMBBhQABCBAhTGBFBAdEVCGBBBBeSFDABBBGBAcUBDABAnJBLBcAEF",
     "CXAhxTAGOqyYLDCdsAEcHGboIAcLDdDALBbdaXBgyZbTCWuWEDFIHCGbEDfSCcyDcCEbXIAOAWEBOcaIGB",
     "QCGBBBEdWAgEGoLAcJDtODjUBjJACAHBFAsGGeFGbtcaFdReYjF"]⟩,
  ⟨["grlink", "graphemelink"],
    ["dnPAeXAeXAeXAeXAeXAeXAeXAeFBQAeUAeHAeXAhTAgYBcpLBbEAgBAzDAiTAdXBcSBgqTAbukKAbLAfVA",
     "fMAeEAlXAjMAbjsRAchIAbPAOAcFAeRBfJAeMAgYAdUAjKAeXAjSAeXAeOAeMAkJAjZBgFAdFASAdDAqFA",
     "kABdDAqJB"]⟩,
  ⟨["hex", "hexdigit"],
    ["bWJHFbAFdslLJHFbAF"]⟩,
  ⟨["hyphen"],
    ["bTAeXAbvWAgzZAdbDBfiBAbcLAczuLAgNAdJA"]⟩,
  ⟨["idsb", "idsbinaryoperator"],
    ["seABCJtDA"]⟩,
  ⟨["idst", "idstrinaryoperator"],
    ["seCB"]⟩,
  ⟨["idc", "idcontinue"],
    ["bWJHZEABZbVAKABACAFWBbEBrPELOEHABAReMBBCDBAGEBABTBdEBfIBECgJBbLCAGbOIbSBABBBBBAIbA",
     "EDbDKFcVEdXBHCJBSCAQcGCdWOcBEACACbTSbBEKFXBGHcWBeYCJBSBHCBCVBGBADDCICBCDIAEBBECLKA",
     "BACCBFEBCVBGBBBBBBCABEEBCCDAHDBAHPLCBIBCBVBGBBBECJBCBCCAPDCJJGBCBHCBCVBGBBBECICBCC",
     "HCEBBECJBAQBBFDCBDDBBABBDBDCDLEEDCBDCAGAOJQMBCBWBPCIBCBDHBBCBBCDCJQDBHBCBWBJBECIBC",
     "BDHBFCBDCJBCMMBCBbYBCBEFDHECJKFBCBRDXBIBACGDAEFBABHGJCBNcFFOBJbNBBABEBXBABWCEBABGB",
     "JCDbGAXBGJLABABAEJBbJETBRBbJJAcFcVGcZCbLBAFACbQBmUBDCGBABDCbOBDCbGBDCGBABDCOBcEBDC",
     "cOCCJIOPQdHCFDxVCQBZFcWDKHVJVLTMMBCBBMdFDAEBCJbHCBKGdKHbQFcRKbEBLELKbNCELbREZGKbLb",
     "BEcKBbCCKGJNAINBbECLUcYDJRIMeLMcDIJDbWCKFbQCCQCBbMFuNCFCbLCFCHBABABABbECcABGBADCBG",
     "DDCFEMFCBGPBbXBTAbCANAQMbZMEADLRAEACJBACFGABABABPCDFEEARbOdzBiUGIMbLBAFACcDHAPXJGB",
     "GBGBGBGBGBGBGBbFtXCZOBECEEdHCGBdQFbQBdPRbFbWPtSjtNcMbguEcPbTCkIDbBUbVEJBeKbLICdYCd",
     "DUcCEATbZMcRKJGXDABbWCbJMbCDcMOKGbEBcCJNCJGWDcUYCCPCEKFCFCFJGBGBbQBNGeSBBCJGqnRMWE",
     "bWmnCoBCeBbMGMEFLBMBEBABBBBBeDbHnYScLCcBbOLEPQPDBYCbGEBfETJHZEABZKdLDFCFCFCCbJLBZB",
     "SBBBOCNbIeScRcAfGAfAbCDbWPAbFbFNbDFbQFbDCbJEHBEbQgBCJGbJEbJEbNIbZMKBOBGBBBKBOBGBBD",
     "bZMlYJVKHYFBbPBIcRFCABbRBBDACWKWJbEcNSBBKVKZGZbMcDGBcMDBBFHBCBbCCCEAbGbCDbCbJHBbDZ",
     "cBKVKSNReGcUcDbYNbYNbNIJGbLDEBWjQbPBBDBQFbYbIKAIbGbFVbQUbBWJcSbFPJcHHANYHJGcABJEDI",
     "bJCAJcQEDBMBAbJRBbKGDcKGBABDBOBJHcGFJGDBHCBCVBGBBBEBJCBCCCAGAFGCGDELJBACABbLBJBACA",
     "BDBHNBbDcWFJEDbEcRBAIJgKcBCIXFbIcMDALJbMcEHJGTbCbACOEJGGhDcGdXcVVHCACHBBBbDBBCIMJc",
     "SHCbTCHBBbBcKIAIcVDAScUdZHdKbGPJGIBbSBIPJYbDCVBNcVGBBBbRDABBBIIJGFBBBbKBBBFHJGbREJ",
     "jMWJQBbODENKdHAdBbjLdYeGRhNdxKdSPbpFQVKfxQFwKkdDcFcoSvWHbEBJGdABJGbDCELcCJDMJJUFSq",
     "QbSDJhQcLbGYCYbScWEcEHQcMBBBLGJkxXbPbFdTeKmwRDBGBBBlEPAbDCCAODIpFdkUeCFMDIHJDBgeRJ",
     "tYbTCWuWEDFIHCGbEDfSCrBdGBcSBBCACBCDBLBABGBcMBDCHBGBbBBDBEBADGBnBCYBYBbEBYBbEBYBbE",
     "BYBbEBYBHCbXtScCEbXIAOAWEBObqMbEGFiFGBQCGBBBEFcJbHAeIbSDNCJEAmJbERcFsCbPiGbQhPbEBV",
     "IBiQGBDBBBOBhOLGbPcXEJbtUDBbABBBACABJBDBABAGAEABABABCBBBACABABABABABBBACDBGBDBDBAB",
     "JBQFCBEBQfaAJbnQclfBbGgmNCioBClbKPxXdqWuVcfYhhYFmoNbogxYjF"]⟩,
  ⟨["ids", "idstart"],
    ["cNZGZbVAKAEAFWBbEBrPELOEHABAeZEBBCDBAGABCBABTBdEBfIIgJBbLCAGbOcTbAEDbTbQbJBBdUBAPB",
     "HBKCCAQABbDbDdKLAYbGJBEAFVEAJADAXYHKFXBGQbPcGcBDASAHJPPEHCBCVBGBADDDAQANBBCOBKAIFE",
     "BCVBGBBBBBBbFDBATCQIBCBVBGBBBEDASAPBXALHCBCVBGBBBEDAbEBBCPARABFDCBDDBBABBDBDCDLWAc",
     "AHBCBWBPDAbACBBCBbEAEHBCBWBJBEDAbECBBPBRIBCBbOCAQAFCICYFFRDXBIBACGcGbVBBMGcGBBABEB",
     "XBABJBBJACEBAVDbGAcLHBbJbBEeLbQUAQFEDDADBHCEMMARbLBAFACbQBmUBDCGBABDCbOBDCbGBDCGBA",
     "BDCOBcEBDCcObLPQdHCFDxVCQBZFcWDKHRNSOROMBCPbZbJAEAcPdKHbOBAFcRKbEbXbDCELbREZcCWJcA",
     "dEAdPbURHcCbDNBKbRbAbJbPCKbJCKFbQCCbPDBFBBDAFhJcMkRCFCbLCFCHBABABABbECcABGBADCBGDD",
     "CFEMFCBGeMANAQMdXAEACJBACFGABABABPCDFEEARbOdzBiUGDDBMbLBAFACcDHAQWJGBGBGBGBGBGBGBG",
     "vECZIHECEEdHEEBdLBDFbQBdPRbFbWPtSjtNcMbguEcPbTCkIDPKBUbUQbECdBbNICdYCdDUQBCBDBWbDb",
     "ZObXcKFDABBLbBKWZbCHbUbCAQEBJKEBbOXCBHUWDADbXBADBCECABAYCCKHCMFCFCFJGBGBbQBNGeKbDq",
     "nRMWEbWmnCoBCeBbMGMEFABJBMBEBABBBBBeDbHnYScLCcBbOLeMEBfEbKZGZLdKDFCFCFCCbJLBZBSBBB",
     "OCNbIeScRcAkHbCDbWbVbFNbDFbLKbDCbJEHBEbQgBSbJEbJEbNIbZMKBOBGBBBKBOBGBBDbZMlYJVKHYF",
     "BbPBIcRFCABbRBBDACWKWJbEcNSBBKVKZGZbMcDGBcMAPDBCBbCbQbCDbCbJHBbBbBcBKVKSNReGcUcDbY",
     "NbYNbJbMbBJWjQbPGBQFcEbCKAIVbQRbUUbBWMcAcFBCANbSbGYbAbJbDACAIbIDAMbVODVABAbJRBYTBc",
     "LGBABDBOBJHbUbMHCBCVBGBBBEDASAMEbEJBACABbLBAZABAbScASDUCbEbVUBBAhCbUbPDbKbVUAcHbQN",
     "AcTbAbLGhDbReMcLbFHCACHBBBXPABAdQHCbMQABAbCAKbNHAVALbTTAScUhRbGbFIBbKRAbXbDeIGBBBb",
     "LVAZFBBBbFOAXbRkASPABMBbHeUAdBbjLdYeGRhNdxKdSPbpFRFZfxQFwKkdDbDcpUvWHbERdARbDSbVQD",
     "bFUFSqQbSiDcLbGYCYbScWFAcOMcMBBAOEJkxXbPbFdTeKmwRDBGBBBlEPAbDCCAODIpFdkUeCFMDIHJiw",
     "KdGBcSBBCACBCDBLBABGBcMBDCHBGBbBBDBEBADGBnBCYBYBbEBYBbEBYBbEBYBbEBYBHcsYbEGFkBcJfQ",
     "bSKGQAmJbDSbRsQbBiUbDCAhZbEBCBBBGCEJBiQGBDBBBOBhOcHcPHAbuIDBbABBBACABJBDBABAGAEABA",
     "BABCBBBACABABABABABBBACDBGBDBDBABJBQFCBEBQgoAclfBbGgmNCioBClbKPxXdqWuVcfYhhYFmoN"]⟩,
  ⟨["ideo", "ideographic"],
    ["seWBZIOCblDjtNcMbfbJbhsIoBCeBbsiKANEJkxXbPbFdTeKnlLpFbdeIclfBbGgmNCioBClbKPxXdqWuV",
     "cfYhhYFmoN"]⟩,
  ⟨["joinc", "joincontrol"],
    ["mdOB"]⟩,
  ⟨["loe", "logicalorderexception"],
    ["fkIEeTEedSCCAccxMBCABB"]⟩,
  ⟨["lower", "lowercase"],
    ["dTZbVAKAEAbKXBHBABABABABABABABABABABABABABABABABABABABABABABABABABABABBBABABABABAB",
     "ABABBBABABABABABABABABABABABABABABABABABABABABABABACABABCCABACADBEACADCCACABABACAB",
     "BBACADABACBCCGACACABABABABABABABABBBABABABABABABABABBCABADABABABABABABABABABABABAB",
     "ABABABABABABABABABABABABABABABABABGCACBBAEABABABABcQCbIHBbEEdSAbRABADACDSAbBbIBBDC",
     "BABABABABABABABABABABABEBACACBbZbVBABABABABABABABABABABABABABABABABAJABABABABABABA",
     "BABABABABABABABABABABABABABABABABABABABACABABABABABABBBABABABABABABABABABABABABABA",
     "BABABABABABABABABABABABABABABABABABABABABABABABABABABABABABABABABABAbWbOehBbQBDbdG",
     "FdfUIBAeNhJcNABABABABABABABABABABABABABABABABABABABABABABABABABABABABABABABABABABA",
     "BABABABABABABABABABABABABABABABABABABABABABABABABABABABABABABABABABABABABABABABIBA",
     "BABABABABABABABABABABABABABABABABABABABABABABABABABABABABABABABABABABABABABABABABA",
     "BABABABABABABIIFKHIHIFKHIHINCHIHIHIEBBGADCBBIDCBIHKCBBeRANAQMeFADBDAbBAEAEACBIDEAb",
     "HPEAbgLZctQbVBADBBABABAEABBBHDABABABABABABABABABABABABABABABABABABABABABABABABABAB",
     "ABABABABABABABABABABABABABABABABABABABABABABABBHABAEAMbLBAFAbtwDABABABABABABABABAB",
     "ABABABABABABABABABABABABABATABABABABABABABABABABABABABCfDABABABABABABCBABABABABABA",
     "BABABABABABABABABABABABABABABABABABABABABABABABABJBABACABABABABAEABACABCBABABABABA",
     "BABABABABAFAFABABABABABABABAEABACABABABABABABABAVDBABCbfPbQBNGdBbeaIGMEboZZbvHbNfG",
     "bJfZKBOBGBBrJACCBbPBIbxLbYeVVegObFbgjWbFcHYbmjEZbAGBRbAZbADBABGBKbAZbAZbAZbAZbAZbA",
     "ZbAZbAZbAbBbCYBFbAYBFbAYBFbAYBFbAYBFBAcsYJBTGFkBcJdhSbH"]⟩,
  ⟨["math"],
    ["bRAQCbFAbDABAbTAEAbLAbFAbcACCAbABCCuHCjwNAbBCLADANAODVELEcNMEADBEESAEACJBACFGADBCB",
     "BCBFDNBAcQXBFBBEBEbFBAGBOkHIDUBdMAbEbABAYALGrDBMJEFEBCBDEOABACFLHFBcFABAbDDJCmYcLj",
     "WtRbWUCFdasQAbfRFBAgGAQCbDABAbDABAfBAGDfeFBcvgAAbxVdGBcSBBCACBCDBLBABGBcMBDCHBGBbB",
     "BDBEBADGBnBClFCbXiiQDBbABBBACABJBDBABAGAEABABABCBBBACABABABABABBBACDBGBDBDBABJBQFC",
     "BEBQcABdtEI"]⟩,
  ⟨["nchar", "noncharactercodepoint"],
    ["dsdCbFuGBdsyOBdsyOBdsyOBdsyOBdsyOBdsyOBdsyOBdsyOBdsyOBdsyOBdsyOBdsyOBdsyOBdsyOBdsy",
     "OBdsyOB"]⟩,
  ⟨["oalpha", "otheralphabetic"],
    ["bhJMwENBABBBBBAcUKbWMBGQAdXGEDCBEAbJAbEPdYKdXBDIBCBDeCAcILDGGTcCBCOBBFCKBbDCcGGCBC",
     "BKAKBbDCcGEEBCBEAbEBDALCcGHBCBBVBWCECcGGCBCBJBKBbEAcHEDCBCKAbOEcFGBCBCIBLBbDCcGGBC",
     "BCIBLBPAMDcGGBCBCKAKBbDCcXFBABHSBcJACGSAdVACFBBQAgHSJKBbJeGLBACDXDECBCCGDDNLBAKDcl",
     "OBbEBbEBbEBcOShGBbIAeOLEIiOEcFJCTcWBLCbXEbWOcICbEICBcFKbYSpWbHgaTbFbtqAHbIBnQAIAXE",
     "dKBbYPBAcFAbMEbCLbTDbWLbLAcPNMAIBbTCbYABCCBFAbSEFAjDHbdzVAdeDEcmGCBBFDbeIDcNAmJBcZ",
     "CjZCcBNbTBLCbTIJAcJCbKLSBcFCbWMOBdOICAGACAgBJXDcGGCBCBKAKBdGIBACABDBBdZMBCeCRjDGCG",
     "bDBdEOBAeCKdZNjXMjNFBBCBDABAfMGCFEAbCJbQEBDSKbUNhSHhRHBGdFVBNeSFDABBBCBADAcOEBBBDn",
     "KDJBBAbWGDCyyNQfjCABcCHDdPBbdaYAnkJGBQCGBBBEdWAckHACAHBFAwVA"]⟩,
  ⟨["odi", "otherdefaultignorablecodepoint"],
    ["bgPAfiLBckHBdhNAglIAdacPAdBIbwmiHABbDdSeXjGfiL"]⟩,
  ⟨["ogrext", "othergraphemeextend"],
    ["drYAYAnUAYAdYAYAiYABAEBBBJBdZAYAePAPAdmRAbEAbnKAFABAFBdXAcTBboIAgcVBbtwTAeEAbgnLBg",
     "wMAeMAkEAOAJAdSAJACABCFAiQAMAjHAkCAyJAMAchFAbeoKBbkxNBGFbtlaZdR"]⟩,
  ⟨["oidc", "otheridcontinue"],
    ["hBAbbRAgaJIclCAciZBgkRAdaeJA"]⟩,
  ⟨["oids", "otheridstart"],
    ["jhLBdgJAVAfvWB"]⟩,
  ⟨["olower", "otherlowercase"],
    ["gOAPAtHIHBbEEdSAcAAfcZAepZcKNAbIbKbaNANAQMiDPbgQZcwOBbugKBiCAeYDDBbhIDJAbiwSACCBbP",
     "BIddzHcJ"]⟩,
  ⟨["omath", "othermath"],
    ["dQAbhXCCAbABCBkqYAbBCLAbGDYBOBcNMEADBEESAEACJBADEGADBCBBCBFDDFEcXECDBBBBBABECBEBER",
     "CBBABGBAGBlEDgMBBAYARArDBMIFEFBCBDEOABACFYBcFABAbDDJBnEBbFJpNVcLDbGBdclFABAEAiDABA",
     "dcoVdGBcSBBCACBCDBLBABGBcMBDCHBGBbBBDBEBADGBnBCYBYBbEBYBbEBYBbEBYBbEBYBHCbXiiQDBbA",
     "BBBACABJBDBABAGAEABABABCBBBACABABABABABBBACDBGBDBDBABJBQFCBEBQ"]⟩,
  ⟨["oupper", "otheruppercase"],
    ["mqQPbgGZgsiYZGZGZ"]⟩,
  ⟨["patsyn", "patternsyntax"],
    ["bHOKGbADBAbADbIGBABBBABBEAEADAXAbFAluEXIOCSBJlTbbRgEyFbEbrNtSeXoVCEYPAczqZBkBB"]⟩,
  ⟨["patws", "patternwhitespace"],
    ["JESAdWAlyMBYB"]⟩,
  ⟨["pcm", "prependedconcatenationmark"],
    ["chCFiHAbXAoUBdCAdvxYAPA"]⟩,
  ⟨["qmark", "quotationmark"],
    ["bIAEAfBAPAlwUHZBfiDArPDNCdabPDhHAEAdMB"]⟩,
  ⟨["radical"],
    ["rpWZBdKMiF"]⟩,
  ⟨["ri", "regionalindicator"],
    ["hgoKZ"]⟩,
  ⟨["sterm", "sentenceterminal"],
    ["bHAMAQAcaBAfRCgYAbRCjMAcJABADBlHBcpWBbeKAEBbdTAhQBgBBbTAFAmCBnQDgGBKBCBbDChFBcNBbj",
     "WAXBJCeuXClUANAWBqNAbshWAkKBiTADAoSBdIBdRAfWBfRCfOBjPAbfcWACBcHADBgNAMAQAcNAedWBbx",
     "DEbSDhHBeNDeXCeZBGAQBdKBBBeEAlMBeNBoJBFOeBBjPCtXABAjRBdJBqEBbaQBcWBbcmBBfDAcNBLAvH",
     "BlKAbdoGAliMA"]⟩,
  ⟨["sd", "softdotted"],
    ["eBBhOAkVAbEAcAAUAmIAdUABAjmNAbZANADAfCAgBAqFAiGBegGAgelHBbYBbYBbYBbYBbYBbYBbYBbYBb",
     "YBbYBbYBbYBdfYAlTBbAA"]⟩,
  ⟨["term", "terminalpunctuation"],
    ["bHAKABALBDAbfYAIAtTAcFAcUAOABCgYAbRKBAjBBcCFBHbFAkBBbwUBgQAEFlZBbeJHbdTAeUCcTBgBCD",
     "AbNDCBmCBnQDgGBKBBCbDChFEcKBbjWAXBJCeuXClUANAEAKABBDBqMBbshVBkJCiTEoSBdIBdRAfVCfRC",
     "eXAQBjPAbfcWACBcFCBDgNAKABALBDAcNACAbpQAbWAbsOAhRAlYBfWFcQFdLDbkQEbSDhHGeIDeXCeZBG",
     "AQBdKEeEAlMBeNCMBnUDDOeBBjPCtXABAjRBdJBEBpYCbTAyVBcWBbyXEbamZBfDAcNCKAvHBlJBbdoGAl",
     "iLD"]⟩,
  ⟨["uideo", "unifiedideograph"],
    ["tsAjtNcMbfbJbicSBBABBKABABBCCdveCclfBbGgmNCioBClbKPxXgrQhhYFmoN"]⟩,
  ⟨["upper", "uppercase"],
    ["cNZdXWBGbHABABABABABABABABABABABABABABABABABABABABABABABABABABABACABABABABABABABAC",
     "ABABABABABABABABABABABABABABABABABABABABABABABBBABADBBABBBCCDBBBCDBBBBABABBBACABBB",
     "CBABBDAHACACACABABABABABABABACABABABABABABABABACACABCBABABABABABABABABABABABABABAB",
     "ABABABABABABABABABABABABABABAHBBBCABDBABABABAlDABADAIAGABCBABBBQBIbJACCDABABABABAB",
     "ABABABABABABAFACABBCbYbWABABABABABABABABABABABABABABABABAJABABABABABABABABABABABAB",
     "ABABABABABABABABABABABABABABABBBABABABABABACABABABABABABABABABABABABABABABABABABAB",
     "ABABABABABABABABABABABABABABABABABABABABABABABABABABABABACbLehDbLBAFAbbUdHdgLAGbQC",
     "CmIABABABABABABABABABABABABABABABABABABABABABABABABABABABABABABABABABABABABABABABA",
     "BABABABABABABABABABABABABABABABABABABABABABABABABABABABABABABABABABABAJABABABABABA",
     "BABABABABABABABABABABABABABABABABABABABABABABABABABABABABABABABABABABABABABABABABA",
     "BABAJHIFKHIHIFLABABABAIHcUDMDMDMELDkCAEADCCCCADEGABABABDCDKBFAbAPTAbfMZcsUbVbWABCC",
     "ABABABDBACAICBABABABABABABABABABABABABABABABABABABABABABABABABABABABABABABABABABAB",
     "ABABABABABABABABABABABABABABAIABAEAbtyJABABABABABABABABABABABABABABABABABABABABABA",
     "BATABABABABABABABABABABABABABAfFABABABABABABADABABABABABABABABABABABABABABABABABAB",
     "ABABABABABABABABABABABABAKABABBBABABABAEABACABADABABABABABABABABABABEBEBABABABABAB",
     "ABABDBABBBABABABABABABABAYAbhaHZbuZbNfGbJgAKBOBGBBcqCbYgBVegObFbgjWbFcMYbmjFZbAZbA",
     "ZbAABBCACBCDBHbAZbABBDCHBGbBBBDBEBADGbBZbAZbAZbAZbAZbAZbEYbHYbHYbHYbHYbHAgnLbHdbIZ",
     "GZGZ"]⟩,
  ⟨["vs", "variationselector"],
    ["jcTCBAdjcAPbwnkYjF"]⟩,
  ⟨["wspace", "whitespace", "space"],
    ["JESAdWAbAAihJAdpNKbDBFAbVAfxWA"]⟩,
  ⟨["xidc", "xidcontinue"],
    ["bWJHZEABZbVAKABACAFWBbEBrPELOEHABAReMBBDCBAGEBABTBdEBfIBECgJBbLCAGbOIbSBABBBBBAIbA",
     "EDbDKFcVEdXBHCJBSCAQcGCdWOcBEACACbTSbBEKFXBGHcWBeYCJBSBHCBCVBGBADDCICBCDIAEBBECLKA",
     "BACCBFEBCVBGBBBBBBCABEEBCCDAHDBAHPLCBIBCBVBGBBBECJBCBCCAPDCJJGBCBHCBCVBGBBBECICBCC",
     "HCEBBECJBAQBBFDCBDDBBABBDBDCDLEEDCBDCAGAOJQMBCBWBPCIBCBDHBBCBBCDCJQDBHBCBWBJBECIBC",
     "BDHBFCBDCJBCMMBCBbYBCBEFDHECJKFBCBRDXBIBACGDAEFBABHGJCBNcFFOBJbNBBABEBXBABWCEBABGB",
     "JCDbGAXBGJLABABAEJBbJETBRBbJJAcFcVGcZCbLBAFACbQBmUBDCGBABDCbOBDCbGBDCGBABDCOBcEBDC",
     "cOCCJIOPQdHCFDxVCQBZFcWDKHVJVLTMMBCBBMdFDAEBCJbHCBKGdKHbQFcRKbEBLELKbNCELbREZGKbLb",
     "BEcKBbCCKGJNAINBbECLUcYDJRIMeLMcDIJDbWCKFbQCCQCBbMFuNCFCbLCFCHBABABABbECcABGBADCBG",
     "DDCFEMFCBGPBbXBTAbCANAQMbZMEADLRAEACJBACFGABABABPCDFEEARbOdzBiUGIMbLBAFACcDHAPXJGB",
     "GBGBGBGBGBGBGBbFtXCZOBECEEdHCBCCBdQFbQBdPRbFbWPtSjtNcMbguEcPbTCkIDbBUbVEJBeKbLICdY",
     "CdDUcCEATbZMcRKJGXDABbWCbJMbCDcMOKGbEBcCJNCJGWDcUYCCPCEKFCFCFJGBGBbQBNGeSBBCJGqnRM",
     "WEbWmnCoBCeBbMGMEFLBMBEBABBBBBeDbHfIGiJScLCcBbOJGPQPDBYCbHABADABABABABeVTJHZEABZKd",
     "LDFCFCFCCbJLBZBSBBBOCNbIeScRcAfGAfAbCDbWPAbFbFNbDFbQFbDCbJEHBEbQgBCJGbJEbJEbNIbZMK",
     "BOBGBBBKBOBGBBDbZMlYJVKHYFBbPBIcRFCABbRBBDACWKWJbEcNSBBKVKZGZbMcDGBcMDBBFHBCBbCCCE",
     "AbGbCDbCbJHBbDZcBKVKSNReGcUcDbYNbYNbNIJGbLDEBWjQbPBBDBQFbYbIKAIbGbFVbQUbBWJcSbFPJc",
     "HHANYHJGcABJEDIbJCAJcQEDBMBAbJRBbKGDcKGBABDBOBJHcGFJGDBHCBCVBGBBBEBJCBCCCAGAFGCGDE",
     "LJBACABbLBJBACABDBHNBbDcWFJEDbEcRBAIJgKcBCIXFbIcMDALJbMcEHJGTbCbACOEJGGhDcGdXcVVHC",
     "ACHBBBbDBBCIMJcSHCbTCHBBbBcKIAIcVDAScUdZHdKbGPJGIBbSBIPJYbDCVBNcVGBBBbRDABBBIIJGFB",
     "BBbKBBBFHJGbREJjMWJQBbODENKdHAdBbjLdYeGRhNdxKdSPbpFQVKfxQFwKkdDcFcoSvWHbEBJGdABJGb",
     "DCELcCJDMJJUFSqQbSDJhQcLbGYCYbScWEcEHQcMBBBLGJkxXbPbFdTeKmwRDBGBBBlEPAbDCCAODIpFdk",
     "UeCFMDIHJDBgeRJtYbTCWuWEDFIHCGbEDfSCrBdGBcSBBCACBCDBLBABGBcMBDCHBGBbBBDBEBADGBnBCY",
     "BYBbEBYBbEBYBbEBYBbEBYBHCbXtScCEbXIAOAWEBObqMbEGFiFGBQCGBBBEFcJbHAeIbSDNCJEAmJbERc",
     "FsCbPiGbQhPbEBVIBiQGBDBBBOBhOLGbPcXEJbtUDBbABBBACABJBDBABAGAEABABABCBBBACABABABABA",
     "BBBACDBGBDBDBABJBQFCBEBQfaAJbnQclfBbGgmNCioBClbKPxXdqWuVcfYhhYFmoNbogxYjF"]⟩,
  ⟨["xids", "xidstart"],
    ["cNZGZbVAKAEAFWBbEBrPELOEHABAeZEBBDCBAGABCBABTBdEBfIIgJBbLCAGbOcTbAEDbTbQbJBBdUBAPB",
     "HBKCCAQABbDbDdKLAYbGJBEAFVEAJADAXYHKFXBGQbPcGcBDASAHJPPEHCBCVBGBADDDAQANBBCOBKAIFE",
     "BCVBGBBBBBBbFDBATCQIBCBVBGBBBEDASAPBXALHCBCVBGBBBEDAbEBBCPARABFDCBDDBBABBDBDCDLWAc",
     "AHBCBWBPDAbACBBCBbEAEHBCBWBJBEDAbECBBPBRIBCBbOCAQAFCICYFFRDXBIBACGcGbVBANGcGBBABEB",
     "XBABJBAKACEBAVDbGAcLHBbJbBEeLbQUAQFEDDADBHCEMMARbLBAFACbQBmUBDCGBABDCbOBDCbGBDCGBA",
     "BDCOBcEBDCcObLPQdHCFDxVCQBZFcWDKHRNSOROMBCPbZbJAEAcPdKHbOBAFcRKbEbXbDCELbREZcCWJcA",
     "dEAdPbURHcCbDNBKbRbAbJbPCKbJCKFbQCCbPDBFBBDAFhJcMkRCFCbLCFCHBABABABbECcABGBADCBGDD",
     "CFEMFCBGeMANAQMdXAEACJBACFGABABABPCDFEEARbOdzBiUGDDBMbLBAFACcDHAQWJGBGBGBGBGBGBGBG",
     "vECZIHECEEdHGCBdLBDFbQBdPRbFbWPtSjtNcMbguEcPbTCkIDPKBUbUQbECdBbNICdYCdDUQBCBDBWbDb",
     "ZObXcKFDABBLbBKWZbCHbUbCAQEBJKEBbOXCBHUWDADbXBADBCECABAYCCKHCMFCFCFJGBGBbQBNGeKbDq",
     "nRMWEbWmnCoBCeBbMGMEFABJBMBEBABBBBBeDbHfIGiJScLCcBbOJePABADABABABABeVbKZGZLcDCbEDF",
     "CFCFCCbJLBZBSBBBOCNbIeScRcAkHbCDbWbVbFNbDFbLKbDCbJEHBEbQgBSbJEbJEbNIbZMKBOBGBBBKBO",
     "BGBBDbZMlYJVKHYFBbPBIcRFCABbRBBDACWKWJbEcNSBBKVKZGZbMcDGBcMAPDBCBbCbQbCDbCbJHBbBbB",
     "cBKVKSNReGcUcDbYNbYNbJbMbBJWjQbPGBQFcEbCKAIVbQRbUUbBWMcAcFBCANbSbGYbAbJbDACAIbIDAM",
     "bVODVABAbJRBYTBcLGBABDBOBJHbUbMHCBCVBGBBBEDASAMEbEJBACABbLBAZABAbScASDUCbEbVUBBAhC",
     "bUbPDbKbVUAcHbQNAcTbAbLGhDbReMcLbFHCACHBBBXPABAdQHCbMQABAbCAKbNHAVALbTTAScUhRbGbFI",
     "BbKRAbXbDeIGBBBbLVAZFBBBbFOAXbRkASPABMBbHeUAdBbjLdYeGRhNdxKdSPbpFRFZfxQFwKkdDbDcpU",
     "vWHbERdARbDSbVQDbFUFSqQbSiDcLbGYCYbScWFAcOMcMBBAOEJkxXbPbFdTeKmwRDBGBBBlEPAbDCCAOD",
     "IpFdkUeCFMDIHJiwKdGBcSBBCACBCDBLBABGBcMBDCHBGBbBBDBEBADGBnBCYBYBbEBYBbEBYBbEBYBbEB",
     "YBHcsYbEGFkBcJfQbSKGQAmJbDSbRsQbBiUbDCAhZbEBCBBBGCEJBiQGBDBBBOBhOcHcPHAbuIDBbABBBA",
     "CABJBDBABAGAEABABABCBBBACABABABABABBBACDBGBDBDBABJBQFCBEBQgoAclfBbGgmNCioBClbKPxXd",
     "qWuVcfYhhYFmoN"]⟩]

/-- The characters that have the named binary property. -/
def binaryProperty (name : String) : Option CharSet :=
  PropertyRow.find binaryRows name

end AccessPolicy.Unicode
