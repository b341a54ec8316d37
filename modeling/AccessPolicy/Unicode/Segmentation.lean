import AccessPolicy.Unicode.PropertyRow

/-!
# Ages and break classes

The version of the standard that introduced a character, and the classes by which texts are cut
into graphemes, words and sentences.
-/

namespace AccessPolicy.Unicode

/-- Grapheme cluster break classes. -/
def graphemeBreakRows : List PropertyRow := [
  ⟨["cr"],
    ["NA"]⟩,
  ⟨["cn", "control"],
    ["AJBBBRdRbGNAcbMAguRAdaQACBYGbXPdghJAjGLtuAPbzqUDhwXHbtkzLbFdSeXjGfiL"]⟩,
  ⟨["ex", "extend"],
    ["bdOeHkPGkDbSBABBBBBAcUKbWUQAdXGCFCBBDbJAbEbAdNKcGIJAYDBIBCBEbRCcIHbQXBbFcDABAEHEAD",
     "GKBbDAcGABACDIAJAKBbAACBcFAEBEBCCDAbEBDALBcFAEEBBEAUBWFBAcGABBBDIAHCKBbEAcHABAMAJA",
     "bOADAcDABCFCBDHBLBbDAcGACACADAFBHBLBbCBcFBBACDIAJAKBbDAcUAEACCBAIAdDACGMHdUACILGcV",
     "BbBABABAcDNBEBBFKBbJJAdYDBFBBCBZBECQDNACBGAPAbbBCbkKCbDBbEBbEBcMBBGIACKJAbTCBAeNBb",
     "IAeOCEBJAGCiLBCAcGABGBABACHGJCAbWbEbXDbWGBAFAbOIMBbGDCBBCcEABBDABCcGHCBfWCBMBGEAGA",
     "DBhQcLuEAhNbGeoCCfLAdSbFvIFeBBbsqEDBJbGBdCBkMADAEAZBFAfVBbARNAbMHZKbUCbWACDCBbNAcP",
     "FCBCBMAIAbVAbZABCCBFBBAbQBIAjEACAEAbdzSAbcJPQPoCBxHAiSAfTEcmGCBBFDbOCEAgJBwBDoXBdC",
     "CcSKbXDeTAcCObPACBKCbXDCBHAcJCbKEBHcKAMBcAIKDCAdRCCABBGACAgBADHVBcFBBABAWAOGDEhNHC",
     "CBAXAdDACFBACABBBBjBACDGBBBbBBdHHCABBeCABACFBAdXCCDBEjZIBBjLAKBBAEAfODCBEAbGJbOFCD",
     "IAJFCCbUMBBpQGBFBAdEVCGBBBBeSFDABBBGBAcUBDABAnJBLBcAEFABAhyRAGOurQEcHGboIAcLDdDAbd",
     "bKBgyZbTCWuWABCEEIHCGbEDfSCcyDcCEbXIAOAWEBOcaIGBQCGBBBEdWAgEGoLAcJDtODbmEGeFGebGEb",
     "sxyUdReYjF"]⟩,
  ⟨["l"],
    ["glKdRcfoQbC"]⟩,
  ⟨["lf"],
    ["KA"]⟩,
  ⟨["lv"],
    ["cndOAbBAbBAbBAbBAbBAbBAbBAbBAbBAbBAbBAbBAbBAbBAbBAbBAbBAbBAbBAbBAbBAbBAbBAbBAbBAbB",
     "AbBAbBAbBAbBAbBAbBAbBAbBAbBAbBAbBAbBAbBAbBAbBAbBAbBAbBAbBAbBAbBAbBAbBAbBAbBAbBAbBA",
     "bBAbBAbBAbBAbBAbBAbBAbBAbBAbBAbBAbBAbBAbBAbBAbBAbBAbBAbBAbBAbBAbBAbBAbBAbBAbBAbBAb",
     "BAbBAbBAbBAbBAbBAbBAbBAbBAbBAbBAbBAbBAbBAbBAbBAbBAbBAbBAbBAbBAbBAbBAbBAbBAbBAbBAbB",
     "AbBAbBAbBAbBAbBAbBAbBAbBAbBAbBAbBAbBAbBAbBAbBAbBAbBAbBAbBAbBAbBAbBAbBAbBAbBAbBAbBA",
     "bBAbBAbBAbBAbBAbBAbBAbBAbBAbBAbBAbBAbBAbBAbBAbBAbBAbBAbBAbBAbBAbBAbBAbBAbBAbBAbBAb",
     "BAbBAbBAbBAbBAbBAbBAbBAbBAbBAbBAbBAbBAbBAbBAbBAbBAbBAbBAbBAbBAbBAbBAbBAbBAbBAbBAbB",
     "AbBAbBAbBAbBAbBAbBAbBAbBAbBAbBAbBAbBAbBAbBAbBAbBAbBAbBAbBAbBAbBAbBAbBAbBAbBAbBAbBA",
     "bBAbBAbBAbBAbBAbBAbBAbBAbBAbBAbBAbBAbBAbBAbBAbBAbBAbBAbBAbBAbBAbBAbBAbBAbBAbBAbBAb",
     "BAbBAbBAbBAbBAbBAbBAbBAbBAbBAbBAbBAbBAbBAbBAbBAbBAbBAbBAbBAbBAbBAbBAbBAbBAbBAbBAbB",
     "AbBAbBAbBAbBAbBAbBAbBAbBAbBAbBAbBAbBAbBAbBAbBAbBAbBAbBAbBAbBAbBAbBAbBAbBAbBAbBAbBA",
     "bBAbBAbBAbBAbBAbBAbBAbBAbBAbBAbBAbBAbBAbBAbBAbBAbBAbBAbBAbBAbBAbBAbBAbBAbBAbBAbBAb",
     "BAbBAbBAbBAbBAbBAbBAbBAbBAbBAbBAbBAbBAbBAbBAbBAbBAbBAbBAbBAbBAbBAbBAbBAbBAbBAbBAbB",
     "AbBAbBAbBAbBAbBAbBAbBAbBAbBAbBAbBAbBAbBAbBAbBAbBAbBAbBAbBAbBAbBAbBAbBAbBAbBAbBAbBA",
     "bBAbBAbBAbBAbBAbBAbBAbBAbBAbBAbBAbBAbBAbBAbBAbBAbBA"]⟩,
  ⟨["lvt"],
    ["cndPbABbABbABbABbABbABbABbABbABbABbABbABbABbABbABbABbABbABbABbABbABbABbABbABbABbAB",
     "bABbABbABbABbABbABbABbABbABbABbABbABbABbABbABbABbABbABbABbABbABbABbABbABbABbABbABb",
     "ABbABbABbABbABbABbABbABbABbABbABbABbABbABbABbABbABbABbABbABbABbABbABbABbABbABbABbA",
     "BbABbABbABbABbABbABbABbABbABbABbABbABbABbABbABbABbABbABbABbABbABbABbABbABbABbABbAB",
     "bABbABbABbABbABbABbABbABbABbABbABbABbABbABbABbABbABbABbABbABbABbABbABbABbABbABbABb",
     "ABbABbABbABbABbABbABbABbABbABbABbABbABbABbABbABbABbABbABbABbABbABbABbABbABbABbABbA",
     "BbABbABbABbABbABbABbABbABbABbABbABbABbABbABbABbABbABbABbABbABbABbABbABbABbABbABbAB",
     "bABbABbABbABbABbABbABbABbABbABbABbABbABbABbABbABbABbABbABbABbABbABbABbABbABbABbABb",
     "ABbABbABbABbABbABbABbABbABbABbABbABbABbABbABbABbABbABbABbABbABbABbABbABbABbABbABbA",
     "BbABbABbABbABbABbABbABbABbABbABbABbABbABbABbABbABbABbABbABbABbABbABbABbABbABbABbAB",
     "bABbABbABbABbABbABbABbABbABbABbABbABbABbABbABbABbABbABbABbABbABbABbABbABbABbABbABb",
     "ABbABbABbABbABbABbABbABbABbABbABbABbABbABbABbABbABbABbABbABbABbABbABbABbABbABbABbA",
     "BbABbABbABbABbABbABbABbABbABbABbABbABbABbABbABbABbABbABbABbABbABbABbABbABbABbABbAB",
     "bABbABbABbABbABbABbABbABbABbABbABbABbABbABbABbABbABbABbABbABbABbABbABbABbABbABbABb",
     "ABbABbABbABbABbABbABbABbABbABbABbABbABbABbABbABbABbA"]⟩,
  ⟨["pp", "prepend"],
    ["chCFiHAbXAoUBdCAbrNAdugKAPAjKBcvRABAjOAcVFbaYArBA"]⟩,
  ⟨["ri", "regionalindicator"],
    ["hgoKZ"]⟩,
  ⟨["sm", "spacingmark"],
    ["dkTAcDACCIDBBbYBcHBGBCBcCAcGCcOAcGCIABBcBBcIAGBCBeKABBDCBCcACcJDcJBcGABBBBCBBBbNAO",
     "BcHBFCBCcBBcYBGGTBcLAeXAfIBcLAgVAJBZBbSAcmQAbEAeZAHHBBnIDCCEBBFiQBcGABAVFfPAcCABEB",
     "BcJAbEAEBCAcIACCBADBbWHIBgPAVAcasHBCAdKBbYPfMBbVAbWBEBCCeGBCBYAgBACBFAjDBBBBBBAblx",
     "JABAeXAbTCEBeLAYBcHAbWCJBNAdPCDBBAgOCbFBcHABDCBCCUBiBCIBDAeDBGABBBACAjEBGDCAeJCIBB",
     "AeFABBGAeHAkBCJAjOEBBEACABAfMCIDEAdGAbDBcKApRAOAeCAHACAiFEEBBAnMBMAbWBIBBAbeiHcCeA",
     "BbkxOAGA"]⟩,
  ⟨["t"],
    ["grWdJcwxNbW"]⟩,
  ⟨["v"],
    ["gpCcTcwzWW"]⟩,
  ⟨["zwj"],
    ["mdPA"]⟩]

/-- Word break classes. -/
def wordBreakRows : List PropertyRow := [
  ⟨["le", "aletter"],
    ["cNZGZbVAKAEAFWBbEBsLGbHeIEBBCDBAGABCBABTBdEBfIIgJBbLCDBABbOBAeAAbSbQbJBBdUBAPBHBKC",
     "CAQABbDbDdKLAYbGJBEAFVEAJADAXYHKFXBFRbPcGcBDASAHJPPEHCBCVBGBADDDAQANBBCOBKAIFEBCVB",
     "GBBBBBBbFDBATCQIBCBVBGBBBEDASAPBXALHCBCVBGBBBEDAbEBBCPARABFDCBDDBBABBDBDCDLWAcAHBC",
     "BWBPDAbACCACBbEAEHBCBWBJBEDAbFBBBPBRIBCBbOCAQAFCICYFFRDXBIBACGmBAcLHBbJbBEkPbLBAFA",
     "CbQBmUBDCGBABDCbOBDCbGBDCGBABDCOBcEBDCcObLPQdHCFDxVCQBZFcWDKHRNSOROMBCgTdKHECbHBAF",
     "cRKbEiRWjEbURHcCbDNBKbRbAbJbPCKbJCIHbQCCbPDBFBBDAFhJcMkRCFCbLCFCHBABABABbECcABGBAD",
     "CBGDDCFEMFCBGeMANAQMdXAEACJBADEGABABABDBKCDFEEARbObfHbZcrUiUGDDBMbLBAFACcDHAQWJGBG",
     "BGBGBGBGBGBGdCAsBAcBBhSbQBdPRbFbptObsUcPbTCkIDPKBUbUQbECdBYhMFBBABEYPBCBDBWbDbZObX",
     "cKFDABBLbBKWZbCHbUbCAbWbOXCBHfSKHCMFCFCFJGBGBcFGeKbDqnRMWEbWngUGMEcEdTbHnYScLCcBbO",
     "LeMEBfEbKZGZcRbEDFCFCFCCbJLBZBSBBBOCNbIeScRcAkHbCDbWbVbFNbDFbLKbDCbJEHBEbQgBSbJEbJ",
     "EbNIbZMKBOBGBBBKBOBGBBcPlYJVKHYFBbPBIcRFCABbRBBDACWKWJbEcNSBBKVKZcScDGBcMAPDBCBbCb",
     "QbCDbCbJHBbBbBcBKVKSNReGcUcDbYNbYNbJnKbPGBdAbCKAIVbQRbUUbBWMcAcFBCANbSbGYbAbJbDACA",
     "IbIDAMbVODVABAbJRBYTBcLGBABDBOBJHbUbMHCBCVBGBBBEDASAMEgCcASDUCbEbVUBBAhCbUbPDbKbVU",
     "AcHbQNAmPbReMcLbFHCACHBBBXPABAdQHCbMQABAbCAKbNHAVALbTTAScUkDIBbKRAbXbDeIGBBBbLVAZF",
     "BBBbFOAmPSPABMBbHeUAdBbjLdYeGRhNdxKdSPbpFRFfyVwKmuBvWHbERdARbDSbVQDbFUFSbaMcLeYcWF",
     "AcOMcMBBAbcvKeCFMDIHJiwKdGBcSBBCACBCDBLBABGBcMBDCHBGBbBBDBEBADGBnBCYBYBbEBYBbEBYBb",
     "EBYBbEBYBHcsYbEGFkBcJfQbSKGQAmJbDSbRsQbBbdCGBDBBBOBhOcHcPHAbuIDBbABBBACABJBDBABAGA",
     "EABABABCBBBACABABABABABBBACDBGBDBDBABJBQFCBEBQyEZGZGZ"]⟩,
  ⟨["cr"],
    ["NA"]⟩,
  ⟨["dq", "doublequote"],
    ["bIA"]⟩,
  ⟨["extend"],
    ["bdOeHkPGkDbSBABBBBBAcUKbWUQAdXGCFCBBDbJAbEbAdNKcGIJAYDBIBCBEbRCcIHbQXBbGcCCBRBGKBb",
     "DCcEABGCBCCJAKBbAACCcEABEEBCCDAbEBDALCcEABHBCBCUBWFBCcEABGCBCCHCKBbEAcHEDCBDJAbOEc",
     "DABGBCBDHBLBbDCcEABGBCBDHBLBPAMDcDBBGBCBDJAKBbDCcSAEFBABHSBcJACGMHdUACILGcVBbBABAB",
     "AEBbXTBBFKBbJJAdWTXDECBCCGDDNLBAKDbbBCbkKDbCCbDBbEBcMbFJAbTCBAeNBbIAeOLELiLEcFJBbC",
     "CAbWbEbXEbVQbMIMCbEMcENbWTfWCBUEAGACChQcLuEAhNbGeoCCfLAdSbFvIFeBBbsqEDBJbGBdCBkMAD",
     "AEAXEEAdFBbYRbARNAbMHZMbSDbVNbKAcPNMAIBbTCbYABCCBFBBAbPEFBjCHBBbdzSAbcJPQPoCBxHAiS",
     "AfTEcmGCBBFDbOCEAgJBwBDoXBdCCcSKbXDeSCcBObPACBKDbTKHAcJCbKNQBbSAMCbWNIDBBdOLGACAgB",
     "LVDcDBBGCBCCJAKBCGDEhKRXAdDTjBGCIbBBdEQeCMdXOjWOjLFBBCDBABBfLGCGDAbCJbOGBDIAJKbUPp",
     "PHBHdEVBNeSFDABBBGBAcOEBBBEnJDJBBAbWGDEhyRAGOurQEcHGboIABcCHDdDALBbdaXBgyZbTCWuWED",
     "FIHCGbEDfSCcyDcCEbXIAOAWEBOcaIGBQCGBBBEdWAgEGoLAcJDtODbmEGeFGebGEbsxyUdReYjF"]⟩,
  ⟨["ex", "extendnumlet"],
    ["dRAmbFAPBTAdgaOBYCjFA"]⟩,
  ⟨["fo", "format"],
    ["gRAcaKFWAhKAbXAoUBdCAftJAdaTBbAEbXEBJdghJAjPCgiZAPAnkKPbzqUDhwXHbtkzMA"]⟩,
  ⟨["hl", "hebrewletter"],
    ["cfGbAEDdovYABJBMBEBABBBBBJ"]⟩,
  ⟨["ka", "katakana"],
    ["sgNEdXBDdMBDjGPiAbUBdJczhEcDcouCDBGBBBAlBCbYAOD"]⟩,
  ⟨["lf"],
    ["KA"]⟩,
  ⟨["ml", "midletter"],
    ["cGAeUAbbRAsDAfSAjxYAdgbBAcNAhOA"]⟩,
  ⟨["mn", "midnum"],
    ["bSAOAbgCAuCAfABdQApFAjfFAdfzVADAcHADAhBAOA"]⟩,
  ⟨["mb", "midnumlet"],
    ["bUAmcFBKAdgdPAgYAGA"]⟩,
  ⟨["nl", "newline"],
    ["LBeQAlzMB"]⟩,
  ⟨["nu", "numeric"],
    ["bWJciOJBAfCJhQJpWJeOJeOJeOJeOJeOJeOJeOJeOJeOJdSJeOJcSJkSJcSJctQJbMJlOJeYJgKJGJhAJd",
     "IJfEJGJcaeOJbaCJbMJhQJWJdIJpQJbfmCJccKJdfYJbfGJeYJcIJfOJkSJnEJeOJoKJdYJdYJqGJdYJbd",
     "EJjMJcSJqGJbckSJdIJfEJbpbWbXdnCJqGJtIJbqSJhbAJ"]⟩,
  ⟨["ri", "regionalindicator"],
    ["hgoKZ"]⟩,
  ⟨["sq", "singlequote"],
    ["bNA"]⟩,
  ⟨["zwj"],
    ["mdPA"]⟩,
  ⟨["wsegspace"],
    ["bGAimHAdpNGBCdGAfxWA"]⟩]

/-- Sentence break classes. -/
def sentenceBreakRows : List PropertyRow := [
  ⟨["at", "aterm"],
    ["bUAmcRAdgdPAhFA"]⟩,
  ⟨["cr"],
    ["NA"]⟩,
  ⟨["cl", "close"],
    ["bIAECbXABAbDABAbTAPAfmSDcuNBdpJHZBKBcCBOByJDbDBbpGFHNdBBbFJpNVcLDbGBbnMNOBCJYASHqL",
     "JCHBCczrQBiHBbCPCBQFgNBbXABAbDABABBBBdpoSC"]⟩,
  ⟨["ex", "extend"],
    ["bdOeHkPGkDbSBABBBBBAcUKbWUQAdXGCFCBBDbJAbEbAdNKcGIJAYDBIBCBEbRCcIHbQXBbGcCCBRBGKBb",
     "DCcEABGCBCCJAKBbAACCcEABEEBCCDAbEBDALCcEABHBCBCUBWFBCcEABGCBCCHCKBbEAcHEDCBDJAbOEc",
     "DABGBCBDHBLBbDCcEABGBCBDHBLBPAMDcDBBGBCBDJAKBbDCcSAEFBABHSBcJACGMHdUACILGcVBbBABAB",
     "AEBbXTBBFKBbJJAdWTXDECBCCGDDNLBAKDbbBCbkKDbCCbDBbEBcMbFJAbTCBAeNBbIAeOLELiLEcFJBbC",
     "CAbWbEbXEbVQbMIMCbEMcENbWTfWCBUEAGACChQcLuEBhMbGeoCCfLAdSbFvIFeBBbsqEDBJbGBdCBkMAD",
     "AEAXEEAdFBbYRbARNAbMHZMbSDbVNbKAcPNMAIBbTCbYABCCBFBBAbPEFBjCHBBbdzSAbcJPQPoCBxHAiS",
     "AfTEcmGCBBFDbOCEAgJBwBDoXBdCCcSKbXDeSCcBObPACBKDbTKHAcJCbKNQBbSAMCbWNIDBBdOLGACAgB",
     "LVDcDBBGCBCCJAKBCGDEhKRXAdDTjBGCIbBBdEQeCMdXOjWOjLFBBCDBABBfLGCGDAbCJbOGBDIAJKbUPp",
     "PHBHdEVBNeSFDABBBGBAcOEBBBEnJDJBBAbWGDEhyRAGOurQEcHGboIABcCHDdDALBbdaXBgyZbTCWuWED",
     "FIHCGbEDfSCcyDcCEbXIAOAWEBOcaIGBQCGBBBEdWAgEGoLAcJDtODbmEGeFGbtcaFdReYjF"]⟩,
  ⟨["fo", "format"],
    ["gRAcaKFWAhKAbXAoUBdCAftJAdaQACBbAEbXEBJdghJAjPCgiZAPAnkKPbzqUDhwXHbtkzMA"]⟩,
  ⟨["lf"],
    ["KA"]⟩,
  ⟨["lo", "lower"],
    ["dTZbVAKAEAbKXBHBABABABABABABABABABABABABABABABABABABABABABABABABABABABBBABABABABAB",
     "ABABBBABABABABABABABABABABABABABABABABABABABABABABACABABCCABACADBEACADCCACABABACAB",
     "BBACADABACBCCGACACABABABABABABABABBBABABABABABABABABBCABADABABABABABABABABABABABAB",
     "ABABABABABABABABABABABABABABABABABGCACBBAEABABABABcQBbJHBbEEfKABADACDSAbBbIBBDCBAB",
     "ABABABABABABABABABABEBACACBbZbVBABABABABABABABABABABABABABABABABAJABABABABABABABAB",
     "ABABABABABABABABABABABABABABABABABABACABABABABABABBBABABABABABABABABABABABABABABAB",
     "ABABABABABABABABABABABABABABABABABABABABABABABABABABABABABABABABAbWbOeiTAbdJFdfUIe",
     "PhJcNABABABABABABABABABABABABABABABABABABABABABABABABABABABABABABABABABABABABABABA",
     "BABABABABABABABABABABABABABABABABABABABABABABABABABABABABABABABABABABABIBABABABABA",
     "BABABABABABABABABABABABABABABABABABABABABABABABABABABABABABABABABABABABABABABABABA",
     "BABABIIFKHIHIFKHIHINCHIHIHIEBBGADCBBIDCBIHKCBBeRANAQMeFADBDAbBAEAEACBIDEAbHPEAbgLZ",
     "ctQbVBADBBABABAEABBBHDABABABABABABABABABABABABABABABABABABABABABABABABABABABABABAB",
     "ABABABABABABABABABABABABABABABABABABABBHABAEAMbLBAFAbtwDABABABABABABABABABABABABAB",
     "ABABABABABABABABABATABABABABABABABABABABABABABCfDABABABABABABCBABABABABABABABABABA",
     "BABABABABABABABABABABABABABABABABABABABABJBABACABABABABAEABACABCBABABABABABABABABA",
     "BAFAFABABABABABABABAEABAGABABABABAYCBABCbfPbQBNGdBbeaIGMEboZZbvHbNfGbJfZKBOBGBBrJA",
     "CCBbPBIbxLbYemFbFbgjWbFbmmKZbAGBRbAZbADBABGBKbAZbAZbAZbAZbAZbAZbAZbAZbAbBbCYBFbAYB",
     "FbAYBFbAYBFbAYBFBAcsYJBTGFkBcJdhSbH"]⟩,
  ⟨["nu", "numeric"],
    ["bWJciOJBBfBJhQJpWJeOJeOJeOJeOJeOJeOJeOJeOJeOJdSJeOJcSJkSJcSJctQJbMJlOJeYJgKJGJhAJd",
     "IJfEJGJcaeOJbaCJbMJhQJWJdIJpQJbfmCJccKJdfYJbfGJeYJcIJfOJkSJnEJeOJoKJdYJdYJqGJdYJbd",
     "EJjMJcSJqGJbckSJdIJfEJbpbWbXdnCJqGJtIJbqSJhbAJ"]⟩,
  ⟨["le", "oletter"],
    ["rBAEDiAAbKGGLbAABAfDAsQAeObAEEbSbQbJBBdUBAPBHBKCCAQABbDbDdKLAYbGJBEAFVEAJADAXYHKFX",
     "BFRbPcGcBDASAHJPPEHCBCVBGBADDDAQANBBCOBKAIFEBCVBGBBBBBBbFDBATCQIBCBVBGBBBEDASAPBXA",
     "LHCBCVBGBBBEDAbEBBCPARABFDCBDDBBABBDBDCDLWAcAHBCBWBPDAbACCACBbEAEHBCBWBJBEDAbFBBBP",
     "BRIBCBbOCAQAFCICYFFRDXBIBACGcGbVBBMGcGBBABEBXBABJBBJACEBAVDbGAcLHBbJbBEeLbQUAQFEDD",
     "ADBHCEMMAcNbQCmTBDCGBABDCbOBDCbGBDCGBABDCOBcEBDCcObLPeJxVCQBZFcWDKHRNSOROMBCPbZbJA",
     "EAcPdKHECbHBAFcRKbEbXbDCELbREZcCWJcAdEAdPbURHcCbDNBKbRbAbJbPCKbJSbQCCbPDBFBBDAbpQD",
     "cTCCDekTcDHAQWJGBGBGBGBGBGBGBGdCAsBCZIHECEEdHGCBdLBDFbQBdPRbFbWPtSjtNcMbguEcPbTCkI",
     "DPKBcOAQAbGdBbNIeAAGAdZADGBCBDBWbDbZObXcKFDABBLbBKWZbCHbUbCAQEBJKEBbOXCBHUWDADbXBA",
     "DBCECABAYCCKHCMFCFCFJGBGfPbIbDqnRMWEbWmnCoBCeBcPABJBMBEBABBBBBeDbHnYScLCcBbOLeMEBf",
     "EeBcDCbEDFCFCFCCbJLBZBSBBBOCNbIeScRcAkHbCDbWbVbFNbDFbLKbDCbJEHBEeScZdUbNIbZgAlYJVK",
     "HZBeVFCABbRBBDACWKWJbEcNSBBKVKZcScDGBcMAPDBCBbCbQbCDbCbJHBbBbBcBKVKSNReGcUhBbJnKbP",
     "GBdAbCKAIVbQRbUUbBWMcAcFBCANbSbGYbAbJbDACAIbIDAMbVODVABAbJRBYTBcLGBABDBOBJHbUbMHCB",
     "CVBGBBBEDASAMEgCcASDUCbEbVUBBAhCbUbPDbKbVUAcHbQNAcTbAbLGhDbRiDHCACHBBBXPABAdQHCbMQ",
     "ABAbCAKbNHAVALbTTAScUkDIBbKRAbXbDeIGBBBbLVAZFBBBbFOAmPSPABMBbHeUAdBbjLdYeGRhNdxKdS",
     "PbpFRFfyVwKmuBvWHbERdARbDSbVQDbFUFSbhWcWFAcOMcMBBAbCjbZIbvPbQInfRDBGBBBlEPAbDCCAOD",
     "IpFdkUeCFMDIHJnbCAtHbSKGQAmJbDSbRsQbBbdCGBDBBBOBhOfEAbuIDBbABBBACABJBDBABAGAEABABA",
     "BCBBBACABABABABABBBACDBGBDBDBABJBQFCBEBQgoAclfBbGgdTGiNCinPOlbKepJuVcfYhhYFgfF"]⟩,
  ⟨["sc", "scontinue"],
    ["bSBMAbyOAgSBsWAgbXAFAdbEBgaUAdaaWBBAbDBbDBDACAKAgMBMAcVA"]⟩,
  ⟨["st", "sterm"],
    ["bHAbDAcaBAfRCgYAbRCjMAcJABADBlHBcpWBbeKAEBbdTAhQBhWAFAmCBnQDgSBCBbDBhGBcNBbkUBJCfg",
     "UANAWBqNAbshWAkKBiTADAoSBdIBdRAfWBfRCfOBjPAbffMBgNAbDAcNAedWBbxDEbSDhHBeNDeXCeZBGA",
     "QBdKBBBeEAqBBoJBFOeBBjPCtXABAjRBdJBqEBbaQBcWBbcmBBfDAcNBLAbgTAbdoGAliMA"]⟩,
  ⟨["se", "sep"],
    ["fDAlzMB"]⟩,
  ⟨["sp"],
    ["JABBTAeXAihJAdpNKbKAbVAfxWA"]⟩,
  ⟨["up", "upper"],
    ["cNZdXWBGbHABABABABABABABABABABABABABABABABABABABABABABABABABABABACABABABABABABABAC",
     "ABABABABABABABABABABABABABABABABABABABABABABABBBABADBBABBBCCDBBBCDBBBBABABBBACABBB",
     "CBABBDAHBBBBBBABABABABABABABACABABABABABABABABACBBABCBABABABABABABABABABABABABABAB",
     "ABABABABABABABABABABABABABABAHBBBCABDBABABABAlDABADAIAGABCBABBBQBIbJACCDABABABABAB",
     "ABABABABABABAFACABBCbYbWABABABABABABABABABABABABABABABABAJABABABABABABABABABABABAB",
     "ABABABABABABABABABABABABABABABBBABABABABABACABABABABABABABABABABABABABABABABABABAB",
     "ABABABABABABABABABABABABABABABABABABABABABABABABABABABABACbLehDbLBAFAbbUdHduWABABA",
     "BABABABABABABABABABABABABABABABABABABABABABABABABABABABABABABABABABABABABABABABABA",
     "BABABABABABABABABABABABABABABABABABABABABABABABABABABABABABABAJABABABABABABABABABA",
     "BABABABABABABABABABABABABABABABABABABABABABABABABABABABABABABABABABABABABABABAJHIF",
     "KHIHIFLABABABAIHYHIHIHIELELDMELEkBAEADCCCCADEGABABABDCDKBFAbAPTAbfMZcsUbVbWABCCABA",
     "BABDBACAICBABABABABABABABABABABABABABABABABABABABABABABABABABABABABABABABABABABABA",
     "BABABABABABABABABABABABABAIABAEAbtyJABABABABABABABABABABABABABABABABABABABABABABAT",
     "ABABABABABABABABABABABABABAfFABABABABABABADABABABABABABABABABABABABABABABABABABABA",
     "BABABABABABABABABABABAKABABBBABABABAEABACABADABABABABABABABABABABEBEBABABABABABABA",
     "BDBAGAFABAbCAbhaHZbuZbNfGbJgAKBOBGBBcqCbYenLbFbgjWbFbmmQZbAZbAZbAABBCACBCDBHbAZbAB",
     "BDCHBGbBBBDBEBADGbBZbAZbAZbAZbAZbAZbEYbHYbHYbHYbHYbHAgnLbHdbIZGZGZ"]⟩]

/-- The characters that each version of the standard introduced, oldest version first. -/
def ageRows : List PropertyRow := [
  ⟨["1.1", "v11"],
    ["AtHEbDcEdKHbUBJWcRbABSBEADAFGBABTBbRBGDABABABABRNLBcNBLBbOJcACBCBDbBCHCBcDbLCGBbMB",
     "AbMJBIMbAFEXAOADABZFSNNCcTCEBOBbDCJtZCBcACRCEDYQCBHCBCVBGBADDCABGCBCCJAEBBECUHACFE",
     "BCVBGBBBBBBCABEEBCCLDBAHOMCBGBABCBVBGBBBECJBCBCCAPAFJRCBHCBCVBGBBCDCHDBCCIBEBBCEKR",
     "BBFDCBDDBBABBDBDCDHBCEEDCBDJAPLOCBHBCBWBJBEEGBCBDHBJBEJSBBHBCBWBJBEEGBCBDHBHABBEJS",
     "BBHBCBWBPEFCCBDJAIBEJfPcFEbCbLBBACBBACAGDBGBCBABACBBMBCCEBABFCJCBrIbLKbMEAEdLFcPFd",
     "DeoKfYFdLGVCFCbLCFCHBABABABbECcABOBNCFBSCCBIBbUBWbJGDbARKbLRbEcEbAbVNdMVjHOABeQfDb",
     "KbBKVfIVfTKdBQTGdHfPDBDCbBBbIBABDDABGCGObEDXBNddHcDHABdFEFCdPGbNEdPBPdSbCDbJbCbBDb",
     "XPLEbUBeOEdUCbEjwBbexXyjQjxTiCGMEGYBEBABBBBBeDbHoAQcLCcBbOLbKDMUEJBSBDECBABfECABdP",
     "CdPDFCFCFCCDGBGOC"]⟩,
  ⟨["2.0", "v20"],
    ["ccVQBMUAdmXcTBbGHbAEFBABUDGBAfqNAuHAcatWqnRdOdaTefbQBdsyOBdsyOBdsyOBdsyOBdsyOBdsyO",
     "BdsyOBdsyOBdsyOBdsyOBdsyOBdsyOBdsyOhlxH"]⟩,
  ⟨["2.1", "v21"],
    ["mjSAdgoTA"]⟩,
  ⟨["3.0", "v30"],
    ["tIDbEHCReNEbXAKEdJITAeMADABABABAbEAMAcOAMAbQBCDdOBgAAhSCdUBFAPAbQEBNBbDDbAcBbWcfHB",
     "BRDXBIBACGDAEFBABHSCoJAbRAXCHABCBOCAbWbHBEBBBGDDGZqGGBcKBABDCGBABDCbMBABDCbEBABDCG",
     "BABDCGBGBWBbEBABDCGBbMBSGbBbJdGMyFJbCDdCfNdODJWOBJGdJIbPcwBAYFdRCbYBdHBcUAdZIkJAeR",
     "ABbDfIBrPHbHAdIBpIjVccEZBdKMiFbALcICDAnPXwMjtDbfeGbsUDRCPBLBCBAbgsCAbvVC"]⟩,
  ⟨["3.1", "v31"],
    ["bmYBdqqCbFbxWbEBDMbAgZbLCbLczdQjLKbMDgXvAdGBcSBBCACBCDBLBABDBBBcMBDCHBGBbBBDBEBADG",
     "BmZElDEbXpdWcleSbetDuVbpcqTAbEdR"]⟩,
  ⟨["3.2", "v32"],
    ["uYAlQATMeABbCAfRBcFBCBCBbXPnMBmJAdnHBchJMBGLWJTMMBCBBdiXAGEEAHENAcKBbYGdEOgMLjINeU",
     "AbEbZkYTfVJdKHWBdMLCJiONdMbBEPjWtRbzNCdJBIBdQAjGPdDOdDObrdIBQAMADAbgjAcGbjDADPcBBb",
     "SAjBB"]⟩,
  ⟨["4.0", "v40"],
    ["uZASCePBcLQdCHFCfVEtWDJIcMCfTBPAbTCbDCqUAhCAcPABAfGAdGCNAcPAcHAeZHhLBefNASJkCbCDLE",
     "LEADbPCEeDbFbdOeDbcPBiWAzJBlQAkQBeMHOBbrANcrNBbXAbRBdADgLDdVBbFAjtOcLcoqVAcVBqXLBZ",
     "BSBBBOCNbIeSFCEbSDIwEbDBAfEBbMdBCJbgWFCABbRBBDACAcyuIdInYAbtkdAjF"]⟩,
  ⟨["4.1", "v41"],
    ["vVKkSEgDDjMBgOAbICcPASAcGFjHbDuHAdCAsTAbVAbmNBlJBBAkGAcLAcLAbNAbFAbFAbFAPAbNAXBbFZ",
     "cgCbPGZGJEBbGbBCBbgMdJzHBBGbXEbDDcBAdCAPAyUKwAAdXBSKFPkKGbgHFjCbUBbUbHeCObSKcBJAQW",
     "JGBGBGBGBGBGBGBGbHXEBbjUPgSAbpiTVctOWiZbRbfeAeBbfQJbfAcWuNbJENciSDBBFHBCBbAECEIIIc",
     "xpVcRbrAB"]⟩,
  ⟨["5.0", "v50"],
    ["wGNlNCmZAbQFQDgKAtXcGoUBBBbhIBNBfiJcXEbSwLGbZBbcUDdPBcBAxBLbbMAkQDbgJGFDmEMHDbulJD",
     "FBlAcDbkoMZFAirGbhUfPdUNDcogIRbqUB"]⟩,
  ⟨["5.1", "v51"],
    ["bhWDCBdJAhBAfKPiSELEbGElQRtDBiOAbJAhYAbDBeEAeEAbABIBUHhHAGAbDBMFDGsXBdTADCcZAFACAH",
     "CEFbAcLEBdbEAbbXbQDLcScDDODbYmTbBgZDdMFnSAfJAdQAcBDbyAAVJDDkEAbFDbfFEEbODEkUCBCEFn",
     "QbFYDCSbdKAgGTbppOHbzOlNUbFCRIbBfBECeCeGEeYcQJLbMdFLAgEcCJNCJCDbfsUCbhPLcAbTfAbCDb",
     "WckDZFAcxsJAlrQbREdV"]⟩,
  ⟨["5.2", "v52"],
    ["byQBbcCbTCOhLAcZAGAbJBeYAcfPDhLDhGEcQEdEFtSAyGIvOcRgYBbUAcRcKBbCCKGJGNvAbIkGAbaUCf",
     "VCcCAxIAbaRBbDCEJBSBAEXdJAbnHEkSANBeDGmHAboCLbplSHbxKbVqAdJmAJgKbBdWbCDcZBKEBeYbBE",
     "cOYEiQbTCJqoKWEbWnbBCfgCVBIhEBmMbFeYcBDbCCbAFHeYcUuPbEtTcNlvQbpEctnDKFbECALABACADA",
     "DEIAHAZABBCAKDCAeHAPbHOIcqlJgdO"]⟩,
  ⟨["6.0", "v60"],
    ["bySBjOAcKAsMbBCAiLBTAGBbBEtMFqRAQATAwBDcVBbiOBdeNbZIDtOAzOHbCAbfJKbcCATABDbDAEBbCA",
     "bJABAECJBcACYAOAOBcdKAOAbpOCbseNBlNBBBOJdCAbdUFCFCFJGBGbemTPhrIcZEbDbheEvWbalBBymG",
     "OCNCOBOdCABKBABBBCBCFHBGBJGIBACBBJEBBJcXZBBbVIVBgSbGPFBcRDTMbKBEVQPcKBABgZBDDcJSXf",
     "REBPBCBABABABCBFCDBACDBLEKbWcRcGeLcuqMiN"]⟩,
  ⟨["6.1", "v61"],
    ["ccTAeMAzRABKcDbAtDAbmRBsTAFAbVCebBCMFjWHbRDecQABAbyQBbZAFAcEBhUJbraEAcnNHbJAjIBWAc",
     "ZBbcOWbdzZBfuUcDGBcrOYHJGcABNcIcUHJbtUcDIJbhkOcQLbUQQbvwIDBbABBBACABJBDBABAGAEABAB",
     "ABCBBBACABABABABABBBACDBGBDBDBABJBQFCBEBQcAByIBblSDhGAQADABABABADAGBEABBEA"]⟩,
  ⟨["6.2", "v62"],
    ["mkGA"]⟩,
  ⟨["6.3", "v63"],
    ["ciEAjyVD"]⟩,
  ⟨["7.0", "v70"],
    ["biLAqIHdPBeOAzRALFcYAeQAHAyPAbZAcYAeXAiUJdkRHvCBpLOvXBjDObbHCbfQGbdTAbqICKZCbFCbHD",
     "LBHxUGbtoVFjMLLCCBcRAsUbEeVDgUbVEBbfiVGbhDBTAmHbBbJAbWbQoZbNIbZLAfOlYJVKHjOcKIIrWb",
     "FbGbMELfHRHDMGbvJAiAbMdIAMAGTLRBbQeKcGFJHCBHCBCVBGBBBECICBCCJAFGCGDEkHcTIJgKcBCRcC",
     "cQLJwKdEMArGcEdfIbPhULFAbalFbEBJEBdSbDCFKcRKJBGBUFSbemAeCFMDIHJCHqkYhOCPczWAbGVVBu",
     "MLJAcSAWLbLAFDFLRGcTABAhAAEBcLBEGbDRBbOBdHcSBNbVcSJQMDDfKdGbRLEcDIJGbNIbD"]⟩,
  ⟨["8.0", "v80"],
    ["dhRBbUAuNAnOAkAAcmVACFevOAhVBdyEDbrwVIcoUAjGAbIFmMBxMDMdBbffQBebGSBBFEhGBCPCbTyQbY",
     "NbYHFbvDDOEgEGBABDBOBKdIAdBAyJTlEZDOEPerPAiWhNlqQwKcawLKchZzBPEBOjhDCdABdBEbKHjVAc",
     "XEjJBfJAwDIdZEcHAcucLinP"]⟩,
  ⟨["9.0", "v90"],
    ["dhUHWObjPAhYAECBGXCfrZIoGAchBDdxCBbtzLAkSAbhqDBbeVbJEbJfaOArHdLBABAtUMccXIBbSBNKbC",
     "DbFCVBNbfmVAbFjbOTbdAbgfLGBQCGBBBEdiZcWFJEBddBRfMAbfYAbPAlOBbHCvAFBHIACLBLEObMM"]⟩,
  ⟨["10.0", "v100"],
    ["deMKpLBjSFtSAcGBfyWAjUDbbHAbfZAczAAyCEbcMAbpxNUblpICiqQcTIbZCWBExHGBBBbRDABBBIIJbf",
     "gPAyhKkYdDpFyaEFbrPBbIBtZLTAIHBBZASMbMFcEWdcpDlbK"]⟩,
  ⟨["11.0", "v110"],
    ["caYAbNAdYAuFCiDAlMAePApHAeXAenRAboHbQCCfrMCWYEOwPEbcIAbpyHEcyHAIBmMBbkvCBSAbaTbNIJ",
     "rMbNIbPoHAeOCtGAlEAbaXAiVcHxLAbbEFBBBbKBBBFHJlYYbeaPdMjpIEbcjUTeWGjlWcPbsCAceZAiLD",
     "oICbCECDDABDYKNJHBbKYdSN"]⟩,
  ⟨["12.0", "v120"],
    ["esTAuGACACABFEAHAHBCANAfkHAfpUAcBAwTAbtzMFCEbjRBbmbGWbrKAxCAbcPHCbTCKgDBbzMbXNAhqU",
     "IwjKFEAbVIdMBjcWFprCCRDsaQbSDNCJEBoEcFFAcjZAbkNcIbpEAcbGAbKAiVLlDCbVAbXAJAbPFDBKFD",
     "HCCbWdFbCDECFCNF"]⟩,
  ⟨["12.1", "v121"],
    ["tiDA"]⟩,
  ⟨["13.0", "v130"],
    ["diCJzDAqOAeUAfaJBgjUAbaUCbhOEkpIJbfdGMcySDbQBcBAbfVDbgqQAewXbPBCCBjUbBoPAfEBzAAFBb",
     "tMGCACHBBBbDBBCLJJckKAbejRALBkfXsObQIblwUCdPCcJAbyUBbJBqTBdMAdXAEBbQBGCbDAgMAODPSH",
     "GJCNGbPfQBcCbLJcmsJGbhtQhhY"]⟩,
  ⟨["14.0", "v140"],
    ["ciFAwWbEBBGHVASKbhPAbGAeXAdwHAHAJAjFAbaNNeVAbWByLAbbHAeiOAbVAtFKbraTCcyIBOBBABEYCb",
     "ftDAoRPeXAbUBcvGKBOBGBBBKBOBGBBrJFBbPBIcxXZiWFcYAcgSAfEGbhPPhwYdUwdXdABJbaeWDBGBBl",
     "CDliBbTCWJeLvDBeyVbEbhXbEbzDGBDBBBOfqKCkMApCAdEAgSBbSDKDICRCGHIGcncPBgeVD"]⟩,
  ⟨["15.0", "v150"],
    ["exNAsGAdtaKCbfZCdiCJbnAQBbODbBhxDAJbCbvhKAbIAmrATerHFkBcJbHAbpWbPguCAfVCEEdLAzRCPB",
     "bKCLCBAOBKBMAOBcthOAbiwSgfF"]⟩,
  ⟨["15.1", "v151"],
    ["seMDtBAkeiQxX"]⟩,
  ⟨["16.0", "v160"],
    ["dgPAhcGBbVAkFBcwYCffEBbsqVCMCbjoLbZctWbLDbCIBlUCcDAbsLJBACABbLBJBACABDBJBBIBbcVTbv",
     "WbHOJbhGAhyZfxQkzTcFeoKcFlyJAxwIjPGqTitObQEAhcCJEBrNAFAbUAHAVACAJAiRbK"]⟩,
  ⟨["17.0", "v170"],
    ["dgHAblKAeXAfhIOCLcfLAecQAbvbBBCABAbCAbftHPrDBcCGeiRZcbJCIIbHBesAHwMbREJbeoSYCYlAEj",
     "cJHbxPVdTeKxwPCrDWPQjaLbEBVIBgaAAgCDnDIoPDbYADAcFAEAbCAEAkGAcsxRFiwGLbgfAgjH"]⟩]

/-- The characters of a grapheme cluster break class. -/
def graphemeBreak (name : String) : Option CharSet :=
  PropertyRow.find graphemeBreakRows name

/-- The characters of a word break class. -/
def wordBreak (name : String) : Option CharSet :=
  PropertyRow.find wordBreakRows name

/-- The characters of a sentence break class. -/
def sentenceBreak (name : String) : Option CharSet :=
  PropertyRow.find sentenceBreakRows name

/-- The characters that the named version of the standard has, older ones included. -/
def age (name : String) : Option CharSet :=
  if ageRows.any (·.names.contains name) then
    let newer := (ageRows.dropWhile fun row => !row.names.contains name).drop 1
    let upTo := ageRows.take (ageRows.length - newer.length)
    some (.unions (upTo.map PropertyRow.chars))
  else
    none

end AccessPolicy.Unicode
