import AccessPolicy.Unicode.PropertyRow

/-!
# General categories

Every assigned character has one general category. The leaves are listed here; a grouped
category such as `letter` is the union of its leaves, and the unassigned code points are what
no leaf holds.
-/

namespace AccessPolicy.Unicode

/-- The general categories that are not groups, by short and long name. -/
def categoryRows : List PropertyRow := [
  ⟨["cc", "control", "cntrl"],
    ["AbFdRbG"]⟩,
  ⟨["cf", "format"],
    ["gRAcaKFWAhKAbXAoUBdCAftJAdaQEbAEbXEBJdghJAjPCgiZAPAnkKPbzqUDhwXHbtkzMAbEdR"]⟩,
  ⟨["co", "privateuse"],
    ["dgvOjmDcahxOdsyNCdsyN"]⟩,
  ⟨["ll", "lowercaseletter"],
    ["dTZcGAbPXBHBABABABABABABABABABABABABABABABABABABABABABABABABABABABBBABABABABABABAB",
     "BBABABABABABABABABABABABABABABABABABABABABABABACABABCCABACADBEACADCCACABABACABBBAC",
     "ADABACBCCGACACABABABABABABABABBBABABABABABABABABBCABADABABABABABABABABABABABABABAB",
     "ABABABABABABABABABABABABABABABGCACBBAEABABABABcQCZhLABADADCSAbBbIBBDCBABABABABABAB",
     "ABABABABABEBACACBbZbVBABABABABABABABABABABABABABABABABAJABABABABABABABABABABABABAB",
     "ABABABABABABABABABABABABABACABABABABABABBBABABABABABABABABABABABABABABABABABABABAB",
     "ABABABABABABABABABABABABABABABABABABABABABABABABABABABAbWbOehBbQCCbdGFdfUIBAeNbRcL",
     "MBbHdYABABABABABABABABABABABABABABABABABABABABABABABABABABABABABABABABABABABABABAB",
     "ABABABABABABABABABABABABABABABABABABABABABABABABABABABABABABABABABABABABIBABABABAB",
     "ABABABABABABABABABABABABABABABABABABABABABABABABABABABABABABABABABABABABABABABABAB",
     "ABABABIIFKHIHIFKHIHINCHIHIHIEBBGADCBBIDCBIHKCBBkOADBDAbBAEAEACBIDEAcBAebBbVBADBBAB",
     "ABAEABBBFFABABABABABABABABABABABABABABABABABABABABABABABABABABABABABABABABABABABAB",
     "ABABABABABABABABABABABABABBHABAEAMbLBAFAbtwDABABABABABABABABABABABABABABABABABABAB",
     "ABABABATABABABABABABABABABABABABABAfFABABABABABABCBABABABABABABABABABABABABABABABA",
     "BABABABABABABABABABABABABABABABHBABACABABABABAEABACABCBABABABABABABABABABAFAFABABA",
     "BABABABABAEABACABABABABABABABAbAADAbfPbQFIHdBbeaIGMEboZZbvHbNfGbJfZKBOBGBBcrBbYeVV",
     "egObFbgjWbFcHYbmjEZbAGBRbAZbADBABGBKbAZbAZbAZbAZbAZbAZbAZbAZbAbBbCYBFbAYBFbAYBFbAY",
     "BFbAYBFBAcsYJBTGFduDbH"]⟩,
  ⟨["lm", "modifierletter"],
    ["baMRELOEHABAfDAFAsKAiWAgIBkJBEAbFAJADAgEAgLAbvOAeXAvTAcpMAeDAxNArWFgScKNAbIbKbaNAN",
     "AQMemXBjHAhJAsBAbREFAdTBdPCbqbUAbwCFkKAeKAbCBeRIdCAXAeADDBsBAWAfHAeEAVBdZDJAbfvIAb",
     "TBczOFBbPBIccXAbGAnDAfsLAbdiCDtOCbOBvEMcMBBAOBygADBGBBsgNcJhTGbkFAuLAwPA"]⟩,
  ⟨["lo", "otherletter"],
    ["gOAPAjWAEDiABbfUbAEDbTbFBJbJBBdUBAYBKCCAQABbDbDdKLAYbGVVbQYHKFXBGQbOcHcBDASAHJQOEH",
     "CBCVBGBADDDAQANBBCOBKAIFEBCVBGBBBBBBbFDBATCQIBCBVBGBBBEDASAPBXALHCBCVBGBBBEDAbEBBC",
     "PARABFDCBDDBBABBDBDCDLWAcAHBCBWBPDAbACBBCBbEAEHBCBWBJBEDAbECBBPBRIBCBbOCAQAFCICYFF",
     "RDXBIBACGcGbVBBMFcHBBABEBXBABJBBJACEXDbGAcLHBbJbBEeLbQUAQFEDDADBHCEMMAeJmQBDCGBABD",
     "CbOBDCbGBDCGBABDCOBcEBDCcObLPeJxVCQBZFcWGHHRNSOROMBCPbZbOAcPbIBcAHECbHBAFcRKbEbXbD",
     "CELbREZcCWJcAgUbURHcCbDNBKbRbAbJbPCKbDeJDBFBBDAbpQDenVcDYWJGBGBGBGBGBGBGBGvFAcBAEd",
     "HIABdLEAFbQBdPRbFbWPtSjtNcMbfcEBbrYcPbNIkHEPKBcOAbXcRgNAdZADGBCBDBWbDbZObXcKFDABBL",
     "bBKWZbCHbUbTECIKEBbOXCBHUPBFDADbXBADBCECABAYBDKHAOFCFCFJGBGfPbIbDqnRMWEbWmnCoBCeBc",
     "PABJBMBEBABBBBBeDbHnYScLCcBbOLeMEBfEeBJBbSCbEDFCFCFCCbJLBZBSBBBOCNbIeSoZbCDbWbVbFN",
     "TBHGbLKbDCbJEHeYcZdUbNIbZdObZMlYJVKHfWFCABbRBBDACWKWJbEcNSBBKVKZGZbMcDGBcMAPDBCBbC",
     "bQbCDbCbJHBbBbBcBKVKSNReGcUhBbJbMDBAlSbPGBQCBBcEbCKAIVbQRbUUbBWMcAcFBCANbSbGYbAbJb",
     "DACAIbIDAMbVODVABAbJRBYTBcLGBABDBOBJHbUbMHCBCVBGBBBEDASAMEbEJBACABbLBAZABAbScASDUC",
     "bEbVUBBAhCbUbPDbKbVUAcHbQNAcTbAbLGhDbRiDHCACHBBBXPABAdQHCbMQABAbCAKbNHAVALbTTAScUh",
     "RbGbFIBbKRAbXbDeIGBBBbLVAZFBBBbFOAXbOBBkASPABMBbHeUAdBbjLiWhNdxKdSPbpFRFZfxQFwKkdD",
     "bDcpUvWHbERdARbDSbVbZUFSqTbNpPcWFAgTkxXbPbFdTeKmxHlEPAbDCCAODIpFdkUeCFMDIHJnbCAtHb",
     "SbHAmJbDSbRsQbAiVbDCAhZbEBCBBBGCEJAiRGBDBBBOBhObzNDBbABBBACABJBDBABAGAEABABABCBBBA",
     "CABABABABABBBACDBGBDBDBABJBQFCBEBQgoAclfBbGgmNCioBClbKPxXdqWuVcfYhhYFmoN"]⟩,
  ⟨["lt", "titlecaseletter"],
    ["rLACACAbMAlfHHIHIHMAPAbVA"]⟩,
  ⟨["lu", "uppercaseletter"],
    ["cNZdXWBGbHABABABABABABABABABABABABABABABABABABABABABABABABABABABACABABABABABABABAC",
     "ABABABABABABABABABABABABABABABABABABABABABABABBBABADBBABBBCCDBBBCDBBBBABABBBACABBB",
     "CBABBDAHACACACABABABABABABABACABABABABABABABABACACABCBABABABABABABABABABABABABABAB",
     "ABABABABABABABABABABABABABABAHBBBCABDBABABABAlDABADAIAGABCBABBBQBIbJACCDABABABABAB",
     "ABABABABABABAFACABBCbYbWABABABABABABABABABABABABABABABABAJABABABABABABABABABABABAB",
     "ABABABABABABABABABABABABABABABBBABABABABABACABABABABABABABABABABABABABABABABABABAB",
     "ABABABABABABABABABABABABABABABABABABABABABABABABABABABABACbLehDbLBAFAbbUdHdgLAGbQC",
     "CmIABABABABABABABABABABABABABABABABABABABABABABABABABABABABABABABABABABABABABABABA",
     "BABABABABABABABABABABABABABABABABABABABABABABABABABABABABABABABABABABAJABABABABABA",
     "BABABABABABABABABABABABABABABABABABABABABABABABABABABABABABABABABABABABABABABABABA",
     "BABAJHIFKHIHIFLABABABAIHcUDMDMDMELDkCAEADCCCCADEGABABABDCDKBFAcJAdzGbVbWABCCABABAB",
     "DBACAICBABABABABABABABABABABABABABABABABABABABABABABABABABABABABABABABABABABABABAB",
     "ABABABABABABABABABABABAIABAEAbtyJABABABABABABABABABABABABABABABABABABABABABABATABA",
     "BABABABABABABABABABABABAfFABABABABABABADABABABABABABABABABABABABABABABABABABABABAB",
     "ABABABABABABABABABAKABABBBABABABAEABACABADABABABABABABABABABABEBEBABABABABABABABDB",
     "ABBBABABABABABABABAYAbhaHZbuZbNfGbJgAKBOBGBBcqCbYgBVegObFbgjWbFcMYbmjFZbAZbAZbAABB",
     "CACBCDBHbAZbABBDCHBGbBBBDBEBADGbBZbAZbAZbAZbAZbAZbEYbHYbHYbHYbHYbHAgnLbH"]⟩,
  ⟨["mc", "spacingmark"],
    ["dkTAcDACCIDBBbYBcGCGBCBKAbRAcGCcOAcGCIABBcBBcGABAGBCBKAdYBBBDCBCKAbPCcJDcJBcGABECB",
     "BBJBbCAOBcGCFCBCKAbQBcXCGHSBmSBcLAgPBEAGACBZBKCCGVBCFCAKCclSAbEAeZAHHBBnIDCCEBBFiQ",
     "BcGABAJABBIFfPAbWAFABEBBcJAbEAEBCAcIACCBADBbWHIBgPAVAhhEBbtlBBCAdKBbYPfMBbVAbWBEBC",
     "CeGBCBYAbTABAeFACBFAjDBBBBBBAblxJABAeXAbTCEBeLAYBcHAbWCJBNAdPCDBBAgOCbFBcGBBDCBCCJ",
     "AKBdGCHACABDBBBAdXCIBDAeCCGABDCAjDCGDCAeJCIBBAeFABBGAdZABBEAkBCJAjNFBBEACABAfMCIDE",
     "AdGAbDBcKAhTADABAhRAOAeCAHACAiFEEBBAnMBMAbWBIBBAyyYCfjGcCeABbkxNBGF"]⟩,
  ⟨["me", "enclosingmark"],
    ["bsQBikQAciGDBCbyoXC"]⟩,
  ⟨["mn", "nonspacingmark"],
    ["bdOeHkPEkFbSBABBBBBAcUKbWUQAdXGCFCBBDbJAbEbAdNKcGIJAYDBIBCBEbRCcHIbQXBbFcDABAEHEAD",
     "GKBbDAcGAEDIAUBbAACBcFAEBEBCCDAbEBDALBcFAEEBBEAUBWFBAcGACABDIAHBLBbEAcJAMAbYADAcDA",
     "BCFCBDHBLBbDAcGACAGAFBUBbCBcFBEDIAUBbDAcUAHCBAdMACGMHdUACILGcVBbBABABAcDNBEBBFKBbJ",
     "JAdYDBFBBCBZBECQDNACBGAPAbbBCbkKCbDBbEBbEBcMBBGIACKJAbTCBAeNBbIAeOCEBJAGCiLBCAcGAB",
     "GBABACHGJCAbWNBbECLUDbWABEBAFAbOIMBbGDCBBCcEABBDABCcGHCBfWCBMBGEAGADBhQcLbbSMEADLe",
     "oCCfLAdSbFvIDeDBbsqEAEJbGBdCBkMADAEAZBFAfVBbARNAbMHZKbUCbWACDCBbNAcPFCBCBMAIAbVAbZ",
     "ABCCBFBBAbQBIAjEACAEAbdzSAbcJPQPblLAiSAfTEcmGCBBFDbOCEAgJBwBDcNEmFBcZFcSKbXDeTAcCO",
     "bPACBKCbXDCBHAcJCbKEBHcKAMBcAIKDCAdRCCABBGACAgBADHVBcFBDAbLGDEcSFNABABAOBdHHCCBAXA",
     "dGFBAEBBBjEDGBBBbBBdHHCABBeCABACFBAdXABACDBEjZIBBjWBBAEAfODCBEAbGJbOFCDIAJFCCbUMBB",
     "hQABCBAhTGBFBAdEVCGBBBBeSFDABBBGBAcUBDABAnJBLBcAEFABAXAhxTAGOqyYLDCdsAEcHGboIAcLDd",
     "DAbdbKBgyZbTCWuYCRHCGbEDfSCcyDcCEbXIAOAWEBOcaIGBQCGBBBEdWAgEGoLAcJDtODjUBjJACAHBFA",
     "sGGeFGbtciVjF"]⟩,
  ⟨["nd", "decimalnumber", "digit"],
    ["bWJciOJfEJhQJpWJeOJeOJeOJeOJeOJeOJeOJeOJeOJdSJeOJcSJkSJcSJctQJbMJlOJeYJgKJGJhAJdIJ",
     "fEJGJcaeOJbaCJbMJhQJWJdIJpQJbfmCJccKJdfYJGJbeQJeYJcIJfOJkSJnEJeOJoKJdYJGTcYJqGJdYJ",
     "zMJdIJjMJcSJcCJnUJyyGJdmCJdIJfEJuOJbkdYJecQbXdnCJqGJtIJjNJbgVJhbAJ"]⟩,
  ⟨["nl", "letternumber"],
    ["irUCdyTbICDfmSAZIOCbsyLJbifGcArSAIAfEEmeSeGbcpPC"]⟩,
  ⟨["no", "othernumber"],
    ["gWBFACCdmRFoMFeQCfDGiJGRIqRJbpLTbrVJsMAcmVADFGJhQPbPAbbYcHdAVyGbDcbHAbtCDfIJbEHBOb",
     "GJbNObsmIFbhqNbScNDRBnDbAbKDbzGHZGbNIcXEWFgEBCPCbTcMIcABbECcXEeAHYHbPGmSFnObEgCJbQ",
     "DeIGfEToPTbzXBqOIbhNSbgTUbcpQGbeSWblyFTMTeEYibUIbjTcGBCBDcYbSBOblAM"]⟩,
  ⟨["pc", "connectorpunctuation"],
    ["dRAmbVBTAdgaOBYCjFA"]⟩,
  ⟨["pd", "dashpunctuation"],
    ["bTAcaUAbZAfkJAbnPAdbDFfhXACAbFBEAbCArEATAeHAczwABbLAKAgNAflOAmGA"]⟩,
  ⟨["pe", "closepunctuation"],
    ["bPAbZAbFAfpDABAcuOAdrDAcDAPAyKABAbEAbpUABABABABABABAdCAbGABABABABApOABABABABABABAB",
     "ABABABAcMABAbHAboVABABABAbSABABABAqMABABABABADABABABACBczrQAiJAbDABABABABABABABADA",
     "RABABAgOAbZAbFACACA"]⟩,
  ⟨["pf", "finalpunctuation"],
    ["hFAlwVADAbCAffSABAEACAPADA"]⟩,
  ⟨["pi", "initialpunctuation"],
    ["gPAlxKACBCAZAffSABAEACAPADA"]⟩,
  ⟨["po", "otherpunctuation"],
    ["bHCBCCABABBKBDBbBAcQAFAOBHAbbAAIArYFbPAcCACACAbSBUBBBNABCcWDdYAbRNiZCcCObFAkBBKAfK",
     "AeQAeRApAAMAoDAdMAKBgMOBAeIAcWEEBeHFgPAxOIbdTAeUCcTBgBCBCbLFBDmBBiIBeYGBFgEBKGbCCe",
     "UDcHEcKBcMHLAbgCBIHIICDCCDKBABJeuCDBBeIAfNBECCACIBBBACBKEBJCDBABMCCqMCcFAhHAbryGBk",
     "JCdVAKAeLFoQDdIBbOCBAbXBbVAdTMQBeUDeWBQBjPAbfcUGCAWAUBCDDCBDHCGABBfTCBCCABABBKBDBb",
     "BAbKACBpUCzSAbWApYAbcPAhRAbFAkMIbMAeIGcOGdLDbfNAfCEbSDhHGeFBBDeWDbWBdBDEANABCdKFeD",
     "AlMBBBeKEKBBAeAAjQWeBCbCMcYAfACjSAkECfZAdOHdFCBEdPJiHAdREbQByVBcWMgTAbrSEejCBwdVBf",
     "DAcNEIAvGClJDmPAbdbOAliLEeiTAbhEB"]⟩,
  ⟨["ps", "openpunctuation"],
    ["bOAbYAbFAfpEABAcuOAdpMADAbMAcDAPAyKABAbEAbpUABABABABABABAdCAbGABABABABApOABABABABA",
     "BABABABABABAcMABAbHAboVABABABAZASABABABAqMABABABABADABABABACAczrTAiHAbDABABABABABA",
     "BABADARABABAgOAbYAbFADACA"]⟩,
  ⟨["sc", "currencysymbol"],
    ["bKAeVDbwJAeTAtEBtEBHAjLAkDAwJAdqPAdiIbHbzhUAbgmLAeEAfYAiLBDBmcSDcvxEAdrKA"]⟩,
  ⟨["sk", "modifiersymbol"],
    ["dQABAcTAGAEADAuBDMNFGBABQeNAOBbxIAiuMABCLCNCNCNBghOBbsvRWJBdZBblOAOBbekKQbiHABAgGA",
     "dolJE"]⟩,
  ⟨["sm", "mathsymbol"],
    ["bRAQCcJABAbTAEAbLAbFAbdMAuHCjyHANAbNCNCfJAbNEGAcQEFBEACACAHAbFBCABAbFkHbGBdMAbEYbO",
     "FsBAJAcCHeHAmYECbEKPjWfAWcKEbFCjXbWUCFdasQAbfSABCgIAQCcJABAfBAGDfeFBcvgAAcyYAZAbFA",
     "ZAbFAZAbFAZAbFAZAiuEBdtEI"]⟩,
  ⟨["so", "othersymbol"],
    ["gKACAEABAblPAkGBeXBhYAKATBjNAtVAoJAfAFBAfCAhZAbPApBCPABCCFUABABAfDHBFBBFDhPBbcYJbb",
     "VAbbUAgBbHnPJJIccHBBDBBKABBGFBABABAEALBOABBBAcGBJECDBBBBBGBbECBBABbEkIHETCGCdCBbDZ",
     "bNGcTWKdDcZWhABIBcBIeGBjNbSbRcMjVtSbVVBGbMCfHiVFnTBbUZBdKMiFbAPEANBMAVBGBmYBEJbGbL",
     "JAQbELbDIAPbFKbMPmHjtOcLbguIcCbhHDKBBAwBCbeuJPoBPcMBcCHbTCsQADAEBNBmBIcFQCCBMDAbVb",
     "SclUBwTAbnSHdeSAdgNHEQbcnIDFAbeuWAfvNjFKCDqTGWPPdSeLcIjLKbMCcHFCWBHbDEcIVcNDAhEdIb",
     "tXtRcDDbYHBNBBcoUAehWAeZAbbTbREdVMOCOBOBbKXgEcEbCNbREIHBOFfYjQFbcADQDMDiJGLEAPLEcD",
     "IJGbNIbDCLEBcKnFINCMDKDcEBAEPCLEJHfQBdNKA"]⟩,
  ⟨["zl", "lineseparator"],
    ["meQA"]⟩,
  ⟨["zp", "paragraphseparator"],
    ["meRA"]⟩,
  ⟨["zs", "spaceseparator"],
    ["bGAeXAihJAdpNKbKAbVAfxWA"]⟩]

/-- Groups of general categories: their names and the leaves they unite. -/
def categoryGroups : List (List String × List String) := [
  (["c", "other"], ["cc", "cf", "co", "cn"]),
  (["l", "letter"], ["lu", "ll", "lt", "lm", "lo"]),
  (["lc", "casedletter"], ["lu", "ll", "lt"]),
  (["m", "mark", "combiningmark"], ["mn", "mc", "me"]),
  (["n", "number"], ["nd", "nl", "no"]),
  (["p", "punctuation", "punct"], ["pc", "pd", "ps", "pe", "pi", "pf", "po"]),
  (["s", "symbol"], ["sm", "sc", "sk", "so"]),
  (["z", "separator"], ["zs", "zl", "zp"])]

/-- The characters of a general category that is not a group. -/
def leafCategory (name : String) : Option CharSet :=
  if name = "cn" || name = "unassigned" then
    some (CharSet.ofRanges ((0xD800, 0xDFFF) :: categoryRows.flatMap (·.chars.ranges))).compl
  else
    PropertyRow.find categoryRows name

/-- The characters of a general category, found by its loosely matched name. `any`, `assigned`
and `ascii` are accepted beside the categories of the standard. -/
def category (name : String) : Option CharSet :=
  if name = "any" then some .all
  else if name = "ascii" then some (.range 0 0x7F)
  else if name = "assigned" then (leafCategory "cn").map CharSet.compl
  else match categoryGroups.find? (·.1.contains name) with
    | some (_, leaves) => some (.unions (leaves.filterMap leafCategory))
    | none => leafCategory name

end AccessPolicy.Unicode
