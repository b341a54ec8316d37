import AccessPolicy.Unicode.PropertyRow

/-!
# Scripts

The script of a character, and the scripts it is used with. Only the scripts whose extended set
differs from the plain one have a row in the second table.
-/

namespace AccessPolicy.Unicode

/-- Scripts by short and long name. -/
def scriptRows : List PropertyRow := [
  ⟨["adlm", "adlam"],
    ["hdeUcXEJEB"]⟩,
  ⟨["aghb", "caucasianalbanian"],
    ["duxSbZLA"]⟩,
  ⟨["ahom"],
    ["ebrCbACOEW"]⟩,
  ⟨["arab", "arabic"],
    ["chCEBFBNBCBbFBJLZBeDBbHdCbVjGbHFcWBbCdntWsZCfNbGPeIEBfEfvNbEcPFIIbHFdglSDBbABBBACA",
     "BJBDBABAGAEABABABCBBBACABABABABABBBACDBGBDBDBABJBQFCBEBQcAB"]⟩,
  ⟨["armi", "imperialaramaic"],
    ["dwbWVBI"]⟩,
  ⟨["armn", "armenian"],
    ["bzDbLCbXCCdozJE"]⟩,
  ⟨["avst", "avestan"],
    ["dxcYcBDG"]⟩,
  ⟨["bali", "balinese"],
    ["kfWcYBbX"]⟩,
  ⟨["bamu", "bamum"],
    ["clcQdJcvcQvW"]⟩,
  ⟨["bass", "bassavah"],
    ["fhkIbDCF"]⟩,
  ⟨["batk", "batak"],
    ["knGbZID"]⟩,
  ⟨["beng", "bengali"],
    ["dpODBHCBCVBGBADDCICBCDIAEBBECY"]⟩,
  ⟨["bhks", "bhaiksuki"],
    ["edoIIBbSBNKbC"]⟩,
  ⟨["bopo", "bopomofo"],
    ["bcSBrlXbQeIbF"]⟩,
  ⟨["brah", "brahmi"],
    ["dzaEcZEbJJA"]⟩,
  ⟨["brai", "braille"],
    ["pdWjV"]⟩,
  ⟨["bugi", "buginese"],
    ["jwAbBCB"]⟩,
  ⟨["buhd", "buhid"],
    ["iuYT"]⟩,
  ⟨["cakm", "chakma"],
    ["dzkAcABR"]⟩,
  ⟨["cans", "canadianaboriginal"],
    ["hoYyPvOcRdtpQP"]⟩,
  ⟨["cari", "carian"],
    ["dtyMbW"]⟩,
  ⟨["cham"],
    ["cmjWcCJNCJCD"]⟩,
  ⟨["cher", "cherokee"],
    ["hlGdHCFcfjEdB"]⟩,
  ⟨["chrs", "chorasmian"],
    ["dyxCbB"]⟩,
  ⟨["copt", "coptic", "qaac"],
    ["bmGNpjKeLFG"]⟩,
  ⟨["cpmn", "cyprominoan"],
    ["ekyYdU"]⟩,
  ⟨["cprt", "cypriot"],
    ["dvzKFCABbRBBDACA"]⟩,
  ⟨["cyrl", "cyrillic"],
    ["bnKfCCgMivOKgEAcYAgfNbFbtoAdRbheCBdhpGcJbHA"]⟩,
  ⟨["deva", "devanagari"],
    ["dkQdCEOCZcijGbFbreMJ"]⟩,
  ⟨["diak", "divesakuru"],
    ["eckUGCACHBBBbDBBCLJJ"]⟩,
  ⟨["dogr", "dogra"],
    ["ecaYcH"]⟩,
  ⟨["dsrt", "deseret"],
    ["dumAdB"]⟩,
  ⟨["dupl", "duployan"],
    ["gmdSeCFMDIHJCD"]⟩,
  ⟨["egyp", "egyptianhieroglyphs"],
    ["eldGbqRKfxQ"]⟩,
  ⟨["elba", "elbasan"],
    ["duvWbN"]⟩,
  ⟨["elym", "elymaic"],
    ["dyyYW"]⟩,
  ⟨["ethi", "ethiopic"],
    ["gvGcUBDCGBABDCbOBDCbGBDCGBABDCOBcEBDCcOCbFDZjvAWJGBGBGBGBGBGBGBGbvkCFCFCFJGBGepyFG",
     "BDBBBO"]⟩,
  ⟨["geor", "georgian"],
    ["ghSbLBAFACbQBDejWbQCCgeAbLBAFA"]⟩,
  ⟨["glag", "glagolitic"],
    ["qrGdRgizGGBQCGBBBE"]⟩,
  ⟨["gong", "gunjalagondi"],
    ["eebWFBBBbKBBBFHJ"]⟩,
  ⟨["gonm", "masaramgondi"],
    ["edyEGBBBbRDABBBIIJ"]⟩,
  ⟨["goth", "gothic"],
    ["dueAbA"]⟩,
  ⟨["gran", "grantha"],
    ["eadSDBHCBCVBGBBBECICBCCCAGAFGCGDE"]⟩,
  ⟨["grek", "greek"],
    ["bhWDBCCDBAEABABCBABTBcKOPjnQEbYEEEdGAmIVCFCbLCFCHBABABABbECcABOBNCFBSCCBIlJAcajEAb",
     "gnIdARAdaxRcR"]⟩,
  ⟨["gujr", "gujarati"],
    ["dzLCBIBCBVBGBBBECJBCBCCAPDCLHG"]⟩,
  ⟨["guru", "gurmukhi"],
    ["duNCBFEBCVBGBBBBBBCABEEBCCDAHDBAHQ"]⟩,
  ⟨["hang", "hangul"],
    ["glKjVllEBjXdPeJbEcNbEbtaNbCyTqnRMWEbWpaIbEDFCFCFCC"]⟩,
  ⟨["hani", "han"],
    ["rpWZBdKMiFbVABAZIODblCjtNcMbfbJbhsIoBCeBbsiIBMGccoFclfBbGgmNCioBClbKPxXdqWuVcfYhhY",
     "FmoN"]⟩,
  ⟨["hano", "hanunoo"],
    ["itSU"]⟩,
  ⟨["hatr", "hatran"],
    ["dwiASBBFE"]⟩,
  ⟨["hebr", "hebrew"],
    ["ccVcCIbAEFdovWZBEBABBBBBJ"]⟩,
  ⟨["hira", "hiragana"],
    ["shDdHGCfpeVlASAbDCymVA"]⟩,
  ⟨["hluw", "anatolianhieroglyphs"],
    ["essEwK"]⟩,
  ⟨["hmng", "pahawhhmong"],
    ["fhmEcRKJBGBUFS"]⟩,
  ⟨["hmnp", "nyiakengpuachuehmong"],
    ["haeAbSDNCJEB"]⟩,
  ⟨["hung", "oldhungarian"],
    ["dxrSbYNbYHF"]⟩,
  ⟨["ital", "olditalic"],
    ["ducEbJJC"]⟩,
  ⟨["java", "javanese"],
    ["cmeYcZCJEB"]⟩,
  ⟨["kali", "kayahli"],
    ["cmaAbTBA"]⟩,
  ⟨["kana", "katakana"],
    ["skVdLCCjGPiAbUBdJczhEJBbScouCDBGBBBAlBCbYAOD"]⟩,
  ⟨["kawi"],
    ["eerWQBbODbC"]⟩,
  ⟨["khar", "kharoshthi"],
    ["dwtCDBBFHBCBbCCCEJHI"]⟩,
  ⟨["khmr", "khmer"],
    ["ixKdPCJGJsSbF"]⟩,
  ⟨["khoj", "khojki"],
    ["dztWRBbU"]⟩,
  ⟨["kits", "khitansmallscript"],
    ["fjiIAkgXsBbPA"]⟩,
  ⟨["knda", "kannada"],
    ["etCMBCBWBJBECIBCBDHBFCBDCJBC"]⟩,
  ⟨["kthi", "kaithi"],
    ["dzfCcOKA"]⟩,
  ⟨["lana", "taitham"],
    ["jxGcKBbCCKGJGN"]⟩,
  ⟨["laoo", "lao"],
    ["fmVBBABEBXBABWCEBABGBJCD"]⟩,
  ⟨["latn", "latin"],
    ["cNZGZbVAPAFWBbEBrGbNEjxBbLGbWFDFMBcRcNjVoFANAQMfLBGAbBARbOecTbFbulMdXDdDUObfKbQBIB",
     "DbedQGboKZGZdcFFBbPBIddnPbEGF"]⟩,
  ⟨["lepc", "lepcha"],
    ["kpScDDODC"]⟩,
  ⟨["limb", "limbu"],
    ["jmEbEBLELEADL"]⟩,
  ⟨["lina", "lineara"],
    ["dvfSlYJVKH"]⟩,
  ⟨["linb", "linearb"],
    ["dsyQLBZBSBBBOCNbIeS"]⟩,
  ⟨["lisu"],
    ["ckkUbVbumAA"]⟩,
  ⟨["lyci", "lycian"],
    ["dtxGbC"]⟩,
  ⟨["lydi", "lydian"],
    ["dwkMZFA"]⟩,
  ⟨["mahj", "mahajani"],
    ["dznCbM"]⟩,
  ⟨["maka", "makasar"],
    ["eeqQY"]⟩,
  ⟨["mand", "mandaic"],
    ["ddGbBCA"]⟩,
  ⟨["mani", "manichaean"],
    ["dxaMbMEL"]⟩,
  ⟨["marc", "marchen"],
    ["edsQbFCVBN"]⟩,
  ⟨["medf", "medefaidrin"],
    ["fisEdM"]⟩,
  ⟨["mend", "mendekikakui"],
    ["hcuYhOCP"]⟩,
  ⟨["merc", "meroiticcursive"],
    ["dwpKXETCbT"]⟩,
  ⟨["mero", "meroitichieroglyphs"],
    ["dwoEbF"]⟩,
  ⟨["mlym", "malayalam"],
    ["eyAMBCBbYBCBFEPCZ"]⟩,
  ⟨["modi"],
    ["ebhGcQLJ"]⟩,
  ⟨["mong", "mongolian"],
    ["jcIBCABTGdKHbQdscBM"]⟩,
  ⟨["mroo", "mro"],
    ["fheUbEBJEB"]⟩,
  ⟨["mtei", "meeteimayek"],
    ["cmsMWhTbTCJ"]⟩,
  ⟨["mult", "multani"],
    ["dzyUGBABDBOBK"]⟩,
  ⟨["mymr", "myanmar"],
    ["gbOgDcgaYbEdTbFbpaMT"]⟩,
  ⟨["nagm", "nagmundari"],
    ["hbpObP"]⟩,
  ⟨["nand", "nandinagari"],
    ["ecqYHCbTCK"]⟩,
  ⟨["narb", "oldnortharabian"],
    ["dwyAbF"]⟩,
  ⟨["nbat", "nabataean"],
    ["dweIbEII"]⟩,
  ⟨["newa"],
    ["eanOdNBE"]⟩,
  ⟨["nkoo", "nko"],
    ["cyIcGCC"]⟩,
  ⟨["nshu", "nushu"],
    ["fjiFAyvMpF"]⟩,
  ⟨["ogam", "ogham"],
    ["inObC"]⟩,
  ⟨["olck", "olchiki"],
    ["ksUbV"]⟩,
  ⟨["orkh", "oldturkic"],
    ["dxmUcU"]⟩,
  ⟨["orya", "oriya"],
    ["eeJCBHCBCVBGBBBECICBCCHCEBBECR"]⟩,
  ⟨["osge", "osage"],
    ["dusUbJEbJ"]⟩,
  ⟨["osma", "osmanya"],
    ["duqYbDCJ"]⟩,
  ⟨["ougr", "olduyghur"],
    ["dyuQZ"]⟩,
  ⟨["palm", "palmyrene"],
    ["dwdCbF"]⟩,
  ⟨["pauc", "paucinhau"],
    ["edcAcE"]⟩,
  ⟨["perm", "oldpermic"],
    ["dufGbQ"]⟩,
  ⟨["phag", "phagspa"],
    ["clsQcD"]⟩,
  ⟨["phli", "inscriptionalpahlavi"],
    ["dxgQSFH"]⟩,
  ⟨["phlp", "psalterpahlavi"],
    ["dxhWRHDMG"]⟩,
  ⟨["phnx", "phoenician"],
    ["dwjGbBDA"]⟩,
  ⟨["plrd", "miao"],
    ["fizOcWEcEHQ"]⟩,
  ⟨["prti", "inscriptionalparthian"],
    ["dxfKVCH"]⟩,
  ⟨["rjng", "rejang"],
    ["cmbWbJLA"]⟩,
  ⟨["rohg", "hanifirohingya"],
    ["dxwQbNIJ"]⟩,
  ⟨["runr", "runic"],
    ["ioUcWDK"]⟩,
  ⟨["samr", "samaritan"],
    ["daUbTCO"]⟩,
  ⟨["sarb", "oldsoutharabian"],
    ["dwwUbF"]⟩,
  ⟨["saur", "saurashtra"],
    ["clvCcRIL"]⟩,
  ⟨["sgnw", "signwriting"],
    ["gwtKzBPEBO"]⟩,
  ⟨["shaw", "shavian"],
    ["dupCbV"]⟩,
  ⟨["shrd", "sharada"],
    ["dzoYdRdpOH"]⟩,
  ⟨["sidd", "siddham"],
    ["ebcIcBCbL"]⟩,
  ⟨["sind", "khudawadi"],
    ["eaaQcGFJ"]⟩,
  ⟨["sinh", "sinhala"],
    ["fcZCBRDXBIBACGDAEFBABHGJCCdulGT"]⟩,
  ⟨["sogd", "sogdian"],
    ["dysEbP"]⟩,
  ⟨["sogo", "oldsogdian"],
    ["dyqIbN"]⟩,
  ⟨["sora", "sorasompeng"],
    ["dziEYHJ"]⟩,
  ⟨["soyo", "soyombo"],
    ["ecxSdE"]⟩,
  ⟨["sund", "sundanese"],
    ["kkUcLjWH"]⟩,
  ⟨["sylo", "sylotinagri"],
    ["clqEbS"]⟩,
  ⟨["syrc", "syriac"],
    ["cqYNBcHCCkMK"]⟩,
  ⟨["tagb", "tagbanwa"],
    ["iwEMBCBB"]⟩,
  ⟨["takr", "takri"],
    ["ebmEcFGJ"]⟩,
  ⟨["tale", "taile"],
    ["jpGbDCE"]⟩,
  ⟨["talu", "newtailue"],
    ["jrCbREZGKDB"]⟩,
  ⟨["taml", "tamil"],
    ["ejIBBFDCBDDBBABBDBDCDLEEDCBDCAGAOUealHbXNA"]⟩,
  ⟨["tang", "tangut"],
    ["fjiEAbFkfVtSbEdTeK"]⟩,
  ⟨["tavt", "taiviet"],
    ["cmoUcOYE"]⟩,
  ⟨["telu", "telugu"],
    ["eoEMBCBWBPCIBCBDHBBCBBCDCJHI"]⟩,
  ⟨["tfng", "tifinagh"],
    ["rcYcDHBOA"]⟩,
  ⟨["tglg", "tagalog"],
    ["isMVJA"]⟩,
  ⟨["thaa", "thaana"],
    ["cvWbX"]⟩,
  ⟨["thai"],
    ["fhXcFFbB"]⟩,
  ⟨["tibt", "tibetan"],
    ["frScTBbJEbMBbJBOBGEB"]⟩,
  ⟨["tirh", "tirhuta"],
    ["easMcTIJ"]⟩,
  ⟨["tnsa", "tangsa"],
    ["fhgQdABJ"]⟩,
  ⟨["toto"],
    ["hatKbE"]⟩,
  ⟨["ugar", "ugaritic"],
    ["duhCbDBA"]⟩,
  ⟨["vaii", "vai"],
    ["ckmQlN"]⟩,
  ⟨["vith", "vithkuqi"],
    ["dvaEKBOBGBBBKBOBGBB"]⟩,
  ⟨["wara", "warangciti"],
    ["echCdEMA"]⟩,
  ⟨["wcho", "wancho"],
    ["havGcFFA"]⟩,
  ⟨["xpeo", "oldpersian"],
    ["duiIbJEN"]⟩,
  ⟨["xsux", "cuneiform"],
    ["efbSbjLdYeGBELhN"]⟩,
  ⟨["yezi", "yezidi"],
    ["dylKbPBCCB"]⟩,
  ⟨["yiii", "yi"],
    ["cipKbsUDcC"]⟩,
  ⟨["zanb", "zanabazarsquare"],
    ["ecuQcT"]⟩,
  ⟨["zinh", "inherited", "qaai"],
    ["bdOeHkRBrKKbAAbcIDgoXbTCLsQCBMBGEAGADBhQcLuEBhMbGftXDeDBczuJPQNblNAiSAgfAActcUbTCW",
     "uYCRHCGbEDbtlhIjF"]⟩,
  ⟨["zyyy", "common"],
    ["AcMbAFbAbUBOBEXAbFArHbMFECTeMAJAGABAyNAGAOADAbGAgAAtWAeZBbvTApPDlEAcgLCcTBhVBBAbvH",
     "ANAHDBFBCCAbdTLCdIBKDKBORbHcKbLBCCFBbABQbPCEzPWKVbjRjWyDCfHtSdPpMUBABYPHEDdNBDAdMB",
     "fRPbGbLJAbWcLbFdCbVAdKgLjtOcLbhsIbHdYCgJJjKAgEApFAOBbezQBiAJWbIBSBDfRABbFbAFbAKKAb",
     "TBcMGBGKEjYCEbSDIdCMbZbSiUbAcshWDfvGjSDqTGWPQdReLcIjLKbMCcJDQIBHbDEcIiFTMTMdIJYfFd",
     "GBcSBBCACBCDBLBABGBcMBDCHBGBbBBDBEBADGBnBClFCbXhtHcPcYcIbbEbREdVMOCOBOBbKKgRcEZBBN",
     "bREIHBOFfYblWDQDMDiJGLEAPLEcDIJGbNIbDCLEBOIbNnFINCMDKDcEBAEPCLEJHfQBdYbsuxAAbEdR"]⟩,
  ⟨["gara", "garay"],
    ["dxzCbLDbCIB"]⟩,
  ⟨["gukh", "gurungkhema"],
    ["fdrScF"]⟩,
  ⟨["krai", "kiratrai"],
    ["fiiIcF"]⟩,
  ⟨["onao", "olonal"],
    ["hbzKbQEA"]⟩,
  ⟨["sunu", "sunuwar"],
    ["edlWbHOJ"]⟩,
  ⟨["todr", "todhri"],
    ["dvdGbZ"]⟩,
  ⟨["tutg", "tulutigalari"],
    ["eaiQJBACABbLBJBACABDBJBBIB"]⟩,
  ⟨["berf", "beriaerfe"],
    ["fivWYCY"]⟩,
  ⟨["sidt", "sidetic"],
    ["dwlSZ"]⟩,
  ⟨["tayo", "taiyo"],
    ["hciQbEBVIB"]⟩,
  ⟨["tols", "tolongsiki"],
    ["eeeYbREJ"]⟩]

/-- Scripts whose set of characters they are used with is larger or smaller than the script itself. -/
def extendedScriptRows : List PropertyRow := [
  ⟨["adlm", "adlam"],
    ["ciHAbGAjwOAfhHAglrIcXEJEB"]⟩,
  ⟨["aghb", "caucasianalbanian"],
    ["bdSAbSAbSAdtqNbZLA"]⟩,
  ⟨["arab", "arabic"],
    ["chCEBiGBbHdCbVjGbHFcWBbCivNAfhHAczrAyPbGPeIEBfEbmHbBeiEbEcPFIIbHFdglSDBbABBBACABJB",
     "DBABAGAEABABABCBBBACABABABABABBBACDBGBDBDBABJBQFCBEBQcAB"]⟩,
  ⟨["armn", "armenian"],
    ["bdWAvGbLCbXCCdozJE"]⟩,
  ⟨["avst", "avestan"],
    ["hBArfSBdfqCcBDG"]⟩,
  ⟨["beng", "bengali"],
    ["baYAcmUBRBbADBHCBCVBGBADDCICBCDIAEBBECYhdHABACBBAIAIACAEACCcbaFA"]⟩,
  ⟨["bopo", "bopomofo"],
    ["bbJABCNAQBrbXCEJBMKDCAGAhNAJbQeIbFczlTBkWE"]⟩,
  ⟨["bugi", "buginese"],
    ["jwAbBCBcckTA"]⟩,
  ⟨["buhd", "buhid"],
    ["iuNBJT"]⟩,
  ⟨["cakm", "chakma"],
    ["dtMJckEJdtfQcABR"]⟩,
  ⟨["cari", "carian"],
    ["hBAlzMACAfgDAdclQbW"]⟩,
  ⟨["cher", "cherokee"],
    ["bdOCBAGBWBLBgfUdHCFcfjEdB"]⟩,
  ⟨["copt", "coptic", "qaac"],
    ["hBAwMADBBAeEBeENpjKeLFGkTAdcpCbB"]⟩,
  ⟨["cpmn", "cyprominoan"],
    ["dtiMBrqKdU"]⟩,
  ⟨["cprt", "cypriot"],
    ["dtiMCEbSDIcoMFCABbRBBDACA"]⟩,
  ⟨["cyrl", "cyrillic"],
    ["baYAcPCBABABACAFAjElRivOKgEAcYAeXAgaPbFcPAbtlKdRbheCBdhpGcJbHA"]⟩,
  ⟨["deva", "devanagari"],
    ["baYAcjRdECbQhiEbMBBbnAAbzfRJgKbFbreMJ"]⟩,
  ⟨["dogr", "dogra"],
    ["doMLcidCJbqiOcH"]⟩,
  ⟨["dupl", "duployan"],
    ["hBAwTBBAYBqiHAfuqLeCFMDIHJCH"]⟩,
  ⟨["elba", "elbasan"],
    ["hBAwRAdtsCbN"]⟩,
  ⟨["ethi", "ethiopic"],
    ["beCAfrDcUBDCGBABDCbOBDCbGBDCGBABDCOBcEBDCcOCbFDZjvAWJGBGBGBGBGBGBGBGbvkCFCFCFJGBGe",
     "pyFGBDBBBO"]⟩,
  ⟨["geor", "georgian"],
    ["hBAbvLAefEbLBAFACbVejWbQCCbjMAeuNbLBAFAjZA"]⟩,
  ⟨["glag", "glagolitic"],
    ["hBAwPABAoSACAjXAeiRAfvIAekRdRsPAbtnFAeotKGBQCGBBBE"]⟩,
  ⟨["gong", "gunjalagondi"],
    ["hBAdhKBeanIFBBBbKBBBFHJ"]⟩,
  ⟨["gonm", "masaramgondi"],
    ["doMBeajQGBBBbRDABBBIIJ"]⟩,
  ⟨["goth", "gothic"],
    ["hBAwQBCAbOAdsyObA"]⟩,
  ⟨["gran", "grantha"],
    ["dnTBRByQNgkAABBbECDBbnAAdnrJDBHCBCVBGBBBEBJCBCCCAGAFGCGDEerRBBA"]⟩,
  ⟨["grek", "greek"],
    ["hBAwMBCABABAKAbUACAbQHCDBAEABABCBABTBcKOPjnQEbYEEEdGCmGVCFCbLCFCHBABABABbECcABOBNC",
     "FBSCCBIdQAhSAcajEAbgnIdARAdaxRcR"]⟩,
  ⟨["gujr", "gujarati"],
    ["dnTBRBkXCBIBCBVBGBBBECJBCBCCAPDCLHGchnSJ"]⟩,
  ⟨["guru", "gurmukhi"],
    ["dnTBRBfZCBFEBCVBGBBBBBBCABEEBCCDAHDBAHQchsZJ"]⟩,
  ⟨["hang", "hangul"],
    ["glKjVljLCEJBMOCGAhNAcBdPeJbEcNbEbtaNbCyTqnRMWEbWomZBkWEcGbEDFCFCFCC"]⟩,
  ⟨["hani", "han"],
    ["hBAriUZBdKMiFbAPBCBMBMBMCAGIhFAfSPbGbLJAbWbNcEbWPLbZAdKYKEdSbEBjtNcMbfbJcqYHbfbCoB",
     "CeBbhRBkWEbqpOBMGblqVRlrYBfeSclfBbGgmNCioBClbKPxXdqWuVcfYhhYFmoN"]⟩,
  ⟨["hano", "hanunoo"],
    ["itSW"]⟩,
  ⟨["hebr", "hebrew"],
    ["bdVByYcCIbAEFdovWZBEBABBBBBJ"]⟩,
  ⟨["hira", "hiragana"],
    ["seRCEJBMQFBAEBDdHCHdMBcztGBkWEKAbTBcouRlASAbDCymVA"]⟩,
  ⟨["hung", "oldhungarian"],
    ["mgOACAfgDAPAdgeGbYNbYHF"]⟩,
  ⟨["java", "javanese"],
    ["cmeYcZBKEB"]⟩,
  ⟨["kali", "kayahli"],
    ["cmaAbV"]⟩,
  ⟨["kana", "katakana"],
    ["bdTAbDAqzTCEJBMQFBAEBdNDDdRjGPiAbUBdJcywBBkWcKcouADBGBBBAlBCbYAOD"]⟩,
  ⟨["khoj", "khojki"],
    ["edIJchoIJbobMRBbU"]⟩,
  ⟨["knda", "kannada"],
    ["dnTBRBbeOMBCBWBJBECIBCBDHBFCBDCJBCgaEABBGAXABAcasXF"]⟩,
  ⟨["kthi", "kaithi"],
    ["doOJnxXAbufEJbnmScOKA"]⟩,
  ⟨["latn", "latin"],
    ["cNZGZbVAMACAFWBbEBrGDAKABCBAJABAGEbBOBBBAPCHBBBbMAFAEMkRBbvEBcxKAeoIbLGbWFDFMBcRcF",
     "AHjVlRAcNANAQMdFAcFBGAbBARbOecTbFpRAbtuMHbAdXDdDUOlQAtTbQBIBDbedQGboKZGZdcFFBbPBId",
     "dnPbEGF"]⟩,
  ⟨["limb", "limbu"],
    ["doNAfxQbEBLELEADL"]⟩,
  ⟨["lina", "lineara"],
    ["dtiTbSbvGlYJVKH"]⟩,
  ⟨["linb", "linearb"],
    ["dsyQLBZBSBBBOCNbIeSFCEbSDI"]⟩,
  ⟨["lisu"],
    ["baYAQArdKBbsfSbVbumAA"]⟩,
  ⟨["lyci", "lycian"],
    ["mgOAdhqRbC"]⟩,
  ⟨["lydi", "lydian"],
    ["hBArfTAdexQZFA"]⟩,
  ⟨["mahj", "mahajani"],
    ["hBAdhKLcidCJbnuSbM"]⟩,
  ⟨["mand", "mandaic"],
    ["cjOAtRbBCA"]⟩,
  ⟨["mani", "manichaean"],
    ["cjOAduqXbMEL"]⟩,
  ⟨["mero", "meroitichieroglyphs"],
    ["mgRAdkhMbF"]⟩,
  ⟨["mlym", "malayalam"],
    ["dnTBRBbjMMBCBbYBCBFEPCZfvEAXAcasZC"]⟩,
  ⟨["modi"],
    ["clsAJbpoWcQLJ"]⟩,
  ⟨["mong", "mongolian"],
    ["jcIZGdKHbQcwAAfzTBFDdjfWM"]⟩,
  ⟨["mult", "multani"],
    ["dyKJdwaAGBABDBOBK"]⟩,
  ⟨["mymr", "myanmar"],
    ["gbOgDcfuCAgVbEdTbFbpaMT"]⟩,
  ⟨["nand", "nandinagari"],
    ["dnTASBbiMJgbHAIAHAcasRFbqySHCbTCK"]⟩,
  ⟨["newa"],
    ["dnTBhkCABBJAGABABAdpoSdNBE"]⟩,
  ⟨["nkoo", "nko"],
    ["chOAOADAqAcGCCdowSB"]⟩,
  ⟨["orkh", "oldturkic"],
    ["mgOAfgFAdfzZcU"]⟩,
  ⟨["orya", "oriya"],
    ["dnTBRBpVCBHCBCVBGBBBECICBCCHCEBBECRgpEAXA"]⟩,
  ⟨["osge", "osage"],
    ["bdPACAGAcYAdtlVbJEbJ"]⟩,
  ⟨["ougr", "olduyghur"],
    ["cjOAdusVAbsFZ"]⟩,
  ⟨["perm", "oldpermic"],
    ["hBAwMAFCKAoDAdsmUbQ"]⟩,
  ⟨["phag", "phagspa"],
    ["jcKBBAdcJAfzUAbtnXcD"]⟩,
  ⟨["phlp", "psalterpahlavi"],
    ["cjOAduyHRHDMG"]⟩,
  ⟨["rohg", "hanifirohingya"],
    ["chOAOADAbGAfRAdvhJbNIJ"]⟩,
  ⟨["runr", "runic"],
    ["ioUdK"]⟩,
  ⟨["samr", "samaritan"],
    ["daUbTCOojQA"]⟩,
  ⟨["shaw", "shavian"],
    ["hBAduiAbV"]⟩,
  ⟨["shrd", "sharada"],
    ["dnTAhkFABACBCAJACAcatEFCAbnwPdRdpOH"]⟩,
  ⟨["sind", "khudawadi"],
    ["doMBcidMJboiGcGFJ"]⟩,
  ⟨["sinh", "sinhala"],
    ["doMBboLCBRDXBIBACGDAEFBABHGJCCfrPAdotQT"]⟩,
  ⟨["sogd", "sogdian"],
    ["cjOAdwiPbP"]⟩,
  ⟨["sylo", "sylotinagri"],
    ["doMBeYJchwIbS"]⟩,
  ⟨["syrc", "syriac"],
    ["bdRBCBBAYCHBBBbcCAOBCAbGAKKbAAfNNBcHCCkMKieFABA"]⟩,
  ⟨["tagb", "tagbanwa"],
    ["iuNBbPMBCBB"]⟩,
  ⟨["takr", "takri"],
    ["doMBcidMJbptUcFGJ"]⟩,
  ⟨["tale", "taile"],
    ["bdOBFBDAezZJdkWbDCE"]⟩,
  ⟨["taml", "tamil"],
    ["dnTBRBuUBBFDCBDDBBABBDBDCDLEEDCBDCAGAOUgkDAcbbKAboeFABAcDBetFbXNA"]⟩,
  ⟨["tang", "tangut"],
    ["seAPtBAeqkMAbFkfVtSbEdTeK"]⟩,
  ⟨["telu", "telugu"],
    ["dnTBRBzQMBCBWBPCIBCBDHBBCBBCDCJHIgeVBBABAXA"]⟩,
  ⟨["tfng", "tifinagh"],
    ["bdQABABDZApyAcDHBOA"]⟩,
  ⟨["tglg", "tagalog"],
    ["isMVJAVB"]⟩,
  ⟨["thaa", "thaana"],
    ["chOAOBCAcMJkSbXdpgQAKA"]⟩,
  ⟨["thai"],
    ["baYAbAAbRAbTAecLcFFbB"]⟩,
  ⟨["tibt", "tibetan"],
    ["frScTBbJEbMBbJBOBGEBmeVD"]⟩,
  ⟨["tirh", "tirhuta"],
    ["dnTBRBhjJAMAPAcasZJbpaCcTIJ"]⟩,
  ⟨["toto"],
    ["baYAgzsLbE"]⟩,
  ⟨["yezi", "yezidi"],
    ["chOAOADAcMJdwaGbPBCCB"]⟩,
  ⟨["yiii", "yi"],
    ["seRBFJCHiPAbqbCbsUDcCbiiCE"]⟩,
  ⟨["zinh", "inherited", "qaai"],
    ["beDACABODGCACPBBBRBEBDcgMBgoXbTCLbbYcBBABEuEBhMbFdfsQPQNblNAczqObTCWuYCRHCGbEDbtlh",
     "IjF"]⟩,
  ⟨["zyyy", "common"],
    ["AcMbAFbAbUBLBBBEXAbFArHCBJBADABIBABFFECTeWAGABAyNAiHAtWAcaUApPDgdBLCbGBbEBJBBBGBKD",
     "KBORbHcKbLBCCFBbABQbPCEzPWKVbjRjWyDCfHtSWBXCJBDBABZqCADANANAVAuJXbFAbXOMDgFJFdRbFA",
     "jtOcLbhsQZdYCblOAOBbfhSJWUCLBSBDfRABbFbAFbAFeXGBGKEpMMbZbScynBjSDqTGWPQdReLcIjLKbM",
     "CcJDQIBHbDEcIiFTMTMdIbBGfFdGBcSBBCACBCDBLBABGBcMBDCHBGBbBBDBEBADGBnBClFCbXhtHcPcYc",
     "IbbEbREdVMOCOBOBbKKgRcEZBBNbREIXFfYblWDQDMDiJGLEAPLEcDIJGbNIbDCLEBOIbNnFINCMDKDcEB",
     "AEPCLEJHfQBdYbsuxAAbEdR"]⟩,
  ⟨["gara", "garay"],
    ["chOAOADAdvqUbLDbCIB"]⟩,
  ⟨["gukh", "gurungkhema"],
    ["doNAfadEcF"]⟩,
  ⟨["onao", "olonal"],
    ["doMBgykWbQEA"]⟩,
  ⟨["sunu", "sunuwar"],
    ["bdOBBAJACAbCADAecgKbHOJ"]⟩,
  ⟨["todr", "todhri"],
    ["bdPACACAJABAcWAdtwBbZ"]⟩,
  ⟨["tutg", "tulutigalari"],
    ["exAJgbQABAcasXFhFAbojEJBACABbLBJBACABDBJBBIB"]⟩]

/-- The characters whose script is the named one. -/
def script (name : String) : Option CharSet :=
  PropertyRow.find scriptRows name

/-- The characters that are used with the named script. -/
def extendedScript (name : String) : Option CharSet :=
  PropertyRow.find extendedScriptRows name <|> script name

end AccessPolicy.Unicode
