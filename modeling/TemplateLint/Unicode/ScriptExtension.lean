import TemplateLint.Unicode.CodeSet

set_option autoImplicit false

/-!
Script extensions of the Unicode Character Database, version 16, written as their difference from the
scripts: a script that has no entry here has the same characters in both properties.
-/

namespace TemplateLint.Unicode

/-- For a script, the characters that are in exactly one of its own set and its extension. -/
def scriptExtensionChanges : List NamedSet := [
  ⟨["adlm", "adlam"],
    "61f 1 20 1 1a0e 1 df1 1"⟩,
  ⟨["arab", "arabic"],
    "60c 1 e 1 3 1 20 1 a b 1a 1 19de 1 df1 1 cefc 2 5a0 1c"⟩,
  ⟨["armn", "armenian"],
    "308 1"⟩,
  ⟨["avst", "avestan"],
    "b7 1 2d78 2"⟩,
  ⟨["beng", "bengali"],
    "2bc 1 694 2 11 2 136a 1 1 1 2 2 1 1 8 1 8 1 2 1 4 1 2 3 8bf9 1"⟩,
  ⟨["bopo", "bopomofo"],
    "2c7 1 1 3 d 1 2d27 3 4 a 1 d a 4 2 1 6 1 c3 1 cd49 2 11a 5"⟩,
  ⟨["bugi", "buginese"],
    "a9cf 1"⟩,
  ⟨["buhd", "buhid"],
    "1735 2"⟩,
  ⟨["cari", "carian"],
    "b7 1 1fa2 1 2 1 dd3 1"⟩,
  ⟨["aghb", "caucasianalbanian"],
    "304 1 2c 1 2c 1"⟩,
  ⟨["cakm", "chakma"],
    "9e6 a 650 a"⟩,
  ⟨["cher", "cherokee"],
    "300 3 1 1 6 2 16 2 b 2"⟩,
  ⟨["zyyy", "common"],
    "b7 1 204 1 a 1 1 3 1 1 9 1 1 1 9a 1 297 1 e 1 3 1 20 1 323 2 795 1 5ef 3 47 2 cb 2 1 1 4cd 1 d 1 7 4
    1 6 1 3 2 1 334 1 1f 1 a 1 2 1 db9 1 18 2 a 1 4 1 1 1 1ac 10 1 3 2 1 1 a 1 d 10 6 1 1 4 4 5b 2 3 1
    5a 2 93 10 20 26 9 1 30 28 38 31 f c 33 1 58 19 a 5 60 1f 7301 8 128 a f4 1 a0 1 536e 2 105 2 11a 5
    a 1 2d 2 160 3 4 2d 3 9 1a1 1b b9a4 4 16bc 12 1ede 2"⟩,
  ⟨["copt", "qaac", "coptic"],
    "b7 1 248 1 3 2 1 1 6c 2 2aa1 1 d4c8 1c"⟩,
  ⟨["cprt", "cypriot"],
    "10100 3 4 2d 3 9"⟩,
  ⟨["cpmn", "cyprominoan"],
    "10100 2"⟩,
  ⟨["cyrl", "cyrillic"],
    "2bc 1 43 3 1 1 1 1 1 1 2 1 5 1 173 2 1971 1 104a 1"⟩,
  ⟨["deva", "devanagari"],
    "2bc 1 694 2 11 2 136a 27 1 2 3f6 1 873f a"⟩,
  ⟨["dogr", "dogra"],
    "964 c 9ec0 a"⟩,
  ⟨["dupl", "duployan"],
    "b7 1 24f 2 1 1 18 2 2b17 1 18e63 4"⟩,
  ⟨["elba", "elbasan"],
    "b7 1 24d 1"⟩,
  ⟨["ethi", "ethiopic"],
    "30e 1"⟩,
  ⟨["gara", "garay"],
    "60c 1 e 1 3 1"⟩,
  ⟨["geor", "georgian"],
    "b7 1 4d1 1 b71 1 f5e 1 dd6 1"⟩,
  ⟨["glag", "glagolitic"],
    "b7 1 24b 1 1 1 17e 1 2 1 101 1 b71 1 f5e 1 de8 1 782b 1"⟩,
  ⟨["goth", "gothic"],
    "b7 1 24c 2 2 1 28 1"⟩,
  ⟨["gran", "grantha"],
    "951 2 11 2 280 e 10dc 1 1 2 1e 3 3 2 3f6 1 f24a 1 c94 2 1 1"⟩,
  ⟨["grek", "greek"],
    "b7 1 248 2 2 1 1 1 1 1 a 1 2e 1 2 1 2e 1 1a4b 2 29b 1"⟩,
  ⟨["gujr", "gujarati"],
    "951 2 11 2 9eca a"⟩,
  ⟨["gong", "gunjalagondi"],
    "b7 1 8ac 2"⟩,
  ⟨["guru", "gurmukhi"],
    "951 2 11 2 9eca a"⟩,
  ⟨["gukh", "gurungkhema"],
    "965 1"⟩,
  ⟨["han", "hani"],
    "b7 1 2f38 10 1 3 2 1 1 a 1 d a 4 2 1 6 1 4 4 bb 1 94 10 20 26 9 1 30 28 38 31 f c 33 1 58 19 a 5 60
    1f 7301 8 573d 2 11a 5 d3fa 12 1ede 2"⟩,
  ⟨["hang", "hangul"],
    "3001 3 4 a 1 d 10 1 6 1 c3 1 cd49 2 11a 5"⟩,
  ⟨["rohg", "hanifirohingya"],
    "60c 1 e 1 3 1 20 1 93 1"⟩,
  ⟨["hano", "hanunoo"],
    "1735 2"⟩,
  ⟨["hebr", "hebrew"],
    "307 2"⟩,
  ⟨["hira", "hiragana"],
    "3001 3 4 a 1 d 10 6 1 1 4 2 5b 4 3 1 5a 2 cd48 2 11a 5 a 1 2d 2"⟩,
  ⟨["qaai", "zinh", "inherited"],
    "300 f 1 2 1 1 c 1 2 3 7 2 1 2 10 1 2 1 12 1 5 1 4 d 115 2 1c4 b 1a 1 2e0 2 137d 3 1 d 1 7 4 1 6 1 3
    2 c6 2 36 1 1 1 2f5 1 f39 4 6b 2 d245 1 105a 1"⟩,
  ⟨["java", "javanese"],
    "a9cf 1"⟩,
  ⟨["kthi", "kaithi"],
    "966 a 24c1 1 79fe a"⟩,
  ⟨["knda", "kannada"],
    "951 2 11 2 136a 1 1 2 6 1 17 1 1 1 8b3b 6"⟩,
  ⟨["kana", "katakana"],
    "305 1 1d 1 2cdd 3 4 a 1 d 10 6 1 1 4 2 5b 4 3 1 5a 2 cd48 2 11a 5 a 1 2d 2"⟩,
  ⟨["kali", "kayahli"],
    "a92e 1"⟩,
  ⟨["khoj", "khojki"],
    "ae6 a 9d40 a"⟩,
  ⟨["sind", "khudawadi"],
    "964 2 9eca a"⟩,
  ⟨["latn", "latin"],
    "b7 1 204 1 a 1 1 3 1 1 9 1 1 1 26 f 1 2 1 1 c 1 2 3 7 2 1 2 26 1 5 1 4 d 115 2 4ca 2 7a8 1 cfc 1 236
    1 c0 1 d26 1 78e8 8 226 1"⟩,
  ⟨["limb", "limbu"],
    "965 1"⟩,
  ⟨["lina", "lineara"],
    "10107 2d"⟩,
  ⟨["linb", "linearb"],
    "10100 3 4 2d 3 9"⟩,
  ⟨["lisu"],
    "2bc 1 10 1 2d3c 2"⟩,
  ⟨["lyci", "lycian"],
    "205a 1"⟩,
  ⟨["lydi", "lydian"],
    "b7 1 2d79 1"⟩,
  ⟨["mahj", "mahajani"],
    "b7 1 8ac c 9ec0 a"⟩,
  ⟨["mlym", "malayalam"],
    "951 2 11 2 1374 1 17 1 8b3d 3"⟩,
  ⟨["mand", "mandaic"],
    "640 1"⟩,
  ⟨["mani", "manichaean"],
    "640 1"⟩,
  ⟨["gonm", "masaramgondi"],
    "964 2"⟩,
  ⟨["mero", "meroitichieroglyphs"],
    "205d 1"⟩,
  ⟨["modi"],
    "a830 a"⟩,
  ⟨["mong", "mongolian"],
    "1802 2 1 1 829 1 fd1 2 5 4"⟩,
  ⟨["mult", "multani"],
    "a66 a"⟩,
  ⟨["mymr", "myanmar"],
    "a92e 1"⟩,
  ⟨["nand", "nandinagari"],
    "964 2 380 a ff9 1 8 1 7 1 8b35 6"⟩,
  ⟨["nko", "nkoo"],
    "60c 1 e 1 3 1 f71e 2"⟩,
  ⟨["onao", "olonal"],
    "964 2"⟩,
  ⟨["hung", "oldhungarian"],
    "205a 1 2 1 dd3 1 f 1"⟩,
  ⟨["perm", "oldpermic"],
    "b7 1 248 1 5 3 a 1 16f 1"⟩,
  ⟨["orkh", "oldturkic"],
    "205a 1 dd5 1"⟩,
  ⟨["ougr", "olduyghur"],
    "640 1 104b1 1"⟩,
  ⟨["orya", "oriya"],
    "951 2 11 2 1374 1 17 1"⟩,
  ⟨["osge", "osage"],
    "301 1 2 1 6 1 4c 1"⟩,
  ⟨["phag", "phagspa"],
    "1802 2 1 1 829 1 fd2 1"⟩,
  ⟨["phlp", "psalterpahlavi"],
    "640 1"⟩,
  ⟨["runr", "runic"],
    "16eb 3"⟩,
  ⟨["samr", "samaritan"],
    "2e31 1"⟩,
  ⟨["shrd", "sharada"],
    "951 1 1385 1 1 1 2 2 2 1 8b4f 6 2 1"⟩,
  ⟨["shaw", "shavian"],
    "b7 1"⟩,
  ⟨["sinh", "sinhala"],
    "964 2 138c 1"⟩,
  ⟨["sogd", "sogdian"],
    "640 1"⟩,
  ⟨["sunu", "sunuwar"],
    "300 2 1 1 9 1 2 1 1c 1 3 1"⟩,
  ⟨["sylo", "sylotinagri"],
    "964 2 80 a"⟩,
  ⟨["syrc", "syriac"],
    "303 2 2 2 1 1 15 1 2 3 7 2 1 1 2db 1 e 2 2 1 20 1 a b 1a 1 1787 1 1 1"⟩,
  ⟨["tglg", "tagalog"],
    "1735 2"⟩,
  ⟨["tagb", "tagbanwa"],
    "1735 2"⟩,
  ⟨["tale", "taile"],
    "300 2 5 2 3 1 d33 a"⟩,
  ⟨["takr", "takri"],
    "964 2 9eca a"⟩,
  ⟨["taml", "tamil"],
    "951 2 11 2 1374 1 8c18 1 6a0d 1 1 1 37 2"⟩,
  ⟨["tang", "tangut"],
    "2ff0 10 1ef 1"⟩,
  ⟨["telu", "telugu"],
    "951 2 11 2 1374 1 17 1"⟩,
  ⟨["thaa", "thaana"],
    "60c 1 e 2 2 1 40 a f788 1 a 1"⟩,
  ⟨["thai"],
    "2bc 1 1a 1 2b 1 2d 1"⟩,
  ⟨["tibt", "tibetan"],
    "3008 4"⟩,
  ⟨["tfng", "tifinagh"],
    "302 1 1 1 2 1 1 1"⟩,
  ⟨["tirh", "tirhuta"],
    "951 2 11 2 138c 1 8b3d a"⟩,
  ⟨["todr", "todhri"],
    "301 1 2 1 2 1 9 1 1 1 4a 1"⟩,
  ⟨["toto"],
    "2bc 1"⟩,
  ⟨["tutg", "tulutigalari"],
    "ce6 a 1002 1 1 1 8b3b 6 bb 1"⟩,
  ⟨["yezi", "yezidi"],
    "60c 1 e 1 3 1 40 a"⟩,
  ⟨["yi", "yiii"],
    "3001 2 5 a 2 8 df 1 ce65 5"⟩]

end TemplateLint.Unicode
