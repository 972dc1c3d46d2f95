import SecureChannel.Unicode.Script

/-! Script extensions: the scripts that share a character. -/
namespace SecureChannel.Unicode.ScriptExtension

/-- Each row is a first code point, how many there are, and the codes of scripts that share them. -/
private def text : String :=
  "b7,1,Avst,Cari,Copt,Dupl,Elba,Geor,Glag,Gong,Goth,Grek,Hani,Latn,Lydi,Mahj,Perm,Shaw 2bc,1," ++
  "Beng,Cyrl,Deva,Latn,Lisu,Thai,Toto 2c7,1,Bopo,Latn 2c9,3,Bopo,Latn 2cd,1,Latn,Lisu 2d7,1," ++
  "Latn,Thai 2d9,1,Bopo,Latn 300,1,Cher,Copt,Cyrl,Grek,Latn,Perm,Sunu,Tale 301,1,Cher,Cyrl," ++
  "Grek,Latn,Osge,Sunu,Tale,Todr 302,1,Cher,Cyrl,Latn,Tfng 303,1,Glag,Latn,Sunu,Syrc,Thai 304," ++
  "1,Aghb,Cher,Copt,Cyrl,Goth,Grek,Latn,Osge,Syrc,Tfng,Todr 305,1,Copt,Elba,Glag,Goth,Kana," ++
  "Latn 306,1,Cyrl,Grek,Latn,Perm 307,1,Copt,Dupl,Hebr,Latn,Perm,Syrc,Tale,Tfng,Todr 308,1," ++
  "Armn,Cyrl,Dupl,Goth,Grek,Hebr,Latn,Perm,Syrc,Tale 309,1,Latn,Tfng 30a,1,Dupl,Latn,Syrc 30b," ++
  "1,Cher,Cyrl,Latn,Osge 30c,1,Cher,Latn,Tale 30d,1,Latn,Sunu 30e,1,Ethi,Latn 310,1,Latn,Sunu " ++
  "311,1,Cyrl,Latn,Todr 313,1,Grek,Latn,Perm,Todr 320,1,Latn,Syrc 323,1,Cher,Dupl,Kana,Latn," ++
  "Syrc 324,1,Cher,Dupl,Latn,Syrc 325,1,Latn,Syrc 32d,1,Latn,Sunu,Syrc 32e,1,Latn,Syrc 330,1," ++
  "Cher,Latn,Syrc 331,1,Aghb,Cher,Goth,Latn,Sunu,Thai 342,1,Grek 345,1,Grek 358,1,Latn,Osge " ++
  "35e,1,Aghb,Latn,Todr 363,d,Latn 374,2,Copt,Grek 483,1,Cyrl,Perm 484,1,Cyrl,Glag 485,2,Cyrl," ++
  "Latn 487,1,Cyrl,Glag 589,1,Armn,Geor,Glag 60c,1,Arab,Gara,Nkoo,Rohg,Syrc,Thaa,Yezi 61b,1," ++
  "Arab,Gara,Nkoo,Rohg,Syrc,Thaa,Yezi 61c,1,Arab,Syrc,Thaa 61f,1,Adlm,Arab,Gara,Nkoo,Rohg,Syrc," ++
  "Thaa,Yezi 640,1,Adlm,Arab,Mand,Mani,Ougr,Phlp,Rohg,Sogd,Syrc 64b,b,Arab,Syrc 660,a,Arab," ++
  "Thaa,Yezi 670,1,Arab,Syrc 6d4,1,Arab,Rohg 951,1,Beng,Deva,Gran,Gujr,Guru,Knda,Latn,Mlym," ++
  "Orya,Shrd,Taml,Telu,Tirh 952,1,Beng,Deva,Gran,Gujr,Guru,Knda,Latn,Mlym,Orya,Taml,Telu,Tirh " ++
  "964,1,Beng,Deva,Dogr,Gong,Gonm,Gran,Gujr,Guru,Knda,Mahj,Mlym,Nand,Onao,Orya,Sind,Sinh,Sylo," ++
  "Takr,Taml,Telu,Tirh 965,1,Beng,Deva,Dogr,Gong,Gonm,Gran,Gujr,Gukh,Guru,Knda,Limb,Mahj,Mlym," ++
  "Nand,Onao,Orya,Sind,Sinh,Sylo,Takr,Taml,Telu,Tirh 966,a,Deva,Dogr,Kthi,Mahj 9e6,a,Beng,Cakm," ++
  "Sylo a66,a,Guru,Mult ae6,a,Gujr,Khoj be6,e,Gran,Taml ce6,a,Knda,Nand,Tutg 1040,a,Cakm,Mymr," ++
  "Tale 10fb,1,Geor,Glag,Latn 16eb,3,Runr 1735,2,Buhd,Hano,Tagb,Tglg 1802,2,Mong,Phag 1805,1," ++
  "Mong,Phag 1cd0,1,Beng,Deva,Gran,Knda 1cd1,1,Deva 1cd2,1,Beng,Deva,Gran,Knda 1cd3,1,Deva," ++
  "Gran,Knda 1cd4,1,Deva 1cd5,2,Beng,Deva 1cd7,1,Deva,Shrd 1cd8,1,Beng,Deva 1cd9,1,Deva,Shrd " ++
  "1cda,1,Deva,Knda,Mlym,Orya,Taml,Telu 1cdb,1,Deva 1cdc,2,Deva,Shrd 1cde,2,Deva 1ce0,1,Deva," ++
  "Shrd 1ce1,1,Beng,Deva 1ce2,7,Deva 1ce9,1,Deva,Nand 1cea,1,Beng,Deva 1ceb,2,Deva 1ced,1,Beng," ++
  "Deva 1cee,4,Deva 1cf2,1,Beng,Deva,Gran,Knda,Mlym,Nand,Orya,Sinh,Telu,Tirh,Tutg 1cf3,1,Deva," ++
  "Gran 1cf4,1,Deva,Gran,Knda,Tutg 1cf5,2,Beng,Deva 1cf7,1,Beng 1cf8,2,Deva,Gran 1cfa,1,Nand " ++
  "1dc0,2,Grek 1df8,1,Cyrl,Latn,Syrc 1dfa,1,Syrc 202f,1,Latn,Mong,Phag 204f,1,Adlm,Arab 205a,1," ++
  "Cari,Geor,Glag,Hung,Lyci,Orkh 205d,1,Cari,Grek,Hung,Mero 20f0,1,Deva,Gran,Latn 2e17,1,Copt," ++
  "Latn 2e30,1,Avst,Orkh 2e31,1,Avst,Cari,Geor,Hung,Kthi,Lydi,Samr 2e3c,1,Dupl 2e41,1,Adlm," ++
  "Arab,Hung 2e43,1,Cyrl,Glag 2ff0,10,Hani,Tang 3001,1,Bopo,Hang,Hani,Hira,Kana,Mong,Yiii 3002," ++
  "1,Bopo,Hang,Hani,Hira,Kana,Mong,Phag,Yiii 3003,1,Bopo,Hang,Hani,Hira,Kana 3006,1,Hani 3008," ++
  "2,Bopo,Hang,Hani,Hira,Kana,Mong,Tibt,Yiii 300a,2,Bopo,Hang,Hani,Hira,Kana,Lisu,Mong,Tibt," ++
  "Yiii 300c,6,Bopo,Hang,Hani,Hira,Kana,Yiii 3013,1,Bopo,Hang,Hani,Hira,Kana 3014,8,Bopo,Hang," ++
  "Hani,Hira,Kana,Yiii 301c,4,Bopo,Hang,Hani,Hira,Kana 302a,4,Bopo,Hani 3030,1,Bopo,Hang,Hani," ++
  "Hira,Kana 3031,5,Hira,Kana 3037,1,Bopo,Hang,Hani,Hira,Kana 303c,2,Hani,Hira,Kana 303e,2," ++
  "Hani 3099,4,Hira,Kana 30a0,1,Hira,Kana 30fb,1,Bopo,Hang,Hani,Hira,Kana,Yiii 30fc,1,Hira," ++
  "Kana 3190,10,Hani 31c0,26,Hani 31ef,1,Hani,Tang 3220,28,Hani 3280,31,Hani 32c0,c,Hani 32ff," ++
  "1,Hani 3358,19,Hani 337b,5,Hani 33e0,1f,Hani a66f,1,Cyrl,Glag a700,8,Hani,Latn a830,3,Deva," ++
  "Dogr,Gujr,Guru,Khoj,Knda,Kthi,Mahj,Mlym,Modi,Nand,Shrd,Sind,Takr,Tirh,Tutg a833,3,Deva,Dogr," ++
  "Gujr,Guru,Khoj,Knda,Kthi,Mahj,Modi,Nand,Shrd,Sind,Takr,Tirh,Tutg a836,2,Deva,Dogr,Gujr,Guru," ++
  "Khoj,Kthi,Mahj,Modi,Sind,Takr,Tirh a838,1,Deva,Dogr,Gujr,Guru,Khoj,Kthi,Mahj,Modi,Shrd,Sind," ++
  "Takr,Tirh a839,1,Deva,Dogr,Gujr,Guru,Khoj,Kthi,Mahj,Modi,Sind,Takr,Tirh a8f1,1,Beng,Deva," ++
  "Tutg a8f3,1,Deva,Taml a92e,1,Kali,Latn,Mymr a9cf,1,Bugi,Java fd3e,2,Arab,Nkoo fdf2,1,Arab," ++
  "Thaa fdfd,1,Arab,Thaa fe45,2,Bopo,Hang,Hani,Hira,Kana ff61,5,Bopo,Hang,Hani,Hira,Kana,Yiii " ++
  "ff70,1,Hira,Kana ff9e,2,Hira,Kana 10100,2,Cpmn,Cprt,Linb 10102,1,Cprt,Linb 10107,2d,Cprt," ++
  "Lina,Linb 10137,9,Cprt,Linb 102e0,1c,Arab,Copt 10af2,1,Mani,Ougr 11301,1,Gran,Taml 11303,1," ++
  "Gran,Taml 1133b,2,Gran,Taml 11fd0,2,Gran,Taml 11fd3,1,Gran,Taml 1bca0,4,Dupl 1d360,12,Hani " ++
  "1f250,2,Hani"

/-- Ranges of shared characters, with the scripts that share them. Characters in no row belong to
their own script only. -/
def table : List ((Nat × Nat) × List String) :=
  (text.toList.splitOn ' ').filterMap fun row =>
    match row.splitOn ',' with
    | first :: count :: codes =>
      let first := hexNumber first
      some ((first, first + hexNumber count - 1), codes.map String.ofList)
    | _ => none

def named? (name : String) : Option CharSet :=
  (Script.code? name).map fun code =>
    let shared := CharSet.ofRanges (table.map (·.1))
    let own := select Script.table (· == code)
    (own \ shared) ∪ CharSet.ofRanges ((table.filter (·.2.contains code)).map (·.1))

end SecureChannel.Unicode.ScriptExtension
